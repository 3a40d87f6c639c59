import Chip8.Text.Hex
import Mathlib.Tactic

set_option autoImplicit false

/-!
# Reading hexadecimal numerals back

A hexadecimal numeral, with its sign and its filling zeros, stands for one integer only: the digits
are read from the left, and zeros in front of them count for nothing.

## Main definitions

* `Chip8.Hex.value` — the number that digits stand for.
* `Chip8.Hex.signedValue` — the integer that a numeral with a sign stands for.

## Main results

* `Chip8.Hex.signedValue_paddedChars` — the numeral of an integer stands for the integer.
* `Chip8.Hex.padded_injective` — different integers have different numerals of the same width.
* `Chip8.Hex.length_paddedChars` — a numeral is as wide as it is asked for, if the number fits.
-/

namespace Chip8.Hex

/-! ## Digits -/

/-- The number below sixteen that a digit stands for. -/
def digitValue (c : Char) : ℕ :=
  if c.toNat < 65 then c.toNat - 48 else c.toNat - 55

lemma digitValue_digit {d : ℕ} (h : d < 16) : digitValue (digit d) = d := by
  have hall : ∀ d : Fin 16, digitValue (digit d) = d := by decide
  exact hall ⟨d, h⟩

/-- The digits of a numeral without a sign. -/
def alphabet : List Char :=
  "0123456789ABCDEF".toList

lemma digit_mem_alphabet {d : ℕ} (h : d < 16) : digit d ∈ alphabet := by
  have hall : ∀ d : Fin 16, digit d ∈ alphabet := by decide
  exact hall ⟨d, h⟩

/-- The number that digits stand for. -/
def value (numeral : List Char) : ℕ :=
  numeral.foldl (fun n c => 16 * n + digitValue c) 0

lemma value_concat (numeral : List Char) (c : Char) :
    value (numeral ++ [c]) = 16 * value numeral + digitValue c := by
  simp [value]

lemma value_digits (n : ℕ) : value (digits n) = n := by
  induction n using digits.induct with
  | case1 n h =>
    rw [digits, if_pos h]
    simp [value, digitValue_digit h]
  | case2 n h ih =>
    rw [digits, if_neg h, value_concat, ih, digitValue_digit (Nat.mod_lt n (by decide))]
    omega

lemma mem_alphabet_of_mem_digits {n : ℕ} {c : Char} (h : c ∈ digits n) : c ∈ alphabet := by
  induction n using digits.induct with
  | case1 n hn =>
    rw [digits, if_pos hn, List.mem_singleton] at h
    rw [h]
    exact digit_mem_alphabet hn
  | case2 n hn ih =>
    rw [digits, if_neg hn, List.mem_append, List.mem_singleton] at h
    rcases h with h | rfl
    · exact ih h
    · exact digit_mem_alphabet (Nat.mod_lt n (by decide))

lemma length_digits_le {n width : ℕ} (hwidth : 0 < width) (h : n < 16 ^ width) :
    (digits n).length ≤ width := by
  induction n using digits.induct generalizing width with
  | case1 n hn =>
    rw [digits, if_pos hn]
    exact hwidth
  | case2 n hn ih =>
    obtain ⟨width, rfl⟩ : ∃ k, width = k + 1 := ⟨width - 1, by omega⟩
    have hquotient : n / 16 < 16 ^ width := by
      rw [pow_succ] at h
      omega
    have hpos : 0 < width := by
      by_contra hzero
      obtain rfl : width = 0 := by omega
      simp at h
      omega
    rw [digits, if_neg hn, List.length_append]
    exact Nat.succ_le_succ (ih hpos hquotient)

/-! ## Numerals -/

lemma value_leftpad (width : ℕ) (numeral : List Char) :
    value (numeral.leftpad width '0') = value numeral := by
  have hzeros : ∀ k, value (List.replicate k '0' ++ numeral) = value numeral := by
    intro k
    induction k with
    | zero => rfl
    | succ k ih => exact ih
  exact hzeros _

/-- The numeral of a natural number has no sign. -/
lemma paddedChars_natCast (width n : ℕ) :
    paddedChars width n = (digits n).leftpad width '0' := by
  have hsign : ¬(n : ℤ) < 0 := by omega
  simp [paddedChars, hsign]

lemma value_paddedChars (width n : ℕ) : value (paddedChars width n) = n := by
  rw [paddedChars_natCast, value_leftpad, value_digits]

lemma length_paddedChars {width n : ℕ} (hwidth : 0 < width) (h : n < 16 ^ width) :
    (paddedChars width n).length = width := by
  rw [paddedChars_natCast, List.length_leftpad]
  exact Nat.max_eq_left (length_digits_le hwidth h)

lemma mem_alphabet_of_mem_paddedChars {width n : ℕ} {c : Char} (h : c ∈ paddedChars width n) :
    c ∈ alphabet := by
  rw [paddedChars_natCast, List.leftpad, List.mem_append] at h
  rcases h with h | h
  · rw [List.eq_of_mem_replicate h]
    decide
  · exact mem_alphabet_of_mem_digits h

/-- A numeral holds nothing but digits and a sign. -/
lemma mem_paddedChars {width : ℕ} {n : ℤ} {c : Char} (h : c ∈ paddedChars width n) :
    c = '-' ∨ c ∈ alphabet := by
  rw [paddedChars, List.mem_append, List.leftpad, List.mem_append] at h
  rcases h with hsign | hzero | hdigit
  · split_ifs at hsign with hneg
    · exact .inl (List.mem_singleton.mp hsign)
    · exact absurd hsign List.not_mem_nil
  · rw [List.eq_of_mem_replicate hzero]
    exact .inr (by decide)
  · exact .inr (mem_alphabet_of_mem_digits hdigit)

/-- The integer that a numeral stands for; it may have a minus sign in front. -/
def signedValue (numeral : List Char) : ℤ :=
  if numeral.head? = some '-' then -(value numeral.tail : ℤ) else value numeral

/-- **The numeral of an integer stands for the integer**, whatever its width is. -/
theorem signedValue_paddedChars (width : ℕ) (n : ℤ) : signedValue (paddedChars width n) = n := by
  rcases lt_or_ge n 0 with hneg | hpos
  · have hchars : paddedChars width n = '-' :: (digits n.natAbs).leftpad (width - 1) '0' := by
      simp [paddedChars, hneg]
    rw [hchars, signedValue, List.head?_cons, if_pos rfl, List.tail_cons, value_leftpad,
      value_digits]
    omega
  · obtain ⟨n, rfl⟩ := Int.eq_ofNat_of_zero_le hpos
    have hhead : (paddedChars width n).head? ≠ some '-' := by
      intro h
      have hmem := mem_alphabet_of_mem_paddedChars (List.mem_of_mem_head? h)
      exact absurd hmem (by decide)
    rw [signedValue, if_neg hhead, value_paddedChars]

/-- **Different integers have different numerals** of the same least width. -/
theorem padded_injective (width : ℕ) : Function.Injective (padded width) := by
  intro m n h
  have hchars : paddedChars width m = paddedChars width n := String.ofList_injective h
  rw [← signedValue_paddedChars width m, hchars, signedValue_paddedChars]

end Chip8.Hex
