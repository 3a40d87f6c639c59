import Chip8.Fault
import Chip8.Proofs.Numerals
import Chip8.Text.Listing

set_option autoImplicit false

/-!
# Reading fault messages back

The message of a fault falls into seven words at its blanks: two that tell what happened, and the
instruction word and the program counter as numerals behind a name. No numeral holds a blank,
however wide it is and whether it has a sign, and each numeral stands for one integer. So a message
tells of one fault only, and what it tells of can be read from it.

## Main definitions

* `Chip8.Fault.words` — the words of a message.
* `Chip8.Fault.Kind.ofWords?` — the kind of fault that two words tell of.
* `Chip8.Fault.numeral?` — the integer that a word of a message stands for.
* `Chip8.Fault.ofMessage?` — the fault that a text is the message of.

## Main results

* `Chip8.Fault.ofMessage?_eq_some_iff` — exactly the messages of faults are read, each as its fault.
* `Chip8.Fault.unambiguous` — faults with the same message are the same.
-/

namespace Chip8

/-! ## Words of a text -/

namespace Listing

/-- The parts of a text, with the mark between any two, are the text. -/
lemma intercalate_parts (mark : Char) (text : String) :
    (String.singleton mark).intercalate (parts mark text) = text := by
  rw [← String.toList_inj, String.toList_intercalate, parts, List.map_map]
  simp

/-- Words without the mark are the parts of the text that they make up. -/
lemma parts_intercalate {mark : Char} {words : List String} (hne : words ≠ [])
    (h : ∀ word ∈ words, mark ∉ word.toList) :
    parts mark ((String.singleton mark).intercalate words) = words := by
  rw [parts, String.toList_intercalate, String.toList_singleton, List.splitOn_intercalate]
  · simp
  · simpa using h
  · simpa using hne

end Listing

namespace Fault

/-! ## Kinds -/

namespace Kind

/-- The two words that tell of a kind of fault; a colon stands behind the second. -/
def words : Kind → String × String
  | .general => ("Machine", "fault:")
  | .trapped .undefinedOpcode => ("Undefined", "opcode:")
  | .trapped .stackOverflow => ("Stack", "overflow:")
  | .trapped .stackUnderflow => ("Stack", "underflow:")

/-- The kind of fault that two words tell of. -/
def ofWords? : String × String → Option Kind
  | ("Machine", "fault:") => some .general
  | ("Undefined", "opcode:") => some (.trapped .undefinedOpcode)
  | ("Stack", "overflow:") => some (.trapped .stackOverflow)
  | ("Stack", "underflow:") => some (.trapped .stackUnderflow)
  | _ => none

/-- The words of a kind are a description of it. -/
lemma description_eq (kind : Kind) :
    kind.description ++ ":" = kind.words.1 ++ " " ++ kind.words.2 := by
  cases kind with
  | general => decide
  | trapped trap => cases trap <;> decide

lemma not_mem_words (kind : Kind) : ' ' ∉ kind.words.1.toList ∧ ' ' ∉ kind.words.2.toList := by
  cases kind with
  | general => decide
  | trapped trap => cases trap <;> decide

lemma ofWords?_eq_some_iff {pair : String × String} {kind : Kind} :
    ofWords? pair = some kind ↔ pair = kind.words := by
  constructor
  · intro h
    unfold ofWords? at h
    split at h <;> cases h <;> rfl
  · rintro rfl
    cases kind with
    | general => rfl
    | trapped trap => cases trap <;> rfl

end Kind

/-! ## Numerals -/

/-- The integer that a word stands for, if the word is its numeral of the given least width. A
number is read first, and then its numeral is compared with the word: the same number may be written
with other zeros in front, but not in a message. -/
def numeral? (width : ℕ) (word : String) : Option ℤ :=
  let n := Hex.signedValue (word.toList.drop 2)
  if word = "0x" ++ Hex.padded width n then some n else none

lemma numeral?_eq_some_iff {width : ℕ} {word : String} {n : ℤ} :
    numeral? width word = some n ↔ word = "0x" ++ Hex.padded width n := by
  constructor
  · intro h
    rw [numeral?] at h
    split at h
    case isTrue hword => exact Option.some.inj h ▸ hword
    case isFalse => cases h
  · rintro rfl
    have hvalue : Hex.signedValue (("0x" ++ Hex.padded width n).toList.drop 2) = n := by
      rw [String.toList_append]
      simp [Hex.padded, Hex.signedValue_paddedChars]
    rw [numeral?, hvalue, if_pos rfl]

lemma not_mem_numeral (width : ℕ) (n : ℤ) : ' ' ∉ ("0x" ++ Hex.padded width n).toList := by
  have hdigits : ' ' ∉ (Hex.padded width n).toList := by
    rw [Hex.padded, String.toList_ofList]
    intro h
    rcases Hex.mem_paddedChars h with h | h
    · exact absurd h (by decide)
    · exact absurd h (by decide)
  rw [String.toList_append, List.mem_append, not_or]
  exact ⟨by decide, hdigits⟩

/-! ## Messages -/

/-- The fault that a text is the message of. -/
def ofMessage? (text : String) : Option Fault :=
  match Listing.parts ' ' text with
  | [first, second, "opcode", opcode, "at", "PC", pc] => do
    let kind ← Kind.ofWords? (first, second)
    let opcode ← numeral? 4 opcode
    let pc ← numeral? 3 pc
    return { kind, opcode, pc }
  | _ => none

/-- The words of a message. -/
def words (fault : Fault) : List String :=
  [fault.kind.words.1, fault.kind.words.2, "opcode", "0x" ++ Hex.padded 4 fault.opcode, "at", "PC",
    "0x" ++ Hex.padded 3 fault.pc]

lemma message_eq_intercalate (fault : Fault) : fault.message = " ".intercalate fault.words := by
  have hopening : ": opcode 0x" = ":" ++ " opcode 0x" := by decide
  rw [message, hopening, ← String.append_assoc, Kind.description_eq]
  simp [words, ← String.toList_inj, String.intercalate_cons_cons]

lemma parts_message (fault : Fault) : Listing.parts ' ' fault.message = fault.words := by
  rw [message_eq_intercalate]
  refine Listing.parts_intercalate nofun ?_
  obtain ⟨hfirst, hsecond⟩ := fault.kind.not_mem_words
  simp only [words, List.forall_mem_cons, List.not_mem_nil, false_imp_iff, implies_true, and_true]
  exact ⟨hfirst, hsecond, by decide, not_mem_numeral _ _, by decide, by decide,
    not_mem_numeral _ _⟩

/-- **Exactly the messages of faults are read**, and each is read as its fault.

**Proof sketch.** A text is made up of its parts between blanks. If it is read, its parts are the
words of the message of what is read. Conversely none of these words holds a blank, so that they are
the parts of the message. -/
theorem ofMessage?_eq_some_iff {text : String} {fault : Fault} :
    ofMessage? text = some fault ↔ text = fault.message := by
  constructor
  · intro h
    unfold ofMessage? at h
    split at h
    case h_1 first second opcode pc hparts =>
      simp only [Option.bind_eq_bind, Option.bind_eq_some_iff, Option.pure_def,
        Option.some.injEq] at h
      obtain ⟨kind, hkind, n, hopcode, m, hpc, rfl⟩ := h
      obtain ⟨rfl, rfl⟩ := Prod.ext_iff.mp (Kind.ofWords?_eq_some_iff.mp hkind)
      obtain rfl := numeral?_eq_some_iff.mp hopcode
      obtain rfl := numeral?_eq_some_iff.mp hpc
      calc text = " ".intercalate (Listing.parts ' ' text) :=
            (Listing.intercalate_parts ' ' text).symm
        _ = " ".intercalate (words ⟨kind, n, m⟩) := by rw [hparts]; rfl
        _ = message ⟨kind, n, m⟩ := (message_eq_intercalate _).symm
    case h_2 => cases h
  · rintro rfl
    unfold ofMessage?
    rw [parts_message, words]
    simp only [Kind.ofWords?_eq_some_iff.mpr rfl, numeral?_eq_some_iff.mpr rfl]
    rfl

/-- A message with a sign and a wide program counter is read; one digit too few makes it none. -/
example :
    ofMessage? "Undefined opcode: opcode 0x-001 at PC 0x1000" =
        some ⟨.trapped .undefinedOpcode, -1, 0x1000⟩ ∧
      ofMessage? "Undefined opcode: opcode 0x-01 at PC 0x1000" = none := by
  decide +kernel

/-- **Messages of faults are unambiguous**, whatever integers they tell of: equal messages tell of
the same kind of fault, the same instruction word and the same program counter, and all three can be
read from every message. -/
theorem unambiguous :
    (∀ f g : Fault, f.message = g.message ↔
        f.kind = g.kind ∧ f.opcode = g.opcode ∧ f.pc = g.pc) ∧
      ∀ (text : String) (f : Fault), ofMessage? text = some f ↔ text = f.message := by
  refine ⟨fun f g => ⟨fun h => ?_, ?_⟩, fun _ _ => ofMessage?_eq_some_iff⟩
  · have hread := ofMessage?_eq_some_iff.mpr h
    rw [ofMessage?_eq_some_iff.mpr rfl] at hread
    obtain rfl := Option.some.inj hread
    exact ⟨rfl, rfl, rfl⟩
  · obtain ⟨kind, opcode, pc⟩ := f
    rintro ⟨rfl, rfl, rfl⟩
    rfl

end Fault

end Chip8
