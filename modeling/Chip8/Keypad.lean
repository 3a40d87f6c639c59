import Chip8.Error

set_option autoImplicit false

/-!
# The keypad

Sixteen keys, each held or not. A host hands over the states of all keys at once in whatever
arrangement it has; only one row of sixteen states fits, and what is no rectangle is no arrangement.

## Main definitions

* `Chip8.Key` — the number of a key.
* `Chip8.Key.ofInt` — the key with a given number, or an error.
* `Chip8.Keypad` — which keys are held.
* `Chip8.KeyStates` — key states as a host arranges them.
* `Chip8.KeyStates.misfit?` — what keeps key states from being arranged.
* `Chip8.KeyStates.keypad` — the keypad of one row of sixteen states, or an error.

## Main results

* `Chip8.Keypad.held_set` — a key is in the state that it was last set to.
-/

namespace Chip8

/-- The number of a key. -/
abbrev Key := Fin 16

/-- The key with a given number. -/
def Key.ofInt (n : Int) : Except Error Key :=
  if h : 0 ≤ n ∧ n < 16 then .ok ⟨n.toNat, by omega⟩ else .error (.keyOutOfRange n)

/-- Which keys are held. -/
structure Keypad where
  /-- The states of the keys in the order of their numbers. -/
  states : Vector Bool 16
  deriving DecidableEq

namespace Keypad

/-- No key is held. -/
def released : Keypad :=
  ⟨Vector.replicate 16 false⟩

/-- Whether a key is held. -/
def held (pad : Keypad) (key : Key) : Bool :=
  pad.states[key]

/-- Records whether a key is held. -/
def set (pad : Keypad) (key : Key) (isHeld : Bool) : Keypad :=
  ⟨pad.states.set key isHeld⟩

/-- A key is in the state that it was last set to. -/
theorem held_set (pad : Keypad) (key other : Key) (isHeld : Bool) :
    (pad.set key isHeld).held other = if key = other then isHeld else pad.held other := by
  simp [held, set, Vector.getElem_set, Fin.ext_iff]

end Keypad

/-! ## States from a host -/

/-- Key states as a host arranges them: a single state, or a row of arrangements. -/
inductive KeyStates where
  /-- The state of one key. -/
  | state (isHeld : Bool)
  /-- Arrangements side by side. -/
  | row (parts : List KeyStates)
  deriving Inhabited, Repr

namespace KeyStates

/-- The extents that two arrangements have in common, from the outermost on. -/
def common : List Nat → List Nat → List Nat
  | m :: ms, n :: ns => if m = n then m :: common ms ns else []
  | _, _ => []

mutual

/-- The extents of an arrangement, outermost first, as far as all of its parts have them. -/
def extents : KeyStates → List Nat
  | .state _ => []
  | .row parts => parts.length :: extentsOfAll parts

/-- The extents that arrangements side by side have in common. -/
def extentsOfAll : List KeyStates → List Nat
  | [] => []
  | [part] => part.extents
  | part :: parts => common part.extents (extentsOfAll parts)

end

/-- Whether an arrangement is rectangular with the given extents: its parts are as many as the first
one, and each has the others. -/
def hasExtents : List Nat → KeyStates → Bool
  | [], .state _ => true
  | n :: extents, .row parts => parts.length == n && parts.all (hasExtents extents)
  | _, _ => false

/-- Whether a part of a row is the state of a held key. -/
def isHeld : KeyStates → Bool
  | .state held => held
  | .row _ => false

/-- The greatest number of extents of an arrangement. -/
def mostExtents : Nat := 64

/-- What keeps key states from being arranged: they are no rectangle, or have too many extents. -/
def misfit? (states : KeyStates) : Option Misfit :=
  if states.hasExtents states.extents && states.extents.length ≤ mostExtents then none
  else if mostExtents ≤ states.extents.length then some (.tooManyExtents mostExtents)
  else some (.ragged states.extents)

/-- The keypad of one row of sixteen states. -/
def keypad (states : KeyStates) : Except Error Keypad :=
  match states.misfit? with
  | some cause => .error (.misfit cause)
  | none =>
    match states with
    | .row parts =>
      if states.extents = [16] then
        .ok ⟨Vector.ofFn fun key => (parts[key.val]?.map isHeld).getD false⟩
      else .error (.keypadShape states.extents)
    | .state _ => .error (.keypadShape states.extents)

end KeyStates

end Chip8
