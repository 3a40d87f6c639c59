import Chip8.Error
import Chip8.Host.ElementType.EntryFormat

set_option autoImplicit false

/-!
# Texts in the place of numbers

A host refuses a text where a number is needed, but not before it has taken the text as the name of
a type of numbers: a number of cycles would be an array of that type, and a seed a number of it.

## Main definitions

* `Chip8.NumberTexts.refuseSeed`, `Chip8.NumberTexts.refuseCycles` — how a text is refused that
  stands for a seed or for a number of cycles.
-/

namespace Chip8.NumberTexts

/-- The failure of a text that names no type. -/
def unreadable (cause : ElementType.Unreadable) : HostFailure where
  kind :=
    if cause.isUnknown then .kind
    else if cause matches .numbers _ then .grammar
    else .value
  text := cause.text

/-- The failure of a text that is told with a type of which there are no arrays. -/
def withoutArrays (s : String) (type : EntryType) : HostFailure where
  kind := .kind
  text := "Value '" ++ s ++ "' with dtype " ++ type.shown ++
    " is not a valid JAX array type. Only arrays of numeric types are supported by JAX."

/-- How it is told that a text is no number of a type. No more than the start of a long text is
told where an integer is needed. -/
def noNumeralText (type : ElementType) (s : String) : String :=
  match type with
  | .floating _ => "could not convert string to float: " ++ Quoted.text s
  | .complex _ => "complex() arg is a malformed string"
  | _ =>
    "invalid literal for int() with base 10: " ++ String.ofList ((Quoted.text s).toList.take 200)

/-- The failure of a text that stands for a seed. It is taken as the name of a type, and then as a
number of that type; neither truth nor a text is a seed. Without a type at hand the text is told by
its length, which is taken to be at least one. -/
def seedFailure (s : String) : HostFailure :=
  let untyped := withoutArrays s (.element (.text (max 1 s.length)))
  match EntryType.named s with
  | .error cause => if cause.isUnknown then untyped else unreadable cause
  | .ok (.record _) => untyped
  | .ok (.element type) =>
    if !type.isAtHand then untyped
    else
      match type with
      | .truth => ⟨.kind, "PRNG key seed must be an integer; got JitTracer(bool[])"⟩
      | .freeText => ⟨.kind, "No dtype_to_ir_type handler for dtype: " ++ type.shown⟩
      | .narrow _ => ⟨.kind, "expected number, got str"⟩
      | _ => ⟨.value, noNumeralText type s⟩

/-- The failure of a text that stands for a number of cycles. It is taken as the name of a type. -/
def cyclesFailure (s : String) : HostFailure :=
  match EntryType.named s with
  | .error cause => unreadable cause
  | .ok (.element type) =>
    if type.isAtHand then
      ⟨.kind, "ufunc 'ceil' not supported for the input types, and the inputs could not be " ++
        "safely coerced to any supported types according to the casting rule ''safe''"⟩
    else withoutArrays s (.element type)
  | .ok type => withoutArrays s type

/-- How a text is refused that stands for a seed. -/
def refuseSeed (s : String) : Error :=
  .host (seedFailure s)

/-- How a text is refused that stands for a number of cycles. -/
def refuseCycles (s : String) : Error :=
  .host (cyclesFailure s)

end Chip8.NumberTexts
