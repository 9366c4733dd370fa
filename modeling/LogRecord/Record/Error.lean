import LogRecord.Argument.Basic
import LogRecord.Format.Slot

/-! Why the arguments of a statement do not make a record. -/

set_option autoImplicit false
namespace LogRecord

inductive EncodingError where
  | invalidSlot
  | invalidArgument (index : Nat)
  | argumentCount (expected actual : Nat)
  | typeMismatch (index : Nat) (slot : Slot) (found : Category)
  | lengthOverflow (length : Nat)
  | bufferTooSmall (needed available : Nat)
deriving DecidableEq, Repr

def EncodingError.message : EncodingError → String
  | invalidSlot => "argument slot has an invalid format specifier"
  | invalidArgument index => "argument " ++ toString index ++ " has an invalid format specifier"
  | argumentCount expected actual =>
    "format expects " ++ toString expected ++ " arguments, got " ++ toString actual
  | typeMismatch index slot found =>
    "argument " ++ toString index ++ " is a " ++ found.name ++ ", which does not fit " ++ slot.name
  | lengthOverflow length =>
    "string of " ++ toString length ++ " bytes does not fit the 4-byte length prefix"
  | bufferTooSmall needed available =>
    "record needs " ++ toString needed ++ " bytes but only " ++ toString available ++
      " are available"

end LogRecord
