/-! Argument slots: what a format asks of the argument at each position. -/

set_option autoImplicit false
namespace LogRecord

/-- The precision of a specifier; `dynamic` is a `*`, whose value is an argument of its own. -/
inductive Precision where
  | absent
  | dynamic
  | fixed (limit : UInt32)
deriving DecidableEq, Repr

/-- A `width` or `precision` slot takes the integer of a `*` and stands before the slot it modifies.
An `invalid` slot stands where a specifier could not be used. -/
inductive Slot where
  | invalid
  | width
  | precision
  | value
  | text (limit : Precision)
deriving DecidableEq, Repr

namespace Slot

def isValid : Slot → Bool
  | invalid => false
  | _ => true

def isText : Slot → Bool
  | text _ => true
  | _ => false

/-- The limit written in the format itself. -/
def fixedLimit? : Slot → Option UInt32
  | text (.fixed limit) => some limit
  | _ => none

def name : Slot → String
  | invalid => "Invalid"
  | width => "DynamicWidth"
  | precision => "DynamicPrecision"
  | value => "NonString"
  | text .absent => "StringNoPrecision"
  | text .dynamic => "StringWithDynamicPrecision"
  | text (.fixed limit) => "StringWithStaticPrecision(" ++ toString limit.toNat ++ ")"

end Slot
end LogRecord
