import LogRecord.Argument.Scalar

/-! Arguments of a statement.

The content of a string ends at its first zero unit, or with the units given if none is zero. -/

set_option autoImplicit false
namespace LogRecord

/-- A string carries the address it lies at, which a slot for a value records in place of the
content. -/
inductive Argument where
  | scalar (number : Scalar)
  | pointer (address : UInt64)
  | narrow (address : UInt64) (units : List UInt8)
  | wide (address : UInt64) (units : List UInt32)
deriving DecidableEq, Repr

inductive Category where
  | integer
  | float
  | pointer
  | narrow
  | wide
deriving DecidableEq, Repr

def Category.name : Category → String
  | integer => "integer"
  | float => "float"
  | pointer => "pointer"
  | narrow => "string"
  | wide => "wide string"

def Argument.category : Argument → Category
  | scalar number => if number.type.isInteger then .integer else .float
  | pointer _ => .pointer
  | narrow _ _ => .narrow
  | wide _ _ => .wide

/-- Bytes of a stored address. -/
def addressSize : Nat := 8

/-- Bytes of one unit of a wide string. -/
def wideUnitSize : Nat := 4

end LogRecord
