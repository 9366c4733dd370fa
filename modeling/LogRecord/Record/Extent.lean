import LogRecord.Record.Error

/-! The bytes that one argument takes in a record.

A number takes the bytes of its type and an address `addressSize`. A string in a text slot takes its
content, cut to the limit of the slot, behind a length; in any other slot it takes an address. -/

set_option autoImplicit false
namespace LogRecord

/-- Bytes of the length that stands before the content of a string. -/
def lengthSize : Nat := 4

/-- The `content` is the number of content bytes of a string, the `precision` the dynamic precision
in force after the argument. -/
structure Extent where
  total : Nat
  content : Option Nat
  precision : Option Nat
deriving DecidableEq, Repr

/-- The most units that a slot takes of a string, where `precision` is the dynamic precision in
force. -/
def Slot.limit? (precision : Option Nat) : Slot → Option Nat
  | text (.fixed limit) => some limit.toNat
  | text .dynamic => precision
  | _ => none

/-- Whether an argument of this category can fill the slot. A string in a value slot goes by
address. -/
def Slot.accepts : Slot → Argument → Bool
  | invalid, _ => false
  | width, .scalar number => number.type.isInteger
  | precision, .scalar number => number.type.isInteger
  | value, _ => true
  | text _, .narrow _ _ => true
  | text _, .wide _ _ => true
  | _, _ => false

/-- The number of units before the terminator, held at the limit. -/
def contentLength {α : Type} [BEq α] [OfNat α 0] (limit : Option Nat) (units : List α) : Nat :=
  let length := units.findIdx (· == 0)
  match limit with
  | some limit => min length limit
  | none => length

namespace Extent

def fixed (total : Nat) (precision : Option Nat) : Extent where
  total := total
  content := none
  precision := precision

/-- The extent of a string with `content` bytes, which the length before it must be able to tell. -/
def ofContent (content : Nat) (precision : Option Nat) : Except EncodingError Extent :=
  if content < LittleEndian.capacity lengthSize then
    .ok { total := lengthSize + content, content := some content, precision }
  else .error (.lengthOverflow content)

/-- Refuses only an invalid slot; whether the argument fits it is for the caller to check. -/
def measure (slot : Slot) (precision : Option Nat) (argument : Argument) :
    Except EncodingError Extent :=
  if slot.isValid then
    match argument with
    | .scalar number =>
      .ok (fixed number.type.bytes (if slot = .precision then number.precision? else precision))
    | .pointer _ => .ok (fixed addressSize precision)
    | .narrow _ units =>
      if slot.isText then ofContent (contentLength (slot.limit? precision) units) precision
      else .ok (fixed addressSize precision)
    | .wide _ units =>
      if slot.isText then
        ofContent (contentLength (slot.limit? precision) units * wideUnitSize) precision
      else .ok (fixed addressSize precision)
  else .error .invalidSlot

/-- The precision in force after an attempt to measure. A failed one leaves it as it was. -/
def precisionAfter (precision : Option Nat) : Except EncodingError Extent → Option Nat
  | .ok extent => extent.precision
  | .error _ => precision

end Extent
end LogRecord
