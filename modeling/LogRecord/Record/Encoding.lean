import LogRecord.Record.Extent

/-! The bytes of one argument in a record, least significant first: a number its bits, an address
`addressSize` bytes, a string in a text slot its length in bytes and then its content. -/

set_option autoImplicit false
namespace LogRecord

/-- The units before the terminator, at most `limit` of them. -/
def visible {α : Type} [BEq α] [OfNat α 0] (limit : Option Nat) (units : List α) : List α :=
  let content := units.takeWhile (· != 0)
  match limit with
  | some limit => content.take limit
  | none => content

def encodeAddress (address : UInt64) : List UInt8 :=
  LittleEndian.encode addressSize address.toNat

def encodeUnits (units : List UInt32) : List UInt8 :=
  units.flatMap fun unit => LittleEndian.encode wideUnitSize unit.toNat

def encodeContent (content : List UInt8) : List UInt8 :=
  LittleEndian.encode lengthSize content.length ++ content

/-- The bytes of an argument in its slot, where `precision` is the dynamic precision in force. -/
def Argument.encode (slot : Slot) (precision : Option Nat) : Argument → List UInt8
  | scalar number => number.encode
  | pointer address => encodeAddress address
  | narrow address units =>
    if slot.isText then encodeContent (visible (slot.limit? precision) units)
    else encodeAddress address
  | wide address units =>
    if slot.isText then encodeContent (encodeUnits (visible (slot.limit? precision) units))
    else encodeAddress address

end LogRecord
