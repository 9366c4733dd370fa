import LogRecord.Record.Encoding

/-! Reading stored strings and records back.

A reader knows the shapes of the fields and nothing of the format or the arguments. Bytes behind
what it reads are left alone. -/

set_option autoImplicit false
namespace LogRecord

/-- What a string reader found, and the bytes it went over. -/
structure Stored (α : Type) where
  content : List α
  consumed : Nat
deriving DecidableEq, Repr

/-- The units of whole groups of bytes. -/
def decodeUnits : List UInt8 → List UInt32
  | first :: second :: third :: fourth :: rest =>
    UInt32.ofNat (LittleEndian.decode [first, second, third, fourth]) :: decodeUnits rest
  | _ => []

def readNarrow (data : List UInt8) : Option (Stored UInt8) :=
  if data.length < lengthSize then none
  else
    let length := LittleEndian.decode (data.take lengthSize)
    let content := (data.drop lengthSize).take length
    if content.length < length then none
    else some { content, consumed := lengthSize + length }

/-- A wide string has no part of a unit. -/
def readWide (data : List UInt8) : Option (Stored UInt32) := do
  let stored ← readNarrow data
  if stored.content.length % wideUnitSize = 0 then
    some { content := decodeUnits stored.content, consumed := stored.consumed }
  else none

/-! ## Records -/

inductive Shape where
  | number (bytes : Nat)
  | address
  | narrow
  | wide
deriving DecidableEq, Repr

inductive Field where
  | number (bits : Nat)
  | address (address : UInt64)
  | narrow (content : List UInt8)
  | wide (content : List UInt32)
deriving DecidableEq, Repr

/-- The shape in which an argument is stored in its slot. -/
def Argument.shape (slot : Slot) : Argument → Shape
  | scalar number => .number number.type.bytes
  | pointer _ => .address
  | narrow _ _ => if slot.isText then .narrow else .address
  | wide _ _ => if slot.isText then .wide else .address

/-- The number in the first `count` bytes. -/
def readNumber (count : Nat) (data : List UInt8) : Option Nat :=
  if data.length < count then none else some (LittleEndian.decode (data.take count))

/-- A field at the front of `data`, and the bytes it takes. -/
def readField (data : List UInt8) : Shape → Option (Field × Nat)
  | .number bytes => (readNumber bytes data).map fun bits => (.number bits, bytes)
  | .address => (readNumber addressSize data).map fun address =>
    (.address (UInt64.ofNat address), addressSize)
  | .narrow => (readNarrow data).map fun stored => (.narrow stored.content, stored.consumed)
  | .wide => (readWide data).map fun stored => (.wide stored.content, stored.consumed)

/-- The fields of a record at the front of `data`, and the bytes they take together. -/
def readRecord (data : List UInt8) : List Shape → Option (List Field × Nat)
  | [] => some ([], 0)
  | shape :: shapes => do
    let (field, consumed) ← readField data shape
    let (fields, rest) ← readRecord (data.drop consumed) shapes
    some (field :: fields, consumed + rest)

end LogRecord
