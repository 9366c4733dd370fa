import LogRecord.Number.BinaryFloat
import LogRecord.Number.LittleEndian

/-! Numeric arguments, kept as the bits of their type. -/

set_option autoImplicit false
namespace LogRecord

/-- The `native` size is that of an address. -/
inductive IntegerSize where
  | one
  | two
  | four
  | eight
  | native
deriving DecidableEq, Repr

def IntegerSize.bytes : IntegerSize → Nat
  | one => 1
  | two => 2
  | four => 4
  | eight => 8
  | native => 8

inductive NumberType where
  | signed (size : IntegerSize)
  | unsigned (size : IntegerSize)
  | single
  | double
deriving DecidableEq, Repr

namespace NumberType

def bytes : NumberType → Nat
  | signed size => size.bytes
  | unsigned size => size.bytes
  | single => 4
  | double => 8

def isInteger : NumberType → Bool
  | signed _ | unsigned _ => true
  | single | double => false

end NumberType

structure Scalar where
  type : NumberType
  bits : BitVec (8 * type.bytes)
deriving DecidableEq, Repr

namespace Scalar

def ofInt (type : NumberType) (value : Int) : Scalar where
  type := type
  bits := BitVec.ofInt _ value

def largestPrecision : Nat := 0xFFFFFFFFFFFFFFFF

/-- The number as the precision of a `*`. A number below zero, and a pattern that is no finite
number, is no precision at all; of a float the fraction is dropped, and a large one is held at the
bound. -/
def precision? : Scalar → Option Nat
  | ⟨.signed _, bits⟩ => if 0 ≤ bits.toInt then some bits.toInt.toNat else none
  | ⟨.unsigned _, bits⟩ => some bits.toNat
  | ⟨.single, bits⟩ => (BinaryFloat.single.floor? bits.toNat).map (min · largestPrecision)
  | ⟨.double, bits⟩ => (BinaryFloat.double.floor? bits.toNat).map (min · largestPrecision)

def encode (scalar : Scalar) : List UInt8 :=
  LittleEndian.encode scalar.type.bytes scalar.bits.toNat

@[simp] theorem length_encode (scalar : Scalar) : scalar.encode.length = scalar.type.bytes :=
  LittleEndian.length_encode _ _

end Scalar
end LogRecord
