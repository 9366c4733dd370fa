/-! Binary floating-point patterns of a sign, an exponent and a fraction field.

A finite pattern with exponent field `e` and significand `m` denotes, up to its sign, `m` times two
to the power `max e 1 - bias - fractionBits`; the significand has a leading one exactly when `e` is
not zero. The floor of a pattern is taken on these integers, so nothing is rounded. -/

set_option autoImplicit false
namespace LogRecord

structure BinaryFloat where
  exponentBits : Nat
  fractionBits : Nat
deriving DecidableEq, Repr

namespace BinaryFloat

def single : BinaryFloat := ⟨8, 23⟩
def double : BinaryFloat := ⟨11, 52⟩

variable (layout : BinaryFloat)

def bias : Nat :=
  (1 <<< (layout.exponentBits - 1)) - 1

def fraction (pattern : Nat) : Nat :=
  pattern % (1 <<< layout.fractionBits)

def exponent (pattern : Nat) : Nat :=
  (pattern >>> layout.fractionBits) % (1 <<< layout.exponentBits)

def isNegative (pattern : Nat) : Bool :=
  pattern.testBit (layout.fractionBits + layout.exponentBits)

-- Infinities and patterns that denote no number have every exponent bit set.
def isFinite (pattern : Nat) : Bool :=
  layout.exponent pattern != (1 <<< layout.exponentBits) - 1

def significand (pattern : Nat) : Nat :=
  if layout.exponent pattern = 0 then layout.fraction pattern
  else (1 <<< layout.fractionBits) + layout.fraction pattern

/-- The largest natural number not above the magnitude of a finite pattern. -/
def floorMagnitude (pattern : Nat) : Nat :=
  (layout.significand pattern <<< max (layout.exponent pattern) 1) >>>
    (layout.bias + layout.fractionBits)

/-- The floor of a finite pattern that is not below zero. A negative zero is zero. -/
def floor? (pattern : Nat) : Option Nat :=
  if layout.isFinite pattern && (!layout.isNegative pattern || layout.significand pattern == 0) then
    some (layout.floorMagnitude pattern)
  else none

end BinaryFloat
end LogRecord
