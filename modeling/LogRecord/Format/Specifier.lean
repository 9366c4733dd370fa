import LogRecord.Format.Slot
import LogRecord.Text.Utf8
import LogRecord.Text.Window

/-! Directives: what follows a `%` in a format.

A specifier is `flags width precision lengths conversion`, where the width and the precision may be
a `*`. Flags, a width in digits and length modifiers ask for no argument and are passed over. -/

set_option autoImplicit false
namespace LogRecord

inductive Conversion where
  | value
  | text
  /-- A conversion that stores a count through its argument; no format may use it. -/
  | count
  | unknown (character : Char)
  /-- The text ends before any conversion. -/
  | missing
deriving DecidableEq, Repr

structure Specifier where
  dynamicWidth : Bool
  precision : Precision
  conversion : Conversion
deriving DecidableEq, Repr

/-- Only a `%` directly after the first one makes `percent`; `%5%` is a specifier. -/
inductive Directive where
  | percent
  | specifier (read : Specifier)
deriving DecidableEq, Repr

/-! ## Reading a directive -/

def isOneOf (characters : List Char) (byte : UInt8) : Bool :=
  characters.any (·.toUInt8 == byte)

def isFlag : UInt8 → Bool :=
  isOneOf ['-', '+', ' ', '#', '0']

def isDigit (byte : UInt8) : Bool :=
  '0'.toUInt8 ≤ byte && byte ≤ '9'.toUInt8

def isLengthModifier : UInt8 → Bool :=
  isOneOf ['h', 'l', 'j', 'z', 't', 'L']

def isValueConversion : UInt8 → Bool :=
  isOneOf ['d', 'i', 'u', 'o', 'x', 'X', 'f', 'F', 'e', 'E', 'g', 'G', 'a', 'A', 'c', 'p', '%']

namespace Precision

def largest : Nat := 0xFFFFFFFF

/-- The number that decimal digits write, held at the largest precision; no digits write zero. -/
def ofDigits (digits : List UInt8) : Precision :=
  -- Every step is held at the bound, so any number of digits stays within four bytes.
  let limit := digits.foldl
    (fun limit digit => min (10 * limit + (digit.toNat - '0'.toNat)) largest) 0
  .fixed (UInt32.ofNat limit)

def scan (window : Window) : Precision × Window :=
  if window.front? = some '.'.toUInt8 then
    let rest := window.drop 1
    if rest.front? = some '*'.toUInt8 then (.dynamic, rest.drop 1)
    else (ofDigits (rest.take (rest.run isDigit)), rest.skip isDigit)
  else (.absent, window)

end Precision

namespace Conversion

/-- The character that `window` starts with. A byte that starts no character reads as U+FFFD. -/
def character (window : Window) : Char :=
  (Utf8.first? (window.take 4)).getD '\uFFFD'

def ofByte? (byte : UInt8) : Option Conversion :=
  if byte = 's'.toUInt8 then some .text
  else if byte = 'n'.toUInt8 then some .count
  else if isValueConversion byte then some .value
  else none

/-- A conversion is one byte, also when an unknown character is longer. -/
def scan (window : Window) : Conversion × Window :=
  match window.front? with
  | none => (.missing, window)
  | some byte => ((ofByte? byte).getD (.unknown (character window)), window.drop 1)

end Conversion

namespace Specifier

/-- Whether the width is a `*`. -/
def scanWidth (window : Window) : Bool × Window :=
  if window.front? = some '*'.toUInt8 then (true, window.drop 1)
  else (false, window.skip isDigit)

def scan (window : Window) : Specifier × Window :=
  let (dynamicWidth, afterWidth) := scanWidth (window.skip isFlag)
  let (precision, afterPrecision) := Precision.scan afterWidth
  let (conversion, rest) := Conversion.scan (afterPrecision.skip isLengthModifier)
  ({ dynamicWidth, precision, conversion }, rest)

end Specifier

namespace Directive

/-- Reads the directive whose `%` stands directly before `window`, with what follows it. -/
def scan (window : Window) : Directive × Window :=
  if window.front? = some '%'.toUInt8 then (.percent, window.drop 1)
  else
    let (read, rest) := Specifier.scan window
    (.specifier read, rest)

end Directive

/-! ## Reading never grows a window -/

theorem Precision.size_scan_le (window : Window) : (scan window).2.size ≤ window.size := by
  have digits := (window.drop 1).size_skip_le isDigit
  have := window.size_drop 1
  simp only [scan]
  split
  · split <;> simp only [Window.size_drop] <;> omega
  · exact Nat.le_refl _

theorem Conversion.size_scan_le (window : Window) : (scan window).2.size ≤ window.size := by
  unfold scan
  split <;> simp

theorem Specifier.size_scanWidth_le (window : Window) :
    (scanWidth window).2.size ≤ window.size := by
  unfold scanWidth
  split
  · simp
  · exact window.size_skip_le isDigit

theorem Specifier.size_scan_le (window : Window) : (scan window).2.size ≤ window.size :=
  Nat.le_trans (Conversion.size_scan_le _) <| Nat.le_trans (Window.size_skip_le _ _) <|
    Nat.le_trans (Precision.size_scan_le _) <| Nat.le_trans (size_scanWidth_le _) <|
      Window.size_skip_le _ _

theorem Directive.size_scan_le (window : Window) : (scan window).2.size ≤ window.size := by
  unfold scan
  split
  · simp
  · exact Specifier.size_scan_le window

/-! ## Slots of a directive -/

namespace Conversion

def isUsable : Conversion → Bool
  | value | text => true
  | count | unknown _ | missing => false

end Conversion

namespace Specifier

/-- The slots of the stars. -/
def modifiers (specifier : Specifier) : List Slot :=
  (if specifier.dynamicWidth then [.width] else []) ++
    (if specifier.precision = .dynamic then [.precision] else [])

theorem mem_modifiers {specifier : Specifier} {slot : Slot}
    (member : slot ∈ specifier.modifiers) : slot = .width ∨ slot = .precision := by
  rcases List.mem_append.mp member with width | precision
  · split at width
    · exact .inl (List.mem_singleton.mp width)
    · contradiction
  · split at precision
    · exact .inr (List.mem_singleton.mp precision)
    · contradiction

/-- The slot of the conversion itself. -/
def target (specifier : Specifier) : Slot :=
  match specifier.conversion with
  | .value => .value
  | .text => .text specifier.precision
  | .count | .unknown _ | .missing => .invalid

def slots (specifier : Specifier) : List Slot :=
  specifier.modifiers ++ [specifier.target]

end Specifier

namespace Directive

def slots : Directive → List Slot
  | percent => []
  | specifier read => read.slots

end Directive
end LogRecord
