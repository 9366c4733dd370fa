import LogRecord.Format.Specifier

/-! What a text asks for, found without building its format.

Both scans walk the uncut bytes of the text inside a bound; the second stops at the first specifier
that cannot be used. -/

set_option autoImplicit false
namespace LogRecord

namespace Specifier

def slotCount (specifier : Specifier) : Nat :=
  specifier.dynamicWidth.toNat + (specifier.precision == .dynamic).toNat + 1

end Specifier

namespace Directive

def slotCount : Directive → Nat
  | percent => 0
  | specifier read => read.slotCount

def isUsable : Directive → Bool
  | percent => true
  | specifier read => read.conversion.isUsable

end Directive

namespace Precheck

def slotCountIn (window : Window) : Nat :=
  if window.size = 0 then 0
  else if window.front? = some '%'.toUInt8 then
    let read := Directive.scan (window.drop 1)
    read.1.slotCount + slotCountIn read.2
  else slotCountIn (window.drop 1)
termination_by window.size
decreasing_by
  all_goals
    have := Directive.size_scan_le (window.drop 1)
    have := window.size_drop 1
    omega

def isUsableIn (window : Window) : Bool :=
  if window.size = 0 then true
  else if window.front? = some '%'.toUInt8 then
    let read := Directive.scan (window.drop 1)
    read.1.isUsable && isUsableIn read.2
  else isUsableIn (window.drop 1)
termination_by window.size
decreasing_by
  all_goals
    have := Directive.size_scan_le (window.drop 1)
    have := window.size_drop 1
    omega

/-- The number of arguments a statement with this text must supply. -/
def slotCount (text : String) : Nat :=
  slotCountIn (Window.before 0 (Utf8.bytes text))

/-- Whether every specifier of the text can be used. -/
def isUsable (text : String) : Bool :=
  isUsableIn (Window.before 0 (Utf8.bytes text))

end Precheck
end LogRecord
