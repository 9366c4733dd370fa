import LogRecord.Format.Issue

/-! Formats: the argument slots of a text, in order, with the issues found while reading it.

A text ends at its first null byte. An unusable specifier leaves an invalid slot and an issue, and
reading goes on after it. -/

set_option autoImplicit false
namespace LogRecord

/-- A directive and the byte at which its `%` stands. -/
structure Located where
  offset : Nat
  directive : Directive
deriving DecidableEq, Repr

/-- The directives of a window whose first byte is number `offset`. -/
def Located.ofWindow (offset : Nat) (window : Window) : List Located :=
  let found := window.skip (· != '%'.toUInt8)
  if found.size = 0 then []
  else
    let read := Directive.scan (found.drop 1)
    { offset := offset + (window.size - found.size), directive := read.1 } ::
      ofWindow (offset + (window.size - read.2.size)) read.2
termination_by window.size
decreasing_by
  have inside := found.size_drop 1
  have rest := Directive.size_scan_le (found.drop 1)
  have first := window.size_skip_le (· != '%'.toUInt8)
  simp +zetaDelta only at *
  omega

structure Format where
  slots : List Slot
  issues : List Issue
deriving DecidableEq, Repr

namespace Format

/-- The issues of directives whose first slot is number `slot`. -/
def issuesFrom (slot : Nat) : List Located → List Issue
  | [] => []
  | located :: rest =>
    (located.directive.issue? located.offset slot).toList ++
      issuesFrom (slot + located.directive.slots.length) rest

def ofDirectives (directives : List Located) : Format where
  slots := directives.flatMap (·.directive.slots)
  issues := issuesFrom 0 directives

/-- The bytes of a text before its first null byte. -/
def textOf (bytes : List UInt8) : List UInt8 :=
  bytes.takeWhile (· != 0)

def ofBytes (bytes : List UInt8) : Format :=
  ofDirectives (Located.ofWindow 0 (Window.whole (textOf bytes)))

def ofString (text : String) : Format :=
  ofBytes (Utf8.bytes text)

def isValid (format : Format) : Bool :=
  format.issues.isEmpty

/-- Fails with the first issue. -/
def check (format : Format) : Except Issue Unit :=
  match format.issues with
  | [] => .ok ()
  | issue :: _ => .error issue

/-- The format of a text in which every specifier can be used. -/
def parse (text : String) : Except Issue Format := do
  let format := ofString text
  format.check
  return format

end Format
end LogRecord
