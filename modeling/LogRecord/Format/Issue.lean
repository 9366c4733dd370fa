import LogRecord.Format.Specifier
import LogRecord.Text.Quoted

/-! Specifiers that no statement may use, and where they stand. -/

set_option autoImplicit false
namespace LogRecord

inductive Fault where
  | unknown (conversion : Char)
  | unterminated
  | unsupported
deriving DecidableEq, Repr

/-- The `offset` is the byte of the specifier's `%`, the `slot` the place of its invalid slot. -/
structure Issue where
  offset : Nat
  slot : Nat
  fault : Fault
deriving DecidableEq, Repr

def Issue.message (issue : Issue) : String :=
  match issue.fault with
  | .unknown conversion =>
    "unrecognized conversion " ++ Quoted.ofChar conversion ++ " in specifier at byte " ++
      toString issue.offset
  | .unterminated =>
    "specifier at byte " ++ toString issue.offset ++ " is missing its conversion character"
  | .unsupported => "%n specifier at byte " ++ toString issue.offset ++ " is not supported"

namespace Conversion

def fault? : Conversion → Option Fault
  | value | text => none
  | count => some .unsupported
  | unknown character => some (.unknown character)
  | missing => some .unterminated

end Conversion

namespace Directive

/-- The issue of a directive whose `%` stands at byte `offset` and whose first slot is number
`slot`. -/
def issue? (offset slot : Nat) : Directive → Option Issue
  | percent => none
  | specifier read => read.conversion.fault?.map fun fault =>
    { offset, slot := slot + read.modifiers.length, fault }

end Directive
end LogRecord
