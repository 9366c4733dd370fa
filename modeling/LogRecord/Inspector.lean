import LogRecord.Format.Basic
import LogRecord.Text.Lines

/-! The inspector: reports the slots and the issues of format texts. -/

set_option autoImplicit false
namespace LogRecord

structure Inspection where
  output : String
  exitCode : UInt32
deriving DecidableEq, Repr

namespace Inspection

def header (text : String) (slotCount : Nat) : String :=
  Quoted.ofString text ++ ": " ++ toString slotCount ++ " argument(s)"

def slotLine (index : Nat) (slot : Slot) : String :=
  "  " ++ toString index ++ ": " ++ slot.name

def issueLine (issue : Issue) : String :=
  "  error: " ++ issue.message

/-- The lines of the report on one text. -/
def report (text : String) : List String :=
  let format := Format.ofString text
  header text format.slots.length ::
    (format.slots.mapIdx slotLine ++ format.issues.map issueLine)

def ofTexts (texts : List String) : Inspection where
  output := String.join ((texts.flatMap report).map (· ++ "\n"))
  exitCode := if texts.all (fun text => (Format.ofString text).isValid) then 0 else 1

/-- Inspects the arguments, or without any the lines of `input`, which must be well-formed UTF-8. -/
def run (arguments : List String) (input : ByteArray) : Inspection :=
  match arguments with
  | [] =>
    match Utf8.text? input with
    | some text => ofTexts (Lines.ofString text)
    | none => { output := "", exitCode := 1 }
  | _ => ofTexts arguments

end Inspection
end LogRecord
