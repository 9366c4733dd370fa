import LogRecord.Catalogue
import LogRecord.Format.Precheck
import LogRecord.Record.Walk

/-! Statements: texts checked once, then sized through a catalogue for each list of arguments. -/

set_option autoImplicit false
namespace LogRecord

structure Statement where
  text : String
  usable : Precheck.isUsable text = true

inductive StatementError where
  | catalogue (error : CatalogueError)
  | encoding (error : EncodingError)
deriving DecidableEq, Repr

def StatementError.message : StatementError → String
  | catalogue error => error.message
  | encoding error => error.message

namespace Statement

def ofText? (text : String) : Option Statement :=
  if usable : Precheck.isUsable text = true then some { text, usable } else none

def argumentCount (statement : Statement) : Nat :=
  Precheck.slotCount statement.text

def recordSize (statement : Statement) (arguments : List Argument) :
    ExceptT StatementError (StateM Catalogue) Nat := do
  let entry ← (CatalogueM.enroll statement.text).adapt .catalogue
  MonadExcept.ofExcept <|
    (LogRecord.recordSize entry.analysis.format.slots arguments).mapError .encoding

end Statement
end LogRecord
