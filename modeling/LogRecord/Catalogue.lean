import LogRecord.Format.Basic
import Std.Data.HashMap

/-! Catalogues: one number and one shared analysis for each distinct text.

Numbers count from one in the order in which texts are first seen. A text whose format cannot be
used keeps its entry, and with it its number. -/

set_option autoImplicit false
namespace LogRecord

/-- The format of a text. `run` tells the analyses of one catalogue apart, however equal their
formats. -/
structure Analysis where
  run : Nat
  format : Format
deriving DecidableEq, Repr

structure Entry where
  id : Nat
  text : String
  analysis : Analysis
deriving DecidableEq, Repr

inductive CatalogueError where
  | invalid (issue : Issue)
  | full
deriving DecidableEq, Repr

def CatalogueError.message : CatalogueError → String
  | invalid issue => "invalid format string: " ++ issue.message
  | full => "format registry is full"

/-- The entry with number `n` stands at place `n - 1`; `runs` counts the analyses made. -/
structure Catalogue where
  entries : Array Entry
  byText : Std.HashMap String Entry
  runs : Nat

namespace Catalogue

/-- Numbers stay below this, so that a record can carry one in four bytes. -/
def idLimit : Nat := 0x100000000

def empty : Catalogue where
  entries := #[]
  byText := ∅
  runs := 0

def size (catalogue : Catalogue) : Nat :=
  catalogue.entries.size

def find? (id : Nat) (catalogue : Catalogue) : Option Entry :=
  match id with
  | 0 => none
  | place + 1 => catalogue.entries[place]?

def insert (entry : Entry) (catalogue : Catalogue) : Catalogue :=
  { catalogue with
    entries := catalogue.entries.push entry
    byText := catalogue.byText.insert entry.text entry }

end Catalogue

/-- An operation on a catalogue, which stays as the operation leaves it also when that fails. -/
abbrev CatalogueM := ExceptT CatalogueError (StateM Catalogue)

namespace CatalogueM

def analysisOf (text : String) : CatalogueM Analysis :=
  modifyGet fun catalogue =>
    ({ run := catalogue.runs, format := Format.ofString text },
      { catalogue with runs := catalogue.runs + 1 })

/-- Enters a text with its analysis, unless an entry of the text has come first. -/
def enter (text : String) (analysis : Analysis) : CatalogueM Entry := do
  match (← get).byText[text]? with
  | some entry => return entry
  | none =>
    let id := (← get).size + 1
    if Catalogue.idLimit ≤ id then throw .full
    let entry := { id, text, analysis }
    modify (·.insert entry)
    return entry

/-- The entry of a text, made when the text is first seen. -/
def intern (text : String) : CatalogueM Entry := do
  match (← get).byText[text]? with
  | some entry => return entry
  | none => enter text (← analysisOf text)

/-- The entry of a text whose format can be used. -/
def enroll (text : String) : CatalogueM Entry := do
  let entry ← intern text
  match entry.analysis.format.check with
  | .ok () => return entry
  | .error issue => throw (.invalid issue)

end CatalogueM

/-! ## Histories -/

inductive Call where
  | intern (text : String)
  | enroll (text : String)
  | find (id : Nat)
deriving DecidableEq, Repr

def Call.run : Call → CatalogueM (Option Entry)
  | intern text => some <$> CatalogueM.intern text
  | enroll text => some <$> CatalogueM.enroll text
  | find id => return (← get).find? id

namespace Catalogue

/-- What a call answers and the catalogue it leaves. -/
def perform (catalogue : Catalogue) (call : Call) :
    Except CatalogueError (Option Entry) × Catalogue :=
  call.run.run catalogue

def after (catalogue : Catalogue) (calls : List Call) : Catalogue :=
  calls.foldl (fun catalogue call => (catalogue.perform call).2) catalogue

end Catalogue
end LogRecord
