import LogRecord.Record.Extent

/-! The walk over the slots of a format and the arguments of a statement.

Each step checks one argument against its slot and measures it. A step that fails moves on to the
next pair and leaves the precision in force as it was. -/

set_option autoImplicit false
namespace LogRecord

structure Walk where
  pending : List (Slot × Argument)
  index : Nat
  precision : Option Nat
deriving DecidableEq, Repr

namespace Walk

/-- A walk starts only when every slot has its argument. -/
def start (slots : List Slot) (arguments : List Argument) : Except EncodingError Walk :=
  if slots.length = arguments.length then
    .ok { pending := slots.zip arguments, index := 0, precision := none }
  else .error (.argumentCount slots.length arguments.length)

def remaining (walk : Walk) : Nat :=
  walk.pending.length

/-- The extent of the argument at `index`. -/
def item (index : Nat) (precision : Option Nat) (slot : Slot) (argument : Argument) :
    Except EncodingError Extent :=
  if !slot.isValid then .error (.invalidArgument index)
  else if !slot.accepts argument then .error (.typeMismatch index slot argument.category)
  else Extent.measure slot precision argument

def next? (walk : Walk) : Option (Except EncodingError Extent × Walk) :=
  match walk.pending with
  | [] => none
  | (slot, argument) :: pending =>
    let extent := item walk.index walk.precision slot argument
    let precision := Extent.precisionAfter walk.precision extent
    some (extent, { pending, index := walk.index + 1, precision })

/-- The first `count` items, those after a failed one too. -/
def take : Nat → Walk → List (Except EncodingError Extent)
  | 0, _ => []
  | count + 1, walk =>
    match walk.next? with
    | none => []
    | some (extent, after) => extent :: take count after

def items (walk : Walk) : List (Except EncodingError Extent) :=
  walk.take walk.remaining

end Walk

/-- The size of the record that the arguments make, or the first failure of the walk. -/
def recordSize (slots : List Slot) (arguments : List Argument) : Except EncodingError Nat := do
  let walk ← Walk.start slots arguments
  let extents ← walk.items.mapM id
  return extents.foldr (fun extent size => extent.total + size) 0

end LogRecord
