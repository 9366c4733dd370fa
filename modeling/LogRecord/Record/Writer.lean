import LogRecord.Record.Encoding
import LogRecord.Record.Walk

/-! Writing records into a buffer of fixed length.

A writer keeps its buffer when it fails, so what a failed write has already changed can be seen. -/

set_option autoImplicit false
namespace LogRecord

/-- A buffer and the place in it up to which it has been written. -/
structure Buffer where
  written : List UInt8
  free : List UInt8
deriving DecidableEq, Repr

namespace Buffer

def ofFree (bytes : List UInt8) : Buffer where
  written := []
  free := bytes

def contents (buffer : Buffer) : List UInt8 :=
  buffer.written ++ buffer.free

/-- Puts `bytes` in place of as many free ones. -/
def write (bytes : List UInt8) (buffer : Buffer) : Buffer where
  written := buffer.written ++ bytes
  free := buffer.free.drop bytes.length

end Buffer

abbrev Writer := ExceptT EncodingError (StateM Buffer)

namespace Writer

/-- Fails unless `needed` bytes are free. -/
def require (needed : Nat) : Writer Unit := do
  let available := (← get).free.length
  if available < needed then throw (.bufferTooSmall needed available)

def storeArgument (slot : Slot) (precision : Option Nat) (argument : Argument) : Writer Extent := do
  let extent ← MonadExcept.ofExcept (Extent.measure slot precision argument)
  require extent.total
  modify (·.write (argument.encode slot precision))
  return extent

/-- Stores arguments one after the other, without checking that they fit their slots. -/
def storeAll (precision : Option Nat) : List (Slot × Argument) → Writer Nat
  | [] => return 0
  | (slot, argument) :: rest => do
    let extent ← storeArgument slot precision argument
    let size ← storeAll extent.precision rest
    return extent.total + size

/-- Stores a record. It is measured before the first byte is written. -/
def storeRecord (slots : List Slot) (arguments : List Argument) : Writer Nat := do
  let needed ← MonadExcept.ofExcept (recordSize slots arguments)
  require needed
  storeAll none (slots.zip arguments)

end Writer
end LogRecord
