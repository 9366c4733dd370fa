import LogRecord.Inspector

/-! The command line of the inspector. Standard input is read only when there are no arguments. -/

set_option autoImplicit false
open LogRecord

def main (arguments : List String) : IO UInt32 := do
  let input ← if arguments.isEmpty then (← IO.getStdin).readBinToEnd else pure ByteArray.empty
  let inspection := Inspection.run arguments input
  (← IO.getStdout).putStr inspection.output
  return inspection.exitCode
