/-! The lines of a text.

A line ends at a newline and loses one carriage return directly before it. The last line needs no
newline, and a carriage return at its end stays. -/

set_option autoImplicit false
namespace LogRecord.Lines

def split : List Char → List (List Char)
  | [] => []
  | '\n' :: rest => [] :: split rest
  | '\r' :: '\n' :: rest => [] :: split rest
  | character :: rest =>
    match split rest with
    | [] => [[character]]
    | line :: lines => (character :: line) :: lines

def ofString (text : String) : List String :=
  (split text.toList).map String.ofList

end LogRecord.Lines
