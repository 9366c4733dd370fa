import LogRecord.Text.Unprintable

/-! Quoted text: one line whatever the characters are.

The enclosing quote and the backslash are escaped by a backslash, the null, the tab, the newline and
the carriage return by a letter, and any other character that does not show by its code point in
braces. -/

set_option autoImplicit false
namespace LogRecord.Quoted

def escapeCodePoint (character : Char) : List Char :=
  ['\\', 'u', '{'] ++ Nat.toDigits 16 character.toNat ++ ['}']

def escape (quote character : Char) : List Char :=
  match character with
  | '\x00' => ['\\', '0']
  | '\t' => ['\\', 't']
  | '\n' => ['\\', 'n']
  | '\r' => ['\\', 'r']
  | '\\' => ['\\', '\\']
  | _ =>
    if character = quote then ['\\', quote]
    else if isPrintable character then [character]
    else escapeCodePoint character

def enclose (quote : Char) (characters : List Char) : String :=
  String.ofList (quote :: characters.flatMap (escape quote) ++ [quote])

def ofChar (character : Char) : String :=
  enclose '\x27' [character]

def ofString (text : String) : String :=
  enclose '\x22' text.toList

end LogRecord.Quoted
