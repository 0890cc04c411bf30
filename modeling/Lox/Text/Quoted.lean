import Lox.Text.HiddenTable

/-!
# Quoted text

How a name is shown inside a description: between double quotes, with an escape for each character
that would be misread or not be seen there.
-/

namespace Lox.Text

/-- The two-character escapes, for the quote, the escape sign itself and the common controls. -/
def shortEscape? : Char → Option Char
  | '"' => some '"'
  | '\\' => some '\\'
  | '\t' => some 't'
  | '\n' => some 'n'
  | '\r' => some 'r'
  | '\x00' => some '0'
  | _ => none

def isHidden (c : Char) : Bool :=
  CodeRange.tableHolds hiddenTable c

/-- A character as it stands between quotes. Hidden ones without a short escape are written by their
code point in hexadecimal. -/
def escape (c : Char) : List Char :=
  match shortEscape? c with
  | some letter => ['\\', letter]
  | none =>
    if isHidden c then "\\u\x7b".toList ++ Nat.toDigits 16 c.toNat ++ "\x7d".toList else [c]

def quoted (text : String) : String :=
  String.ofList ('"' :: text.toList.flatMap escape ++ ['"'])

end Lox.Text
