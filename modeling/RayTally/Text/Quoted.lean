import RayTally.Text.Property

/-!
# Quoted texts

A text between double quotes, written so that every character of it can be told: quotes and
backslashes are escaped, the usual controls have names, and a character that shows nothing of its
own or melts into the one before it is given by its number.
-/

namespace RayTally.Text.Quoted

/-- A character **given by its number** in hexadecimal. -/
def numbered (c : Char) : List Char :=
  ['\\', 'u', '\x7b'] ++ Nat.toDigits 16 c.toNat ++ ['\x7d']

/-- How a character is written between quotes. -/
def character (c : Char) : List Char :=
  match c with
  | '\x00' => ['\\', '0']
  | '\t' => ['\\', 't']
  | '\n' => ['\\', 'n']
  | '\r' => ['\\', 'r']
  | '"' => ['\\', '"']
  | '\\' => ['\\', '\\']
  | c => if isGraphemeExtend c || isUnprintable c then numbered c else [c]

/-- The text between quotes. -/
def quote (cs : List Char) : List Char := '"' :: cs.flatMap character ++ ['"']

/-- The string between quotes. -/
def text (s : String) : String := String.ofList (quote s.toList)

end RayTally.Text.Quoted
