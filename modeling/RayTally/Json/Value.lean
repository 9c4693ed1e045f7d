import RayTally.Mismatch

/-!
# JSON values

Values of the JSON format and their compact text. Integers are kept exactly as long as they fit
into 64 bits, unsigned if they are not negative and signed if they are; other numbers are
binary64.

## Main results

* `Json.text_array`, `Json.text_object`: brackets around items with commas between them.
-/

namespace RayTally

/-- A **JSON value**. The members of an object stand in the order in which they are written. -/
inductive Json
  | null
  | boolean (b : Bool)
  | unsigned (n : UInt64)
  | negative (n : Int64) (hn : n < 0)
  | float (x : FloatValue)
  | string (cs : List Char)
  | array (items : List Json)
  | object (members : List (List Char × Json))

namespace Json

/-- How JSON speaks of what it holds. -/
def wording : Wording := ⟨"null", .compact⟩

/-- What a value is found to be. -/
def found : Json → Found
  | null => .nothing
  | boolean b => .boolean b
  | unsigned n => .integer n.toNat
  | negative n _ => .integer n.toInt
  | float x => .float x
  | string cs => .text cs
  | array _ => .sequence
  | object _ => .mapping

/-- The hexadecimal digit of a number below sixteen. -/
def hexDigit (n : Nat) : Char := if n < 10 then Char.ofNat (48 + n) else Char.ofNat (87 + n)

/-- How a character is written in a string: quotes, backslashes and controls are escaped. -/
def escape (c : Char) : List Char :=
  match c with
  | '"' => ['\\', '"']
  | '\\' => ['\\', '\\']
  | '\x08' => ['\\', 'b']
  | '\t' => ['\\', 't']
  | '\n' => ['\\', 'n']
  | '\x0c' => ['\\', 'f']
  | '\r' => ['\\', 'r']
  | c =>
    if c.toNat < 0x20 then
      ['\\', 'u', '0', '0', hexDigit (c.toNat / 16), hexDigit (c.toNat % 16)]
    else [c]

/-- The text of a string, between quotes. -/
def quoted (cs : List Char) : List Char := '"' :: cs.flatMap escape ++ ['"']

/-- The texts of items with commas between them. -/
def separated : List (List Char) → List Char
  | [] => []
  | [item] => item
  | item :: items => item ++ ',' :: separated items

mutual

/-- The **compact text** of a value. -/
def text : Json → List Char
  | null => "null".toList
  | boolean b => (toString b).toList
  | unsigned n => Decimal.digits n.toNat
  | negative n _ => (integerText n.toInt).toList
  | float x => x.text .compact
  | string cs => quoted cs
  | array items => '[' :: separated (itemTexts items) ++ [']']
  | object members => '\x7b' :: separated (memberTexts members) ++ ['\x7d']

/-- The texts of the items of an array. -/
def itemTexts : List Json → List (List Char)
  | [] => []
  | v :: vs => text v :: itemTexts vs

/-- The texts of the members of an object. -/
def memberTexts : List (List Char × Json) → List (List Char)
  | [] => []
  | (key, v) :: ms => (quoted key ++ ':' :: text v) :: memberTexts ms

end

/-- The value of a member. -/
def member? (key : String) (members : List (List Char × Json)) : Option Json :=
  members.lookup key.toList

theorem text_array (items : List Json) :
    text (array items) = '[' :: separated (itemTexts items) ++ [']'] := by
  rw [text]

theorem text_object (members : List (List Char × Json)) :
    text (object members) = '\x7b' :: separated (memberTexts members) ++ ['\x7d'] := by
  rw [text]

end Json

end RayTally
