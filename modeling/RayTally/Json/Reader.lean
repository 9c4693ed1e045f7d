import RayTally.Json.Value
import RayTally.Text.Utf8

/-!
# Reading JSON

A document is one value with blanks around it. A value is read from the left and the rest of the
text is passed on, so that the first character that fits nowhere decides what is reported.

Values nest at most `Json.maxDepth` deep. The recursion is bounded by twice the length of the text:
between two characters it descends at most twice.

## Main results

* `Json.lookup_insert`: of several members of one name the last counts.
-/

namespace RayTally.Json

/-- Why a text is **no JSON document**. -/
inductive SyntaxError
  | unendedList
  | unendedObject
  | unendedString
  | unendedValue
  | expectedColon
  | expectedItemEnd
  | expectedMemberEnd
  | expectedWord
  | expectedValue
  | invalidEscape
  | invalidNumber
  | numberTooLarge
  | controlInString
  | keyNotString
  | loneSurrogate
  | unpairedSurrogate
  | trailingComma
  | trailingCharacters
  | tooDeep
  deriving DecidableEq, Repr

/-- The words for why a text is no JSON document. -/
def SyntaxError.message : SyntaxError → String
  | unendedList => "EOF while parsing a list"
  | unendedObject => "EOF while parsing an object"
  | unendedString => "EOF while parsing a string"
  | unendedValue => "EOF while parsing a value"
  | expectedColon => "expected `:`"
  | expectedItemEnd => "expected `,` or `]`"
  | expectedMemberEnd => "expected `,` or `\x7d`"
  | expectedWord => "expected ident"
  | expectedValue => "expected value"
  | invalidEscape => "invalid escape"
  | invalidNumber => "invalid number"
  | numberTooLarge => "number out of range"
  | controlInString =>
    "control character (\\u0000-\\u001F) found while parsing a string"
  | keyNotString => "key must be a string"
  | loneSurrogate => "lone leading surrogate in hex escape"
  | unpairedSurrogate => "unexpected end of hex escape"
  | trailingComma => "trailing comma"
  | trailingCharacters => "trailing characters"
  | tooDeep => "recursion limit exceeded"

/-- A reader takes text from the left, and gives a result with the rest of the text. -/
abbrev Reader (α : Type) := List Char → Except SyntaxError (α × List Char)

/-- How deep values may nest. -/
def maxDepth : Nat := 127

/-- Whether a character may stand between values. -/
def isBlank (c : Char) : Bool := c == ' ' || c == '\n' || c == '\t' || c == '\r'

/-- The text from the first character on that is no blank. -/
def skipBlanks (cs : List Char) : List Char := cs.dropWhile isBlank

/-- Reads the rest of a word that stands for a value. -/
def word (v : Json) : List Char → Reader Json
  | [], cs => .ok (v, cs)
  | _ :: _, [] => .error .unendedValue
  | w :: ws, c :: cs => if c = w then word v ws cs else .error .expectedWord

/-! ### Strings -/

/-- The value of a hexadecimal digit. -/
def hexValue? (c : Char) : Option Nat :=
  if '0' ≤ c ∧ c ≤ '9' then some (c.toNat - 48)
  else if 'a' ≤ c ∧ c ≤ 'f' then some (c.toNat - 87)
  else if 'A' ≤ c ∧ c ≤ 'F' then some (c.toNat - 55)
  else none

/-- Reads four hexadecimal digits. The text is at its end if it has less than four bytes left. -/
def fourHex : Reader Nat
  | a :: b :: c :: d :: cs =>
    match hexValue? a, hexValue? b, hexValue? c, hexValue? d with
    | some a, some b, some c, some d => .ok (((a * 16 + b) * 16 + c) * 16 + d, cs)
    | _, _, _, _ => .error .invalidEscape
  | cs => .error (if (Utf8.encode cs).length < 4 then .unendedString else .invalidEscape)

/-- Reads the code units behind `\u`: one, or two that form a surrogate pair. -/
def codePoint (cs : List Char) : Except SyntaxError (Char × List Char) :=
  match fourHex cs with
  | .error e => .error e
  | .ok (n, cs) =>
    if 0xDC00 ≤ n ∧ n ≤ 0xDFFF then .error .loneSurrogate
    else if n < 0xD800 ∨ 0xDBFF < n then .ok (Char.ofNat n, cs)
    else
      match cs with
      | [] => .error .unendedString
      | '\\' :: [] => .error .unendedString
      | '\\' :: 'u' :: cs =>
        match fourHex cs with
        | .error e => .error e
        | .ok (m, cs) =>
          if 0xDC00 ≤ m ∧ m ≤ 0xDFFF then
            .ok (Char.ofNat (0x10000 + (n - 0xD800) * 0x400 + (m - 0xDC00)), cs)
          else .error .loneSurrogate
      | _ => .error .unpairedSurrogate

/-- The character that a letter stands for behind a backslash. -/
def escaped? : Char → Option Char
  | '"' => some '"'
  | '\\' => some '\\'
  | '/' => some '/'
  | 'b' => some '\x08'
  | 'f' => some '\x0c'
  | 'n' => some '\n'
  | 'r' => some '\r'
  | 't' => some '\t'
  | _ => none

/-- Reads characters up to the closing quote. -/
def stringRest : Nat → List Char → Reader (List Char)
  | 0, _, _ => .error .unendedString
  | fuel + 1, acc, cs =>
    match cs with
    | [] => .error .unendedString
    | '"' :: cs => .ok (acc.reverse, cs)
    | '\\' :: [] => .error .unendedString
    | '\\' :: 'u' :: cs =>
      match codePoint cs with
      | .error e => .error e
      | .ok (c, cs) => stringRest fuel (c :: acc) cs
    | '\\' :: e :: cs =>
      match escaped? e with
      | some c => stringRest fuel (c :: acc) cs
      | none => .error .invalidEscape
    | c :: cs => if c.toNat < 0x20 then .error .controlInString else stringRest fuel (c :: acc) cs

/-- Reads a string behind its opening quote. -/
def stringBody (cs : List Char) : Except SyntaxError (List Char × List Char) :=
  stringRest (cs.length + 1) [] cs

/-! ### Numbers -/

/-- The digits at the start of a text, and the rest. -/
def spanDigits (cs : List Char) : List Char × List Char :=
  cs.span fun c => (Decimal.digitValue? c).isSome

/-- Takes digits onto `n` as long as the value fits into 64 bits. Gives the value, how many digits
were taken, and the digits left. -/
def takeDigits (n taken : Nat) : List Char → Nat × Nat × List Char
  | [] => (n, taken, [])
  | c :: cs =>
    let m := n * 10 + (Decimal.digitValue? c).getD 0
    if m < UInt64.size then takeDigits m (taken + 1) cs else (n, taken, c :: cs)

/-- The number with the digits of `n` and a power of ten. -/
def floatOfParts (neg : Bool) (n : Nat) (e : Int) : Except SyntaxError Json :=
  match Scientific.ofRoundedParts (.ofNat n) e 8 with
  | some x => .ok (.float (.finite neg x))
  | none => .error .numberTooLarge

/-- Reads an exponent behind its letter. An exponent past 31 bits makes a number that is not zero
overflow, or vanish. -/
def exponentPart (neg : Bool) (n : Nat) (e : Int) (cs : List Char) :
    Except SyntaxError (Json × List Char) :=
  let (down, cs) : Bool × List Char := match cs with
    | '+' :: cs => (false, cs)
    | '-' :: cs => (true, cs)
    | cs => (false, cs)
  match cs with
  | [] => .error .unendedValue
  | c :: _ =>
    if (Decimal.digitValue? c).isNone then .error .invalidNumber
    else
      let (ds, rest) := spanDigits cs
      let k := ds.foldl (fun k d => k * 10 + (Decimal.digitValue? d).getD 0) 0
      if k < 0x80000000 then
        (floatOfParts neg n (if down then e - k else e + k)).map (·, rest)
      else if n ≠ 0 ∧ ¬ down then .error .numberTooLarge
      else .ok (.float (.finite neg .zero), rest)

/-- Reads an exponent if there is one. -/
def optionalExponent (neg : Bool) (n : Nat) (e : Int) (cs : List Char) :
    Except SyntaxError (Json × List Char) :=
  match cs with
  | 'e' :: cs | 'E' :: cs => exponentPart neg n e cs
  | cs => (floatOfParts neg n e).map (·, cs)

/-- Reads the digits behind a point. Those that no longer fit are passed over. -/
def fractionPart (neg : Bool) (n : Nat) (e : Int) (cs : List Char) :
    Except SyntaxError (Json × List Char) :=
  match spanDigits cs with
  | ([], []) => .error .unendedValue
  | ([], _ :: _) => .error .invalidNumber
  | (ds, rest) =>
    let (m, taken, _) := takeDigits n 0 ds
    optionalExponent neg m (e - taken) rest

/-- The negative of a number that is not zero is negative, down to `-2 ^ 63`. -/
theorem ofInt_neg_lt_zero {n : Nat} (hpos : 0 < n) (hle : n ≤ 0x8000000000000000) :
    Int64.ofInt (-n) < 0 := by
  rw [Int64.lt_iff_toInt_lt, Int64.toInt_ofInt_of_le (by omega) (by omega), Int64.toInt_zero]
  omega

/-- Reads a number whose sign was read. Digits that no longer fit into 64 bits make it a floating
point number, as do a point and an exponent, a value below `-2 ^ 63`, and a negative zero. -/
def number (neg : Bool) (cs : List Char) : Except SyntaxError (Json × List Char) :=
  match spanDigits cs with
  | ([], []) => .error .unendedValue
  | ([], _ :: _) => .error .invalidNumber
  | ('0' :: _ :: _, _) => .error .invalidNumber
  | (ds, rest) =>
    let (n, _, left) := takeDigits 0 0 ds
    match left, rest with
    | _, '.' :: rest => fractionPart neg n left.length rest
    | _, 'e' :: _ | _, 'E' :: _ => optionalExponent neg n left.length rest
    | _ :: _, _ => (floatOfParts neg n left.length).map (·, rest)
    | [], _ =>
      if ¬ neg then .ok (.unsigned n.toUInt64, rest)
      else if hn : 0 < n ∧ n ≤ 0x8000000000000000 then
        .ok (.negative (.ofInt (-n)) (ofInt_neg_lt_zero hn.1 hn.2), rest)
      else .ok (.float (.finite true (.ofNat n)), rest)

/-! ### Values -/

/-- Adds a member in the order of names; a later member replaces an earlier one of its name. -/
def insert (key : List Char) (v : Json) : List (List Char × Json) → List (List Char × Json)
  | [] => [(key, v)]
  | (k, w) :: ms =>
    if key = k then (key, v) :: ms
    else if key < k then (key, v) :: (k, w) :: ms
    else (k, w) :: insert key v ms

mutual

/-- Reads a value that may nest `depth` deep. -/
def value : Nat → Nat → Reader Json
  | 0, _, _ => .error .unendedValue
  | fuel + 1, depth, cs =>
    match skipBlanks cs with
    | [] => .error .unendedValue
    | 'n' :: cs => word .null "ull".toList cs
    | 't' :: cs => word (.boolean true) "rue".toList cs
    | 'f' :: cs => word (.boolean false) "alse".toList cs
    | '-' :: cs => number true cs
    | '"' :: cs => (stringBody cs).map fun (s, cs) => (.string s, cs)
    | '[' :: cs =>
      match depth with
      | 0 => .error .tooDeep
      | depth + 1 => (items fuel depth true [] cs).map fun (vs, cs) => (.array vs, cs)
    | '\x7b' :: cs =>
      match depth with
      | 0 => .error .tooDeep
      | depth + 1 => (members fuel depth true [] cs).map fun (ms, cs) => (.object ms, cs)
    | c :: cs =>
      if (Decimal.digitValue? c).isSome then number false (c :: cs) else .error .expectedValue

/-- Reads the items of an array, onto those in `acc`. -/
def items : Nat → Nat → Bool → List Json → Reader (List Json)
  | 0, _, _, _, _ => .error .unendedList
  | fuel + 1, depth, isFirst, acc, cs =>
    match skipBlanks cs with
    | [] => .error .unendedList
    | ']' :: cs => .ok (acc.reverse, cs)
    | c :: cs =>
      if isFirst then
        match value fuel depth (c :: cs) with
        | .error e => .error e
        | .ok (v, cs) => items fuel depth false (v :: acc) cs
      else if c = ',' then
        match skipBlanks cs with
        | [] => .error .unendedValue
        | ']' :: _ => .error .trailingComma
        | cs =>
          match value fuel depth cs with
          | .error e => .error e
          | .ok (v, cs) => items fuel depth false (v :: acc) cs
      else .error .expectedItemEnd

/-- Reads the members of an object, onto those in `acc`. -/
def members : Nat → Nat → Bool → List (List Char × Json) → Reader (List (List Char × Json))
  | 0, _, _, _, _ => .error .unendedObject
  | fuel + 1, depth, isFirst, acc, cs =>
    match skipBlanks cs with
    | [] => .error .unendedObject
    | '\x7d' :: cs => .ok (acc, cs)
    | c :: cs =>
      if isFirst then
        if c = '"' then member fuel depth acc cs else .error .keyNotString
      else if c = ',' then
        match skipBlanks cs with
        | [] => .error .unendedValue
        | '"' :: cs => member fuel depth acc cs
        | '\x7d' :: _ => .error .trailingComma
        | _ => .error .keyNotString
      else .error .expectedMemberEnd

/-- Reads a member behind the quote that opens its name, and the members after it. -/
def member : Nat → Nat → List (List Char × Json) → Reader (List (List Char × Json))
  | 0, _, _, _ => .error .unendedObject
  | fuel + 1, depth, acc, cs =>
    match stringBody cs with
    | .error e => .error e
    | .ok (key, cs) =>
      match skipBlanks cs with
      | [] => .error .unendedObject
      | ':' :: cs =>
        match value fuel depth cs with
        | .error e => .error e
        | .ok (v, cs) => members fuel depth false (insert key v acc) cs
      | _ => .error .expectedColon

end

/-- Reads a **JSON document**. -/
def ofText (cs : List Char) : Except SyntaxError Json :=
  match value (2 * cs.length + 2) maxDepth cs with
  | .error e => .error e
  | .ok (v, rest) =>
    match skipBlanks rest with
    | [] => .ok v
    | _ => .error .trailingCharacters

/-! ### Members -/

theorem lookup_insert (key : List Char) (v : Json) (ms : List (List Char × Json)) :
    (insert key v ms).lookup key = some v := by
  induction ms with
  | nil => simp [insert]
  | cons m ms ih =>
    obtain ⟨k, w⟩ := m
    simp only [insert]
    split
    · simp
    · rename_i h
      split
      · simp
      · have : (key == k) = false := by simpa using h
        simp [List.lookup_cons, this, ih]

end RayTally.Json
