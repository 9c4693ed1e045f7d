import RayTally.Mismatch
import RayTally.Yaml.Node

/-!
# What scalars stand for

A plain scalar without a tag is nothing, a boolean, an integer or a floating point number if it is
written like one, and otherwise a text. Numbers may be signed; integers may be hexadecimal, octal or
binary. A decimal numeral with redundant zeros in front is a text. Quoted scalars are texts.
-/

namespace RayTally.Yaml

namespace Plain

/-- Whether a scalar is written like nothing. -/
def isNull (cs : List Char) : Bool :=
  ["~", "null", "Null", "NULL"].any fun s => s.toList == cs

/-- The boolean that a scalar is written like. -/
def boolean? (cs : List Char) : Option Bool :=
  if ["true", "True", "TRUE"].any fun s => s.toList == cs then some true
  else if ["false", "False", "FALSE"].any fun s => s.toList == cs then some false
  else none

/-! ### Integers -/

/-- A scalar without a sign `+` or `-` at its start. -/
def unsigned : List Char → List Char
  | '+' :: cs => cs
  | '-' :: cs => cs
  | cs => cs

/-- Whether a decimal numeral has **redundant zeros** in front. -/
def hasRedundantZero (cs : List Char) : Bool :=
  match unsigned cs with
  | '0' :: c :: ds => (c :: ds).all Char.isDigit
  | _ => false

/-- The value of digits of a base. There must be at least one. -/
def digitsValue? (base : Nat) (cs : List Char) : Option Nat :=
  if cs.isEmpty then none
  else
    cs.foldl
      (fun n c => n.bind fun n => (hexDigit? c).bind fun d =>
        if d < base then some (n * base + d) else none)
      (some 0)

/-- The value of a numeral without a sign, in the base that its first characters tell. -/
def natural? (cs : List Char) : Option Nat :=
  match cs with
  | '0' :: 'x' :: ds => digitsValue? 16 ds
  | '0' :: 'o' :: ds => digitsValue? 8 ds
  | '0' :: 'b' :: ds => digitsValue? 2 ds
  | ds => if hasRedundantZero ds then none else digitsValue? 10 ds

/-- The value of a numeral, which may have a sign. -/
def integer? : List Char → Option Int
  | '-' :: cs => (natural? cs).map fun n => -(n : Int)
  | '+' :: cs => (natural? cs).map Int.ofNat
  | cs => (natural? cs).map Int.ofNat

/-- The integer that a scalar is written like, if it has at most 128 bits. -/
def foundInteger? (cs : List Char) : Option Found :=
  match integer? cs with
  | some n =>
    if -0x8000000000000000 ≤ n ∧ n < 0x10000000000000000 then some (.integer n)
    else if -0x80000000000000000000000000000000 ≤ n ∧ n < 0x100000000000000000000000000000000 then
      some (.wideInteger n)
    else none
  | none => none

/-! ### Floating point numbers -/

/-- The exponent behind the digits of a number; nothing is zero. -/
def exponent? : List Char → Option Int
  | [] => some 0
  | e :: cs =>
    if e == 'e' || e == 'E' then
      match cs with
      | '-' :: ds => (digitsValue? 10 ds).map fun n => -(n : Int)
      | '+' :: ds => (digitsValue? 10 ds).map Int.ofNat
      | ds => (digitsValue? 10 ds).map Int.ofNat
    else none

/-- The digits at the start, and the digits behind a point that follows them, and the rest. -/
def splitNumber (cs : List Char) : List Char × List Char × List Char :=
  let rest := cs.dropWhile Char.isDigit
  match rest with
  | '.' :: ds => (cs.takeWhile Char.isDigit, ds.takeWhile Char.isDigit, ds.dropWhile Char.isDigit)
  | _ => (cs.takeWhile Char.isDigit, [], rest)

/-- The magnitude of a number with a point or an exponent, if it is finite. -/
def magnitude? (cs : List Char) : Option Binary64 :=
  let (whole, places, rest) := splitNumber cs
  match digitsValue? 10 (whole ++ places), exponent? rest with
  | some n, some e => Scientific.ofDecimal n (e - places.length)
  | _, _ => none

/-- The floating point number that a scalar is written like. -/
def float? (cs : List Char) : Option FloatValue :=
  let isInfinity (cs : List Char) : Bool :=
    [".inf", ".Inf", ".INF"].any fun s => s.toList == cs
  if [".nan", ".NaN", ".NAN"].any fun s => s.toList == cs then some .notANumber
  else
    match cs with
    | '-' :: ds =>
      if isInfinity ds then some (.infinite true) else (magnitude? ds).map (.finite true)
    | '+' :: ds =>
      if isInfinity ds then some (.infinite false) else (magnitude? ds).map (.finite false)
    | ds => if isInfinity ds then some (.infinite false) else (magnitude? ds).map (.finite false)

/-! ### Resolution -/

/-- What a plain scalar **stands for**. -/
def resolve (cs : List Char) : Found :=
  if cs.isEmpty || isNull cs then .nothing
  else
    match boolean? cs with
    | some b => .boolean b
    | none =>
      match foundInteger? cs with
      | some n => n
      | none =>
        match if hasRedundantZero cs then none else float? cs with
        | some x => .float x
        | none => .text cs

end Plain

/-! ### Tags -/

/-- The types that a tag can ask for. -/
inductive ScalarType
  | boolean
  | integer
  | float
  | null
  deriving DecidableEq, Repr

namespace ScalarType

/-- The tag that asks for a type. -/
def tag (t : ScalarType) : List Char :=
  ("tag:yaml.org,2002:" ++ match t with
    | boolean => "bool"
    | integer => "int"
    | float => "float"
    | null => "null").toList

/-- The type that a tag asks for. -/
def ofTag? (tag : List Char) : Option ScalarType :=
  [boolean, integer, float, null].find? fun t => t.tag == tag

/-- The words for a scalar of a type. -/
def description : ScalarType → String
  | boolean => "a boolean"
  | integer => "an integer"
  | float => "a float"
  | null => "null"

/-- What a scalar of a type stands for; `none` if it is not written like one. -/
def read (t : ScalarType) (cs : List Char) : Option Found :=
  match t with
  | boolean => (Plain.boolean? cs).map .boolean
  | integer => Plain.foundInteger? cs
  | float => (Plain.float? cs).map .float
  | null => if Plain.isNull cs then some .nothing else none

end ScalarType

namespace Scalar

/-- What a scalar **stands for**. A tag may ask for a type that it is not written like. Tags with a
handle of their own do not change what a plain scalar stands for, and other tags make it a text. -/
def found (s : Scalar) : Except Mismatch Found :=
  match s.tag with
  | none => .ok (if s.style = .plain then Plain.resolve s.text else .text s.text)
  | some tag =>
    match ScalarType.ofTag? tag with
    | some t =>
      match t.read s.text with
      | some f => .ok f
      | none => .error (.value (.text s.text) t.description)
    | none =>
      .ok (if tag.head? = some '!' ∧ s.style = .plain then Plain.resolve s.text else .text s.text)

end Scalar

end RayTally.Yaml
