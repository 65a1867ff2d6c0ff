import FieldFormula.Json.Text

/-! Reading JSON documents. A document is split into tokens, and a reader that keeps a stack of open
arrays and objects puts them together, so documents may nest without a bound. -/

namespace FieldFormula.Json

inductive Token where
  | openBrace
  | closeBrace
  | openBracket
  | closeBracket
  | colon
  | comma
  /-- A value that is a single token. -/
  | scalar (value : Json)

namespace Token

/-- The characters of a string behind its opening quote, and what follows the closing quote. Escapes
have to be complete, and control characters have to be escaped. -/
def splitString? : List Char → Option (List Char × List Char)
  | [] => none
  | '"' :: rest => some ([], rest)
  | '\\' :: 'u' :: a :: b :: c :: d :: rest => do
    let _ ← hexCode? a b c d
    let (body, after) ← splitString? rest
    return ('\\' :: 'u' :: a :: b :: c :: d :: body, after)
  | '\\' :: c :: rest => do
    let _ ← shortEscape? c
    let (body, after) ← splitString? rest
    return ('\\' :: c :: body, after)
  | c :: rest =>
    if c = '\\' ∨ c.toNat < 0x20 then none
    else (splitString? rest).map fun (body, after) => (c :: body, after)

/-- Digits at the front of a text, of which there has to be one. -/
def splitDigits? (text : List Char) : Option (List Char × List Char) :=
  let digits := text.takeWhile Char.isDigit
  if digits.isEmpty then none else some (digits, text.dropWhile Char.isDigit)

/-- The digits before a point; a zero stands alone. -/
def splitWhole? : List Char → Option (List Char × List Char)
  | '0' :: rest => some (['0'], rest)
  | text => splitDigits? text

/-- A point with digits behind it, if there is one. -/
def splitFraction : List Char → List Char × List Char
  | '.' :: rest =>
    match splitDigits? rest with
    | some (digits, after) => ('.' :: digits, after)
    | none => ([], '.' :: rest)
  | text => ([], text)

def splitExponentSign : List Char → List Char × List Char
  | '+' :: rest => (['+'], rest)
  | '-' :: rest => (['-'], rest)
  | text => ([], text)

def splitExponent : List Char → List Char × List Char
  | [] => ([], [])
  | mark :: rest =>
    if mark = 'e' ∨ mark = 'E' then
      let (sign, behind) := splitExponentSign rest
      match splitDigits? behind with
      | some (digits, after) => (mark :: sign ++ digits, after)
      | none => ([], mark :: rest)
    else ([], mark :: rest)

def splitNumber? (text : List Char) : Option (List Char × List Char) := do
  let (sign, unsigned) : List Char × List Char :=
    match text with
    | '-' :: rest => (['-'], rest)
    | _ => ([], text)
  let (whole, afterWhole) ← splitWhole? unsigned
  let (fraction, afterFraction) := splitFraction afterWhole
  let (exponent, rest) := splitExponent afterFraction
  return (sign ++ whole ++ fraction ++ exponent, rest)

def split? : List Char → Option (Token × List Char)
  | '\x7b' :: rest => some (openBrace, rest)
  | '\x7d' :: rest => some (closeBrace, rest)
  | '[' :: rest => some (openBracket, rest)
  | ']' :: rest => some (closeBracket, rest)
  | ':' :: rest => some (colon, rest)
  | ',' :: rest => some (comma, rest)
  | 'n' :: 'u' :: 'l' :: 'l' :: rest => some (scalar .null, rest)
  | 't' :: 'r' :: 'u' :: 'e' :: rest => some (scalar (.bool true), rest)
  | 'f' :: 'a' :: 'l' :: 's' :: 'e' :: rest => some (scalar (.bool false), rest)
  | '"' :: text => do
    let (body, rest) ← splitString? text
    return (scalar (.string (String.ofList body)), rest)
  | text => do
    let (numeral, rest) ← splitNumber? text
    return (scalar (.number (String.ofList numeral)), rest)

end Token

/-- An array or object that is still open, with what precedes the value being read, last first. -/
inductive Frame where
  | array (items : List Json)
  | object (members : List (String × Json)) (key : String)

inductive State where
  | value (stack : List Frame)
  /-- The first item of an array, or its end. -/
  | firstItem (stack : List Frame)
  /-- The first key of an object, or its end. -/
  | firstKey (stack : List Frame)
  | key (members : List (String × Json)) (stack : List Frame)
  | colon (members : List (String × Json)) (key : String) (stack : List Frame)
  /-- What comes after a value that is complete. -/
  | next (value : Json) (stack : List Frame)

namespace State

def beginValue (stack : List Frame) : Token → Option State
  | .scalar scalar => some (next scalar stack)
  | .openBracket => some (firstItem stack)
  | .openBrace => some (firstKey stack)
  | _ => none

def step : State → Token → Option State
  | value stack, token => beginValue stack token
  | firstItem stack, .closeBracket => some (next (.array []) stack)
  | firstItem stack, token => beginValue (.array [] :: stack) token
  | firstKey stack, .closeBrace => some (next (.object []) stack)
  | firstKey stack, .scalar (.string name) => some (colon [] name stack)
  | key members stack, .scalar (.string name) => some (colon members name stack)
  | colon members name stack, .colon => some (value (.object members name :: stack))
  | next item (.array items :: stack), .comma => some (value (.array (item :: items) :: stack))
  | next item (.array items :: stack), .closeBracket =>
    some (next (.array (item :: items).reverse) stack)
  | next item (.object members name :: stack), .comma => some (key ((name, item) :: members) stack)
  | next item (.object members name :: stack), .closeBrace =>
    some (next (.object ((name, item) :: members).reverse) stack)
  | _, _ => none

def finish : State → Option Json
  | next document [] => some document
  | _ => none

end State

/-- The characters that may stand between tokens. -/
def isBlank (c : Char) : Bool :=
  c == ' ' || c == '\t' || c == '\n' || c == '\r'

/-- Reads the tokens of a text, of which there are at most `room`. -/
def readFrom : Nat → State → List Char → Option Json
  | room, state, text =>
    match text.dropWhile isBlank with
    | [] => state.finish
    | front =>
      match room with
      | 0 => none
      | room + 1 =>
        match Token.split? front with
        | none => none
        | some (token, rest) =>
          match state.step token with
          | none => none
          | some state => readFrom room state rest

def read (document : String) : Option Json :=
  let text := document.toList
  readFrom text.length (.value []) text

end FieldFormula.Json
