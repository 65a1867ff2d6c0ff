import FieldFormula.Json

/-! The texts that JSON strings stand for. In a spelling a backslash starts an escape; a character
past the sixteen-bit range can be escaped as a pair of surrogates, and half of a pair stands for
nothing. -/

namespace FieldFormula.Json

def hexDigit? (c : Char) : Option Nat :=
  if c.isDigit then some (c.toNat - '0'.toNat)
  else if 'a' ≤ c ∧ c ≤ 'f' then some (c.toNat - 'a'.toNat + 10)
  else if 'A' ≤ c ∧ c ≤ 'F' then some (c.toNat - 'A'.toNat + 10)
  else none

def hexCode? (a b c d : Char) : Option Nat := do
  let first ← hexDigit? a
  let second ← hexDigit? b
  let third ← hexDigit? c
  let fourth ← hexDigit? d
  return ((first * 16 + second) * 16 + third) * 16 + fourth

/-- The character that stands for itself or a control behind a backslash. -/
def shortEscape? (c : Char) : Option Char :=
  if c = '"' then some '"'
  else if c = '\\' then some '\\'
  else if c = '/' then some '/'
  else if c = 'b' then some '\x08'
  else if c = 'f' then some '\x0c'
  else if c = 'n' then some '\n'
  else if c = 'r' then some '\r'
  else if c = 't' then some '\t'
  else none

def isHighSurrogate (code : Nat) : Bool := 0xD800 ≤ code && code < 0xDC00

def isLowSurrogate (code : Nat) : Bool := 0xDC00 ≤ code && code < 0xE000

def joinSurrogates (high low : Nat) : Char :=
  Char.ofNat (0x10000 + (high - 0xD800) * 0x400 + (low - 0xDC00))

/-- The characters that a spelling stands for. -/
def unescape? : List Char → Option (List Char)
  | [] => some []
  | '\\' :: 'u' :: a :: b :: c :: d :: rest => do
    let code ← hexCode? a b c d
    if isHighSurrogate code then
      match rest with
      | '\\' :: 'u' :: e :: f :: g :: h :: more => do
        let low ← hexCode? e f g h
        if isLowSurrogate low then
          let others ← unescape? more
          return joinSurrogates code low :: others
        else none
      | _ => none
    else if isLowSurrogate code then none
    else
      let others ← unescape? rest
      return Char.ofNat code :: others
  | '\\' :: c :: rest => do
    let char ← shortEscape? c
    let others ← unescape? rest
    return char :: others
  | c :: rest => if c = '\\' then none else (unescape? rest).map (c :: ·)

def escapeChar (c : Char) : List Char :=
  if c = '"' then ['\\', '"']
  else if c = '\\' then ['\\', '\\']
  else if c = '\x08' then ['\\', 'b']
  else if c = '\t' then ['\\', 't']
  else if c = '\n' then ['\\', 'n']
  else if c = '\x0c' then ['\\', 'f']
  else if c = '\r' then ['\\', 'r']
  else if c.toNat < 0x20 then
    ['\\', 'u', '0', '0', Nat.digitChar (c.toNat / 16), Nat.digitChar (c.toNat % 16)]
  else [c]

def escape (text : String) : String :=
  String.ofList (text.toList.flatMap escapeChar)

def textOf? (spelling : String) : Option String :=
  (unescape? spelling.toList).map String.ofList

def ofText (text : String) : Json :=
  .string (escape text)

def text? : Json → Option String
  | .string spelling => textOf? spelling
  | _ => none

def ofMembers (members : List (String × Json)) : Json :=
  .object (members.map fun member => (escape member.1, member.2))

/-- The members of an object with the texts of their keys, if all of them stand for one. -/
def members? : Json → Option (List (String × Json))
  | .object members =>
    members.mapM fun member => (textOf? member.1).map fun key => (key, member.2)
  | _ => none

end FieldFormula.Json
