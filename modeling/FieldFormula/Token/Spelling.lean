import FieldFormula.Text.Lowercase
import FieldFormula.Text.Numeric
import FieldFormula.Token

/-! How tokens are spelled: reading the token at the front of a text. Every reader splits its text
into the characters of the token and the characters behind it. -/

namespace FieldFormula

namespace Token

/-- The tokens with a single spelling; of two that start alike the longer stands first. -/
def symbols : List (List Char × Token) :=
  [(['('], .openBracket), ([')'], .closeBracket), ([','], .comma)] ++
    Operator.all.map fun op => (op.lexeme.toList, .operator op)

/-- The body of a string literal behind its opening quote, and what follows the closing quote.
A backslash takes the next character with it. -/
def splitString? (quote : Char) : List Char → Option (List Char × List Char)
  | [] => none
  | [c] => if c = quote then some ([], []) else none
  | c :: d :: rest =>
    if c = quote then some ([], d :: rest)
    else if c = '\\' then (splitString? quote rest).map fun (body, after) => (c :: d :: body, after)
    else (splitString? quote (d :: rest)).map fun (body, after) => (c :: body, after)

theorem splitString?_eq {quote : Char} {text body rest : List Char}
    (split : splitString? quote text = some (body, rest)) : text = body ++ quote :: rest := by
  fun_induction splitString? quote text generalizing body rest with
  | case1 => simp at split
  | case2 => simp_all
  | case3 => simp at split
  | case4 => simp_all
  | case5 d rest _ ih =>
    obtain ⟨⟨inner, after⟩, found, same⟩ := Option.map_eq_some_iff.1 split
    cases same
    rw [ih found]
    rfl
  | case6 c d rest _ _ ih =>
    obtain ⟨⟨inner, after⟩, found, same⟩ := Option.map_eq_some_iff.1 split
    cases same
    rw [ih found]
    rfl

/-- The fractional part of a numeral, a point with at least one digit behind it. -/
def splitFraction : List Char → List Char × List Char
  | '.' :: rest =>
    if (rest.takeWhile Char.isDigit).isEmpty then ([], '.' :: rest)
    else ('.' :: rest.takeWhile Char.isDigit, rest.dropWhile Char.isDigit)
  | rest => ([], rest)

theorem splitFraction_append (text : List Char) :
    (splitFraction text).1 ++ (splitFraction text).2 = text := by
  unfold splitFraction
  split
  · split <;> simp
  · rfl

def startsName (c : Char) : Bool :=
  Text.isAlphabetic c || c == '_'

def continuesName (c : Char) : Bool :=
  Text.isAlphanumeric c || c == '_'

/-- The token that a name spells: a keyword in any case, or an identifier. -/
def ofName (name : List Char) : Token :=
  let lower := Text.lowerAfter [] name
  if lower = "true".toList then .boolean true
  else if lower = "false".toList then .boolean false
  else if lower = "field".toList then .field
  else if lower = "lookup".toList then .lookup
  else if lower = "field_by_id".toList then .fieldById
  else .identifier (String.ofList name)

inductive Reading where
  /-- A token, its characters and the characters behind it. -/
  | read (token : Token) (spelling rest : List Char)
  | unterminatedString
  | unrecognised (found : Char)

def readString (quote : QuoteStyle) (text : List Char) : Reading :=
  match splitString? quote.char text with
  | some (body, rest) =>
    .read (.string ⟨String.ofList body, quote⟩) (quote.char :: body ++ [quote.char]) rest
  | none => .unterminatedString

def readNumber (text : List Char) : Reading :=
  let whole := text.takeWhile Char.isDigit
  let (fraction, rest) := splitFraction (text.dropWhile Char.isDigit)
  let token : Token :=
    if fraction.isEmpty then .integer (String.ofList whole)
    else .decimal (String.ofList (whole ++ fraction))
  .read token (whole ++ fraction) rest

def readName (text : List Char) : Reading :=
  let name := text.takeWhile continuesName
  .read (ofName name) name (text.dropWhile continuesName)

/-- Reads the token at the front of a text that does not start with a separator. -/
def readFront (text : List Char) : Reading :=
  match text with
  | [] => .read .endOfInput [] []
  | c :: rest =>
    match symbols.find? fun symbol => symbol.1.isPrefixOf text with
    | some (spelling, token) => .read token spelling (text.drop spelling.length)
    | none =>
      if c = '\'' then readString .single rest
      else if c = '"' then readString .double rest
      else if c.isDigit then readNumber text
      else if startsName c then readName text
      else .unrecognised c

theorem readString_eq {quote : QuoteStyle} {text spelling rest : List Char} {token : Token}
    (read : readString quote text = .read token spelling rest) :
    quote.char :: text = spelling ++ rest := by
  unfold readString at read
  split at read
  · next body after split =>
    cases read
    simp [splitString?_eq split]
  · cases read

theorem readNumber_eq {text spelling rest : List Char} {token : Token}
    (read : readNumber text = .read token spelling rest) : text = spelling ++ rest := by
  simp only [readNumber, Reading.read.injEq] at read
  rw [← read.2.1, ← read.2.2, List.append_assoc, splitFraction_append,
    List.takeWhile_append_dropWhile]

theorem readName_eq {text spelling rest : List Char} {token : Token}
    (read : readName text = .read token spelling rest) : text = spelling ++ rest := by
  cases read
  rw [List.takeWhile_append_dropWhile]

/-- A token's characters and what follows them make up the text that was read. -/
theorem readFront_eq {text spelling rest : List Char} {token : Token}
    (read : readFront text = .read token spelling rest) : text = spelling ++ rest := by
  unfold readFront at read
  split at read
  · cases read
    rfl
  · next c tail =>
    split at read
    · next found =>
      cases read
      have front := List.find?_some found
      obtain ⟨after, same⟩ := List.isPrefixOf_iff_prefix.1 front
      rw [← same, List.drop_left]
    · split at read
      · next quote => rw [quote]; exact readString_eq read
      split at read
      · next quote => rw [quote]; exact readString_eq read
      split at read
      · exact readNumber_eq read
      split at read
      · exact readName_eq read
      · cases read

end Token

end FieldFormula
