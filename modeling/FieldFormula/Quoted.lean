/-! String literals. A literal is the text between two quotes of one style, in which a backslash
takes the next character with it. Its value is that text with every escaped quote of the literal's
own style replaced by the quote alone; all other backslashes stay. -/

namespace FieldFormula

/-- Which character encloses a string literal. -/
inductive QuoteStyle where
  | single
  | double
deriving DecidableEq

def QuoteStyle.char : QuoteStyle → Char
  | .single => '\''
  | .double => '"'

/-- The text of a string literal as written, without the enclosing quotes. -/
structure Quoted where
  raw : String
  quote : QuoteStyle
deriving DecidableEq

namespace Quoted

/-- Resolves the escapes of the enclosing quote, from left to right. -/
def unescapeChars (quote : Char) : List Char → List Char
  | [] => []
  | [c] => [c]
  | c :: d :: rest =>
    if c = '\\' ∧ d = quote then quote :: unescapeChars quote rest
    else c :: unescapeChars quote (d :: rest)

def value (literal : Quoted) : String :=
  String.ofList (unescapeChars literal.quote.char literal.raw.toList)

def escapeChars (quote : Char) : List Char → List Char
  | [] => []
  | c :: rest => if c = quote then '\\' :: c :: escapeChars quote rest else c :: escapeChars quote rest

/-- The text to put between quotes of a style so that the quotes inside are escaped. -/
def escape (quote : QuoteStyle) (text : String) : String :=
  String.ofList (escapeChars quote.char text.toList)

/-- Whether a text can stand between two quotes: no quote in it is bare, and a backslash does not
take the closing quote with it. -/
def isBody (quote : Char) : List Char → Bool
  | [] => true
  | [c] => c != '\\' && c != quote
  | c :: d :: rest =>
    if c = '\\' then isBody quote rest else c != quote && isBody quote (d :: rest)

/-- Whether a text can be written as a literal of a style and read back. -/
def fits (quote : QuoteStyle) (text : String) : Bool :=
  let raw := escapeChars quote.char text.toList
  isBody quote.char raw && unescapeChars quote.char raw == text.toList

/-- A literal with a given value: in single quotes if they can hold it, else in double quotes. -/
def ofValue? (text : String) : Option Quoted :=
  if fits .single text then some ⟨escape .single text, .single⟩
  else if fits .double text then some ⟨escape .double text, .double⟩
  else none

def spelling (literal : Quoted) : String :=
  literal.quote.char.toString ++ literal.raw ++ literal.quote.char.toString

end Quoted

end FieldFormula
