import FieldFormula.Text.Printable

/-! Texts shown between double quotes, so that every character of the text can be seen. -/

namespace FieldFormula.Text

/-- The escape of a character by its code point, in lowercase hexadecimal digits. -/
def codeEscape (c : Char) : String :=
  "\\u\x7b" ++ String.ofList (Nat.toDigits 16 c.toNat) ++ "\x7d"

def visibleChar (c : Char) : String :=
  if c = '\x00' then "\\0"
  else if c = '\t' then "\\t"
  else if c = '\r' then "\\r"
  else if c = '\n' then "\\n"
  else if c = '\\' then "\\\\"
  else if c = '"' then "\\\""
  else if isPrintable c then c.toString
  else codeEscape c

/-- A text between double quotes with everything escaped that could not be seen. -/
def visible (text : String) : String :=
  "\"" ++ String.join (text.toList.map visibleChar) ++ "\""

end FieldFormula.Text
