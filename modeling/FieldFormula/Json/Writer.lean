import FieldFormula.Json

/-! Writing JSON documents, on one line or indented by two blanks a level. -/

namespace FieldFormula.Json

inductive Format where
  | compact
  | pretty
deriving DecidableEq

def newLine (indent : Nat) : String :=
  "\n" ++ String.ofList (List.replicate (2 * indent) ' ')

namespace Format

/-- What encloses and divides the parts of an array or object at some level. -/
def enclose (format : Format) (indent : Nat) (opening closing : String) (parts : List String) :
    String :=
  match format, parts with
  | _, [] => opening ++ closing
  | compact, parts => opening ++ ",".intercalate parts ++ closing
  | pretty, parts =>
    let line := newLine (indent + 1)
    opening ++ line ++ ("," ++ line).intercalate parts ++ newLine indent ++ closing

def colon : Format → String
  | compact => ":"
  | pretty => ": "

end Format

mutual

def writeAt (format : Format) (indent : Nat) : Json → String
  | .null => "null"
  | .bool value => if value then "true" else "false"
  | .number spelling => spelling
  | .string spelling => "\"" ++ spelling ++ "\""
  | .array items => format.enclose indent "[" "]" (writeItems format (indent + 1) items)
  | .object members =>
    format.enclose indent "\x7b" "\x7d" (writeMembers format (indent + 1) members)

def writeItems (format : Format) (indent : Nat) : List Json → List String
  | [] => []
  | item :: items => item.writeAt format indent :: writeItems format indent items

def writeMembers (format : Format) (indent : Nat) : List (String × Json) → List String
  | [] => []
  | (key, value) :: members =>
    ("\"" ++ key ++ "\"" ++ format.colon ++ value.writeAt format indent) ::
      writeMembers format indent members

end

def write (format : Format) (json : Json) : String :=
  json.writeAt format 0

end FieldFormula.Json
