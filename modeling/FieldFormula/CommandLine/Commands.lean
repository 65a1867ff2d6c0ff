import FieldFormula.Compiler.Json
import FieldFormula.Error.Json
import FieldFormula.Json.Writer
import FieldFormula.Schema.Json

/-! What the commands do with a formula, and why they can fail. -/

namespace FieldFormula.CommandLine

inductive Failure where
  | formula (error : Error)
  /-- A schema that cannot be read. -/
  | invalidSchema
  /-- Limits that cannot be read. -/
  | invalidLimits
  | unreadable (reason : String)
  | unreadableLimits (path reason : String)
  | noFormula
  | unknownTopic (name : String)
deriving DecidableEq

def Failure.message : Failure → String
  | formula error => "Error with formula: " ++ error.message
  | invalidSchema => "Invalid JSON: not a schema"
  | invalidLimits => "invalid config: not limits"
  | unreadable reason => "IO error: " ++ reason
  | unreadableLimits path reason => "failed to read config file " ++ path ++ ": " ++ reason
  | noFormula => "No formula provided. Pass it as an argument or pipe it to stdin."
  | unknownTopic name =>
    "Unknown topic: '" ++ name ++ "'\nRun 'formula docs' to see available topics."

inductive Checked where
  /-- The formula is well written; this is its canonical text. -/
  | wellWritten (formula : String)
  | compiled (result : Compiled)

def Checked.toReport : Checked → Json
  | wellWritten formula =>
    .ofMembers [("status", .ofText "syntax_valid"), ("formula", .ofText formula)]
  | compiled result => result.toReport

def orFailure {α : Type} : Except Error α → Except Failure α
  | .ok value => .ok value
  | .error error => .error (.formula error)

/-- Reads a schema; without one no field is known. -/
def schemaOf : Option String → Except Failure Schema
  | none => .ok .empty
  | some document =>
    match Schema.ofDocument? document with
    | some schema => .ok schema
    | none => .error .invalidSchema

/-- Checks a formula against a schema, or only how it is written. -/
def checkFormula (limits : Limits) (schema : Option String) (syntaxOnly : Bool)
    (formula : String) : Except Failure Checked :=
  let compiler : Compiler := { limits := limits }
  if syntaxOnly then do
    let text ← orFailure (compiler.format .compact formula)
    return .wellWritten text
  else do
    let schema ← schemaOf schema
    let compiled ← orFailure (compiler.compile schema.resolve formula)
    return .compiled compiled

end FieldFormula.CommandLine
