import FieldFormula.CommandLine.Arguments
import FieldFormula.CommandLine.Commands
import FieldFormula.Limits.Json
import FieldFormula.Manual

/-! The program as a function of its arguments, the files it may read and its standard input. -/

namespace FieldFormula.CommandLine

/-- What the program can read. A file that cannot be read has the reason in place of its text. -/
structure Surroundings where
  file : String → Except String String
  /-- The standard input; none if it is a terminal. -/
  input : Option (Except String String)

structure Output where
  exitCode : Nat
  stdout : String
  stderr : String
deriving DecidableEq

def version : String := "formula 0.2.0"

def usage : String :=
  Text.lines
    ["Usage: formula [OPTIONS] <COMMAND>",
      "",
      "Commands:",
      "  check [FORMULA] [--schema FILE] [--pretty] [--syntax-only]",
      "  deps [FORMULA]",
      "  fmt [FORMULA] [--pretty]",
      "  rename [FORMULA] --from NAME --to NAME [--via NAME]",
      "  docs",
      "  doc <TOPIC>",
      "",
      "Options:",
      "  --config FILE, -v, -h, -V"]

def limitsOf (surroundings : Surroundings) : Option String → Except Failure Limits
  | none => .ok {}
  | some path =>
    match surroundings.file path with
    | .error reason => .error (.unreadableLimits path reason)
    | .ok document =>
      match Limits.ofDocument? document with
      | some limits => .ok limits
      | none => .error .invalidLimits

def schemaText (surroundings : Surroundings) : Option String → Except Failure (Option String)
  | none => .ok none
  | some path =>
    match surroundings.file path with
    | .ok document => .ok (some document)
    | .error reason => .error (.unreadable reason)

/-- The formula of a command: the one given, or else the standard input. -/
def formulaOf (surroundings : Surroundings) : Option String → Except Failure String
  | some formula => .ok formula
  | none =>
    match surroundings.input with
    | some (.ok text) => .ok text
    | some (.error reason) => .error (.unreadable reason)
    | none => .error .noFormula

def reportFormat (pretty : Bool) : Json.Format :=
  if pretty then .pretty else .compact

/-- Prints the result of a check. A formula that is rejected is a result as well, unless only its
writing was to be checked. -/
def printChecked (pretty syntaxOnly : Bool) : Except Failure Checked → Except Failure Output
  | .ok (.wellWritten formula) => .ok ⟨0, Text.line ("Syntax is valid: " ++ formula), ""⟩
  | .ok checked => .ok ⟨0, Text.line (checked.toReport.write (reportFormat pretty)), ""⟩
  | .error (.formula error) =>
    if syntaxOnly then .error (.formula error)
    else .ok ⟨1, Text.line (error.toReport.write (reportFormat pretty)), ""⟩
  | .error failure => .error failure

def runCommand (surroundings : Surroundings) (limits : Limits) :
    Command → Except Failure Output
  | .check formula schema pretty syntaxOnly => do
    let schema ← schemaText surroundings schema
    let formula ← formulaOf surroundings formula
    printChecked pretty syntaxOnly (checkFormula limits schema syntaxOnly formula)
  | .deps formula => do
    let formula ← formulaOf surroundings formula
    let dependencies ← orFailure (Compiler.dependencies { limits := limits } formula)
    return ⟨0, Text.lines (dependencies.map Dependency.description), ""⟩
  | .fmt formula pretty => do
    let formula ← formulaOf surroundings formula
    let layout := if pretty then Layout.pretty else .compact
    let text ← orFailure (Compiler.format { limits := limits } layout formula)
    return ⟨0, Text.line text, ""⟩
  | .rename formula oldName newName via => do
    let formula ← formulaOf surroundings formula
    let names := Table.empty.insert oldName newName
    let text ←
      orFailure (Compiler.rename { limits := limits } (Expr.newNameIn names) via formula)
    return ⟨0, Text.line text, ""⟩
  | .docs => return ⟨0, Manual.overview, ""⟩
  | .doc topic =>
    match Manual.topic? .standard topic with
    | some text => .ok ⟨0, text, ""⟩
    | none => .error (.unknownTopic topic)

/-- Carries out a request, after reading the limits it asks for. -/
def runRequest (surroundings : Surroundings) (request : Request) : Except Failure Output := do
  let limits ← limitsOf surroundings request.config
  runCommand surroundings limits request.command

def run (surroundings : Surroundings) (arguments : List String) : Output :=
  match parseArguments arguments with
  | .error .usage => ⟨2, "", usage⟩
  | .error .help => ⟨0, usage, ""⟩
  | .error .version => ⟨0, Text.line version, ""⟩
  | .ok request =>
    match runRequest surroundings request with
    | .ok output => output
    | .error failure => ⟨1, "", Text.line failure.message⟩

end FieldFormula.CommandLine
