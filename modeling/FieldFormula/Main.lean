import FieldFormula.CommandLine

/-! The program `formula`. -/

namespace FieldFormula

def decodeText (bytes : ByteArray) : Except String String :=
  match String.fromUTF8? bytes with
  | some text => .ok text
  | none => .error "stream did not contain valid UTF-8"

def reasonOf : IO.Error → String
  | .noFileOrDirectory _ code details | .permissionDenied _ code details
  | .inappropriateType _ code details => details ++ " (os error " ++ toString code ++ ")"
  | error => toString error

def readFile (path : String) : IO (Except String String) := do
  try
    return decodeText (← IO.FS.readBinFile path)
  catch error =>
    return .error (reasonOf error)

partial def readAll (stream : IO.FS.Stream) (read : ByteArray) : IO ByteArray := do
  let chunk ← stream.read 65536
  if chunk.isEmpty then return read else readAll stream (read ++ chunk)

/-- The standard input, unless it is a terminal. -/
def readInput : IO (Option (Except String String)) := do
  let stream ← IO.getStdin
  if ← stream.isTty then
    return none
  else
    return some (decodeText (← readAll stream .empty))

namespace CommandLine

def Request.paths (request : Request) : List String :=
  let schema :=
    match request.command with
    | .check _ schema _ _ => schema
    | _ => none
  request.config.toList ++ schema.toList

def Request.readsInput (request : Request) : Bool :=
  match request.command with
  | .check none _ _ _ | .deps none | .fmt none _ | .rename none _ _ _ => true
  | _ => false

def gather (request : Request) : IO Surroundings := do
  let files ← request.paths.mapM fun path => do
    return (path, ← readFile path)
  let input ← if request.readsInput then readInput else pure none
  let table := Table.ofList files
  return ⟨fun path => (table.get? path).getD (.error "not read"), input⟩

end CommandLine

end FieldFormula

def main (arguments : List String) : IO UInt32 := do
  let surroundings ←
    match FieldFormula.CommandLine.parseArguments arguments with
    | .ok request => FieldFormula.CommandLine.gather request
    | .error _ => pure ⟨fun _ => .error "not read", none⟩
  let output := FieldFormula.CommandLine.run surroundings arguments
  let stdout ← IO.getStdout
  let stderr ← IO.getStderr
  stdout.putStr output.stdout
  stdout.flush
  stderr.putStr output.stderr
  return output.exitCode.toUInt32
