/-! The arguments of the command line. Options may stand before and behind a formula; a short one
takes its value from the same argument or the next, and several short ones may share an argument.
Two options go with every command and may also stand before it. -/

namespace FieldFormula.CommandLine

inductive Opt where
  | config
  | verbose
  | help
  | version
  | schema
  | pretty
  | syntaxOnly
  | oldName
  | newName
  | via
deriving DecidableEq

namespace Opt

def long : Opt → String
  | config => "config"
  | verbose => "verbose"
  | help => "help"
  | version => "version"
  | schema => "schema"
  | pretty => "pretty"
  | syntaxOnly => "syntax-only"
  | oldName => "from"
  | newName => "to"
  | via => "via"

def short? : Opt → Option Char
  | verbose => some 'v'
  | help => some 'h'
  | version => some 'V'
  | schema => some 's'
  | pretty => some 'p'
  | config | syntaxOnly | oldName | newName | via => none

def takesValue : Opt → Bool
  | config | schema | oldName | newName | via => true
  | verbose | help | version | pretty | syntaxOnly => false

def isPath : Opt → Bool
  | config | schema => true
  | _ => false

end Opt

inductive CommandName where
  | check
  | deps
  | fmt
  | rename
  | docs
  | doc
deriving DecidableEq

namespace CommandName

def all : List CommandName := [check, deps, fmt, rename, docs, doc]

def text : CommandName → String
  | check => "check"
  | deps => "deps"
  | fmt => "fmt"
  | rename => "rename"
  | docs => "docs"
  | doc => "doc"

def ofText? (text : String) : Option CommandName :=
  all.find? fun name => name.text == text

def options : CommandName → List Opt
  | check => [.config, .verbose, .help, .schema, .pretty, .syntaxOnly]
  | fmt => [.config, .verbose, .help, .pretty]
  | rename => [.config, .verbose, .help, .oldName, .newName, .via]
  | deps | docs | doc => [.config, .verbose, .help]

/-- Whether an argument that is not an option may stand behind a command. -/
def takesOperand : CommandName → Bool
  | docs => false
  | _ => true

end CommandName

def globalOptions : List Opt := [.config, .verbose, .help, .version]

inductive Stop where
  | usage
  | help
  | version
deriving DecidableEq

structure Given where
  flags : List Opt := []
  values : List (Opt × String) := []
  operand : Option String := none
  /-- An option whose value has to come next. -/
  pending : Option Opt := none

namespace Given

def value? (given : Given) (opt : Opt) : Option String :=
  (given.values.find? fun value => value.1 == opt).map Prod.snd

def has (given : Given) (opt : Opt) : Bool :=
  given.flags.contains opt

/-- Gives an option its value. No option takes two, and no file has an empty name. -/
def setValue (given : Given) (opt : Opt) (value : String) : Except Stop Given :=
  if (given.value? opt).isSome || (opt.isPath && value.isEmpty) then .error .usage
  else .ok { given with values := (opt, value) :: given.values, pending := none }

/-- Sets a flag. Only more talk can be asked for twice. -/
def setFlag (given : Given) (opt : Opt) : Except Stop Given :=
  if opt = .help then .error .help
  else if opt = .version then .error .version
  else if opt = .verbose then .ok given
  else if given.has opt then .error .usage
  else .ok { given with flags := opt :: given.flags }

def setOperand (takesOperand : Bool) (given : Given) (text : String) : Except Stop Given :=
  if takesOperand && given.operand.isNone then .ok { given with operand := some text }
  else .error .usage

def takeLong (options : List Opt) (given : Given) (text : List Char) : Except Stop Given :=
  let name := String.ofList (text.takeWhile (· != '='))
  let attached :=
    match text.dropWhile (· != '=') with
    | [] => none
    | _ :: value => some (String.ofList value)
  match options.find? fun opt => opt.long == name with
  | none => .error .usage
  | some opt =>
    match opt.takesValue, attached with
    | true, some value => given.setValue opt value
    | true, none => .ok { given with pending := some opt }
    | false, some _ => .error .usage
    | false, none => given.setFlag opt

def takeShort (options : List Opt) (given : Given) : List Char → Except Stop Given
  | [] => .ok given
  | c :: rest =>
    match options.find? fun opt => opt.short? == some c with
    | none => .error .usage
    | some opt =>
      if opt.takesValue then
        match rest with
        | [] => .ok { given with pending := some opt }
        | '=' :: value => given.setValue opt (String.ofList value)
        | value => given.setValue opt (String.ofList value)
      else do
        let given ← given.setFlag opt
        takeShort options given rest

/-- Takes an argument. One that looks like an option is never a value of another. -/
def take (options : List Opt) (takesOperand : Bool) (given : Given) (argument : String) :
    Except Stop Given :=
  match argument.toList, given.pending with
  | '-' :: '-' :: _, some _ => .error .usage
  | '-' :: '-' :: text, none => given.takeLong options text
  | '-' :: _ :: _, some _ => .error .usage
  | '-' :: c :: text, none => given.takeShort options (c :: text)
  | _, some opt => given.setValue opt argument
  | _, none => given.setOperand takesOperand argument

def settle (given : Given) : Except Stop Given :=
  if given.pending.isSome then .error .usage else .ok given

/-- Takes all arguments behind a command. Behind two dashes none is an option. -/
def takeAll (options : List Opt) (takesOperand : Bool) (given : Given) :
    List String → Except Stop Given
  | [] => given.settle
  | argument :: rest =>
    if argument = "--" then do
      let given ← given.settle
      rest.foldlM (setOperand takesOperand) given
    else do
      let given ← given.take options takesOperand argument
      takeAll options takesOperand given rest

end Given

def namesHelpTopic : List String → Bool
  | [] => true
  | [name] => (CommandName.ofText? name).isSome || name == "help"
  | _ => false

def splitCommand (given : Given) : List String → Except Stop (Given × CommandName × List String)
  | [] => .error .usage
  | argument :: rest =>
    match given.pending, CommandName.ofText? argument with
    | none, some name => .ok (given, name, rest)
    | _, _ =>
      if given.pending.isNone && argument == "help" then
        .error (if namesHelpTopic rest then .help else .usage)
      else if argument = "--" then .error .usage
      else do
        let given ← given.take globalOptions false argument
        splitCommand given rest

inductive Command where
  | check (formula : Option String) (schema : Option String) (pretty syntaxOnly : Bool)
  | deps (formula : Option String)
  | fmt (formula : Option String) (pretty : Bool)
  | rename (formula : Option String) (oldName newName : String) (via : Option String)
  | docs
  | doc (topic : String)
deriving DecidableEq

structure Request where
  config : Option String
  command : Command
deriving DecidableEq

def commandOf (name : CommandName) (given : Given) : Except Stop Command :=
  match name with
  | .check =>
    .ok (.check given.operand (given.value? .schema) (given.has .pretty) (given.has .syntaxOnly))
  | .deps => .ok (.deps given.operand)
  | .fmt => .ok (.fmt given.operand (given.has .pretty))
  | .rename =>
    match given.value? .oldName, given.value? .newName with
    | some oldName, some newName => .ok (.rename given.operand oldName newName (given.value? .via))
    | _, _ => .error .usage
  | .docs => .ok .docs
  | .doc =>
    match given.operand with
    | some topic => .ok (.doc topic)
    | none => .error .usage

/-- Reads all arguments. A file of limits behind the command counts before one in front of it. -/
def parseArguments (arguments : List String) : Except Stop Request := do
  let (before, name, rest) ← splitCommand {} arguments
  let behind ← Given.takeAll name.options name.takesOperand {} rest
  let command ← commandOf name behind
  return ⟨behind.value? .config <|> before.value? .config, command⟩

end FieldFormula.CommandLine
