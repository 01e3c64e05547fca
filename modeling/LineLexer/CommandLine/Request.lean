import LineLexer.CommandLine.Reading

/-!
# Requests

`parse` reads the arguments of the program: options and the name of a command, then
options and the source file of the command. Environment variables stand in for
options that are not given.
-/

namespace LineLexer.CommandLine

/-- The command with a given name. -/
def command? : String → Option Command
  | "lines" => some .lines
  | "lex" => some (.lex false)
  | "check" => some .check
  | _ => none

/-- A request to the program. -/
structure Request where
  /-- The command. -/
  command : Command
  /-- Source file. -/
  file : String
  /-- Path of the configuration file, if it is given. -/
  config? : Option String
  /-- Indentation of the source file, if it is given. -/
  indentation? : Option Indentation
  /-- Lex the lines in parallel. -/
  parallel : Bool
deriving DecidableEq, Repr

/-- A value that a variable may have: a path, or a truth value for an option without a value. -/
def isVariableValue (opt : Opt) (value : String) : Bool :=
  if opt.takesValue then !value.isEmpty else value == "true" || value == "false"

/-- The variables of the options that are not given at a level have admissible values. -/
def checkVariables (environment : Environment) (given : Given) : Except Stop Unit :=
  let admissible (opt : Opt) :=
    opt ∈ given.options || (opt.standIn?.bind environment).all (isVariableValue opt)
  if Level.program.options.all admissible then .ok () else .error .usage

/-- The request of the program's options and those of a command. What is given closer to the source
file counts, and the environment counts last. -/
def request (environment : Environment) (program : Reading) (command : Command) (inner : Reading) :
    Except Stop Request := do
  let given ← inner.settle
  checkVariables environment given
  let some file := given.file? | throw .usage
  let outer ← program.settle
  checkVariables environment outer
  let config? := given.config?.or (outer.config?.or (environment "KALKT_CONFIG"))
  let command :=
    match command with
    | .lex _ => .lex (.skipWhitespace ∈ given.options)
    | other => other
  return { command, file, config?, indentation? := given.indentation?,
           parallel := .parallel ∈ given.options }

/-- What a request for help comes to: it may name one command, or help itself. -/
def helpOn : List String → Stop
  | [] => .help
  | [name] => if name = "help" ∨ (command? name).isSome then .help else .usage
  | _ => .usage

/-- Reads the arguments before the name of a command, and then those behind it. -/
def parseFrom (environment : Environment) (program : Reading) :
    List String → Except Stop Request
  | [] => .error .usage
  | text :: rest =>
    let isValue := match program.waiting with
      | .forValue _ => true
      | _ => false
    if text = "--" then .error .usage
    else if text = "help" ∧ !isValue then .error (helpOn rest)
    else
      match if isValue then none else command? text with
      | some command => do
        let inner ← ({ level := .command command } : Reading).arguments rest
        request environment program command inner
      | none => do parseFrom environment (← program.argument text) rest

/-- Reads the arguments of the program. -/
def parse (environment : Environment) (arguments : List String) : Except Stop Request :=
  parseFrom environment { level := .program } arguments

end LineLexer.CommandLine
