import LineLexer.CommandLine.Option
import LineLexer.Indentation

/-!
# Reading arguments

Arguments are taken one after another. A value is checked only when the next
option or file comes or the arguments end; so a request for the version is
answered if nothing before it is wrong.
-/

namespace LineLexer.CommandLine

/-- What was given at a level. -/
structure Given where
  /-- Options without a value, and options whose value is recorded. -/
  options : List Opt := []
  /-- Path of the configuration file. -/
  config? : Option String := none
  /-- Indentation of the source file. -/
  indentation? : Option Indentation := none
  /-- Source file. -/
  file? : Option String := none
deriving DecidableEq, Repr

/-- An argument that waits to be checked and recorded. -/
inductive Waiting where
  | nothing
  /-- An option whose value comes next. -/
  | forValue (opt : Opt)
  /-- An option with its value. -/
  | value (opt : Opt) (text : String)
  /-- The source file. -/
  | file (path : String)
deriving DecidableEq, Repr

/-- The state of reading a level. -/
structure Reading where
  /-- The level. -/
  level : Level
  /-- What was given so far. -/
  given : Given := {}
  /-- What is not yet recorded. -/
  waiting : Waiting := .nothing
deriving DecidableEq, Repr

namespace Given

/-- Records an option; none may be given twice. -/
def mark (given : Given) (opt : Opt) : Except Stop Given :=
  if opt ∈ given.options then .error .usage
  else .ok { given with options := opt :: given.options }

/-- Records an option with its value. -/
def setValue (given : Given) (opt : Opt) (text : String) : Except Stop Given := do
  let given ← given.mark opt
  if opt = .indent then
    match Indentation.parse text with
    | .ok indentation => return { given with indentation? := some indentation }
    | .error _ => throw .usage
  else if text.isEmpty then throw .usage
  else return { given with config? := some text }

end Given

namespace Reading

/-- Records what is waiting. -/
def settle (reading : Reading) : Except Stop Given :=
  match reading.waiting with
  | .nothing => .ok reading.given
  | .forValue _ => .error .usage
  | .value opt text => reading.given.setValue opt text
  | .file path =>
    if path.isEmpty then .error .usage
    else .ok { reading.given with file? := some path }

/-- A source file was given, recorded or not. -/
def hasFile (reading : Reading) : Bool :=
  match reading.waiting with
  | .file _ => true
  | _ => reading.given.file?.isSome

/-- Takes an option without a value. -/
def flag (reading : Reading) (opt : Opt) : Except Stop Reading := do
  let given ← reading.settle
  match opt with
  | .version => throw (.version reading.level.title)
  | .help => throw .help
  | _ => return { reading with given := ← given.mark opt, waiting := .nothing }

/-- Takes an option with the value attached to it. -/
def attached (reading : Reading) (opt : Opt) (text : String) : Except Stop Reading := do
  let given ← reading.settle
  return { reading with given := ← given.setValue opt text, waiting := .nothing }

/-- Takes an option whose value is the next argument. -/
def awaiting (reading : Reading) (opt : Opt) : Except Stop Reading := do
  let given ← reading.settle
  return { reading with given, waiting := .forValue opt }

/-- Takes an argument that starts with two hyphens, without them. -/
def longOption (reading : Reading) (text : List Char) : Except Stop Reading :=
  let name := String.ofList (text.takeWhile (· ≠ '='))
  let value? : Option String :=
    match text.dropWhile (· ≠ '=') with
    | _ :: value => some (String.ofList value)
    | [] => none
  match reading.level.options.find? (·.long == name), value? with
  | none, _ => .error .usage
  | some opt, some value =>
    if opt.takesValue then reading.attached opt value else .error .usage
  | some opt, none => if opt.takesValue then reading.awaiting opt else reading.flag opt

/-- Takes the letters of an argument that starts with one hyphen. The letters after an option that
takes a value are its value, with or without an equals sign before it. -/
def shortOptions (reading : Reading) : List Char → Except Stop Reading
  | [] => .ok reading
  | letter :: rest =>
    match reading.level.options.find? (·.short? == some letter) with
    | none => .error .usage
    | some opt =>
      if opt.takesValue then
        match rest with
        | [] => reading.awaiting opt
        | '=' :: value => reading.attached opt (String.ofList value)
        | value => reading.attached opt (String.ofList value)
      else do (← reading.flag opt).shortOptions rest

/-- Takes an argument that is no option: the source file of a command. -/
def positional (reading : Reading) (text : String) : Except Stop Reading := do
  if reading.level = .program ∨ reading.hasFile then throw .usage
  let given ← reading.settle
  return { reading with given, waiting := .file text }

/-- Takes an argument that is not the name of a command. -/
def argument (reading : Reading) (text : String) : Except Stop Reading :=
  match text.toList, reading.waiting with
  | '-' :: '-' :: rest, _ => reading.longOption rest
  | '-' :: letter :: rest, _ => reading.shortOptions (letter :: rest)
  | _, .forValue opt => .ok { reading with waiting := .value opt text }
  | _, _ => reading.positional text

/-- Takes arguments; behind two hyphens alone, none of them is an option. -/
def arguments (reading : Reading) : List String → Except Stop Reading
  | [] => .ok reading
  | "--" :: rest => rest.foldlM positional reading
  | text :: rest => do (← reading.argument text).arguments rest

end Reading

end LineLexer.CommandLine
