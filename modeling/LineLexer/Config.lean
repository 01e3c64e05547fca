import LineLexer.Failure
import LineLexer.Files
import LineLexer.Toml.Document

/-!
# Configuration

The settings of the program that a file gives: the indentation of source files,
whether lines are lexed in parallel, and with how many jobs. A configuration file
is looked for in the working directory, then below the home directory, then in the
directory of the system's configuration; without one, the defaults hold.
-/

namespace LineLexer

/-- The settings of the lexer. -/
structure LexerConfig where
  /-- Indentation of source files. -/
  indentation : Indentation := .tab
  /-- Lex the lines of a component in parallel. -/
  parallel : Bool := false
  /-- Number of parallel jobs, if it is given; otherwise the machine decides. -/
  jobs? : Option Nat := none
deriving DecidableEq, Repr

/-- The settings of the program. -/
structure Config where
  /-- Settings of the lexer. -/
  lexer : LexerConfig := {}
deriving DecidableEq, Repr

/-- Names of the fields of the lexer's settings. -/
def LexerConfig.fieldNames : List String := ["indentation", "parallel", "jobs"]

/-- Reads the settings of the lexer. -/
def LexerConfig.ofSetting (setting : Setting) : Except SettingError LexerConfig := do
  let some fields := setting.record? fieldNames | throw .mismatch
  let indentation? ← Setting.field? fields "indentation" Setting.toIndentation
  let parallel? ← Setting.field? fields "parallel" Setting.toBool
  let jobs? ← Setting.field? fields "jobs" Setting.toNat
  return { indentation := indentation?.getD .tab, parallel := parallel?.getD false, jobs? }

namespace Config

/-- Name of the configuration file. -/
def fileName : String := "kalkt.toml"

/-- Name of the directory that holds the configuration file of a user or a system. -/
def directoryName : String := "kalkt"

/-- Reads the settings of the program. -/
def ofSetting (setting : Setting) : Except SettingError Config := do
  let some fields := setting.record? ["lexer"] | throw .mismatch
  let lexer? ← Setting.field? fields "lexer" LexerConfig.ofSetting
  return { lexer := lexer?.getD {} }

/-- Reads the text of a configuration file. The number of jobs is checked last. -/
def parse (text : String) : Except ConfigFault Config :=
  match Toml.parse? text with
  | none => .error .malformed
  | some setting =>
    match ofSetting setting with
    | .error _ => .error .malformed
    | .ok config => if config.lexer.jobs? = some 0 then .error .noJobs else .ok config

/-- Reads the configuration file at a path. -/
def loadFrom (files : Files) (path : String) : Except Failure Config :=
  match files path with
  | none => .error (.config (.missing path))
  | some .directory => .error (.stream .isDirectory)
  | some (.file content) =>
    match String.fromUTF8? content with
    | none => .error (.stream .notText)
    | some text => (parse text).mapError .config

/-- The variable that names the home directory. -/
def homeVariable : String := "HOME"

/-- The variable that names the directory of the system's configuration. -/
def systemVariable : String := "XDG_CONFIG_HOME"

/-- The home directory; an empty name does not count. -/
def home? (environment : Environment) : Option String :=
  (environment homeVariable).filter fun home => !home.isEmpty

/-- The directory of the system's configuration, which is below the home directory unless an absolute
path is given. -/
def systemDirectory? (environment : Environment) : Option String :=
  ((environment systemVariable).filter Path.isAbsolute).or
    ((home? environment).map fun home => s!"{home}/.config")

/-- The paths at which a configuration file is looked for. -/
def candidates (environment : Environment) : List String :=
  [fileName] ++
  ((home? environment).map fun home => s!"{home}/.config/{directoryName}/{fileName}").toList ++
  ((systemDirectory? environment).map fun directory =>
    s!"{directory}/{directoryName}/{fileName}").toList

/-- Reads the first configuration file that exists, if there is one. -/
def load (files : Files) (paths : List String) : Except Failure Config :=
  match paths.find? (files · |>.isSome) with
  | some path => loadFrom files path
  | none => .ok {}

/-- The presets, with an indentation and a wish for parallelism that take precedence. -/
def presets (config : Config) (indentation? : Option Indentation) (parallel : Bool) : Presets where
  indentation := indentation?.getD config.lexer.indentation
  parallel := parallel || config.lexer.parallel

end Config

end LineLexer
