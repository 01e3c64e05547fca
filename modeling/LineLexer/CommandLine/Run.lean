import LineLexer.CommandLine.Request
import LineLexer.Config

/-!
# Carrying out a request

`run` is the whole program as a function of its environment, its files and its
arguments. First the usage is checked, then the configuration is read, then the
source file.
-/

namespace LineLexer.CommandLine

/-- How a run of the program ends. -/
structure Outcome where
  /-- Exit status: zero for success, one for a failure, two for wrong usage. -/
  status : Nat
  /-- The output. -/
  output : String
  /-- The reason of a failure. -/
  failure? : Option Failure
deriving DecidableEq, Repr

/-- The configuration of a request. -/
def Request.config (request : Request) (files : Files) (candidates : List String) :
    Except Failure Config :=
  match request.config? with
  | some path => Config.loadFrom files path
  | none => Config.load files candidates

/-- The paths that a request looks at. -/
def Request.paths (request : Request) (candidates : List String) : List String :=
  request.file :: (request.config?.map ([·])).getD candidates

/-- Carries out a request: the configuration is read before the source file. -/
def Request.run (request : Request) (files : Files) (candidates : List String) : Report :=
  match request.config files candidates with
  | .error failure => .failed [] failure
  | .ok config =>
    .run files request.command request.file (config.presets request.indentation? request.parallel)

/-- The end of a run that makes no request. -/
def Stop.outcome : Stop → Outcome
  | usage => ⟨2, "", none⟩
  | version title => ⟨0, s!"{title} {CommandLine.version}\n", none⟩
  | help => ⟨0, usageText, none⟩

/-- The end of a run that reports. -/
def Outcome.ofReport (report : Report) : Outcome :=
  ⟨if report.failure?.isSome then 1 else 0, report.output, report.failure?⟩

/-- Runs the program on its arguments. -/
def run (environment : Environment) (files : Files) (arguments : List String) : Outcome :=
  match parse environment arguments with
  | .error stop => stop.outcome
  | .ok request => .ofReport (request.run files (Config.candidates environment))

end LineLexer.CommandLine
