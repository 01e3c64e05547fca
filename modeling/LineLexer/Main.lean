import LineLexer.CommandLine.Run

/-!
# The program

Reads the environment and the files that a request looks at, runs the request, and
prints its report.
-/

namespace LineLexer.Program

open CommandLine

/-- What stands at a path of the file system; what exists and cannot be read as a file counts as a
directory. -/
def entryAt (path : String) : IO (Option Entry) := do
  try
    return some (.file (← IO.FS.readBinFile path))
  catch error =>
    match error with
    | .noFileOrDirectory .. => return none
    | _ => return some .directory

/-- The files at some paths. -/
def snapshot (paths : List String) : IO Files := do
  let entries ← paths.mapM fun path => return (path, ← entryAt path)
  return fun path => (entries.lookup path).join

/-- The environment variables that the program looks at. -/
def environment : IO Environment := do
  let names := [Config.homeVariable, Config.systemVariable] ++
    Level.program.options.filterMap Opt.standIn?
  let values ← names.mapM fun name => return (name, ← IO.getEnv name)
  return fun name => (values.lookup name).join

/-- Prints an outcome and gives its exit status. -/
def conclude (outcome : Outcome) : IO UInt32 := do
  IO.print outcome.output
  if let some failure := outcome.failure? then
    IO.eprintln s!"Error: {failure.inspect}"
  return outcome.status.toUInt32

end LineLexer.Program

open LineLexer LineLexer.CommandLine LineLexer.Program in
/-- The program. -/
def main (arguments : List String) : IO UInt32 := do
  let environment ← environment
  match parse environment arguments with
  | .error stop =>
    if stop = .usage then IO.eprint usageText
    conclude stop.outcome
  | .ok request =>
    let candidates := Config.candidates environment
    let files ← snapshot (request.paths candidates)
    conclude (.ofReport (request.run files candidates))
