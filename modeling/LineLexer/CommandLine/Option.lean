import LineLexer.Report

/-!
# Options

The options of the program and of its commands. Some hold for the program as a
whole, and are known before and behind the name of a command.
-/

namespace LineLexer.CommandLine

/-- An option of the program or of a command. -/
inductive Opt where
  | verbose
  | config
  | noColor
  | version
  | help
  | indent
  | parallel
  | skipWhitespace
deriving DecidableEq, Repr

namespace Opt

/-- Behind two hyphens. -/
def long : Opt → String
  | verbose => "verbose"
  | config => "config"
  | noColor => "no-color"
  | version => "version"
  | help => "help"
  | indent => "indent"
  | parallel => "parallel"
  | skipWhitespace => "skip-whitespace"

/-- Behind one hyphen. -/
def short? : Opt → Option Char
  | verbose => some 'v'
  | config => some 'c'
  | version => some 'V'
  | help => some 'h'
  | indent => some 'i'
  | parallel => some 'p'
  | noColor | skipWhitespace => none

/-- An option that needs a value. -/
def takesValue : Opt → Bool
  | config | indent => true
  | _ => false

/-- The environment variable that stands in for an option that is not given. -/
def standIn? : Opt → Option String
  | verbose => some "KALKT_VERBOSE"
  | config => some "KALKT_CONFIG"
  | noColor => some "KALKT_NO_COLOR"
  | _ => none

end Opt

/-- Where an argument stands: before the name of a command, or behind it. -/
inductive Level where
  | program
  | command (kind : Command)
deriving DecidableEq, Repr

/-- The options that a level knows. -/
def Level.options : Level → List Opt
  | program => [.verbose, .config, .noColor, .version, .help]
  | command kind =>
    [.verbose, .config, .noColor, .version, .help, .indent, .parallel] ++
      match kind with
      | .lex _ => [.skipWhitespace]
      | _ => []

/-- How the program names itself at a level. -/
def Level.title : Level → String
  | program => "kalkt"
  | command .lines => "kalkt-lines"
  | command (.lex _) => "kalkt-lex"
  | command .check => "kalkt-check"

/-- The version of the program. -/
def version : String := "0.0.3"

/-- How the program is used. -/
def usageText : String :=
  "Usage: kalkt [OPTIONS] <lines|lex|check> [OPTIONS] <FILE>\n"

/-- Why the arguments make no request. -/
inductive Stop where
  /-- Wrong usage. -/
  | usage
  /-- The version is asked for. -/
  | version (title : String)
  /-- Help is asked for. -/
  | help
deriving DecidableEq, Repr

end LineLexer.CommandLine
