import LineLexer.Line

/-!
# Failures

Why a command of the program ends without success. Lexical faults of a source
text are no failures: they are reported as diagnostics, and only the check of a
file turns their number into a failure.
-/

namespace LineLexer

/-- What is wrong with the configuration. -/
inductive ConfigFault where
  /-- No file at the given path. -/
  | missing (path : String)
  /-- The file is malformed, or a setting has a wrong value. -/
  | malformed
  /-- The number of parallel jobs is zero. -/
  | noJobs
  /-- A reason that the environment gives. -/
  | other (reason : String)
deriving DecidableEq, Repr

/-- The reason as a text. -/
def ConfigFault.reason : ConfigFault → String
  | missing path => s!"Configuration file not found: {path}"
  | malformed => "Failed to parse configuration"
  | noJobs => "lexer.jobs must be positive"
  | other reason => reason

/-- What is wrong with a source file. -/
inductive SourceFault where
  /-- No file at the given path. -/
  | notAFile (path : String)
  /-- The content of the file is no text. -/
  | notText (path : String)
  /-- A reason that the environment gives. -/
  | other (reason : String)
deriving DecidableEq, Repr

/-- What is said of content that is no text. -/
def notTextReason : String := "stream did not contain valid UTF-8"

/-- The reason as a text. -/
def SourceFault.reason : SourceFault → String
  | notAFile path => s!"Input path is not a file: {path}"
  | notText path => s!"{path}: {notTextReason}"
  | other reason => reason

/-- What is wrong with reading or writing. -/
inductive StreamFault where
  /-- A directory cannot be read. -/
  | isDirectory
  /-- The content read is no text. -/
  | notText
  /-- The output cannot take more. -/
  | noRoom
deriving DecidableEq, Repr

namespace StreamFault

/-- The reason as a text. -/
def reason : StreamFault → String
  | isDirectory => "Is a directory (os error 21)"
  | notText => notTextReason
  | noRoom => "no room"

/-- The fault with its fields, on one line. -/
def inspect : StreamFault → String
  | isDirectory => "Os \x7b code: 21, kind: IsADirectory, message: \"Is a directory\" \x7d"
  | notText => "Error \x7b kind: InvalidData, message: " ++ Text.quoted notTextReason ++ " \x7d"
  | noRoom => "Custom \x7b kind: Other, error: \"no room\" \x7d"

end StreamFault

/-- Why a command ends without success. -/
inductive Failure where
  | config (fault : ConfigFault)
  | source (fault : SourceFault)
  | tokenize (error : TokenizeError)
  /-- The checked file has this many lexical faults. -/
  | diagnostics (count : Nat)
  | stream (fault : StreamFault)
deriving DecidableEq, Repr

namespace Failure

/-- What the user is told. -/
def message : Failure → String
  | config fault => "Configuration error: " ++ fault.reason
  | source fault => "File operation failed: " ++ fault.reason
  | tokenize error => "Lexer error: " ++ error.message
  | diagnostics count => s!"{count} lexical error(s) found"
  | stream fault => "IO error: " ++ fault.reason

/-- The failure with its fields, on one line. -/
def inspect : Failure → String
  | config fault => "Config(" ++ Text.quoted fault.reason ++ ")"
  | source fault => "FileOperation(" ++ Text.quoted fault.reason ++ ")"
  | tokenize error => "Lex(" ++ error.inspect ++ ")"
  | diagnostics count => s!"CompileErrors({count})"
  | stream fault => "Io(" ++ fault.inspect ++ ")"

end Failure

end LineLexer
