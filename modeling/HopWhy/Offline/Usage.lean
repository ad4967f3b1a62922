import HopWhy.Model.Error
import HopWhy.Offline.Documents

/-!
# Usage errors

What the process does with a command line that the argument parser rejects. The
format of its error is read off the raw arguments, since nothing was parsed.
-/

namespace HopWhy

/-- The value of the option as the pre-scan takes it. -/
def formatOfValue : String → OutputFormat
  | "json" => .json
  | "ndjson" => .ndjson
  | _ => .human

/-- The first `--format` among the adjacent pairs decides. The arguments begin with the name of
the program. -/
def requestedFormat (arguments : List String) : OutputFormat :=
  ((arguments.zip arguments.tail).findSome? fun pair =>
    if pair.1 = "--format" then some (formatOfValue pair.2) else none).getD .human

inductive ClapErrorKind where
  | displayHelp
  | displayVersion
  | rejected
deriving DecidableEq, Repr

/-- An error of the argument parser with its text. -/
structure ClapError where
  kind : ClapErrorKind
  text : String

/-- `str::lines().next()`. -/
def firstLine (text : String) : Option String :=
  let line := text.toList.takeWhile (· ≠ '\n')
  if text.toList = [] then none
  else if text.toList.length = line.length then some text
  else if line.getLast? = some '\r' then some (String.ofList line.dropLast)
  else some (String.ofList line)

def cliUsage (error : ClapError) : AppError :=
  .new .usage "cli_usage" ((firstLine error.text).getD "invalid command line")

/-- The parser prints its error itself, or the tool writes one of its own. -/
inductive UsageOutput where
  | printed (error : ClapError)
  | written (error : AppError) (format : OutputFormat)

/-- The output for a rejected command line, and the exit code. -/
def rejectCommandLine (arguments : List String) (error : ClapError) : UsageOutput × UInt8 :=
  let isDisplay := error.kind = .displayHelp ∨ error.kind = .displayVersion
  (if isDisplay ∨ requestedFormat arguments = .human then .printed error
    else .written (cliUsage error) (requestedFormat arguments),
    if isDisplay then 0 else 2)

end HopWhy
