import Linting.CommandLine.Check
import Linting.CommandLine.LogFilter
import Linting.Init

/-! The program as a function: arguments, environment and files give output, an exit code and the
files that are left behind. -/

namespace Linting.CommandLine

/-- What a run of the program leaves behind. -/
structure Ending where
  fs : FileSystem
  exitCode : Nat
  stdout : String
  stderr : String

/-- What is said of arguments that lead to no command. Help and version go to the standard
output. -/
def UsageError.report (e : UsageError) (fs : FileSystem) : Ending :=
  match e with
  | displayHelp => ⟨fs, 0, help, ""⟩
  | displayVersion => ⟨fs, 0, "lintel\n", ""⟩
  | displayHelpOnMissing => ⟨fs, 2, "", help⟩
  | unknownArgument => fail "unexpected argument"
  | invalidValue => fail "invalid value"
  | invalidUtf8 => fail "invalid UTF-8 was detected in one or more arguments"
  | argumentConflict => fail "an argument cannot be used multiple times"
  | tooManyValues => fail "unexpected value for an argument that takes none"
  | invalidSubcommand => fail "unrecognized subcommand"
  | missingSubcommand => fail "a subcommand is required but none was provided"
where
  help := "Usage: lintel [OPTIONS] <check|list|init|help>\n"
  fail (text : String) : Ending := ⟨fs, 2, "", s!"error: {text}\n"⟩

/-- Colours go to a terminal, which this program never has, or where they are asked for. -/
def ColorChoice.isOn : ColorChoice → Bool
  | always => true
  | _ => false

def errorText (message : String) : String := s!"Error: {message}\n"

def runCheck (fs : FileSystem) (log : LogFilter) (color : ColorChoice) (options : CheckOptions) :
    Ending :=
  let outcome := check fs options
  let log := log.render outcome.events
  match outcome.result with
  | .ok report =>
    let status := if report.isClean then ExitStatus.success else .lints
    let text := match options.format with
      | .human => report.human color.isOn
      | .jsonl => report.jsonl
    ⟨fs, status.code, text, log⟩
  | .error (.run (.linter e)) =>
    match options.format with
    | .human => ⟨fs, ExitStatus.linterCrash.code, "", log ++ e.human color.isOn⟩
    | .jsonl => ⟨fs, ExitStatus.linterCrash.code, e.jsonl, log⟩
  | .error e => ⟨fs, e.exitStatus.code, "", log ++ errorText e.message⟩

def runList (fs : FileSystem) (log : LogFilter) (format : OutputFormat) (config : Option Path) :
    Ending :=
  let outcome := list fs config
  let log := log.render outcome.events
  match outcome.result with
  | .ok statuses =>
    let text := match format with
      | .human => Listing.human statuses
      | .jsonl => Listing.jsonl statuses
    ⟨fs, ExitStatus.success.code, text, log⟩
  | .error e => ⟨fs, e.exitStatus.code, "", log ++ errorText e.message⟩

def runInit (fs : FileSystem) (log : LogFilter) (force : Bool) : Ending :=
  let result := Init.run fs (Path.ofString ".") force
  let log := log.render result.events
  match result.outcome with
  | .ok outcome => ⟨result.fs, ExitStatus.success.code, outcome.message, log⟩
  | .error e => ⟨result.fs, ExitStatus.error.code, "", log ++ errorText e.message⟩

/-- Runs the program. -/
def run (fs : FileSystem) (arguments : List Argument) (environment : Option String) : Ending :=
  match parse arguments with
  | .error e => e.report fs
  | .ok invocation =>
    let log := LogFilter.choose invocation.verbose environment
    match invocation.command with
    | .check options => runCheck fs log invocation.color options
    | .list format config => runList fs log format config
    | .init force => runInit fs log force

end Linting.CommandLine
