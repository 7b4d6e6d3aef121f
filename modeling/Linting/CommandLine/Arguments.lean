import Linting.Path

/-! The arguments of the program. Options stand in front of the command or behind it; a value stands
behind its option or is attached to it. Values are looked at when the next option is read or the
arguments end, and a fault is told where it is met. -/

namespace Linting.CommandLine

/-- An argument as the system hands it over. -/
abbrev Argument := List UInt8

inductive OutputFormat
  | human
  | jsonl
  deriving DecidableEq, Repr

def OutputFormat.name : OutputFormat → String
  | human => "human"
  | jsonl => "jsonl"

inductive ColorChoice
  | auto
  | always
  | never
  deriving DecidableEq, Repr

def ColorChoice.name : ColorChoice → String
  | auto => "auto"
  | always => "always"
  | never => "never"

structure CheckOptions where
  paths : List Path
  includeLinters : List String
  excludeLinters : List String
  format : OutputFormat
  config : Option Path
  parallel : Bool
  deriving DecidableEq, Repr

inductive Command
  | check (options : CheckOptions)
  | list (format : OutputFormat) (config : Option Path)
  | init (force : Bool)
  deriving DecidableEq, Repr

/-- What the user asked for. -/
structure Invocation where
  command : Command
  color : ColorChoice
  verbose : Nat
  deriving DecidableEq, Repr

/-- Why arguments lead to no command. -/
inductive UsageError
  | unknownArgument
  | invalidValue
  | invalidUtf8
  | argumentConflict
  | tooManyValues
  | invalidSubcommand
  | missingSubcommand
  | displayHelp
  | displayVersion
  | displayHelpOnMissing
  deriving DecidableEq, Repr

inductive CommandName
  | check
  | list
  | init
  deriving DecidableEq, Repr

/-- What an option or an argument without one sets. -/
inductive Setting
  | color
  | verbose
  | help
  | version
  | includeLinter
  | excludeLinter
  | format
  | config
  | parallel
  | force
  | paths
  deriving DecidableEq, Repr

structure OptionName where
  setting : Setting
  short : Option Char
  long : String
  takesValue : Bool

/-- The options that every command has. -/
def commonOptions : List OptionName := [
  ⟨.color, none, "color", true⟩,
  ⟨.verbose, some 'v', "verbose", false⟩,
  ⟨.help, some 'h', "help", false⟩]

def formatOptions : List OptionName := [
  ⟨.format, some 'f', "format", true⟩,
  ⟨.config, none, "config", true⟩]

/-- The options at one level: in front of the command, or behind it. -/
def optionsOf : Option CommandName → List OptionName
  | none => commonOptions ++ [⟨.version, some 'V', "version", false⟩]
  | some .check => commonOptions ++ formatOptions ++ [
    ⟨.includeLinter, some 'i', "include-linter", true⟩,
    ⟨.excludeLinter, some 'x', "exclude-linter", true⟩,
    ⟨.parallel, none, "parallel", false⟩]
  | some .list => commonOptions ++ formatOptions
  | some .init => commonOptions ++ [⟨.force, none, "force", false⟩]

/-- What was set at one level. -/
structure Settings where
  color : Option ColorChoice
  verbose : Option Nat
  includeLinters : List String
  excludeLinters : List String
  format : Option OutputFormat
  config : Option Path
  parallel : Bool
  force : Bool
  paths : List Path

def Settings.blank : Settings :=
  ⟨none, none, [], [], none, none, false, false, []⟩

/-- The greatest verbosity that is counted. -/
def verboseLimit : Nat := 255

namespace Argument

def text? (a : Argument) : Option String := (Text.decode? a).map String.ofList

def path (a : Argument) : Except UsageError Path :=
  if a.isEmpty then .error .invalidValue else .ok ⟨a⟩

def string (a : Argument) : Except UsageError String :=
  match text? a with
  | some s => .ok s
  | none => .error .invalidUtf8

def color (a : Argument) : Except UsageError ColorChoice :=
  match text? a with
  | some "auto" => .ok .auto
  | some "always" => .ok .always
  | some "never" => .ok .never
  | _ => .error .invalidValue

def format (a : Argument) : Except UsageError OutputFormat :=
  match text? a with
  | some "human" => .ok .human
  | some "jsonl" => .ok .jsonl
  | _ => .error .invalidValue

end Argument

namespace Settings

/-- Sets what must be set once at a level; it is checked before the value is looked at. -/
def once {α : Type} (old : Option α) (value : Except UsageError α) :
    Except UsageError (Option α) :=
  match old with
  | some _ => .error .argumentConflict
  | none => value.map some

def flag (old : Bool) : Except UsageError Bool :=
  if old then .error .argumentConflict else .ok true

/-- Sets what takes no value. -/
def setFlag (s : Settings) : Setting → Except UsageError Settings
  | .verbose => .ok { s with verbose := some (min (s.verbose.getD 0 + 1) verboseLimit) }
  | .parallel => do .ok { s with parallel := ← flag s.parallel }
  | .force => do .ok { s with force := ← flag s.force }
  | .help => .error .displayHelp
  | .version => .error .displayVersion
  | _ => .ok s

/-- Sets what takes a value. -/
def setValue (s : Settings) (value : Argument) : Setting → Except UsageError Settings
  | .color => do .ok { s with color := ← once s.color value.color }
  | .format => do .ok { s with format := ← once s.format value.format }
  | .config => do .ok { s with config := ← once s.config value.path }
  | .includeLinter => do .ok { s with includeLinters := s.includeLinters ++ [← value.string] }
  | .excludeLinter => do .ok { s with excludeLinters := s.excludeLinters ++ [← value.string] }
  | .paths => do .ok { s with paths := s.paths ++ [← value.path] }
  | _ => .ok s

end Settings

/-- What has been read and not been looked at: an option without its value or with it, or arguments
that belong to no option. -/
inductive Pending
  | nothing
  | awaiting (setting : Setting)
  | given (setting : Setting) (values : List Argument)

/-- How far a level has been read. -/
structure LevelReader where
  settings : Settings
  pending : Pending
  /-- Whether `--` has been read, behind which nothing is an option. -/
  escaped : Bool
  /-- Whether anything has been set. -/
  used : Bool

namespace LevelReader

def start : LevelReader := ⟨.blank, .nothing, false, false⟩

/-- Looks at what has been read. -/
def settle (r : LevelReader) : Except UsageError LevelReader :=
  match r.pending with
  | .nothing => .ok r
  | .awaiting _ => .error .invalidValue
  | .given setting values => do
    let settings ← values.foldlM (fun s value => s.setValue value setting) r.settings
    .ok { r with settings, pending := .nothing, used := true }

def setFlag (r : LevelReader) (setting : Setting) : Except UsageError LevelReader := do
  let r ← r.settle
  .ok { r with settings := ← r.settings.setFlag setting, used := true }

/-- Reads an option, with the value that is attached to it if there is one. -/
def readOption (r : LevelReader) (option : OptionName) (attached : Option Argument) :
    Except UsageError LevelReader := do
  match option.takesValue, attached with
  | true, some value => do
    let r ← r.settle
    .ok { r with settings := ← r.settings.setValue value option.setting, used := true }
  | true, none => do
    let r ← r.settle
    .ok { r with pending := .awaiting option.setting }
  | false, some _ => .error .tooManyValues
  | false, none => r.setFlag option.setting

/-- Splits an argument at the first equals sign. -/
def splitEquals (cs : Argument) : Argument × Option Argument :=
  match cs.dropWhile (· != 0x3D) with
  | _ :: value => (cs.takeWhile (· != 0x3D), some value)
  | [] => (cs, none)

def readLong (r : LevelReader) (options : List OptionName) (body : Argument) :
    Except UsageError LevelReader :=
  let (name, attached) := splitEquals body
  match options.find? fun option => Text.encode option.long.toList = name with
  | some option => r.readOption option attached
  | none => .error .unknownArgument

/-- Reads options of one letter that stand together; the first that takes a value takes the rest. -/
def readShort (options : List OptionName) : LevelReader → Argument →
    Except UsageError LevelReader
  | r, [] => .ok r
  | r, b :: rest =>
    match options.find? fun option => option.short.any fun c => c.toNat = b.toNat with
    | none => .error .unknownArgument
    | some option =>
      if option.takesValue then
        match rest with
        | [] => r.readOption option none
        | 0x3D :: value => r.readOption option (some value)
        | value => r.readOption option (some value)
      else do readShort options (← r.setFlag option.setting) rest

/-- Reads an argument that is no option. -/
def readPositional (r : LevelReader) (a : Argument) : Except UsageError LevelReader :=
  match r.pending with
  | .given .paths values => .ok { r with pending := .given .paths (values ++ [a]) }
  | _ => do
    let r ← r.settle
    .ok { r with pending := .given .paths [a] }

def isAwaiting (r : LevelReader) : Bool :=
  match r.pending with
  | .awaiting _ => true
  | _ => false

/-- The reader after an option, `--` or the value of an option; `none` for anything else. -/
def readOptional (r : LevelReader) (options : List OptionName) (a : Argument) :
    Except UsageError (Option LevelReader) :=
  if r.escaped then .ok none
  else
    match a with
    | [0x2D, 0x2D] => .ok (some { r with escaped := true })
    | 0x2D :: 0x2D :: body => (r.readLong options body).map some
    | 0x2D :: b :: body => (readShort options r (b :: body)).map some
    | a =>
      match r.pending with
      | .awaiting setting => .ok (some { r with pending := .given setting [a] })
      | _ => .ok none

end LevelReader

/-- Reads what stands behind a command. Only `check` takes arguments that are no options. -/
def readCommandLevel (name : CommandName) (r : LevelReader) :
    List Argument → Except UsageError Settings
  | [] => do .ok (← r.settle).settings
  | a :: rest => do
    match ← r.readOptional (optionsOf (some name)) a with
    | some r => readCommandLevel name r rest
    | none =>
      if name = .check then readCommandLevel name (← r.readPositional a) rest
      else .error .unknownArgument

/-- A word that may stand in the place of a command. -/
inductive CommandWord
  | command (name : CommandName)
  | help
  deriving DecidableEq, Repr

def commandWord? (a : Argument) : Option CommandWord :=
  match Argument.text? a with
  | some "check" => some (.command .check)
  | some "list" => some (.command .list)
  | some "init" => some (.command .init)
  | some "help" => some .help
  | _ => none

/-- Help is shown for the program or for one command. -/
def helpOn : List Argument → UsageError
  | [] => .displayHelp
  | [a] => if (commandWord? a).isSome then .displayHelp else .invalidSubcommand
  | _ => .invalidSubcommand

/-- Reads the level in front of the command, and then the one behind it. The last value in front is
looked at when everything behind the command has been read. -/
def readTopLevel (r : LevelReader) :
    List Argument → Except UsageError (Settings × CommandName × Settings)
  | [] => do
    let r ← r.settle
    .error (if r.used then .missingSubcommand else .displayHelpOnMissing)
  | a :: rest => do
    match if r.escaped || r.isAwaiting then none else commandWord? a with
    | some .help => .error (helpOn rest)
    | some (.command name) =>
      let behind ← readCommandLevel name .start rest
      .ok ((← r.settle).settings, name, behind)
    | none =>
      match ← r.readOptional (optionsOf none) a with
      | some r => readTopLevel r rest
      | none =>
        .error (if r.escaped && (commandWord? a).isSome then .unknownArgument
          else .invalidSubcommand)

def commandOf (name : CommandName) (s : Settings) : Command :=
  match name with
  | .check => .check {
      paths := if s.paths.isEmpty then [Path.ofString "."] else s.paths
      includeLinters := s.includeLinters
      excludeLinters := s.excludeLinters
      format := s.format.getD .human
      config := s.config
      parallel := s.parallel }
  | .list => .list (s.format.getD .human) s.config
  | .init => .init s.force

/-- Reads the arguments. What is set behind the command takes the place of what is set in front of
it. -/
def parse (arguments : List Argument) : Except UsageError Invocation := do
  let (front, name, behind) ← readTopLevel .start arguments
  .ok ⟨commandOf name behind, (behind.color.or front.color).getD .auto,
    (behind.verbose.or front.verbose).getD 0⟩

end Linting.CommandLine
