import Linting.Runner

/-! Reports for people: a line for each lint, an empty line, and a summary. Parts of a line may be
coloured. -/

namespace Linting

inductive Color
  | red
  | green
  | yellow
  | cyan
  deriving DecidableEq, Repr

/-- The digit of the terminal's code for a colour. -/
def Color.code : Color → String
  | red => "1"
  | green => "2"
  | yellow => "3"
  | cyan => "6"

structure Style where
  color : Color
  bold : Bool
  deriving DecidableEq, Repr

/-- A stretch of text, which may have a style. -/
structure Span where
  style : Option Style
  text : String
  deriving DecidableEq, Repr

namespace Span

def plain (text : String) : Span := ⟨none, text⟩

def colored (color : Color) (text : String) : Span := ⟨some ⟨color, false⟩, text⟩

def bold (color : Color) (text : String) : Span := ⟨some ⟨color, true⟩, text⟩

/-- What clears the terminal's style. -/
def reset : String := "\x1b[0m"

/-- What sets the terminal's style. -/
def opening (style : Style) : String :=
  reset ++ (if style.bold then "\x1b[1m" else "") ++ "\x1b[3" ++ style.color.code ++ "m"

def render (useColor : Bool) (span : Span) : String :=
  match span.style with
  | some style =>
    if useColor then opening style ++ span.text ++ reset else span.text
  | none => span.text

def renderAll (useColor : Bool) (spans : List Span) : String :=
  String.join (spans.map (render useColor))

end Span

def Severity.color : Severity → Color
  | warning => .yellow
  | error => .red

namespace Lint

/-- The file and the place in it. -/
def position (l : Lint) : String := s!"{l.file.display}:{l.location.text}"

/-- The line of a lint. -/
def spans (l : Lint) : List Span := [
  .colored .cyan l.position,
  .plain " ",
  .colored l.severity.color s!"[{l.severity.short}]",
  .plain " ",
  .colored .green l.linter.text,
  .plain s!": {l.message}\n"]

end Lint

namespace Report

def summarySpans (r : Report) : List Span :=
  if r.isClean then
    [.colored .green "No lints found", .plain s!" in {r.filesChecked} file(s).\n"]
  else
    [.bold .red s!"{r.lints.length} lint(s)",
      .plain s!" found in {r.filesChecked} file(s) by {r.lintersRun} linter(s).\n"]

def spans (r : Report) : List Span :=
  r.lints.flatMap Lint.spans ++ (if r.isClean then [] else [.plain "\n"]) ++ r.summarySpans

def human (r : Report) (useColor : Bool) : String := Span.renderAll useColor r.spans

end Report

namespace LinterError

def traceText (frames : List String) : String :=
  if frames.isEmpty then ""
  else "backtrace:\n" ++ String.join (frames.map fun frame => s!"    {frame}\n")

/-- The error, the calls that led to it, and what to do about it. -/
def spans (e : LinterError) : List Span := [
  .bold .red "error",
  .plain s!": {e.message}\n",
  .plain (traceText e.failure.backtrace.frames),
  .plain (s!"This is a bug in the {e.linter.text} linter. Exclude it with " ++
    s!"`--exclude-linter {e.linter.text}` to continue.\n")]

def human (e : LinterError) (useColor : Bool) : String := Span.renderAll useColor e.spans

end LinterError

end Linting
