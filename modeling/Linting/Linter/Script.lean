import Linting.Linter

/-! Linters that play a script, for trying out a runner without rules of any kind. -/

namespace Linting

/-- What a scripted linter does. -/
inductive ScriptAction
  | report (location : Location) (message : String) (severity : Severity)
  | fail (failure : Failure)
  | panic (payload : Payload)
  deriving DecidableEq, Repr

/-- An action, which may be for files only whose path holds some text. -/
structure ScriptRule where
  onlyIf : Option String
  action : ScriptAction
  deriving DecidableEq, Repr

namespace Script

/-- Whether a text holds a word. -/
def holds (word : List Char) : List Char → Bool
  | [] => word.isEmpty
  | c :: rest => word.isPrefixOf (c :: rest) || holds word rest

def applies (r : ScriptRule) (file : Path) : Bool :=
  r.onlyIf.all fun word => holds word.toList file.display.toList

/-- Plays the rules in order, up to one that fails or panics. -/
def play (d : Document) (name : LinterName) (found : List Lint) : List ScriptRule → Outcome
  | [] => .reported found
  | rule :: rest =>
    if applies rule d.path then
      match rule.action with
      | .report location message severity =>
        play d name (found ++ [d.lint name location severity message]) rest
      | .fail failure => .failed failure
      | .panic payload => .panicked payload "script"
    else play d name found rest

def linter (rules : List ScriptRule) (name : LinterName) : Linter := fun d => play d name [] rules

end Script

end Linting
