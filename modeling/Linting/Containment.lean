import Linting.Linter

/-! Containing panics. While a linter's call is guarded, the panic hook keeps the trace of a panic
in a slot of the thread, and the guard turns the panic into a failure that carries this trace. The
hook runs for the whole process and the program around the linters may put its own in its place;
then a guarded panic leaves no trace, the guard takes one where it stands, and from then on the hook
counts as lost, so that the next guarded call installs it again on top. -/

namespace Linting.Containment

/-- A panic hook: one of the host program's, or the recording one on top of another. -/
inductive Hook
  | host (id : Nat)
  | recording (previous : Hook)
  deriving DecidableEq, Repr

/-- What the process shares: the hook, and whether the recording one is believed to be on top. -/
structure Process where
  hook : Hook
  installed : Bool
  deriving DecidableEq, Repr

/-- What a thread keeps: whether a call is guarded, and the trace of the last panic in it. -/
structure Thread (τ : Type) where
  guarded : Bool
  trace : Option τ
  deriving DecidableEq, Repr

/-- One thread in a process, and the host's hooks that have run, the latest first. -/
structure World (τ : Type) where
  process : Process
  thread : Thread τ
  hostRuns : List Nat
  deriving DecidableEq, Repr

/-- Puts the recording hook on top unless it is believed to be there. -/
def Process.install (p : Process) : Process :=
  if p.installed then p else ⟨.recording p.hook, true⟩

def Process.forget (p : Process) : Process := { p with installed := false }

/-- The host puts a hook of its own in place of whatever is installed. -/
def Process.replaceHook (p : Process) (id : Nat) : Process := { p with hook := .host id }

/-- The host's hook that a panic reaches; none when the recording hook keeps it. -/
def Hook.reached (guarded : Bool) : Hook → Option Nat
  | host id => some id
  | recording previous => if guarded then none else previous.reached guarded

variable {τ α : Type}

/-- A panic with a trace: the installed hook runs. -/
def World.panic (w : World τ) (trace : τ) : World τ :=
  match w.process.hook.reached w.thread.guarded with
  | none => { w with thread := { w.thread with trace := some trace } }
  | some id => { w with hostRuns := id :: w.hostRuns }

/-- How guarded code ends. -/
inductive Ending (τ α : Type)
  | ok (value : α)
  | err (failure : Failure)
  | panic (payload : Payload) (trace : τ)

/-- What guarded code may do: panic and catch that itself, make a guarded call of its own, let the
host replace the hook, and end. -/
inductive Body (τ α : Type)
  | finish (ending : Ending τ α)
  | swallow (trace : τ) (rest : Body τ α)
  | nested (inner rest : Body τ α)
  | replaceHook (id : Nat) (rest : Body τ α)

/-- Where a failure's trace was taken: at the panic, or where the guard caught it. -/
inductive Trace (τ : Type)
  | recorded (trace : τ)
  | fallback
  deriving DecidableEq, Repr

/-- What a guard gives back: the call's own value or failure, or what became of its panic. -/
inductive Guarded (τ α : Type)
  | ok (value : α)
  | err (failure : Failure)
  | panicked (payload : Payload) (trace : Trace τ)

/-- Entering a guarded call: the hook is seen to and the thread is marked. -/
def World.enter (w : World τ) : World τ :=
  { w with process := w.process.install, thread := { w.thread with guarded := true } }

/-- Leaving a guarded call, which restores the mark and, after a panic, empties the slot. -/
def World.leave (w : World τ) (wasGuarded : Bool) (ending : Ending τ α) :
    World τ × Guarded τ α :=
  let w := { w with thread := { w.thread with guarded := wasGuarded } }
  match ending with
  | .ok value => (w, .ok value)
  | .err failure => (w, .err failure)
  | .panic payload _ =>
    match w.thread.trace with
    | some trace =>
      ({ w with thread := { w.thread with trace := none } }, .panicked payload (.recorded trace))
    | none => ({ w with process := w.process.forget }, .panicked payload .fallback)

/-- Runs guarded code to its end; a panic that ends it has called the hook. -/
def Body.run : Body τ α → World τ → World τ × Ending τ α
  | finish (.panic payload trace), w => (w.panic trace, .panic payload trace)
  | finish ending, w => (w, ending)
  | swallow trace rest, w => rest.run (w.panic trace)
  | nested inner rest, w =>
    let (after, ending) := inner.run w.enter
    rest.run (after.leave w.thread.guarded ending).1
  | replaceHook id rest, w => rest.run { w with process := w.process.replaceHook id }

/-- A guarded call. -/
def guard (body : Body τ α) (w : World τ) : World τ × Guarded τ α :=
  let (after, ending) := body.run w.enter
  after.leave w.thread.guarded ending

/-- A thread that has made no guarded call, in a process with the host's first hook. -/
def World.fresh : World τ := ⟨⟨.host 0, false⟩, ⟨false, none⟩, []⟩

end Linting.Containment

namespace Linting

open Containment

/-- A linter's call as guarded code; a panic's trace is its site. -/
def Outcome.body : Outcome → Body String (List Lint)
  | reported lints => .finish (.ok lints)
  | failed failure => .finish (.err failure)
  | panicked payload site => .finish (.panic payload site)

/-- The failure that stands for a contained panic. -/
def Failure.ofPanic (payload : Payload) : Trace String → Failure
  | .recorded site => .capture ("panicked: " ++ payload.message) site
  | .fallback => .capture ("panicked: " ++ payload.message) "guard"

/-- What the runner makes of a linter's call. -/
def Outcome.contain (outcome : Outcome) : Except Failure (List Lint) :=
  match (guard outcome.body .fresh).2 with
  | .ok lints => .ok lints
  | .err failure => .error failure
  | .panicked payload trace => .error (.ofPanic payload trace)

theorem contain_reported (lints : List Lint) : (Outcome.reported lints).contain = .ok lints := rfl

theorem contain_failed (failure : Failure) : (Outcome.failed failure).contain = .error failure :=
  rfl

theorem contain_panicked (payload : Payload) (site : String) :
    (Outcome.panicked payload site).contain =
      .error (.capture ("panicked: " ++ payload.message) site) := rfl

end Linting
