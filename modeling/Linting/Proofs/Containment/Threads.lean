import Linting.Proofs.Containment.Guarding
import Mathlib.Logic.Function.Basic

/-! Guarded calls on any number of threads. The threads of a process share its hook and what is
believed of it, so what a guard does is taken apart into the steps between which other threads may
make theirs. A thread whose steps nobody comes between does what `guard` says. -/

namespace Linting.Containment

variable {τ α : Type}

/-- How far a thread has come: its code runs, or the code of its innermost guarded call has ended
and the guard looks at the slot, takes back the belief in the hook, and returns. -/
inductive Phase (τ α : Type)
  | running
  | closing (ending : Ending τ α)
  | forgetting (payload : Payload)
  | leaving (result : Guarded τ α)

/-- Where a thread stands. The marks are what its open guarded calls found, the innermost first. -/
structure Control (τ α : Type) where
  marks : List Bool
  phase : Phase τ α

/-- A step of one thread. A panic outside of guarded calls is dealt with by the host; one in a
guarded call ends its code. -/
inductive Move (τ α : Type)
  | enter
  | panic (trace : τ)
  | finish (ending : Ending τ α)
  | inspect
  | forget
  | leave

/-- The guard after its code: it restores the mark, and after a panic it takes the trace. -/
def World.inspect (w : World τ) (was : Bool) (ending : Ending τ α) : World τ × Phase τ α :=
  let w := { w with thread := { w.thread with guarded := was } }
  match ending with
  | .ok value => (w, .leaving (.ok value))
  | .err failure => (w, .leaving (.err failure))
  | .panic payload _ =>
    match w.thread.trace with
    | some trace =>
      ({ w with thread := { w.thread with trace := none } },
        .leaving (.panicked payload (.recorded trace)))
    | none => (w, .forgetting payload)

/-- What a step does to the world as its thread sees it. -/
def Move.act? : Move τ α → World τ → Control τ α → Option (World τ × Control τ α)
  | enter, w, ⟨marks, .running⟩ => some (w.enter, ⟨w.thread.guarded :: marks, .running⟩)
  | panic trace, w, ⟨[], .running⟩ => some (w.panic trace, ⟨[], .running⟩)
  | finish ending, w, ⟨was :: marks, .running⟩ =>
    some (w.settle ending, ⟨was :: marks, .closing ending⟩)
  | inspect, w, ⟨was :: marks, .closing ending⟩ =>
    some ((w.inspect was ending).1, ⟨marks, (w.inspect was ending).2⟩)
  | forget, w, ⟨marks, .forgetting payload⟩ =>
    some ({ w with process := w.process.forget },
      ⟨marks, .leaving (.panicked payload .fallback)⟩)
  | leave, w, ⟨marks, .leaving _⟩ => some (w, ⟨marks, .running⟩)
  | _, _, _ => none

/-- All that a step can be. -/
inductive Move.Acts (w : World τ) :
    Move τ α → Control τ α → World τ → Control τ α → Prop
  | enter {marks : List Bool} :
      Acts w .enter ⟨marks, .running⟩ w.enter ⟨w.thread.guarded :: marks, .running⟩
  | panic {trace : τ} : Acts w (.panic trace) ⟨[], .running⟩ (w.panic trace) ⟨[], .running⟩
  | finish {ending : Ending τ α} {was : Bool} {marks : List Bool} :
      Acts w (.finish ending) ⟨was :: marks, .running⟩ (w.settle ending)
        ⟨was :: marks, .closing ending⟩
  | inspect {ending : Ending τ α} {was : Bool} {marks : List Bool} :
      Acts w .inspect ⟨was :: marks, .closing ending⟩ (w.inspect was ending).1
        ⟨marks, (w.inspect was ending).2⟩
  | forget {payload : Payload} {marks : List Bool} :
      Acts w .forget ⟨marks, .forgetting payload⟩ { w with process := w.process.forget }
        ⟨marks, .leaving (.panicked payload .fallback)⟩
  | leave {result : Guarded τ α} {marks : List Bool} :
      Acts w .leave ⟨marks, .leaving result⟩ w ⟨marks, .running⟩

theorem Move.acts_of_act? {m : Move τ α} {w w' : World τ} {c c' : Control τ α}
    (h : m.act? w c = some (w', c')) : m.Acts w c w' c' := by
  unfold Move.act? at h
  split at h <;> cases h
  · exact .enter
  · exact .panic
  · exact .finish
  · exact .inspect
  · exact .forget
  · exact .leave

structure Worker (τ α : Type) where
  thread : Thread τ
  control : Control τ α

/-- A process with its threads, and the host's hooks that have run, the latest first. -/
structure System (τ α : Type) where
  process : Process
  hostRuns : List Nat
  workers : Nat → Worker τ α

/-- A step of the host, which replaces the hook, or of a thread. -/
inductive Action (τ α : Type)
  | replaceHook (id : Nat)
  | move (worker : Nat) (m : Move τ α)

namespace System

/-- Threads that have made no guarded calls, in a process with the host's first hook. -/
def start : System τ α := ⟨⟨.host 0, false⟩, [], fun _ => ⟨⟨false, none⟩, ⟨[], .running⟩⟩⟩

/-- The world of one thread. -/
def world (s : System τ α) (i : Nat) : World τ := ⟨s.process, (s.workers i).thread, s.hostRuns⟩

def put (s : System τ α) (i : Nat) (w : World τ) (c : Control τ α) : System τ α :=
  ⟨w.process, w.hostRuns, Function.update s.workers i ⟨w.thread, c⟩⟩

def step? (s : System τ α) : Action τ α → Option (System τ α)
  | .replaceHook id => some { s with process := s.process.replaceHook id }
  | .move i m => (m.act? (s.world i) (s.workers i).control).map fun (w, c) => s.put i w c

def run? (s : System τ α) : List (Action τ α) → Option (System τ α)
  | [] => some s
  | a :: rest => (s.step? a).bind fun next => next.run? rest

@[simp] theorem world_put (s : System τ α) (i : Nat) (w : World τ) (c : Control τ α) :
    (s.put i w c).world i = w := by
  simp [world, put]

@[simp] theorem workers_put_self (s : System τ α) (i : Nat) (w : World τ) (c : Control τ α) :
    (s.put i w c).workers i = ⟨w.thread, c⟩ := by
  simp [put]

theorem workers_put_of_ne (s : System τ α) {i j : Nat} (h : j ≠ i) (w : World τ)
    (c : Control τ α) : (s.put i w c).workers j = s.workers j :=
  Function.update_of_ne h _ _

@[simp] theorem put_put (s : System τ α) (i : Nat) (v w : World τ) (c d : Control τ α) :
    (s.put i v c).put i w d = s.put i w d := by
  simp [put]

theorem put_same {s : System τ α} {i : Nat} {c : Control τ α} (h : (s.workers i).control = c)
    (p : Process) (hostRuns : List Nat) :
    s.put i ⟨p, (s.workers i).thread, hostRuns⟩ c = ⟨p, hostRuns, s.workers⟩ := by
  subst h
  simp [put]

theorem run?_append (s : System τ α) (first rest : List (Action τ α)) :
    s.run? (first ++ rest) = (s.run? first).bind fun next => next.run? rest := by
  induction first generalizing s with
  | nil => rfl
  | cons a first ih =>
    rw [List.cons_append, run?, run?, Option.bind_assoc]
    exact congrArg (Option.bind (s.step? a)) (funext fun next => ih next)

theorem run?_singleton (s : System τ α) (a : Action τ α) : s.run? [a] = s.step? a := by
  rw [run?]
  cases s.step? a <;> rfl

theorem step?_move_eq_some_iff {s s' : System τ α} {i : Nat} {m : Move τ α} :
    s.step? (.move i m) = some s' ↔
      ∃ w c, m.act? (s.world i) (s.workers i).control = some (w, c) ∧ s.put i w c = s' := by
  simp [step?]

end System

@[simp] theorem settle_process (w : World τ) (ending : Ending τ α) :
    (w.settle ending).process = w.process := by
  cases ending <;> simp [World.settle]

@[simp] theorem inspect_process (w : World τ) (was : Bool) (ending : Ending τ α) :
    (w.inspect was ending).1.process = w.process := by
  cases ending with
  | ok value => rfl
  | err failure => rfl
  | panic payload trace =>
    unfold World.inspect
    dsimp only
    cases w.thread.trace <;> rfl

/-! ### One thread by itself -/

/-- Code whose panics all reach a guard. -/
inductive Body.Escapes : Body τ α → Prop
  | finish (ending : Ending τ α) : Escapes (.finish ending)
  | nested {inner rest : Body τ α} (h : Escapes inner) (h' : Escapes rest) :
      Escapes (.nested inner rest)
  | replaceHook {rest : Body τ α} (id : Nat) (h : Escapes rest) : Escapes (.replaceHook id rest)

/-- A step of the thread, or one that its code makes as the host. -/
def Action.IsOf (i : Nat) : Action τ α → Prop
  | replaceHook _ => True
  | move j _ => j = i

/-- What the guard does about an ending, made in steps. -/
theorem leave_eq_inspect (w : World τ) (was : Bool) (ending : Ending τ α) :
    (∃ payload, (w.inspect was ending).2 = .forgetting payload ∧
      w.leave was ending =
        ({ (w.inspect was ending).1 with process := (w.inspect was ending).1.process.forget },
          .panicked payload .fallback)) ∨
    (w.inspect was ending).2 = .leaving (w.leave was ending).2 ∧
      (w.inspect was ending).1 = (w.leave was ending).1 := by
  cases ending with
  | ok value => exact .inr ⟨rfl, rfl⟩
  | err failure => exact .inr ⟨rfl, rfl⟩
  | panic payload trace =>
    unfold World.inspect World.leave
    dsimp only
    cases w.thread.trace with
    | none => exact .inl ⟨payload, rfl, rfl⟩
    | some found => exact .inr ⟨rfl, rfl⟩

namespace System

/-- The steps of thread `i` alone lead from one state to another. -/
def Alone (i : Nat) (s s' : System τ α) : Prop :=
  ∃ actions, (∀ a ∈ actions, a.IsOf i) ∧ s.run? actions = some s'

variable {s s' s'' : System τ α} {i : Nat}

theorem Alone.step {a : Action τ α} (own : a.IsOf i) (h : s.step? a = some s') : s.Alone i s' :=
  ⟨[a], fun _ hb => List.mem_singleton.mp hb ▸ own, by rw [run?_singleton, h]⟩

theorem Alone.trans (h : s.Alone i s') (h' : s'.Alone i s'') : s.Alone i s'' := by
  obtain ⟨first, own, run⟩ := h
  obtain ⟨rest, own', run'⟩ := h'
  refine ⟨first ++ rest, ?_, by rw [run?_append, run, Option.bind_some, run']⟩
  intro a ha
  exact (List.mem_append.mp ha).elim (own a) (own' a)

theorem Alone.put {m : Move τ α} {w w' : World τ} {c c' : Control τ α}
    (h : m.act? w c = some (w', c')) : (s.put i w c).Alone i (s.put i w' c') := by
  have own : (Action.move i m).IsOf i := rfl
  exact .step own (step?_move_eq_some_iff.mpr ⟨w', c', by simpa using h, put_put s i w w' c c'⟩)

/-- From the end of the code to the end of the guard. -/
theorem alone_leave (s : System τ α) (i : Nat) (w : World τ) (was : Bool) (marks : List Bool)
    (ending : Ending τ α) :
    (s.put i w ⟨was :: marks, .closing ending⟩).Alone i
      (s.put i (w.leave was ending).1 ⟨marks, .leaving (w.leave was ending).2⟩) := by
  have inspected : (s.put i w ⟨was :: marks, .closing ending⟩).Alone i
      (s.put i (w.inspect was ending).1 ⟨marks, (w.inspect was ending).2⟩) := .put (m := .inspect) rfl
  rcases leave_eq_inspect w was ending with ⟨payload, phase, left⟩ | ⟨phase, left⟩
  · rw [left]
    rw [phase] at inspected
    exact inspected.trans (.put (m := .forget) rfl)
  · rwa [phase, left] at inspected

/-- A guarded call, up to the return from its guard. -/
theorem alone_guard {b : Body τ α} {w : World τ} {marks : List Bool}
    (body : (s.put i w.enter ⟨w.thread.guarded :: marks, .running⟩).Alone i
      (s.put i (b.run w.enter).1 ⟨w.thread.guarded :: marks, .closing (b.run w.enter).2⟩)) :
    (s.put i w ⟨marks, .running⟩).Alone i
      (s.put i (guard b w).1 ⟨marks, .leaving (guard b w).2⟩) := by
  have entered : (s.put i w ⟨marks, .running⟩).Alone i
      (s.put i w.enter ⟨w.thread.guarded :: marks, .running⟩) := .put (m := .enter) rfl
  exact (entered.trans body).trans (alone_leave s i _ _ marks _)

theorem alone_body {b : Body τ α} (h : b.Escapes) (w : World τ) (was : Bool) (marks : List Bool) :
    (s.put i w ⟨was :: marks, .running⟩).Alone i
      (s.put i (b.run w).1 ⟨was :: marks, .closing (b.run w).2⟩) := by
  -- a nested call opens a mark on top of those of the code around it, and closes it again
  induction h generalizing w was marks with
  | finish ending =>
    have run : (Body.finish ending).run w = (w.settle ending, ending) := by cases ending <;> rfl
    rw [run]
    exact .put (m := .finish ending) rfl
  | @nested inner rest _ _ ihi ih =>
    have call := alone_guard (ihi w.enter w.thread.guarded (was :: marks))
    have returned : (s.put i (guard inner w).1 ⟨was :: marks, .leaving (guard inner w).2⟩).Alone i
        (s.put i (guard inner w).1 ⟨was :: marks, .running⟩) := .put (m := .leave) rfl
    exact (call.trans returned).trans (ih (guard inner w).1 was marks)
  | @replaceHook rest id _ ih =>
    have replaced : (s.put i w ⟨was :: marks, .running⟩).step? (.replaceHook id) =
        some (s.put i { w with process := w.process.replaceHook id } ⟨was :: marks, .running⟩) :=
      rfl
    have own : (Action.replaceHook id : Action τ α).IsOf i := trivial
    exact (Alone.step own replaced).trans (ih _ was marks)

/-- A thread whose steps nobody comes between does what `guard` says: it comes to return what the
guard gives back, in the world that the guard leaves behind, and no other thread has changed. -/
theorem alone_guard_of_escapes {b : Body τ α} (h : b.Escapes) {marks : List Bool}
    (control : (s.workers i).control = ⟨marks, .running⟩) :
    s.Alone i (s.put i (guard b (s.world i)).1 ⟨marks, .leaving (guard b (s.world i)).2⟩) := by
  have here : s.put i (s.world i) ⟨marks, .running⟩ = s := put_same control s.process s.hostRuns
  have call := alone_guard (s := s) (i := i) (alone_body h (s.world i).enter _ marks)
  rwa [here] at call

end System

end Linting.Containment
