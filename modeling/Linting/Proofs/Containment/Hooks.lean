import Linting.Proofs.Containment.Threads

/-! The chain of hooks that threads build. However often they put the recording hook on top of
itself, at the bottom of the chain stands the host's hook, and a panic outside of guarded calls
falls through to it. Once a guard has taken back the belief in the recording hook, the belief is
right again until the host replaces that hook. -/

namespace Linting.Containment

variable {τ α : Type}

/-- The host's hook that all recording hooks stand on. -/
def Hook.bottom : Hook → Nat
  | host id => id
  | recording previous => previous.bottom

theorem Hook.reached_unguarded (hook : Hook) : hook.reached false = some hook.bottom := by
  induction hook with
  | host id => rfl
  | recording previous ih => exact ih

theorem Process.install_bottom (p : Process) : p.install.hook.bottom = p.hook.bottom := by
  unfold install
  split <;> rfl

/-- The recording hook is on top if it is believed to be. -/
def Process.Believed (p : Process) : Prop := p.installed = true → p.hook.isRecording = true

theorem Process.Believed.install {p : Process} (h : p.Believed) :
    p.install.hook.isRecording = true := by
  unfold Process.install
  split
  · rename_i installed
    exact h installed
  · rfl

/-- Outside of guarded calls a panic falls through to the host's hook. -/
theorem panic_unguarded {w : World τ} (h : w.thread.guarded = false) (trace : τ) :
    w.panic trace = { w with hostRuns := w.process.hook.bottom :: w.hostRuns } := by
  simp only [World.panic, h, Hook.reached_unguarded]

theorem panic_recorded {w : World τ} (h : w.records = true) (trace : τ) :
    w.panic trace = { w with thread := { w.thread with trace := some trace } } := by
  simp only [World.panic, Option.isNone_iff_eq_none.mp h]

/-- With a hook of the host on top no panic leaves a trace. -/
theorem panic_thread_of_not_isRecording {w : World τ} (h : w.process.hook.isRecording = false)
    (trace : τ) : (w.panic trace).thread = w.thread := by
  cases on : w.process.hook with
  | host id => simp only [World.panic, on, Hook.reached]
  | recording previous =>
    rw [on] at h
    cases h

/-- A thread is marked exactly if it has open guarded calls. -/
inductive Marked : Bool → List Bool → Prop
  | outside : Marked false []
  | inside {was : Bool} {marks : List Bool} (h : Marked was marks) : Marked true (was :: marks)

theorem Marked.unguarded {guarded : Bool} (h : Marked guarded []) : guarded = false := by
  cases h
  rfl

theorem Marked.guarded {guarded was : Bool} {marks : List Bool}
    (h : Marked guarded (was :: marks)) : guarded = true := by
  cases h
  rfl

theorem Marked.around {guarded was : Bool} {marks : List Bool} (h : Marked guarded (was :: marks)) :
    Marked was marks := by
  cases h with
  | inside h => exact h

/-- A thread that fits where it stands. Since a panic in a guarded call reaches its guard, the slot
is filled only between the two. -/
structure Control.Fits (c : Control τ α) (t : Thread τ) : Prop where
  marked : Marked t.guarded c.marks
  slot : (∀ payload own, c.phase ≠ .closing (.panic payload own)) → t.trace = none

/-- A panic of a guarded call has left no trace, and its guard has not taken back the belief in the
hook yet. -/
def Control.OwesForget (c : Control τ α) (t : Thread τ) : Prop :=
  t.trace = none ∧
    ∃ payload, (∃ own, c.phase = .closing (.panic payload own)) ∨ c.phase = .forgetting payload

theorem inspect_guarded (w : World τ) (was : Bool) (ending : Ending τ α) :
    (w.inspect was ending).1.thread.guarded = was := by
  cases ending with
  | ok value => rfl
  | err failure => rfl
  | panic payload trace =>
    unfold World.inspect
    dsimp only
    cases w.thread.trace <;> rfl

theorem inspect_panic_slot (w : World τ) (was : Bool) (payload : Payload) (trace : τ) :
    (w.inspect was (.panic payload trace : Ending τ α)).1.thread.trace = none := by
  unfold World.inspect
  dsimp only
  cases w.thread.trace <;> rfl

theorem inspect_panic_of_empty {w : World τ} (h : w.thread.trace = none) (was : Bool)
    (payload : Payload) (trace : τ) :
    (w.inspect was (.panic payload trace : Ending τ α)).2 = .forgetting payload := by
  unfold World.inspect
  simp only [h]

namespace Move.Acts

variable {m : Move τ α} {w w' : World τ} {c c' : Control τ α}

theorem bottom_eq (h : m.Acts w c w' c') : w'.process.hook.bottom = w.process.hook.bottom := by
  cases h with
  | enter => exact w.process.install_bottom
  | panic => rw [panic_process]
  | finish => rw [settle_process]
  | inspect => rw [inspect_process]
  | forget => rfl
  | leave => rfl

theorem believed (h : m.Acts w c w' c') (belief : w.process.Believed) : w'.process.Believed := by
  cases h with
  | enter => exact fun _ => belief.install
  | panic => rwa [panic_process]
  | finish => rwa [settle_process]
  | inspect => rwa [inspect_process]
  | forget => exact fun installed => by cases installed
  | leave => exact belief

theorem fits (h : m.Acts w c w' c') (fits : c.Fits w.thread) : c'.Fits w'.thread := by
  obtain ⟨marked, slot⟩ := fits
  cases h with
  | enter => exact ⟨.inside marked, fun _ => slot (by simp)⟩
  | panic =>
    rw [panic_unguarded marked.unguarded]
    exact ⟨marked, slot⟩
  | @finish ending was marks =>
    refine ⟨by rwa [settle_guarded], fun quiet => ?_⟩
    have empty : w.thread.trace = none := slot (by simp)
    cases ending with
    | ok value => exact empty
    | err failure => exact empty
    | panic payload trace => exact absurd rfl (quiet payload trace)
  | @inspect ending was marks =>
    refine ⟨?_, fun _ => ?_⟩
    · rw [inspect_guarded]
      exact marked.around
    · cases ending with
      | ok value => exact slot (by simp)
      | err failure => exact slot (by simp)
      | panic payload trace => exact inspect_panic_slot w was payload trace
  | forget => exact ⟨marked, fun _ => slot (by simp)⟩
  | leave => exact ⟨marked, fun _ => slot (by simp)⟩

/-- A thread that owes to forget the hook does that before its guard returns. -/
theorem owesForget (h : m.Acts w c w' c') (owes : c.OwesForget w.thread) :
    m = .forget ∨ m ≠ .leave ∧ c'.OwesForget w'.thread := by
  obtain ⟨empty, payload, phase⟩ := owes
  cases h with
  | forget => exact .inl rfl
  | @inspect ending was marks =>
    obtain ⟨own, rfl⟩ : ∃ own, ending = .panic payload own := by simpa using phase
    exact .inr ⟨by simp, inspect_panic_slot w was payload own, payload,
      .inr (inspect_panic_of_empty empty was payload own)⟩
  | _ => simp at phase

end Move.Acts

namespace System

variable {s s' : System τ α} {actions : List (Action τ α)}

/-- What every step keeps, a run keeps. -/
theorem run?_induction {P : System τ α → Prop}
    (step : ∀ s a s', P s → s.step? a = some s' → P s') (start : P s)
    (run : s.run? actions = some s') : P s' := by
  induction actions generalizing s with
  | nil =>
    cases run
    exact start
  | cons a rest ih =>
    obtain ⟨next, here, run⟩ := Option.bind_eq_some_iff.mp run
    exact ih (step s a next start here) run

/-- Every thread fits where it stands. -/
def Fits (s : System τ α) : Prop := ∀ i, (s.workers i).control.Fits (s.workers i).thread

theorem fits_start : (start : System τ α).Fits := fun _ => ⟨.outside, fun _ => rfl⟩

theorem Fits.step {a : Action τ α} (fits : s.Fits) (h : s.step? a = some s') : s'.Fits := by
  cases a with
  | replaceHook id =>
    cases h
    exact fits
  | move i m =>
    obtain ⟨w, c, act, rfl⟩ := step?_move_eq_some_iff.mp h
    intro j
    by_cases own : j = i
    · subst own
      rw [workers_put_self]
      exact (Move.acts_of_act? act).fits (fits j)
    · rw [workers_put_of_ne s own]
      exact fits j

/-- The host's hook that was installed last. -/
def lastHook (first : Nat) : List (Action τ α) → Nat
  | [] => first
  | .replaceHook id :: rest => lastHook id rest
  | .move _ _ :: rest => lastHook first rest

theorem bottom_of_run? (run : s.run? actions = some s') :
    s'.process.hook.bottom = lastHook s.process.hook.bottom actions := by
  induction actions generalizing s with
  | nil =>
    cases run
    rfl
  | cons a rest ih =>
    obtain ⟨next, here, run⟩ := Option.bind_eq_some_iff.mp run
    cases a with
    | replaceHook id =>
      cases here
      exact ih run
    | move i m =>
      obtain ⟨w, c, act, rfl⟩ := step?_move_eq_some_iff.mp here
      rw [ih run]
      exact congrArg (lastHook · rest) (Move.acts_of_act? act).bottom_eq

/-- The host does not replace the recording hook. Replacing a hook of its own is nothing to it. -/
def Keeps (s : System τ α) : List (Action τ α) → Prop
  | [] => True
  | a :: rest =>
    (∀ id, a = .replaceHook id → s.process.hook.isRecording = false) ∧
      ∀ next, s.step? a = some next → next.Keeps rest

theorem believed_of_keeps (keeps : s.Keeps actions) (belief : s.process.Believed)
    (run : s.run? actions = some s') : s'.process.Believed := by
  induction actions generalizing s with
  | nil =>
    cases run
    exact belief
  | cons a rest ih =>
    obtain ⟨next, here, run⟩ := Option.bind_eq_some_iff.mp run
    refine ih (keeps.2 next here) ?_ run
    cases a with
    | replaceHook id =>
      cases here
      intro installed
      -- a hook of the host on top is not believed to be the recording one
      cases (keeps.1 id rfl).symm.trans (belief installed)
    | move i m =>
      obtain ⟨w, c, act, rfl⟩ := step?_move_eq_some_iff.mp here
      exact (Move.acts_of_act? act).believed belief

theorem keeps_of_forall_ne (h : ∀ id, .replaceHook id ∉ actions) : s.Keeps actions := by
  induction actions generalizing s with
  | nil => trivial
  | cons a rest ih =>
    refine ⟨fun id here => absurd (here ▸ List.mem_cons_self) (h id), fun next _ => ih fun id => ?_⟩
    exact fun later => h id (List.mem_cons_of_mem a later)

theorem isRecording_of_enter {j : Nat} (belief : s.process.Believed)
    (h : s.step? (.move j .enter) = some s') : s'.process.hook.isRecording = true := by
  obtain ⟨w, c, act, rfl⟩ := step?_move_eq_some_iff.mp h
  generalize (s.workers j).control = control at act
  cases Move.acts_of_act? act with
  | enter => exact belief.install

theorem believed_of_forget {i : Nat} (h : s.step? (.move i .forget) = some s') :
    s'.process.Believed := by
  obtain ⟨w, c, act, rfl⟩ := step?_move_eq_some_iff.mp h
  generalize (s.workers i).control = control at act
  cases Move.acts_of_act? act with
  | forget => exact fun installed => by cases installed

theorem exists_forget_of_leave {i : Nat}
    (owes : (s.workers i).control.OwesForget (s.workers i).thread)
    (run : s.run? actions = some s') (left : .move i .leave ∈ actions) :
    ∃ before after, actions = before ++ .move i .forget :: after := by
  -- only a `forget` of the thread itself settles what it owes, and it cannot leave before
  induction actions generalizing s with
  | nil => cases left
  | cons a rest ih =>
    obtain ⟨next, here, run⟩ := Option.bind_eq_some_iff.mp run
    have onward (owes : (next.workers i).control.OwesForget (next.workers i).thread)
        (later : .move i .leave ∈ rest) :
        ∃ before after, a :: rest = before ++ .move i .forget :: after := by
      obtain ⟨before, after, rfl⟩ := ih owes run later
      exact ⟨a :: before, after, rfl⟩
    cases a with
    | replaceHook id =>
      cases here
      exact onward owes (by simpa using left)
    | move j m =>
      obtain ⟨w, c, act, rfl⟩ := step?_move_eq_some_iff.mp here
      by_cases own : i = j
      · subst own
        rcases (Move.acts_of_act? act).owesForget owes with rfl | ⟨stays, owes'⟩
        · exact ⟨[], rest, rfl⟩
        · exact onward (by simpa using owes') (by simpa [Ne.symm stays] using left)
      · refine onward ?_ (by simpa [own] using left)
        rwa [workers_put_of_ne s own]

theorem step?_panic_outside {i : Nat} (fits : s.Fits)
    (outside : (s.workers i).control = ⟨[], .running⟩) (trace : τ) :
    s.step? (.move i (.panic trace)) =
      some { s with hostRuns := s.process.hook.bottom :: s.hostRuns } := by
  have marked := (fits i).marked
  rw [outside] at marked
  have guarded : (s.world i).thread.guarded = false := marked.unguarded
  refine step?_move_eq_some_iff.mpr ⟨_, _, by rw [outside]; rfl, ?_⟩
  rw [panic_unguarded guarded]
  exact put_same outside _ _

/-- What a panic in a guarded call leaves behind, before its guard has looked. -/
theorem step?_finish_panic {i : Nat} {payload : Payload} {trace : τ} (fits : s.Fits)
    (h : s.step? (.move i (.finish (.panic payload trace))) = some s') :
    (s.workers i).thread.guarded = true ∧ (s.workers i).thread.trace = none ∧
      ∃ was marks, s' = s.put i ((s.world i).panic trace)
        ⟨was :: marks, .closing (.panic payload trace)⟩ := by
  obtain ⟨w, c, act, rfl⟩ := step?_move_eq_some_iff.mp h
  obtain ⟨marked, slot⟩ := fits i
  generalize (s.workers i).control = control at act marked slot
  cases Move.acts_of_act? act with
  | @finish _ was marks => exact ⟨marked.guarded, slot (by simp), was, marks, rfl⟩

/-- Whatever steps the threads and the host have made, a panic outside of guarded calls runs the
host's hook that was installed last, once, and does nothing else; and one in a guarded call runs no
hook of the host as long as the recording one is on top. When a guarded panic has found a hook of the
host and its guard has returned, the guard has taken back the belief in the recording hook on the
way, and from there on every guarded call starts with the recording hook on top unless the host has
replaced that hook again. -/
theorem hook_transparent {actions : List (Action τ α)} {s : System τ α}
    (reached : start.run? actions = some s) :
    (∀ i trace, (s.workers i).control = ⟨[], .running⟩ →
      s.step? (.move i (.panic trace)) =
        some { s with hostRuns := lastHook 0 actions :: s.hostRuns }) ∧
    (∀ i payload trace caught, s.process.hook.isRecording = true →
      s.step? (.move i (.finish (.panic payload trace))) = some caught →
      caught.hostRuns = s.hostRuns ∧ (caught.workers i).thread.trace = some trace) ∧
    ∀ i payload trace caught later t j u, s.process.hook.isRecording = false →
      s.step? (.move i (.finish (.panic payload trace))) = some caught →
      caught.run? later = some t → .move i .leave ∈ later →
      t.step? (.move j .enter) = some u →
      ∃ before after forgotten, later = before ++ .move i .forget :: after ∧
        caught.run? (before ++ [.move i .forget]) = some forgotten ∧
        (forgotten.Keeps after → u.process.hook.isRecording = true) := by
  have fits : s.Fits := run?_induction (fun _ _ _ fits => fits.step) fits_start reached
  refine ⟨?_, ?_, ?_⟩
  · intro i trace outside
    have bottom : s.process.hook.bottom = lastHook 0 actions := bottom_of_run? reached
    rw [step?_panic_outside fits outside, bottom]
  · intro i payload trace caught recording h
    obtain ⟨guarded, -, was, marks, rfl⟩ := step?_finish_panic fits h
    have records : (s.world i).records = true := World.records_of_isRecording recording guarded
    rw [workers_put_self, panic_recorded records]
    exact ⟨rfl, rfl⟩
  · intro i payload trace caught later t j u foreign h run left entered
    obtain ⟨-, empty, was, marks, rfl⟩ := step?_finish_panic fits h
    -- a hook of the host has run, so the slot is as empty as it was
    have kept := panic_thread_of_not_isRecording (w := s.world i) foreign trace
    have owes : (⟨was :: marks, .closing (.panic payload trace)⟩ : Control τ α).OwesForget
        ((s.world i).panic trace).thread := by
      rw [kept]
      exact ⟨empty, payload, .inl ⟨trace, rfl⟩⟩
    obtain ⟨before, after, rfl⟩ := exists_forget_of_leave (by simpa using owes) run left
    rw [run?_append] at run
    obtain ⟨middle, front, run⟩ := Option.bind_eq_some_iff.mp run
    obtain ⟨forgotten, forgot, run⟩ := Option.bind_eq_some_iff.mp run
    refine ⟨before, after, forgotten, rfl, ?_, fun keeps => ?_⟩
    · rw [run?_append, front, Option.bind_some, run?_singleton, forgot]
    · exact isRecording_of_enter (believed_of_keeps keeps (believed_of_forget forgot) run) entered

/-- Two guarded panics find the host's hook 5, and the second guard takes back a belief that is
right again, so that the recording hook is put on top of itself. -/
theorem hook_transparent_stacked :
    ∃ s caught t u : System Nat Unit,
      start.run? [.move 0 .enter, .move 1 .enter, .replaceHook 5,
        .move 1 (.finish (.panic .other 8))] = some s ∧
      s.step? (.move 0 (.finish (.panic .other 7))) = some caught ∧
      caught.run? [.move 0 .inspect, .move 1 .inspect, .move 0 .forget, .move 0 .leave,
        .move 0 .enter, .move 1 .forget, .move 1 .leave] = some t ∧
      t.step? (.move 1 .enter) = some u ∧ u.process.hook = .recording (.recording (.host 5)) ∧
      u.process.hook.isRecording = true ∧
      s.step? (.move 2 (.panic 9)) = some { s with hostRuns := 5 :: s.hostRuns } := by
  obtain ⟨s, caught, t, u, reached, panicked, later, entered, stacked, foreign, outside⟩ :
      ∃ s caught t u : System Nat Unit,
        start.run? [.move 0 .enter, .move 1 .enter, .replaceHook 5,
          .move 1 (.finish (.panic .other 8))] = some s ∧
        s.step? (.move 0 (.finish (.panic .other 7))) = some caught ∧
        caught.run? [.move 0 .inspect, .move 1 .inspect, .move 0 .forget, .move 0 .leave,
          .move 0 .enter, .move 1 .forget, .move 1 .leave] = some t ∧
        t.step? (.move 1 .enter) = some u ∧ u.process.hook = .recording (.recording (.host 5)) ∧
        s.process.hook.isRecording = false ∧ (s.workers 2).control = ⟨[], .running⟩ :=
    ⟨_, _, _, _, rfl, rfl, rfl, rfl, rfl, rfl, rfl⟩
  refine ⟨s, caught, t, u, reached, panicked, later, entered, stacked, ?_,
    (hook_transparent reached).1 2 9 outside⟩
  obtain ⟨before, after, forgotten, split, -, recovers⟩ :=
    (hook_transparent reached).2.2 0 .other 7 caught _ t 1 u foreign panicked later (by simp) entered
  refine recovers (keeps_of_forall_ne fun id replaced => ?_)
  have inside := List.mem_append_right before (List.mem_cons_of_mem (.move 0 .forget) replaced)
  rw [← split] at inside
  simp at inside

end System

end Linting.Containment
