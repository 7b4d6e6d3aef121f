import Linting.Containment

/-! The guarded calls of a history. A history is a `Body` run by an unguarded thread: its `nested`
parts are the outermost calls. `Body.reach` stops a body where its code ends, before a last panic
calls the hook; the guard does the rest, so what the guard does is read off that world. -/

namespace Linting.Containment

variable {τ α : Type}

/-- Whether the hook would keep the trace of a panic. -/
def World.records (w : World τ) : Bool := (w.process.hook.reached w.thread.guarded).isNone

/-- Where the code of a body ends, and how. -/
def Body.reach : Body τ α → World τ → World τ × Ending τ α
  | finish ending, w => (w, ending)
  | swallow trace rest, w => rest.reach (w.panic trace)
  | nested inner rest, w => rest.reach (guard inner w).1
  | replaceHook id rest, w => rest.reach { w with process := w.process.replaceHook id }

/-- The end of the code as the hook sees it. -/
def World.settle (w : World τ) : Ending τ α → World τ
  | .panic _ trace => w.panic trace
  | _ => w

/-- A guarded call that has returned: whether it was an outermost one, how its code ended, what the
guard gave back, and what was in the slot then. -/
structure GuardedCall (τ α : Type) where
  outermost : Bool
  ending : Ending τ α
  result : Guarded τ α
  slot : Option τ

def GuardedCall.ofGuard (code : Body τ α) (w : World τ) : GuardedCall τ α :=
  ⟨!w.thread.guarded, (code.run w.enter).2, (guard code w).2, (guard code w).1.thread.trace⟩

/-- The guarded calls made, in the order in which they return. -/
def Body.guardedCalls : Body τ α → World τ → List (GuardedCall τ α)
  | finish _, _ => []
  | swallow trace rest, w => rest.guardedCalls (w.panic trace)
  | nested inner rest, w =>
    inner.guardedCalls w.enter ++ .ofGuard inner w :: rest.guardedCalls (guard inner w).1
  | replaceHook id rest, w => rest.guardedCalls { w with process := w.process.replaceHook id }

/-- The traces of all panics of a body. -/
def Body.traces : Body τ α → List τ
  | finish (.panic _ trace) => [trace]
  | finish _ => []
  | swallow trace rest => trace :: rest.traces
  | nested inner rest => inner.traces ++ rest.traces
  | replaceHook _ rest => rest.traces

/-! ### Panics -/

@[simp] theorem panic_process (w : World τ) (trace : τ) : (w.panic trace).process = w.process := by
  unfold World.panic
  split <;> rfl

@[simp] theorem panic_guarded (w : World τ) (trace : τ) :
    (w.panic trace).thread.guarded = w.thread.guarded := by
  unfold World.panic
  split <;> rfl

theorem panic_slot (w : World τ) (trace : τ) :
    (w.panic trace).thread.trace = if w.records then some trace else w.thread.trace := by
  unfold World.panic World.records
  cases w.process.hook.reached w.thread.guarded <;> rfl

@[simp] theorem settle_guarded (w : World τ) (ending : Ending τ α) :
    (w.settle ending).thread.guarded = w.thread.guarded := by
  cases ending <;> simp [World.settle]

/-! ### What a guard does at the end of its code -/

theorem leave_guarded (w : World τ) (was : Bool) (ending : Ending τ α) :
    (w.leave was ending).1.thread.guarded = was := by
  cases ending with
  | ok value => rfl
  | err failure => rfl
  | panic payload trace =>
    unfold World.leave
    dsimp only
    cases w.thread.trace <;> rfl

theorem run_eq_settle_reach (b : Body τ α) (w : World τ) :
    b.run w = ((b.reach w).1.settle (b.reach w).2, (b.reach w).2) := by
  induction b generalizing w with
  | finish ending => cases ending <;> rfl
  | swallow trace rest ih => exact ih (w.panic trace)
  | nested inner rest _ ih => exact ih (guard inner w).1
  | replaceHook id rest ih => exact ih { w with process := w.process.replaceHook id }

theorem guard_eq_leave (b : Body τ α) (w : World τ) :
    guard b w =
      ((b.reach w.enter).1.settle (b.reach w.enter).2).leave w.thread.guarded
        (b.reach w.enter).2 := by
  rw [guard, run_eq_settle_reach]

theorem guard_guarded (b : Body τ α) (w : World τ) :
    (guard b w).1.thread.guarded = w.thread.guarded := by
  rw [guard_eq_leave, leave_guarded]

/-- Whatever guarded code does, the thread is marked as before when it ends. -/
theorem reach_guarded (b : Body τ α) (w : World τ) :
    (b.reach w).1.thread.guarded = w.thread.guarded := by
  induction b generalizing w with
  | finish ending => rfl
  | swallow trace rest ih => exact (ih (w.panic trace)).trans (panic_guarded w trace)
  | nested inner rest _ ih => exact (ih (guard inner w).1).trans (guard_guarded inner w)
  | replaceHook id rest ih => exact ih { w with process := w.process.replaceHook id }

/-- The call that a guard makes of code that ends in `ending` in the world `w`. -/
def GuardedCall.ofEnding (was : Bool) (w : World τ) (ending : Ending τ α) : GuardedCall τ α :=
  ⟨!was, ending, ((w.settle ending).leave was ending).2,
    ((w.settle ending).leave was ending).1.thread.trace⟩

theorem GuardedCall.ofGuard_eq (code : Body τ α) (w : World τ) :
    ofGuard code w =
      ofEnding w.thread.guarded (code.reach w.enter).1 (code.reach w.enter).2 := by
  rw [ofGuard, ofEnding, guard_eq_leave, run_eq_settle_reach]

end Linting.Containment
