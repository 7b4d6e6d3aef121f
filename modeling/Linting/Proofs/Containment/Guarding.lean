import Linting.Proofs.Containment.Traces

/-! What becomes of guarded calls, however they are nested. A guard gives every panic back as a
failure and marks the thread as it found it, so a call inside another one changes nothing for the
call around it. -/

namespace Linting.Containment

variable {τ α : Type}

def Hook.isRecording : Hook → Bool
  | host _ => false
  | recording _ => true

/-- What the caller of a guard sees. -/
def Guarded.toExcept : Guarded String α → Except Failure α
  | ok value => .ok value
  | err failure => .error failure
  | panicked payload trace => .error (.ofPanic payload trace)

/-- A guarded call that a body makes, at a depth below the calls of the body itself, with the world
in which it is made. Calls that follow a call start in the world that its guard leaves behind. -/
inductive Body.Calls : Body τ α → World τ → Nat → Body τ α → World τ → Prop
  | here {code rest : Body τ α} {w : World τ} : Calls (.nested code rest) w 0 code w
  | inside {inner rest code : Body τ α} {w v : World τ} {depth : Nat}
      (h : Calls inner w.enter depth code v) : Calls (.nested inner rest) w (depth + 1) code v
  | behind {inner rest code : Body τ α} {w v : World τ} {depth : Nat}
      (h : Calls rest (guard inner w).1 depth code v) : Calls (.nested inner rest) w depth code v
  | swallow {trace : τ} {rest code : Body τ α} {w v : World τ} {depth : Nat}
      (h : Calls rest (w.panic trace) depth code v) : Calls (.swallow trace rest) w depth code v
  | replaceHook {id : Nat} {rest code : Body τ α} {w v : World τ} {depth : Nat}
      (h : Calls rest { w with process := w.process.replaceHook id } depth code v) :
      Calls (.replaceHook id rest) w depth code v

/-- A call finds the thread marked exactly if it is made inside another one. -/
theorem Body.Calls.guarded_iff {history code : Body τ α} {w v : World τ} {depth : Nat}
    (h : history.Calls w depth code v) :
    v.thread.guarded = true ↔ w.thread.guarded = true ∨ 0 < depth := by
  induction h with
  | here => simp
  | inside _ ih =>
    -- the code of the outer call starts on a marked thread
    exact iff_of_true (ih.mpr (.inl rfl)) (.inr (Nat.succ_pos _))
  | behind _ ih => rwa [guard_guarded] at ih
  | swallow _ ih => rwa [panic_guarded] at ih
  | replaceHook _ ih => exact ih

/-- What a guard does about a call of `code` in the world `v`. -/
structure Contained (code : Body String α) (v : World String) : Prop where
  mark : (guard code v).1.thread.guarded = v.thread.guarded
  ok : ∀ value, (code.run v.enter).2 = .ok value → (guard code v).2.toExcept = .ok value
  err : ∀ failure, (code.run v.enter).2 = .err failure →
    (guard code v).2.toExcept = .error failure
  /-- The trace is that of the panic if the recording hook is on top where the code ends. -/
  panic : ∀ payload trace, (code.run v.enter).2 = .panic payload trace →
    ∃ failure, (guard code v).2.toExcept = .error failure ∧
      failure.message = "panicked: " ++ payload.message ∧
      ((code.reach v.enter).1.process.hook.isRecording = true →
        failure.backtrace = ⟨[trace], true⟩)

theorem World.records_of_isRecording {w : World τ} (hook : w.process.hook.isRecording = true)
    (guarded : w.thread.guarded = true) : w.records = true := by
  unfold World.records
  cases on : w.process.hook with
  | host id =>
    rw [on] at hook
    cases hook
  | recording previous => simp [Hook.reached, guarded]

/-- A panic that the recording hook sees is given back with its own trace. -/
theorem guard_panic_of_isRecording {code : Body τ α} {v : World τ} {payload : Payload} {trace : τ}
    (ending : (code.reach v.enter).2 = .panic payload trace)
    (hook : (code.reach v.enter).1.process.hook.isRecording = true) :
    (guard code v).2 = .panicked payload (.recorded trace) := by
  have guarded : (code.reach v.enter).1.thread.guarded = true := reach_guarded code v.enter
  have recorded : ((code.reach v.enter).1.panic trace).thread.trace = some trace := by
    rw [panic_slot, World.records_of_isRecording hook guarded, if_pos rfl]
  rw [guard_eq_leave, ending]
  exact leave_panic_of_full recorded _ payload trace

theorem guard_panic {code : Body τ α} {v : World τ} {payload : Payload} {trace : τ}
    (ending : (code.reach v.enter).2 = .panic payload trace) :
    ∃ told, (guard code v).2 = .panicked payload told := by
  rw [guard_eq_leave, ending]
  cases found : ((code.reach v.enter).1.panic trace).thread.trace with
  | some trace' => exact ⟨_, leave_panic_of_full found _ payload trace⟩
  | none => exact ⟨_, leave_panic_of_empty found _ payload trace⟩

theorem ofPanic_message (payload : Payload) (told : Trace String) :
    (Failure.ofPanic payload told).message = "panicked: " ++ payload.message := by
  cases told <;> rfl

theorem contained (code : Body String α) (v : World String) : Contained code v where
  mark := guard_guarded code v
  ok value h := by
    rw [run_eq_settle_reach] at h
    rw [guard_eq_leave, h]
    rfl
  err failure h := by
    rw [run_eq_settle_reach] at h
    rw [guard_eq_leave, h]
    rfl
  panic payload trace h := by
    rw [run_eq_settle_reach] at h
    obtain ⟨told, result⟩ := guard_panic h
    refine ⟨.ofPanic payload told, by rw [result]; rfl, ofPanic_message payload told, ?_⟩
    intro hook
    cases result.symm.trans (guard_panic_of_isRecording h hook)
    rfl

theorem contain_eq_toExcept (outcome : Outcome) {v : World String}
    (hook : v.enter.process.hook.isRecording = true) :
    outcome.contain = (guard outcome.body v).2.toExcept := by
  cases outcome with
  | reported lints => rfl
  | failed failure => rfl
  | panicked payload site =>
    have result : (guard (Outcome.panicked payload site).body v).2 =
        .panicked payload (.recorded site) := guard_panic_of_isRecording rfl hook
    rw [result]
    rfl

/-- However guarded calls are nested, and whatever the host does to the hook, no panic leaves a
guard: a call's own result is given back as it is, a panic as a failure that tells its text, and its
trace if the recording hook is on top. Each guard, at every depth, leaves the thread marked as it
was, and so does the whole history. What a runner makes of a linter's call is what such a guard
gives back. -/
theorem guard_contains (history : Body String α) (w : World String) :
    (∀ depth code v, history.Calls w depth code v →
      (v.thread.guarded = true ↔ w.thread.guarded = true ∨ 0 < depth) ∧ Contained code v) ∧
    (history.run w).1.thread.guarded = w.thread.guarded ∧
    (∀ message, (Payload.text message).message = message) ∧
    Payload.other.message = "unknown panic payload" ∧
    ∀ (outcome : Outcome) (v : World String), v.enter.process.hook.isRecording = true →
      outcome.contain = (guard outcome.body v).2.toExcept := by
  refine ⟨?_, ?_, fun _ => rfl, rfl, fun outcome _ hook => contain_eq_toExcept outcome hook⟩
  · intro depth code v h
    exact ⟨h.guarded_iff, contained code v⟩
  · rw [run_eq_settle_reach, settle_guarded, reach_guarded]

/-- The inner call's trace is its own; the host's hook has taken the place of ours before the outer
call panics, so that its trace is taken by the guard. -/
example :
    let inner : Body String Unit := .finish (.panic (.text "in") "a")
    let outer : Body String Unit := .nested inner (.replaceHook 1 (.finish (.panic .other "b")))
    (guard inner (World.fresh).enter).2.toExcept = .error (.capture "panicked: in" "a") ∧
    (guard outer .fresh).2.toExcept =
      .error (.capture "panicked: unknown panic payload" "guard") := ⟨rfl, rfl⟩

end Linting.Containment
