import Linting.Proofs.Containment.Calls
import Mathlib.Data.List.Chain

/-! Which panic a reported trace is of. The slot keeps the trace of a panic that guarded code has
caught itself, until the hook records another one or a guard takes it. `Body.slotEvents` lists what
matters to the slot; reports are right exactly if every trace kept this way is replaced, by a panic
that the hook records, before a guard or the end of the outermost call finds it. -/

namespace Linting.Containment

variable {τ α : Type}

/-- Only the panic's own trace or the guard's is reported, and an outermost call leaves the slot
empty. -/
structure GuardedCall.Faithful (c : GuardedCall τ α) : Prop where
  trace : ∀ payload trace, c.ending = .panic payload trace →
    c.result = .panicked payload (.recorded trace) ∨ c.result = .panicked payload .fallback
  slot : c.outermost = true → c.slot = none

/-- What guarded code does to the slot: the trace of a swallowed panic is kept, a panic escapes to
a guard (with its trace recorded or not), and an outermost call returns. -/
inductive SlotEvent
  | kept
  | escaped (recorded : Bool)
  | returned
  deriving DecidableEq

def escapes : World τ × Ending τ α → List SlotEvent
  | (w, .panic _ _) => [.escaped w.records]
  | _ => []

def Body.slotEvents : Body τ α → World τ → List SlotEvent
  | finish _, _ => []
  | swallow trace rest, w =>
    (if w.records then [.kept] else []) ++ rest.slotEvents (w.panic trace)
  | nested inner rest, w =>
    inner.slotEvents w.enter ++ (escapes (inner.reach w.enter) ++
      ((if w.thread.guarded then [] else [.returned]) ++ rest.slotEvents (guard inner w).1))
  | replaceHook id rest, w => rest.slotEvents { w with process := w.process.replaceHook id }

/-- What comes next to the slot after a trace was kept: another recorded panic. -/
def SlotEvent.Replaced (a b : SlotEvent) : Prop := a = kept → b = kept ∨ b = escaped true

instance : DecidableRel SlotEvent.Replaced := fun a b =>
  inferInstanceAs (Decidable (a = .kept → b = .kept ∨ b = .escaped true))

/-- Every kept trace is replaced, also the one that a full slot starts with. -/
def Clean (full : Bool) (events : List SlotEvent) : Prop :=
  ((if full then [SlotEvent.kept] else []) ++ events).IsChain SlotEvent.Replaced

theorem clean_nil (full : Bool) : Clean full [] := by
  cases full
  · exact List.isChain_nil
  · exact List.isChain_singleton _

theorem isChain_cons_of_ne_kept {e : SlotEvent} (h : e ≠ .kept) (events : List SlotEvent) :
    (e :: events).IsChain SlotEvent.Replaced ↔ events.IsChain SlotEvent.Replaced := by
  cases events with
  | nil => simp
  | cons next events =>
    rw [List.isChain_cons_cons]
    exact and_iff_right fun he => absurd he h

theorem clean_kept (full : Bool) (events : List SlotEvent) :
    Clean full (.kept :: events) ↔ Clean true events := by
  cases full with
  | false => rfl
  | true =>
    refine List.isChain_cons_cons.trans (and_iff_right ?_)
    exact fun _ => .inl rfl

theorem clean_escaped_recorded (full : Bool) (events : List SlotEvent) :
    Clean full (.escaped true :: events) ↔ Clean false events := by
  cases full with
  | false => exact isChain_cons_of_ne_kept (by decide) events
  | true =>
    refine List.isChain_cons_cons.trans ((and_iff_right ?_).trans ?_)
    · exact fun _ => .inr rfl
    · exact isChain_cons_of_ne_kept (by decide) events

/-- An event that finds the slot is harmless only if the slot is empty. -/
theorem clean_cons_of_not_replacing {e : SlotEvent} (hk : e ≠ .kept) (he : e ≠ .escaped true)
    (full : Bool) (events : List SlotEvent) :
    Clean full (e :: events) ↔ full = false ∧ Clean false events := by
  cases full with
  | false => exact (isChain_cons_of_ne_kept hk events).trans (and_iff_right rfl).symm
  | true =>
    refine iff_of_false ?_ (by simp)
    intro h
    rcases (List.isChain_cons_cons.mp h).1 rfl with hkept | hrecorded
    · exact hk hkept
    · exact he hrecorded

/-! ### One guarded call -/

theorem leave_panic_of_full {w : World τ} {found : τ} (h : w.thread.trace = some found)
    (was : Bool) (payload : Payload) (trace : τ) :
    (w.leave was (.panic payload trace : Ending τ α)).2 = .panicked payload (.recorded found) := by
  unfold World.leave
  simp only [h]

theorem leave_panic_of_empty {w : World τ} (h : w.thread.trace = none)
    (was : Bool) (payload : Payload) (trace : τ) :
    (w.leave was (.panic payload trace : Ending τ α)).2 = .panicked payload .fallback := by
  unfold World.leave
  simp only [h]

theorem leave_panic_slot (w : World τ) (was : Bool) (payload : Payload) (trace : τ) :
    (w.leave was (.panic payload trace : Ending τ α)).1.thread.trace = none := by
  unfold World.leave
  dsimp only
  cases w.thread.trace <;> rfl

theorem GuardedCall.faithful_iff_of_no_panic {c : GuardedCall τ α}
    (h : ∀ payload trace, c.ending ≠ .panic payload trace) :
    c.Faithful ↔ (c.outermost = true → c.slot = none) :=
  ⟨fun faithful => faithful.slot, fun slot => ⟨fun p t he => absurd he (h p t), slot⟩⟩

theorem clean_returned_iff (was : Bool) (slot : Option τ) (events : List SlotEvent) :
    Clean slot.isSome ((if was then [] else [.returned]) ++ events) ↔
      ((!was) = true → slot = none) ∧ Clean slot.isSome events := by
  cases was with
  | true => simp
  | false =>
    rw [if_neg (by decide), List.singleton_append,
      clean_cons_of_not_replacing (by decide) (by decide)]
    cases slot <;> simp

/-- A call is faithful exactly if the slot holds no trace of a swallowed panic when it is found. -/
theorem GuardedCall.faithful_ofEnding_iff (was : Bool) {w : World τ} {ending : Ending τ α}
    (fresh : ∀ payload trace, ending = .panic payload trace → w.thread.trace ≠ some trace)
    (events : List SlotEvent) :
    Clean w.thread.trace.isSome
        (escapes (w, ending) ++ ((if was then [] else [.returned]) ++ events)) ↔
      (ofEnding was w ending).Faithful ∧ Clean (ofEnding was w ending).slot.isSome events := by
  cases ending with
  | ok value =>
    have faithful := faithful_iff_of_no_panic (c := ofEnding was w (.ok value : Ending τ α))
      (fun _ _ h => by cases h)
    exact (clean_returned_iff was w.thread.trace events).trans (and_congr_left' faithful.symm)
  | err failure =>
    have faithful := faithful_iff_of_no_panic (c := ofEnding was w (.err failure : Ending τ α))
      (fun _ _ h => by cases h)
    exact (clean_returned_iff was w.thread.trace events).trans (and_congr_left' faithful.symm)
  | panic payload trace =>
    have empty : (ofEnding was w (.panic payload trace : Ending τ α)).slot = none :=
      leave_panic_slot _ was payload trace
    have emptied : Clean false ((if was then [] else [SlotEvent.returned]) ++ events) ↔
        Clean false events := by
      simpa using clean_returned_iff was (none : Option τ) events
    rw [escapes, List.singleton_append, empty]
    cases hr : w.records with
    | true =>
      have own : (w.panic trace).thread.trace = some trace := by rw [panic_slot, hr, if_pos rfl]
      have faithful : (ofEnding was w (.panic payload trace : Ending τ α)).Faithful := by
        refine ⟨?_, fun _ => empty⟩
        rintro _ _ ⟨⟩
        exact .inl (leave_panic_of_full own was payload trace)
      rw [clean_escaped_recorded, emptied]
      exact (and_iff_right faithful).symm
    | false =>
      have same : (w.panic trace).thread.trace = w.thread.trace := by
        rw [panic_slot, hr, if_neg (by decide)]
      rw [clean_cons_of_not_replacing (by decide) (by decide), emptied]
      refine and_congr_left' ?_
      cases hs : w.thread.trace with
      | none =>
        refine iff_of_true rfl ⟨?_, fun _ => empty⟩
        rintro _ _ ⟨⟩
        exact .inr (leave_panic_of_empty (same.trans hs) was payload trace)
      | some found =>
        -- The trace found is that of an earlier panic, so reporting it is wrong.
        refine iff_of_false (by simp) ?_
        intro h
        have result : (ofEnding was w (.panic payload trace : Ending τ α)).result =
            .panicked payload (.recorded found) :=
          leave_panic_of_full (same.trans hs) was payload trace
        have distinct : found ≠ trace := fun h => fresh payload trace rfl (h ▸ hs)
        rcases h.trace payload trace rfl with hown | hfallback
        · rw [result] at hown
          cases hown
          exact distinct rfl
        · rw [result] at hfallback
          cases hfallback

/-! ### Histories -/

theorem guard_slot_of_some {b : Body τ α} {w : World τ} {t : τ}
    (h : (guard b w).1.thread.trace = some t) : (b.reach w.enter).1.thread.trace = some t := by
  rw [guard_eq_leave] at h
  cases he : (b.reach w.enter).2 with
  | ok value => simpa [he, World.leave, World.settle] using h
  | err failure => simpa [he, World.leave, World.settle] using h
  | panic payload trace =>
    rw [he, leave_panic_slot] at h
    cases h

/-- The slot does not hold any of these traces yet. -/
def World.Unseen (w : World τ) (traces : List τ) : Prop :=
  ∀ t, w.thread.trace = some t → t ∉ traces

theorem panic_slot_origin {w : World τ} {trace t : τ} (h : (w.panic trace).thread.trace = some t) :
    t = trace ∨ w.thread.trace = some t := by
  rw [panic_slot] at h
  split at h
  · exact .inl (Option.some.inj h).symm
  · exact .inr h

theorem World.Unseen.panic {w : World τ} {trace : τ} {traces : List τ}
    (hn : (trace :: traces).Nodup) (h : w.Unseen (trace :: traces)) :
    (w.panic trace).Unseen traces := by
  intro t ht hmem
  rcases panic_slot_origin ht with rfl | ht
  · exact (List.nodup_cons.mp hn).1 hmem
  · exact h t ht (List.mem_cons_of_mem _ hmem)

theorem World.Unseen.guard {inner : Body τ α} {w : World τ} {traces : List τ}
    (hn : (inner.traces ++ traces).Nodup) (h : w.Unseen (inner.traces ++ traces))
    (origin : ∀ t, (inner.reach w.enter).1.thread.trace = some t →
      w.thread.trace = some t ∨ t ∈ inner.traces) :
    (guard inner w).1.Unseen traces := by
  intro t ht hmem
  rcases origin t (guard_slot_of_some ht) with hw | hinner
  · exact h t hw (List.mem_append_right _ hmem)
  · exact (List.nodup_append.mp hn).2.2 t hinner t hmem rfl

theorem World.Unseen.enter {w : World τ} {first rest : List τ} (h : w.Unseen (first ++ rest)) :
    w.enter.Unseen first :=
  fun t ht hmem => h t ht (List.mem_append_left _ hmem)

/-- What the slot holds when code ends was there before or is of a panic that the code has caught
itself, so never of the panic that it ends in. -/
theorem reach_slot (b : Body τ α) {w : World τ} (hb : b.traces.Nodup) (hw : w.Unseen b.traces)
    {t : τ} (ht : (b.reach w).1.thread.trace = some t) :
    (w.thread.trace = some t ∨ t ∈ b.traces) ∧
      ∀ payload trace, (b.reach w).2 = .panic payload trace → t ≠ trace := by
  induction b generalizing w t with
  | finish ending =>
    refine ⟨.inl ht, ?_⟩
    rintro payload trace rfl rfl
    exact hw t ht (List.mem_singleton_self t)
  | swallow trace rest ih =>
    obtain ⟨hfrom, hdiffers⟩ := ih (List.nodup_cons.mp hb).2 (hw.panic hb) ht
    refine ⟨?_, hdiffers⟩
    rcases hfrom with hs | hmem
    · rcases panic_slot_origin hs with rfl | hs
      · exact .inr List.mem_cons_self
      · exact .inl hs
    · exact .inr (List.mem_cons_of_mem _ hmem)
  | nested inner rest ihi ih =>
    obtain ⟨hinner, hrest, _⟩ := List.nodup_append.mp hb
    have origin : ∀ s, (inner.reach w.enter).1.thread.trace = some s →
        w.thread.trace = some s ∨ s ∈ inner.traces :=
      fun s hs => (ihi hinner hw.enter hs).1
    obtain ⟨hfrom, hdiffers⟩ := ih hrest (hw.guard hb origin) ht
    refine ⟨?_, hdiffers⟩
    rcases hfrom with hs | hmem
    · rcases origin t (guard_slot_of_some hs) with hs | hmem
      · exact .inl hs
      · exact .inr (List.mem_append_left _ hmem)
    · exact .inr (List.mem_append_right _ hmem)
  | replaceHook id rest ih =>
    exact ih (w := { w with process := w.process.replaceHook id }) hb hw ht

/-- Walking through a body, the events so far are clean exactly if the calls so far are faithful;
what is still in the slot then is left to the events behind it. -/
theorem clean_slotEvents_iff (b : Body τ α) {w : World τ} (hb : b.traces.Nodup)
    (hw : w.Unseen b.traces) (events : List SlotEvent) :
    Clean w.thread.trace.isSome (b.slotEvents w ++ events) ↔
      (∀ c ∈ b.guardedCalls w, c.Faithful) ∧
        Clean (b.reach w).1.thread.trace.isSome events := by
  induction b generalizing w events with
  | finish ending => simp [Body.slotEvents, Body.guardedCalls, Body.reach]
  | swallow trace rest ih =>
    have step := ih (List.nodup_cons.mp hb).2 (hw.panic hb) events
    rw [panic_slot] at step
    rw [Body.slotEvents, Body.guardedCalls, Body.reach, ← step]
    cases hr : w.records with
    | true => exact clean_kept _ _
    | false => exact Iff.rfl
  | nested inner rest ihi ih =>
    -- The events of the call itself stand between those of its code and those behind it, and
    -- `faithful_ofEnding_iff` accounts for them.
    obtain ⟨hinner, hrest, _⟩ := List.nodup_append.mp hb
    have origin : ∀ s, (inner.reach w.enter).1.thread.trace = some s →
        w.thread.trace = some s ∨ s ∈ inner.traces :=
      fun s hs => (reach_slot inner hinner hw.enter hs).1
    have differs : ∀ payload trace, (inner.reach w.enter).2 = .panic payload trace →
        (inner.reach w.enter).1.thread.trace ≠ some trace :=
      fun payload trace he hs => (reach_slot inner hinner hw.enter hs).2 payload trace he rfl
    have later : (GuardedCall.ofGuard inner w).slot = (guard inner w).1.thread.trace := rfl
    rw [Body.slotEvents, Body.guardedCalls, Body.reach, List.forall_mem_append,
      List.forall_mem_cons, and_assoc, and_assoc, ← ih hrest (hw.guard hb origin), ← later,
      GuardedCall.ofGuard_eq, ← GuardedCall.faithful_ofEnding_iff _ differs,
      ← ihi hinner hw.enter]
    simp only [List.append_assoc]
    rfl
  | replaceHook id rest ih =>
    exact ih (w := { w with process := w.process.replaceHook id }) hb hw events

/-- The guarded calls of a history report no panic's trace for another one, and leave no trace
behind, exactly if every trace kept of a panic that guarded code has caught itself is replaced by
the next panic that touches the slot. A trace stands for its panic here, so no two are the same. -/
theorem faithful_iff_kept_traces_replaced (history : Body τ α) (h : history.traces.Nodup) :
    (∀ c ∈ history.guardedCalls .fresh, c.Faithful) ↔
      (history.slotEvents .fresh).IsChain SlotEvent.Replaced := by
  have unseen : (World.fresh : World τ).Unseen history.traces := fun t ht => by cases ht
  have walk := clean_slotEvents_iff history h unseen []
  rw [List.append_nil] at walk
  exact (walk.trans (and_iff_left (clean_nil _))).symm

/-- A swallowed panic does no harm when the call then ends in a panic that the hook records. -/
theorem faithful_of_replaced_trace :
    [1, 2].Nodup ∧
    ∀ c ∈ (Body.nested (.swallow 1 (.finish (.panic (.text "late") 2)))
      (.finish (.ok ())) : Body Nat Unit).guardedCalls .fresh, c.Faithful :=
  ⟨by decide, (faithful_iff_kept_traces_replaced _ (by decide)).mpr (by decide)⟩

/-- Guarded code catches its first panic, the host replaces the hook, and the second panic is
reported with the trace of the first; without the second panic the trace stays in the slot. -/
theorem guard_reports_swallowed_trace :
    (guard (.swallow 1 (.replaceHook 7 (.finish (.panic (.text "late") 2))) : Body Nat Unit)
      .fresh).2 = .panicked (.text "late") (.recorded 1) ∧
    (guard (.swallow 1 (.finish (.ok ())) : Body Nat Unit) .fresh).1.thread.trace = some 1 ∧
    ¬∀ c ∈ (Body.nested (.swallow 1 (.replaceHook 7 (.finish (.panic (.text "late") 2))))
      (.finish (.ok ())) : Body Nat Unit).guardedCalls .fresh, c.Faithful := by
  refine ⟨rfl, rfl, ?_⟩
  intro faithful
  have call := faithful _ (List.mem_singleton_self _)
  rcases call.trace (.text "late") 2 rfl with h | h
  · cases h
  · cases h

end Linting.Containment
