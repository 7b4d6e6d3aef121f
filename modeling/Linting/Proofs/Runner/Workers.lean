import Linting.Runner.Parallel
import Mathlib.Data.List.Basic

/-! Workers that share the first failure. A step moves one file along; `Pool.Sound` holds before
the first step and is kept by every step, so it holds whatever the schedule. -/

namespace Linting.Parallel

variable {ε β : Type} {analyze : Nat → Except ε β}

/-- Whether the failure of a file has been announced. -/
def Slot.HasAnnounced : Slot ε β → Prop
  | announced _ => True
  | stored (.error _) => True
  | _ => False

/-- What the slot of file `i` promises about the pool. -/
def Slot.Agrees (analyze : Nat → Except ε β) (pool : Pool ε β) (i : Nat) : Slot ε β → Prop
  | untaken | taken | admitted => i ∉ pool.analyzed
  | failing e => i ∈ pool.analyzed ∧ analyze i = .error e
  | announced e =>
    i ∈ pool.analyzed ∧ analyze i = .error e ∧ ∃ k ≤ i, pool.firstFailure = some k
  | skipped => i ∉ pool.analyzed ∧ ∃ k < i, pool.firstFailure = some k
  | stored (.ok value) => i ∈ pool.analyzed ∧ analyze i = .ok value
  | stored (.error e) =>
    i ∈ pool.analyzed ∧ analyze i = .error e ∧ ∃ k ≤ i, pool.firstFailure = some k

namespace Pool

/-- The invariant of the workers. The shared index is that of a file whose failure was announced,
and by `Slot.Agrees` no announced failure lies in front of it. -/
structure Sound (analyze : Nat → Except ε β) (pool : Pool ε β) : Prop where
  agrees : ∀ (i : Nat) (slot : Slot ε β), pool.slots[i]? = some slot → slot.Agrees analyze pool i
  announced : ∀ k : Nat, pool.firstFailure = some k →
    ∃ slot, pool.slots[k]? = some slot ∧ slot.HasAnnounced
  once : pool.analyzed.Nodup

theorem isBehindFailure_iff {pool : Pool ε β} {i : Nat} :
    pool.isBehindFailure i = true ↔ ∃ k < i, pool.firstFailure = some k := by
  cases h : pool.firstFailure <;> simp [isBehindFailure, h]

theorem sound_start (count : Nat) : (start count : Pool ε β).Sound analyze where
  agrees i slot h := by
    obtain ⟨_, rfl⟩ := Array.getElem?_eq_some_iff.mp h
    simp [start, Slot.Agrees]
  announced k h := by simp [start] at h
  once := List.nodup_nil

/-- A slot keeps its promises while other files are analyzed and the first failure moves forward
only. -/
theorem agrees_mono {pool next : Pool ε β} {i : Nat} {slot : Slot ε β}
    (hf : ∀ k, pool.firstFailure = some k → ∃ k' ≤ k, next.firstFailure = some k')
    (ha : i ∈ next.analyzed ↔ i ∈ pool.analyzed) (h : slot.Agrees analyze pool i) :
    slot.Agrees analyze next i := by
  have behind : (∃ k ≤ i, pool.firstFailure = some k) → ∃ k ≤ i, next.firstFailure = some k := by
    rintro ⟨k, hk, hp⟩
    obtain ⟨k', hk', hn⟩ := hf k hp
    exact ⟨k', Nat.le_trans hk' hk, hn⟩
  cases slot with
  | untaken | taken | admitted => exact fun hi => h (ha.mp hi)
  | failing e => exact ⟨ha.mpr h.1, h.2⟩
  | announced e => exact ⟨ha.mpr h.1, h.2.1, behind h.2.2⟩
  | skipped =>
    obtain ⟨hi, k, hk, hp⟩ := h
    obtain ⟨k', hk', hn⟩ := hf k hp
    exact ⟨fun hi' => hi (ha.mp hi'), k', Nat.lt_of_le_of_lt hk' hk, hn⟩
  | stored outcome =>
    cases outcome with
    | ok value => exact ⟨ha.mpr h.1, h.2⟩
    | error e => exact ⟨ha.mpr h.1, h.2.1, behind h.2.2⟩

/-- To keep the invariant, a step that moves file `i` along has to answer for that file only. -/
theorem Sound.move {pool next : Pool ε β} (h : pool.Sound analyze) {i : Nat}
    {old slot : Slot ε β} (hi : pool.slots[i]? = some old)
    (hs : next.slots = pool.slots.setIfInBounds i slot)
    (hf : ∀ k, pool.firstFailure = some k → ∃ k' ≤ k, next.firstFailure = some k')
    (ha : ∀ j ≠ i, (j ∈ next.analyzed ↔ j ∈ pool.analyzed))
    (hslot : slot.Agrees analyze next i)
    (hnew : ∀ k, next.firstFailure = some k →
      (k = i ∧ slot.HasAnnounced) ∨ (k ≠ i ∧ pool.firstFailure = some k))
    (honce : next.analyzed.Nodup) : next.Sound analyze := by
  obtain ⟨hlt, _⟩ := Array.getElem?_eq_some_iff.mp hi
  have same : next.slots[i]? = some slot := by
    rw [hs, Array.getElem?_setIfInBounds_self_of_lt hlt]
  have other : ∀ j ≠ i, next.slots[j]? = pool.slots[j]? := by
    intro j hj
    rw [hs, Array.getElem?_setIfInBounds_ne hj.symm]
  refine ⟨?_, ?_, honce⟩
  · intro j s hjs
    by_cases hj : j = i
    · subst hj
      rw [same] at hjs
      cases hjs
      exact hslot
    · rw [other j hj] at hjs
      exact agrees_mono hf (ha j hj) (h.agrees j s hjs)
  · intro k hk
    rcases hnew k hk with ⟨rfl, hann⟩ | ⟨hki, hp⟩
    · exact ⟨slot, same, hann⟩
    · rw [other k hki]
      exact h.announced k hp

/-- A file that has announced nothing is not the first failure. -/
theorem Sound.ne_of_firstFailure {pool : Pool ε β} (h : pool.Sound analyze) {i k : Nat}
    {slot : Slot ε β} (hi : pool.slots[i]? = some slot) (hslot : ¬slot.HasAnnounced)
    (hk : pool.firstFailure = some k) : k ≠ i := by
  rintro rfl
  obtain ⟨slot', hs, hann⟩ := h.announced k hk
  rw [hi] at hs
  cases hs
  exact hslot hann

theorem Sound.step {pool : Pool ε β} (h : pool.Sound analyze) (i : Nat) :
    (pool.step analyze i).Sound analyze := by
  have kept : ∀ k, pool.firstFailure = some k → ∃ k' ≤ k, pool.firstFailure = some k' :=
    fun k hk => ⟨k, Nat.le_refl k, hk⟩
  unfold Pool.step
  split
  -- taking the file
  next hi =>
    have fresh := h.agrees i _ hi
    exact h.move hi rfl kept (fun _ _ => Iff.rfl) fresh
      (fun k hk => .inr ⟨h.ne_of_firstFailure hi id hk, hk⟩) h.once
  -- looking at the first failure: a file behind it is skipped
  next hi =>
    have fresh : i ∉ pool.analyzed := h.agrees i _ hi
    refine h.move hi rfl kept (fun _ _ => Iff.rfl) ?_
      (fun k hk => .inr ⟨h.ne_of_firstFailure hi id hk, hk⟩) h.once
    split
    · exact ⟨fresh, isBehindFailure_iff.mp ‹_›⟩
    · exact fresh
  -- analyzing it
  next hi =>
    have fresh : i ∉ pool.analyzed := h.agrees i _ hi
    have others : ∀ j ≠ i, (j ∈ i :: pool.analyzed ↔ j ∈ pool.analyzed) := by
      intro j hj
      simp [hj]
    have still : ∀ k, pool.firstFailure = some k → k ≠ i ∧ pool.firstFailure = some k :=
      fun k hk => ⟨h.ne_of_firstFailure hi id hk, hk⟩
    have once : (i :: pool.analyzed).Nodup := List.nodup_cons.mpr ⟨fresh, h.once⟩
    dsimp only
    split
    · rename_i value outcome
      exact h.move hi rfl kept others ⟨List.mem_cons_self, outcome⟩
        (fun k hk => .inr (still k hk)) once
    · rename_i e outcome
      exact h.move hi rfl kept others ⟨List.mem_cons_self, outcome⟩
        (fun k hk => .inr (still k hk)) once
  -- announcing its failure: the shared index stays or becomes this file's
  next e hi =>
    obtain ⟨seen, outcome⟩ := h.agrees i _ hi
    cases hf : pool.firstFailure with
    | none =>
      refine h.move hi rfl (by simp [hf]) (fun _ _ => Iff.rfl)
        ⟨seen, outcome, i, Nat.le_refl i, rfl⟩ ?_ h.once
      intro k hk
      cases hk
      exact .inl ⟨rfl, trivial⟩
    | some j =>
      refine h.move hi rfl ?_ (fun _ _ => Iff.rfl)
        ⟨seen, outcome, min i j, Nat.min_le_left i j, rfl⟩ ?_ h.once
      · intro k hk
        rw [hf] at hk
        cases hk
        exact ⟨min i j, Nat.min_le_right i j, rfl⟩
      · intro k hk
        cases hk
        have hij : j ≠ i := h.ne_of_firstFailure hi id hf
        rcases Nat.le_total i j with hle | hle
        · exact .inl ⟨Nat.min_eq_left hle, trivial⟩
        · have hmin : min i j = j := Nat.min_eq_right hle
          exact .inr ⟨fun h => hij (hmin.symm.trans h), hf.trans (congrArg some hmin.symm)⟩
  -- storing the error
  next e hi =>
    obtain ⟨seen, outcome, first⟩ := h.agrees i _ hi
    refine h.move hi rfl kept (fun _ _ => Iff.rfl) ⟨seen, outcome, first⟩ ?_ h.once
    intro k hk
    by_cases hki : k = i
    · exact .inl ⟨hki, trivial⟩
    · exact .inr ⟨hki, hk⟩
  next => exact h

theorem Sound.runSchedule {pool : Pool ε β} (h : pool.Sound analyze) (schedule : List Nat) :
    (pool.runSchedule analyze schedule).Sound analyze := by
  induction schedule generalizing pool with
  | nil => exact h
  | cons i rest ih => exact ih (h.step i)

/-- A file whose failure was announced has been analyzed and fails, and the shared index is not
behind it. -/
theorem Sound.of_hasAnnounced {pool : Pool ε β} (h : pool.Sound analyze) {i : Nat}
    {slot : Slot ε β} (hi : pool.slots[i]? = some slot) (hslot : slot.HasAnnounced) :
    i ∈ pool.analyzed ∧ (∃ e, analyze i = .error e) ∧ ∃ k ≤ i, pool.firstFailure = some k := by
  have agrees := h.agrees i slot hi
  cases slot with
  | announced e => exact ⟨agrees.1, ⟨e, agrees.2.1⟩, agrees.2.2⟩
  | stored outcome =>
    cases outcome with
    | ok value => cases hslot
    | error e => exact ⟨agrees.1, ⟨e, agrees.2.1⟩, agrees.2.2⟩
  | _ => cases hslot

/-- The shared index is that of a file that fails. -/
theorem Sound.analyze_firstFailure {pool : Pool ε β} (h : pool.Sound analyze) {k : Nat}
    (hk : pool.firstFailure = some k) : k < pool.slots.size ∧ ∃ e, analyze k = .error e := by
  obtain ⟨slot, hs, hann⟩ := h.announced k hk
  exact ⟨(Array.getElem?_eq_some_iff.mp hs).1, (h.of_hasAnnounced hs hann).2.1⟩

end Pool

/-! ### Every schedule can be finished -/

/-- How many steps a file may still need. -/
def Slot.stepsLeft : Slot ε β → Nat
  | untaken => 5
  | taken => 4
  | admitted => 3
  | failing _ => 2
  | announced _ => 1
  | skipped => 0
  | stored _ => 0

theorem Slot.isDone_of_stepsLeft {slot : Slot ε β} (h : slot.stepsLeft = 0) :
    slot.isDone = true := by
  cases slot <;> first | rfl | cases h

theorem Slot.stepsLeft_le (slot : Slot ε β) : slot.stepsLeft ≤ 5 := by
  cases slot <;> simp [stepsLeft]

namespace Pool

/-- A step writes the slot of its own file only, and brings that file nearer to its end. -/
theorem step_slots (analyze : Nat → Except ε β) (pool : Pool ε β) (i : Nat) :
    ∃ slot : Slot ε β, (pool.step analyze i).slots = pool.slots.setIfInBounds i slot ∧
      ∀ old, pool.slots[i]? = some old → slot.stepsLeft ≤ old.stepsLeft - 1 := by
  cases h : pool.slots[i]? with
  | none =>
    have out : pool.slots.size ≤ i := Array.getElem?_eq_none_iff.mp h
    refine ⟨.skipped, ?_, by simp⟩
    simp only [step, h, Array.setIfInBounds_eq_of_size_le out]
  | some old =>
    have same : pool.slots.setIfInBounds i old = pool.slots := by
      obtain ⟨hlt, rfl⟩ := Array.getElem?_eq_some_iff.mp h
      rw [Array.setIfInBounds_def, dif_pos hlt, Array.set_getElem_self]
    simp only [Option.some.injEq, forall_eq']
    cases old with
    | untaken => exact ⟨.taken, by simp only [step, h, setSlot], Nat.le_refl 4⟩
    | taken =>
      refine ⟨if pool.isBehindFailure i then .skipped else .admitted, ?_, ?_⟩
      · simp only [step, h, setSlot]
      · split <;> simp [Slot.stepsLeft]
    | admitted =>
      cases ha : analyze i with
      | ok value => exact ⟨.stored (.ok value), by simp only [step, h, ha, setSlot], Nat.zero_le _⟩
      | error e => exact ⟨.failing e, by simp only [step, h, ha, setSlot], Nat.le_refl 2⟩
    | failing e => exact ⟨.announced e, by simp only [step, h, setSlot], Nat.le_refl 1⟩
    | announced e => exact ⟨.stored (.error e), by simp only [step, h, setSlot], Nat.le_refl 0⟩
    | skipped => exact ⟨.skipped, by simp only [step, h, same], Nat.le_refl 0⟩
    | stored outcome => exact ⟨.stored outcome, by simp only [step, h, same], Nat.le_refl 0⟩

theorem step_self (analyze : Nat → Except ε β) {pool : Pool ε β} {i : Nat} {slot : Slot ε β}
    (h : pool.slots[i]? = some slot) :
    ∃ next, (pool.step analyze i).slots[i]? = some next ∧
      next.stepsLeft ≤ slot.stepsLeft - 1 := by
  obtain ⟨hlt, _⟩ := Array.getElem?_eq_some_iff.mp h
  obtain ⟨next, hs, hle⟩ := step_slots analyze pool i
  exact ⟨next, by rw [hs, Array.getElem?_setIfInBounds_self_of_lt hlt], hle slot h⟩

theorem step_other (pool : Pool ε β) {i j : Nat} (hj : j ≠ i) :
    (pool.step analyze i).slots[j]? = pool.slots[j]? := by
  obtain ⟨next, hs, _⟩ := step_slots analyze pool i
  rw [hs, Array.getElem?_setIfInBounds_ne hj.symm]

theorem runSchedule_size (schedule : List Nat) (pool : Pool ε β) :
    (pool.runSchedule analyze schedule).slots.size = pool.slots.size := by
  induction schedule generalizing pool with
  | nil => rfl
  | cons i rest ih =>
    obtain ⟨next, hs, _⟩ := step_slots analyze pool i
    exact (ih (pool.step analyze i)).trans (by rw [hs, Array.size_setIfInBounds])

/-- Every step of a file brings it nearer to its end, and no other step takes it back. -/
theorem runSchedule_stepsLeft (analyze : Nat → Except ε β) (schedule : List Nat)
    {pool : Pool ε β} {i : Nat} {slot : Slot ε β} (h : pool.slots[i]? = some slot) :
    ∃ next, (pool.runSchedule analyze schedule).slots[i]? = some next ∧
      next.stepsLeft ≤ slot.stepsLeft - schedule.count i := by
  induction schedule generalizing pool slot with
  | nil => exact ⟨slot, h, Nat.le_refl _⟩
  | cons j rest ih =>
    by_cases hj : i = j
    · subst hj
      obtain ⟨mid, hmid, hle⟩ := step_self analyze h
      obtain ⟨next, hnext, hle'⟩ := ih hmid
      refine ⟨next, hnext, ?_⟩
      rw [List.count_cons_self]
      omega
    · obtain ⟨next, hnext, hle⟩ := ih ((step_other pool hj).trans h)
      refine ⟨next, hnext, ?_⟩
      rwa [List.count_cons_of_ne (Ne.symm hj)]

theorem runSchedule_append (pool : Pool ε β) (first second : List Nat) :
    pool.runSchedule analyze (first ++ second) =
      (pool.runSchedule analyze first).runSchedule analyze second := by
  simp only [runSchedule, List.foldl_append]

theorem count_oneWorker {count i : Nat} (h : i < count) : 5 ≤ (oneWorker count).count i := by
  have steps : List.replicate 5 i ∈ (List.range count).map (List.replicate 5) :=
    List.mem_map_of_mem (List.mem_range.mpr h)
  have le := (List.sublist_flatten_of_mem steps).count_le i
  rwa [List.count_replicate_self, ← List.flatMap_def] at le

/-- Whatever the workers have done, five more steps for each file are enough. -/
theorem isDone_runSchedule_oneWorker (pool : Pool ε β) :
    (pool.runSchedule analyze (oneWorker pool.slots.size)).isDone = true := by
  rw [isDone, Array.all_eq_true]
  intro i hi
  have hi' : i < pool.slots.size := by rwa [runSchedule_size] at hi
  obtain ⟨next, hnext, hle⟩ := runSchedule_stepsLeft analyze (oneWorker pool.slots.size)
    (Array.getElem?_eq_getElem hi')
  obtain ⟨_, rfl⟩ := Array.getElem?_eq_some_iff.mp hnext
  apply Slot.isDone_of_stepsLeft
  have bound := Slot.stepsLeft_le pool.slots[i]
  have enough := count_oneWorker hi'
  omega

end Pool

end Linting.Parallel
