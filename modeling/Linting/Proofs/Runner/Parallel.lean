import Linting.Proofs.Runner.Workers

/-! A parallel run against the sequential one. Files are skipped behind a failure only, so the
first error among the slots is that of the sequential run, and without one no file was skipped. -/

namespace Linting.Parallel

variable {ε β : Type}

/-- What the slots stand for: the outcome of each file, or a file skipped behind an error. -/
def Covers (slots : List (Slot ε β)) (outcomes : List (Except ε β)) : Prop :=
  slots.length = outcomes.length ∧ ∀ (i : Nat) (slot : Slot ε β), slots[i]? = some slot →
    (∃ outcome, outcomes[i]? = some outcome ∧ slot = .stored outcome) ∨
    (slot = .skipped ∧ ∃ k < i, ∃ e, outcomes[k]? = some (.error e))

theorem Covers.head {slot : Slot ε β} {slots : List (Slot ε β)} {outcome : Except ε β}
    {outcomes : List (Except ε β)} (h : Covers (slot :: slots) (outcome :: outcomes)) :
    slot = .stored outcome := by
  rcases h.2 0 slot rfl with ⟨o, ho, hs⟩ | ⟨_, k, hk, _⟩
  · cases ho
    exact hs
  · exact absurd hk (Nat.not_lt_zero k)

theorem Covers.tail {slot : Slot ε β} {slots : List (Slot ε β)} {found : β}
    {outcomes : List (Except ε β)} (h : Covers (slot :: slots) (.ok found :: outcomes)) :
    Covers slots outcomes := by
  refine ⟨Nat.succ.inj h.1, ?_⟩
  intro i s hs
  rcases h.2 (i + 1) s hs with stored | ⟨skipped, k, hk, e, he⟩
  · exact .inl stored
  · cases k with
    | zero => cases he
    | succ k => exact .inr ⟨skipped, k, Nat.lt_of_succ_lt_succ hk, e, he⟩

theorem collect_eq_of_covers {slots : List (Slot ε (List β))}
    {outcomes : List (Except ε (List β))} (h : Covers slots outcomes) :
    collect slots = collect (outcomes.map .stored) := by
  induction slots generalizing outcomes with
  | nil =>
    obtain rfl := List.length_eq_zero_iff.mp h.1.symm
    rfl
  | cons slot slots ih =>
    cases outcomes with
    | nil => cases h.1
    | cons outcome outcomes =>
      obtain rfl := h.head
      cases outcome with
      | error e => rfl
      | ok found => simp only [List.map_cons, collect, ih h.tail]

/-- Once the workers are done, the slots stand for the outcomes of all files. -/
theorem Pool.Sound.covers {pool : Pool ε β} {outcomes : List (Except ε β)}
    {analyze : Nat → Except ε β} (h : pool.Sound analyze) (hdone : pool.isDone = true)
    (hsize : pool.slots.size = outcomes.length)
    (hout : ∀ i, i < outcomes.length → outcomes[i]? = some (analyze i)) :
    Covers pool.slots.toList outcomes := by
  refine ⟨by rw [Array.length_toList, hsize], ?_⟩
  intro i slot hi
  rw [Array.getElem?_toList] at hi
  have agrees := h.agrees i slot hi
  obtain ⟨hlt, hget⟩ := Array.getElem?_eq_some_iff.mp hi
  have done : slot.isDone = true := hget ▸ Array.all_eq_true.mp hdone i hlt
  have outcome := hout i (hsize ▸ hlt)
  cases slot with
  | skipped =>
    obtain ⟨_, k, hki, hk⟩ := agrees
    obtain ⟨hk', e, he⟩ := h.analyze_firstFailure hk
    exact .inr ⟨rfl, k, hki, e, by rw [hout k (hsize ▸ hk'), he]⟩
  | stored o =>
    refine .inl ⟨o, ?_, rfl⟩
    cases o with
    | ok value => rw [outcome, agrees.2]
    | error e => rw [outcome, agrees.2.1]
  | _ => cases done

end Linting.Parallel

namespace Linting.Runner
open Parallel

theorem lintFiles_eq_collect (r : Runner) (files : List Path) :
    (r.lintFiles files).2 =
      collect (files.map fun file => .stored (r.lintFile file).2) := by
  induction files with
  | nil => rfl
  | cons file rest ih =>
    rw [lintFiles, List.map_cons]
    cases h : r.lintFile file with
    | mk calls outcome =>
      cases outcome with
      | error e => rfl
      | ok found => simp only [collect, ← ih]

theorem slots_size_pool (r : Runner) (files : List Path) (schedule : List Nat) :
    (r.pool files schedule).slots.size = files.length := by
  rw [pool, Pool.runSchedule_size, Pool.start, Array.size_replicate]

/-- The slots of finished workers hold what the sequential run puts together. -/
theorem collect_pool (r : Runner) (files : List Path) (schedule : List Nat)
    (h : (r.pool files schedule).isDone = true) :
    collect (r.pool files schedule).slots.toList = (r.lintFiles files).2 := by
  have sound : (r.pool files schedule).Sound (r.analyze files) :=
    (Pool.sound_start files.length).runSchedule schedule
  have covers : Covers (r.pool files schedule).slots.toList
      (files.map fun file => (r.lintFile file).2) := by
    refine sound.covers h ?_ ?_
    · rw [slots_size_pool, List.length_map]
    · intro i hi
      rw [List.length_map] at hi
      simp [analyze, List.getElem?_eq_getElem hi]
  rw [collect_eq_of_covers covers, lintFiles_eq_collect, List.map_map]
  rfl

theorem runScheduled_of_isDone {r : Runner} {files : List Path} {schedule : List Nat}
    (h : (r.pool files schedule).isDone = true) : r.runScheduled files schedule = r.run files := by
  rw [runScheduled, run, runTraced, collect_pool r files schedule h]
  cases r.refusal? files <;> rfl

theorem runParallel_eq_run (r : Runner) (files : List Path) :
    r.runParallel files = r.run files := by
  refine runScheduled_of_isDone ?_
  rw [pool]
  simpa only [Pool.start, Array.size_replicate] using
    Pool.isDone_runSchedule_oneWorker (Pool.start files.length)

theorem lintFiles_error {r : Runner} {before rest : List Path} {file : Path} {e : RunError}
    (hbefore : ∀ b ∈ before, ∃ found, (r.lintFile b).2 = .ok found)
    (he : (r.lintFile file).2 = .error e) :
    (r.lintFiles (before ++ file :: rest)).2 = .error e := by
  induction before with
  | nil => simp [lintFiles_eq_collect, he, collect]
  | cons b before ih =>
    obtain ⟨found, hb⟩ := hbefore b List.mem_cons_self
    have tail := ih fun c hc => hbefore c (List.mem_cons_of_mem b hc)
    rw [lintFiles_eq_collect] at tail ⊢
    simp only [List.cons_append, List.map_cons, hb, collect, tail]
    rfl

/-- Whatever the schedule, a parallel run comes to an end and returns what the sequential run
returns: the refusal of a run that cannot start, the report with the lints in the order of the
files, or the error of the first file that fails. -/
theorem runScheduled_eq_run (r : Runner) (files : List Path) (schedule : List Nat) :
    (∃ more, (r.pool files (schedule ++ more)).isDone = true) ∧
    ((r.pool files schedule).isDone = true →
      r.runScheduled files schedule = r.run files ∧
      ∀ before file rest e, r.refusal? files = none → files = before ++ file :: rest →
        (∀ b ∈ before, ∃ found, (r.lintFile b).2 = .ok found) →
        (r.lintFile file).2 = .error e → r.runScheduled files schedule = .error e) ∧
    (∀ e, r.refusal? files = some e →
      r.runScheduled files schedule = .error e ∧ r.run files = .error e) ∧
    r.runParallel files = r.run files := by
  have complete (s : List Nat) : (r.pool files (s ++ oneWorker files.length)).isDone = true := by
    rw [pool, Pool.runSchedule_append, ← pool, ← slots_size_pool r files s]
    exact Pool.isDone_runSchedule_oneWorker _
  have same (s : List Nat) (h : (r.pool files s).isDone = true) :
      r.runScheduled files s = r.run files := by
    rw [runScheduled, run, runTraced, collect_pool r files s h]
    cases r.refusal? files <;> rfl
  refine ⟨⟨_, complete schedule⟩, ?_, ?_, ?_⟩
  · intro h
    refine ⟨same schedule h, ?_⟩
    rintro before file rest e accepted rfl hbefore he
    rw [runScheduled, accepted, collect_pool r _ schedule h]
    simp only [lintFiles_error hbefore he, Except.map]
  · intro e he
    simp [runScheduled, run, runTraced, he]
  · exact same _ (complete [])

end Linting.Runner
