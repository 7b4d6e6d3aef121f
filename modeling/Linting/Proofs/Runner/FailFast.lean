import Linting.Proofs.Runner.Workers
import Mathlib.Data.List.Nodup
import Mathlib.Order.Bounds.Defs

/-! How the workers stop early. Whatever has been announced, the shared index is the least of it; a
file is skipped behind a failure only; and nothing up to the first failure of all is left out. -/

namespace Linting.Parallel

variable {ε β : Type} {analyze : Nat → Except ε β}

namespace Pool

/-- The files whose failure has been announced. -/
def announcedFiles (pool : Pool ε β) : Set Nat :=
  {i | ∃ slot, pool.slots[i]? = some slot ∧ slot.HasAnnounced}

/-- What holds of the workers at any time. -/
structure FailsFast (analyze : Nat → Except ε β) (pool : Pool ε β) : Prop where
  silent : pool.firstFailure = none → ∀ i, i ∉ pool.announcedFiles
  least : ∀ k, pool.firstFailure = some k → IsLeast pool.announcedFiles k
  failed : ∀ i ∈ pool.announcedFiles, i ∈ pool.analyzed ∧ ∃ e, analyze i = .error e
  behind : ∀ i : Nat, pool.slots[i]? = some .skipped →
    i ∉ pool.analyzed ∧ ∃ j < i, j ∈ pool.announcedFiles
  once : pool.analyzed.Nodup
  finished : pool.isDone = true → ∀ i < pool.slots.size,
    (∀ j < i, ∃ value, analyze j = .ok value) →
      pool.slots[i]? = some (.stored (analyze i)) ∧ pool.analyzed.count i = 1

theorem Sound.isLeast_firstFailure {pool : Pool ε β} (h : pool.Sound analyze) {k : Nat}
    (hk : pool.firstFailure = some k) : IsLeast pool.announcedFiles k := by
  refine ⟨h.announced k hk, ?_⟩
  rintro i ⟨slot, hi, hslot⟩
  obtain ⟨-, -, first, hle, hfirst⟩ := h.of_hasAnnounced hi hslot
  obtain rfl : first = k := Option.some.inj (hfirst.symm.trans hk)
  exact hle

theorem Sound.not_mem_announcedFiles {pool : Pool ε β} (h : pool.Sound analyze)
    (none : pool.firstFailure = none) (i : Nat) : i ∉ pool.announcedFiles := by
  rintro ⟨slot, hi, hslot⟩
  obtain ⟨-, -, first, -, hfirst⟩ := h.of_hasAnnounced hi hslot
  cases none.symm.trans hfirst

/-- A file that no failure stands in front of cannot be skipped. -/
theorem Sound.stored_of_isDone {pool : Pool ε β} (h : pool.Sound analyze)
    (done : pool.isDone = true) {i : Nat} (hi : i < pool.slots.size)
    (before : ∀ j < i, ∃ value, analyze j = .ok value) :
    pool.slots[i]? = some (.stored (analyze i)) ∧ i ∈ pool.analyzed := by
  obtain ⟨slot, hslot⟩ : ∃ slot, pool.slots[i]? = some slot := ⟨_, Array.getElem?_eq_getElem hi⟩
  have ended : slot.isDone = true := by
    obtain ⟨_, rfl⟩ := Array.getElem?_eq_some_iff.mp hslot
    exact Array.all_eq_true.mp done i hi
  have agrees := h.agrees i slot hslot
  cases slot with
  | skipped =>
    obtain ⟨-, k, hki, hk⟩ := agrees
    obtain ⟨-, e, failed⟩ := h.analyze_firstFailure hk
    obtain ⟨value, passed⟩ := before k hki
    cases failed.symm.trans passed
  | stored outcome =>
    cases outcome with
    | ok value => exact ⟨by rw [hslot, agrees.2], agrees.1⟩
    | error e => exact ⟨by rw [hslot, agrees.2.1], agrees.1⟩
  | _ => cases ended

theorem Sound.failsFast {pool : Pool ε β} (h : pool.Sound analyze) : pool.FailsFast analyze where
  silent := h.not_mem_announcedFiles
  least _ := h.isLeast_firstFailure
  failed := by
    rintro i ⟨slot, hi, hslot⟩
    obtain ⟨seen, fails, -⟩ := h.of_hasAnnounced hi hslot
    exact ⟨seen, fails⟩
  behind i hi := by
    obtain ⟨unseen, k, hki, hk⟩ := h.agrees i .skipped hi
    exact ⟨unseen, k, hki, h.announced k hk⟩
  once := h.once
  finished done i hi before := by
    obtain ⟨slot, seen⟩ := h.stored_of_isDone done hi before
    exact ⟨slot, List.count_eq_one_of_mem h.once seen⟩

/-- However the steps interleave, the workers keep to this at any time, and they can still come to
their end. -/
theorem failsFast_runSchedule (analyze : Nat → Except ε β) (count : Nat) (schedule : List Nat) :
    let pool := (start count).runSchedule analyze schedule
    pool.slots.size = count ∧ pool.FailsFast analyze ∧
      ∃ more, (pool.runSchedule analyze more).isDone = true := by
  intro pool
  have sound : pool.Sound analyze := (sound_start count).runSchedule schedule
  have size : pool.slots.size = count := by
    rw [runSchedule_size, start, Array.size_replicate]
  exact ⟨size, sound.failsFast, _, isDone_runSchedule_oneWorker pool⟩

end Pool

end Linting.Parallel
