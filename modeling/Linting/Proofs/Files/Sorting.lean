import Linting.Files.Discovery
import Linting.Proofs.Files.PathOrder

/-! The files that a search finds: each is before the next in the order of paths, so that no two
are the same place by spelling. -/

namespace Linting.Discovery

theorem pairwise_mergeSort_files (files : List Path) :
    (files.mergeSort fun p q => (p.cmp q).isLE).Pairwise fun p q => (p.cmp q).isLE = true := by
  refine List.pairwise_mergeSort (fun _ _ _ => Std.TransCmp.isLE_trans) ?_ files
  intro p q
  have swap : q.cmp p = (p.cmp q).swap := Std.OrientedCmp.eq_swap
  rw [swap]
  cases p.cmp q <;> rfl

/-- Neighbours of a sorted list that stay are in strict order. -/
theorem pairwise_dedupAfter {p : Path} {rest : List Path}
    (h : (p :: rest).Pairwise fun p q => (p.cmp q).isLE = true) :
    (p :: dedup.dedupAfter p rest).Pairwise fun p q => p.cmp q = .lt := by
  induction rest generalizing p with
  | nil => exact List.pairwise_singleton _ p
  | cons q rest ih =>
    obtain ⟨hp, hrest⟩ := List.pairwise_cons.mp h
    rw [dedup.dedupAfter]
    split
    · exact ih (List.pairwise_cons.mpr
        ⟨fun r hr => hp r (List.mem_cons_of_mem q hr), (List.pairwise_cons.mp hrest).2⟩)
    · rename_i different
      -- `q` stays, and whatever stays behind it is beyond `q`
      have less : p.cmp q = .lt := by
        refine (Ordering.isLE_iff_eq_lt_or_eq_eq.mp (hp q List.mem_cons_self)).resolve_right ?_
        rwa [Path.cmp_eq_eq_iff]
      have tail := ih hrest
      refine List.pairwise_cons.mpr ⟨?_, tail⟩
      intro r hr
      rcases List.mem_cons.mp hr with rfl | hr
      · exact less
      · exact Std.TransCmp.lt_trans less ((List.pairwise_cons.mp tail).1 r hr)

theorem pairwise_dedup {files : List Path}
    (h : files.Pairwise fun p q => (p.cmp q).isLE = true) :
    (dedup files).Pairwise fun p q => p.cmp q = .lt := by
  cases files with
  | nil => exact .nil
  | cons p rest => exact pairwise_dedupAfter h

/-- Sorting takes the files of all paths together, however these overlap. -/
theorem pairwise_sortFiles (files : List Path) :
    (sortFiles files).Pairwise fun p q => p.cmp q = .lt :=
  pairwise_dedup (pairwise_mergeSort_files files)

end Linting.Discovery
