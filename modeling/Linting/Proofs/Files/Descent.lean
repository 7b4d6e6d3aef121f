import Linting.Proofs.Files.Components

/-! Paths made by appending components one after another. Taking off the path that they were
appended to leaves these components between slashes, whatever stands at its end. -/

namespace Linting.Path

variable {p base : Path} {cs : List Component}

theorem bytes_ne_nil_of_components (h : p.components ≠ []) : p.bytes ≠ [] := by
  intro empty
  refine h ?_
  rw [components, isAbsolute, empty]
  rfl

def descend (p : Path) (cs : List Component) : Path := cs.foldl (fun p c => p.join ⟨c.bytes⟩) p

theorem Wellformed.bytes_join_ne_nil {c : Component} (h : Wellformed c) (p : Path) :
    (p.join ⟨c.bytes⟩).bytes ≠ [] := by
  obtain ⟨more, bytes⟩ : ∃ more, (p.join ⟨c.bytes⟩).bytes = more ++ c.bytes := by
    rw [join, isAbsolute_of_slash_not_mem h.1, if_neg Bool.false_ne_true]
    split
    · exact ⟨p.bytes, rfl⟩
    · exact ⟨p.bytes ++ [slash], by simp⟩
  simp [bytes, h.bytes_ne_nil]

/-- Every component appended is a piece of its own; a slash at the end of `p` opens no piece when
something is appended. -/
theorem pieces_descend (h : ∀ c ∈ cs, Wellformed c) (nonempty : p.bytes ≠ []) :
    ∃ front, pieces (p.descend cs).bytes = front ++ cs.map Component.bytes ∧
      (pieces p.bytes = front ∨ pieces p.bytes = front ++ [[]]) := by
  induction cs generalizing p with
  | nil => exact ⟨pieces p.bytes, (List.append_nil _).symm, .inl rfl⟩
  | cons c cs ih =>
    obtain ⟨first, rest⟩ := List.forall_mem_cons.mp h
    obtain ⟨front, -, joined, alone⟩ := pieces_join nonempty (isAbsolute_of_slash_not_mem first.1)
    obtain ⟨more, behind, same⟩ := ih rest (first.bytes_join_ne_nil p)
    rw [pieces_of_slash_not_mem first.1] at joined
    rw [joined] at same
    refine ⟨front, ?_, alone⟩
    rcases same with same | same
    · rw [descend, List.foldl_cons, ← descend, behind, ← same, List.append_assoc]
      rfl
    · -- what was appended is not empty, so no slash is left at the end
      have closed := (List.append_inj' same rfl).2
      exact absurd (List.cons.inj closed).1 first.bytes_ne_nil

theorem body_descend (h : ∀ c ∈ cs, Wellformed c) (p : Path) : (p.descend cs).body = p.body ++ cs :=
  body_foldl_join h p

theorem spelling_descend (h : ∀ c ∈ cs, Wellformed c) (nonempty : p.bytes ≠ []) :
    (p.descend cs).spelling = p.spelling :=
  spelling_foldl_join h nonempty

theorem isAbsolute_join (h : p.isAbsolute = true) (q : Path) : (p.join q).isAbsolute = true := by
  by_cases absolute : q.isAbsolute = true
  · rw [join, if_pos absolute, absolute]
  · obtain ⟨more, bytes⟩ := bytes_join p (Bool.not_eq_true _ ▸ absolute)
    have nonempty : p.bytes ≠ [] := by
      intro empty
      rw [isAbsolute, empty] at h
      cases h
    rw [isAbsolute, bytes, List.head?_append_of_ne_nil _ nonempty]
    exact h

theorem isAbsolute_descend (h : p.isAbsolute = true) (cs : List Component) :
    (p.descend cs).isAbsolute = true := by
  induction cs generalizing p with
  | nil => exact h
  | cons c cs ih => exact ih (isAbsolute_join h ⟨c.bytes⟩)

/-- Components that are put together stand between slashes. -/
theorem ofComponents_eq (h : ∀ c ∈ cs, Wellformed c) :
    ofComponents cs = ⟨joinPieces (cs.map Component.bytes)⟩ := by
  cases cs with
  | nil => rfl
  | cons c cs =>
    obtain ⟨first, rest⟩ := List.forall_mem_cons.mp h
    have start : ofComponents (c :: cs) = descend ⟨c.bytes⟩ cs := by
      rw [ofComponents, List.foldl_cons, join_of_empty rfl, descend]
    obtain ⟨front, behind, alone⟩ := pieces_descend (p := ⟨c.bytes⟩) rest first.bytes_ne_nil
    rw [pieces_of_slash_not_mem first.1] at alone
    rcases alone with alone | alone
    · rw [← alone, ← start] at behind
      exact congrArg Path.mk ((joinPieces_pieces _).symm.trans (congrArg joinPieces behind))
    · have closed : some c.bytes = some [] := by simpa using congrArg List.getLast? alone
      exact absurd (Option.some.inj closed) first.bytes_ne_nil

section Strip

theorem dropPieces_append (front back : List (List UInt8)) :
    ∃ blanks, (∀ piece ∈ blanks, component? piece = none) ∧
      dropPieces (front.filterMap component?).length (front ++ back) = blanks ++ back := by
  induction front with
  | nil => exact ⟨[], by simp, by simp [dropPieces]⟩
  | cons piece front ih =>
    obtain ⟨blanks, none, dropped⟩ := ih
    cases read : component? piece with
    | some c => exact ⟨blanks, none, by simp [read, dropPieces, dropped]⟩
    | none =>
      rw [List.filterMap_cons_none read]
      -- once all that counts is dropped, what does not count stays in front
      cases count : (front.filterMap component?).length with
      | zero =>
        rw [count, dropPieces] at dropped
        refine ⟨piece :: blanks, List.forall_mem_cons.mpr ⟨read, none⟩, ?_⟩
        rw [dropPieces, List.cons_append, dropped, List.cons_append]
      | succ n =>
        rw [count] at dropped
        exact ⟨blanks, none, by simp [read, dropPieces, dropped]⟩

theorem trimFront_append {blanks back : List (List UInt8)}
    (none : ∀ piece ∈ blanks, component? piece = none)
    (some : ∀ piece ∈ back, (component? piece).isSome = true) :
    trimFront (blanks ++ back) = back := by
  induction blanks with
  | nil =>
    cases back with
    | nil => rfl
    | cons piece back =>
      have first := some piece List.mem_cons_self
      rw [List.nil_append, trimFront, if_neg (by simp [Option.isSome_iff_ne_none.mp first])]
  | cons piece blanks ih =>
    obtain ⟨first, rest⟩ := List.forall_mem_cons.mp none
    rw [List.cons_append, trimFront, if_pos (by simp [first]), ih rest]

theorem trimmed_append {blanks back : List (List UInt8)}
    (none : ∀ piece ∈ blanks, component? piece = none)
    (some : ∀ piece ∈ back, (component? piece).isSome = true) :
    trimmed (blanks ++ back) = back := by
  have kept : trimFront ([] ++ back.reverse) = back.reverse :=
    trimFront_append (List.forall_mem_nil _) fun piece h => some piece (List.mem_reverse.mp h)
  rw [List.nil_append] at kept
  rw [trimmed, trimFront_append none some, kept, List.reverse_reverse]

theorem stripPrefix?_descend (h : ∀ c ∈ cs, Wellformed c) (named : base.components ≠ []) :
    (base.descend cs).stripPrefix? base = some (ofComponents cs) := by
  have nonempty := bytes_ne_nil_of_components named
  have leading : base.components <+: (base.descend cs).components := by
    rw [components_eq, components_eq, spelling_descend h nonempty, body_descend h,
      ← List.append_assoc]
    exact List.prefix_append _ _
  obtain ⟨front, parts, alone⟩ := pieces_descend h nonempty
  obtain ⟨blanks, none, dropped⟩ := dropPieces_append front (cs.map Component.bytes)
  have read : ∀ piece ∈ cs.map Component.bytes, (component? piece).isSome = true := by
    intro piece hpiece
    obtain ⟨c, hc, rfl⟩ := List.mem_map.mp hpiece
    rw [(h c hc).2]
    rfl
  rw [stripPrefix?_eq, if_neg named, if_pos (List.isPrefixOf_iff_prefix.mpr leading), parts,
    body_of_pieces alone, dropped, trimmed_append none read, ofComponents_eq h]

end Strip

end Linting.Path
