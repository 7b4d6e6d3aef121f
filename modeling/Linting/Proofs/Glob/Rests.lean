import Linting.Glob
import Mathlib.Data.List.Infix

/-! What a glob pattern covers, told piece by piece. Every piece leaves an end of what it is given,
so two rests of one length are one, and a search that keeps one of each length loses none. -/

namespace Linting.Glob

variable {dialect : Dialect} {bytes rest whole : List UInt8}

section Ends

theorem suffix_of_mem_suffixes {stops : Bool} (h : rest ∈ suffixes stops bytes) :
    rest <:+ bytes := by
  induction bytes with
  | nil => simpa [suffixes] using h
  | cons b bytes ih =>
    rw [suffixes] at h
    rcases List.mem_cons.mp h with rfl | later
    · exact List.suffix_refl _
    · split at later
      · cases later
      · exact (ih later).trans (List.suffix_cons b bytes)

theorem suffix_of_mem_afterSlashes (h : rest ∈ afterSlashes bytes) : rest <:+ bytes := by
  induction bytes with
  | nil => cases h
  | cons b bytes ih =>
    have behind : rest = bytes ∨ rest ∈ afterSlashes bytes := by
      rw [afterSlashes] at h
      split at h
      · exact List.mem_cons.mp h
      · exact .inr h
    rcases behind with rfl | later
    · exact List.suffix_cons b rest
    · exact (ih later).trans (List.suffix_cons b bytes)

theorem suffix_of_mem_afterByte {test : UInt8 → Bool} (h : rest ∈ afterByte test bytes) :
    rest <:+ bytes := by
  cases bytes with
  | nil => cases h
  | cons b bytes =>
    rw [afterByte] at h
    split at h
    · rw [List.mem_singleton.mp h]
      exact List.suffix_cons b bytes
    · cases h

/-- Keeps a rest unless there is one of its length. -/
def keep (kept : List (List UInt8)) (rest : List UInt8) : List (List UInt8) :=
  if kept.any fun other => other.length = rest.length then kept else rest :: kept

theorem distinct_eq (rests : List (List UInt8)) : distinct rests = rests.foldl keep [] := rfl

theorem mem_of_mem_keep {kept : List (List UInt8)} {r : List UInt8} (h : r ∈ keep kept rest) :
    r ∈ kept ∨ r = rest := by
  unfold keep at h
  split at h
  · exact .inl h
  · exact (List.mem_cons.mp h).symm

theorem mem_keep_of_mem {kept : List (List UInt8)} {r : List UInt8} (h : r ∈ kept) :
    r ∈ keep kept rest := by
  unfold keep
  split
  · exact h
  · exact List.mem_cons_of_mem rest h

theorem exists_length_eq_keep (kept : List (List UInt8)) (rest : List UInt8) :
    ∃ other ∈ keep kept rest, other.length = rest.length := by
  unfold keep
  split
  · rename_i known
    simpa using known
  · exact ⟨rest, List.mem_cons_self, rfl⟩

theorem mem_of_mem_foldl_keep {kept rests : List (List UInt8)} (h : rest ∈ rests.foldl keep kept) :
    rest ∈ kept ∨ rest ∈ rests := by
  induction rests generalizing kept with
  | nil => exact .inl h
  | cons first rests ih =>
    rcases ih h with here | later
    · rcases mem_of_mem_keep here with known | rfl
      · exact .inl known
      · exact .inr List.mem_cons_self
    · exact .inr (List.mem_cons_of_mem first later)

theorem mem_foldl_keep_of_mem {kept : List (List UInt8)} (rests : List (List UInt8))
    (h : rest ∈ kept) : rest ∈ rests.foldl keep kept := by
  induction rests generalizing kept with
  | nil => exact h
  | cons first rests ih => exact ih (mem_keep_of_mem h)

theorem exists_length_eq_foldl_keep {rests : List (List UInt8)} (kept : List (List UInt8))
    (h : rest ∈ rests) : ∃ other ∈ rests.foldl keep kept, other.length = rest.length := by
  induction rests generalizing kept with
  | nil => cases h
  | cons first rests ih =>
    rcases List.mem_cons.mp h with rfl | later
    · obtain ⟨other, hother, length⟩ := exists_length_eq_keep kept rest
      exact ⟨other, mem_foldl_keep_of_mem rests hother, length⟩
    · exact ih (keep kept first) later

/-- Of ends of one sequence none is lost. -/
theorem mem_distinct_iff {rests : List (List UInt8)} (ends : ∀ r ∈ rests, r <:+ whole) :
    rest ∈ distinct rests ↔ rest ∈ rests := by
  rw [distinct_eq]
  have kept : ∀ r ∈ rests.foldl keep [], r ∈ rests :=
    fun r h => (mem_of_mem_foldl_keep h).resolve_left List.not_mem_nil
  refine ⟨kept rest, fun h => ?_⟩
  -- two ends of one sequence and of one length are the same
  obtain ⟨other, hother, length⟩ := exists_length_eq_foldl_keep [] h
  rcases List.suffix_or_suffix_of_suffix (ends other (kept other hother)) (ends rest h) with
    inside | inside
  · rwa [inside.eq_of_length length] at hother
  · rwa [← inside.eq_of_length length.symm] at hother

mutual

theorem suffix_of_mem_rests (token : Token) {bytes rest : List UInt8}
    (h : rest ∈ token.rests dialect bytes) : rest <:+ bytes := by
  cases token with
  | literal c =>
    rw [Token.rests] at h
    split at h
    · rw [List.mem_singleton.mp h]
      exact List.drop_suffix _ bytes
    · cases h
  | any => exact suffix_of_mem_afterByte (by simpa [Token.rests] using h)
  | zeroOrMore => exact suffix_of_mem_suffixes (by simpa [Token.rests] using h)
  | recursivePrefix =>
    rw [Token.rests] at h
    rcases List.mem_cons.mp h with rfl | later
    · exact List.suffix_refl _
    · exact suffix_of_mem_afterSlashes later
  | recursiveSuffix =>
    rw [Token.rests] at h
    obtain ⟨mid, hmid, hrest⟩ := List.mem_flatMap.mp h
    exact (suffix_of_mem_suffixes hrest).trans (suffix_of_mem_afterByte hmid)
  | recursiveZeroOrMore =>
    rw [Token.rests] at h
    obtain ⟨mid, hmid, hrest⟩ := List.mem_flatMap.mp h
    refine List.IsSuffix.trans ?_ (suffix_of_mem_afterByte hmid)
    rcases List.mem_cons.mp hrest with rfl | later
    · exact List.suffix_refl _
    · exact suffix_of_mem_afterSlashes later
  | oneOf negated ranges => exact suffix_of_mem_afterByte (by simpa [Token.rests] using h)
  | alternates branches =>
    rw [Token.rests] at h
    split at h
    · rw [List.mem_singleton.mp h]
    · exact suffix_of_mem_branchRests branches h

theorem suffix_of_mem_restsOf (tokens : List Token) {rests : List (List UInt8)} {rest : List UInt8}
    (h : rest ∈ restsOf dialect rests tokens) : ∃ bytes ∈ rests, rest <:+ bytes := by
  cases tokens with
  | nil => exact ⟨rest, by simpa [restsOf] using h, List.suffix_refl _⟩
  | cons token more =>
    rw [restsOf] at h
    obtain ⟨mid, hmid, further⟩ := suffix_of_mem_restsOf more h
    have kept := (mem_of_mem_foldl_keep hmid).resolve_left List.not_mem_nil
    obtain ⟨bytes, hbytes, first⟩ := List.mem_flatMap.mp kept
    exact ⟨bytes, hbytes, further.trans (suffix_of_mem_rests token first)⟩

theorem suffix_of_mem_branchRests (branches : List (List Token)) {bytes rest : List UInt8}
    (h : rest ∈ branchRests dialect bytes branches) : rest <:+ bytes := by
  cases branches with
  | nil => simp [branchRests] at h
  | cons branch more =>
    rw [branchRests] at h
    rcases List.mem_append.mp h with first | later
    · split at first
      · cases first
      · obtain ⟨whole, hwhole, ends⟩ := suffix_of_mem_restsOf branch first
        rwa [List.mem_singleton.mp hwhole] at ends
    · exact suffix_of_mem_branchRests more later

end

theorem nil_mem_suffixes (bytes : List UInt8) : [] ∈ suffixes false bytes := by
  induction bytes with
  | nil => simp [suffixes]
  | cons b bytes ih => simp [suffixes, ih]

theorem mem_afterSlashes (front back : List UInt8) :
    back ∈ afterSlashes (front ++ slash :: back) := by
  induction front with
  | nil => simp [afterSlashes]
  | cons b front ih =>
    rw [List.cons_append, afterSlashes]
    split
    · exact List.mem_cons_of_mem _ ih
    · exact ih

end Ends

/-- The pieces of a pattern, one after another, may leave `rest` of the bytes. -/
inductive Leaves (dialect : Dialect) : List Token → List UInt8 → List UInt8 → Prop
  | nil (bytes : List UInt8) : Leaves dialect [] bytes bytes
  | cons {token : Token} {more : List Token} {bytes mid rest : List UInt8}
      (first : mid ∈ token.rests dialect bytes) (further : Leaves dialect more mid rest) :
      Leaves dialect (token :: more) bytes rest

theorem Leaves.literal {more : List Token} (c : Char) (h : Leaves dialect more bytes rest) :
    Leaves dialect (.literal c :: more) (String.utf8EncodeChar c ++ bytes) rest :=
  .cons (by simp [Token.rests]) h

theorem mem_restsOf_iff {rests : List (List UInt8)} {tokens : List Token}
    (ends : ∀ r ∈ rests, r <:+ whole) :
    rest ∈ restsOf dialect rests tokens ↔ ∃ bytes ∈ rests, Leaves dialect tokens bytes rest := by
  induction tokens generalizing rests with
  | nil =>
    rw [restsOf]
    constructor
    · exact fun h => ⟨rest, h, .nil rest⟩
    · rintro ⟨bytes, h, ⟨⟩⟩
      exact h
  | cons token more ih =>
    have inner : ∀ r ∈ rests.flatMap fun bytes => token.rests dialect bytes, r <:+ whole := by
      intro r hr
      obtain ⟨bytes, hbytes, first⟩ := List.mem_flatMap.mp hr
      exact (suffix_of_mem_rests token first).trans (ends bytes hbytes)
    have later : ∀ r ∈ distinct (rests.flatMap fun bytes => token.rests dialect bytes),
        r <:+ whole := fun r hr => inner r ((mem_distinct_iff inner).mp hr)
    rw [restsOf, ih later]
    constructor
    · rintro ⟨mid, hmid, further⟩
      obtain ⟨bytes, hbytes, first⟩ := List.mem_flatMap.mp ((mem_distinct_iff inner).mp hmid)
      exact ⟨bytes, hbytes, .cons first further⟩
    · rintro ⟨bytes, hbytes, leaves⟩
      cases leaves with
      | cons first further =>
        have kept := (mem_distinct_iff inner).mpr (List.mem_flatMap.mpr ⟨bytes, hbytes, first⟩)
        exact ⟨_, kept, further⟩

/-- A pattern covers bytes when its pieces may leave nothing of them; `**` alone covers any. -/
theorem covers_iff {g : Glob} :
    g.covers bytes = true ↔
      g.tokens = [.recursivePrefix] ∨ Leaves g.dialect g.tokens bytes [] := by
  have one : ∀ r ∈ [bytes], r <:+ bytes := fun r hr => List.mem_singleton.mp hr ▸ List.suffix_refl r
  have all : ((restsOf g.dialect [bytes] g.tokens).any List.isEmpty) = true ↔
      Leaves g.dialect g.tokens bytes [] := by
    rw [List.any_eq_true]
    simp [mem_restsOf_iff one]
  unfold covers
  split
  · rename_i alone
    simp [alone]
  · rename_i other
    rw [all]
    exact (or_iff_right other).symm

end Linting.Glob
