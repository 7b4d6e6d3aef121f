import Linting.Proofs.Document.Stretches

/-! When a stretch has a location: both of its ends, taken back to the end of the text where they
lie beyond it, stand between characters, and its far end is still a machine word. -/

namespace Linting
open Text

/-- A place between characters; the start and the end of the text count. -/
def IsBoundary (cs : List Char) (n : Nat) : Prop := ∃ pre, pre <+: cs ∧ byteLength pre = n

theorem isBoundary_iff_dropBytes {cs : List Char} {n : Nat} :
    IsBoundary cs n ↔ (dropBytes n cs).isSome = true := by
  simp only [Option.isSome_iff_exists, dropBytes_eq_some_iff]
  constructor
  · rintro ⟨pre, ⟨rest, rfl⟩, rfl⟩
    exact ⟨rest, pre, rfl, rfl⟩
  · rintro ⟨rest, pre, rfl, rfl⟩
    exact ⟨pre, List.prefix_append pre rest, rfl⟩

instance (cs : List Char) (n : Nat) : Decidable (IsBoundary cs n) :=
  decidable_of_iff _ isBoundary_iff_dropBytes.symm

theorem IsBoundary.exists_mid {cs : List Char} {a b : Nat} (ha : IsBoundary cs a)
    (hb : IsBoundary cs b) (le : a ≤ b) :
    ∃ pre mid post, cs = pre ++ mid ++ post ∧ byteLength pre = a ∧ byteLength (pre ++ mid) = b := by
  obtain ⟨pre, hpre, rfl⟩ := ha
  obtain ⟨whole, ⟨post, rfl⟩, rfl⟩ := hb
  rcases List.prefix_or_prefix_of_prefix hpre (List.prefix_append whole post) with
    ⟨mid, rfl⟩ | ⟨more, rfl⟩
  · exact ⟨pre, mid, post, rfl, rfl, rfl⟩
  · -- the first boundary is not behind the second, so both are one
    have none : more = [] := by
      rw [byteLength_append] at le
      exact byteLength_eq_zero_iff.mp (by omega)
    rw [none, List.append_nil]
    exact ⟨whole, [], post, by rw [List.append_nil], rfl, by rw [List.append_nil]⟩

namespace Document

variable {path : Path} {cs : List Char} {offset byteLen : Nat}

theorem lt_wordLimit_of_locationOf {d : Document} {loc : Location}
    (h : d.locationOf offset byteLen = some loc) : min offset d.size + byteLen < wordLimit := by
  by_contra beyond
  simp [locationOf, beyond] at h

theorem exists_locationOf_of_isBoundary
    (start : IsBoundary cs (min offset (byteLength cs)))
    (stop : IsBoundary cs (min (min offset (byteLength cs) + byteLen) (byteLength cs)))
    (word : min offset (byteLength cs) + byteLen < wordLimit) :
    ∃ loc, (ofChars path cs).locationOf offset byteLen = some loc := by
  obtain ⟨pre, mid, post, text, hpre, hend⟩ := start.exists_mid stop (by omega)
  exact ⟨_, locationOf_ofChars path text word hpre hend⟩

/-- A length that reaches beyond the end stands for what is left of the text. -/
theorem locationOf_clamped {d : Document} (word : min offset d.size + byteLen < wordLimit) :
    d.locationOf offset byteLen =
      d.locationOf (min offset d.size)
        (min (min offset d.size + byteLen) d.size - min offset d.size) := by
  have start : min (min offset d.size) d.size = min offset d.size := by omega
  have span : min offset d.size +
      (min (min offset d.size + byteLen) d.size - min offset d.size) =
        min (min offset d.size + byteLen) d.size := by omega
  have stop : min (min (min offset d.size + byteLen) d.size) d.size =
      min (min offset d.size + byteLen) d.size := by omega
  have within : min (min offset d.size + byteLen) d.size < wordLimit := by omega
  simp only [locationOf, start, span, stop, if_pos word, if_pos within]

/-- A stretch has a location exactly when both ends, no further than the end of the text, stand
between characters and the sum of its start and its length is a word. Its location is then that of
what the text holds of it. -/
theorem locationOf_isSome_iff (path : Path) (cs : List Char) (offset byteLen : Nat) :
    let start := min offset (byteLength cs)
    let stop := min (start + byteLen) (byteLength cs)
    (((ofChars path cs).locationOf offset byteLen).isSome = true ↔
      (IsBoundary cs start ∧ IsBoundary cs stop) ∧ start + byteLen < wordLimit) ∧
    (ofChars path cs).locationOf offset byteLen =
      if start + byteLen < wordLimit then (ofChars path cs).locationOf start (stop - start)
      else none := by
  intro start stop
  refine ⟨⟨?_, ?_⟩, ?_⟩
  · intro h
    obtain ⟨loc, located⟩ := Option.isSome_iff_exists.mp h
    obtain ⟨pre, mid, post, text, hpre, hend, -⟩ := exists_stretch_of_locationOf located
    have front : pre ++ mid <+: cs := ⟨post, text.symm⟩
    exact ⟨⟨⟨pre, (List.prefix_append pre mid).trans front, hpre⟩, pre ++ mid, front, hend⟩,
      lt_wordLimit_of_locationOf located⟩
  · rintro ⟨⟨hstart, hstop⟩, word⟩
    exact Option.isSome_iff_exists.mpr (exists_locationOf_of_isBoundary hstart hstop word)
  · split
    · rename_i word
      exact locationOf_clamped word
    · rename_i beyond
      exact Option.eq_none_iff_forall_ne_some.mpr fun _ located =>
        beyond (lt_wordLimit_of_locationOf located)

/-- Both ends stand between characters, but the sum of the start and the length is no word. -/
theorem locationOf_misses_long_stretch :
    let cs := "ab".toList
    let start := min 1 (byteLength cs)
    let byteLen := 0xFFFFFFFFFFFFFFFF
    byteLen < wordLimit ∧ IsBoundary cs start ∧
      IsBoundary cs (min (start + byteLen) (byteLength cs)) ∧
      (ofChars (Path.ofString "a.scss") cs).locationOf 1 byteLen = none := by
  intro cs start byteLen
  refine ⟨by decide, by decide, by decide, Option.eq_none_iff_forall_ne_some.mpr ?_⟩
  exact fun loc located => absurd (lt_wordLimit_of_locationOf located) (by decide)

end Document

end Linting
