import Linting.Path
import Mathlib.Data.List.Basic

/-! The components of a path, and of paths made from others by appending and by taking off what is
in front. -/

namespace Linting.Path

section Pieces

theorem pieces_ne_nil (bytes : List UInt8) : pieces bytes ≠ [] := by
  cases bytes with
  | nil => simp [pieces]
  | cons b rest =>
    rw [pieces]
    split
    · simp
    · split <;> simp

theorem slash_not_mem_of_mem_pieces {bytes piece : List UInt8} (h : piece ∈ pieces bytes) :
    slash ∉ piece := by
  induction bytes generalizing piece with
  | nil =>
    rw [pieces, List.mem_singleton] at h
    simp [h]
  | cons b rest ih =>
    rw [pieces] at h
    by_cases hb : b = slash
    · rw [if_pos hb] at h
      rcases List.mem_cons.mp h with rfl | later
      · exact List.not_mem_nil
      · exact ih later
    · rw [if_neg hb] at h
      cases parts : pieces rest with
      | nil => exact absurd parts (pieces_ne_nil rest)
      | cons first more =>
        rw [parts] at ih h
        rcases List.mem_cons.mp h with rfl | later
        · have inside := ih List.mem_cons_self
          simp [inside, Ne.symm hb]
        · exact ih (List.mem_cons_of_mem first later)

theorem pieces_append_slash (front back : List UInt8) :
    pieces (front ++ slash :: back) = pieces front ++ pieces back := by
  induction front with
  | nil => simp [pieces]
  | cons b front ih =>
    rw [List.cons_append, pieces, pieces, ih]
    by_cases hb : b = slash
    · simp [hb]
    · cases parts : pieces front with
      | nil => exact absurd parts (pieces_ne_nil front)
      | cons first more => simp [hb]

theorem pieces_of_slash_not_mem {piece : List UInt8} (h : slash ∉ piece) :
    pieces piece = [piece] := by
  induction piece with
  | nil => rfl
  | cons b piece ih =>
    rw [List.mem_cons, not_or] at h
    rw [pieces, if_neg (Ne.symm h.1), ih h.2]

theorem joinPieces_cons (piece : List UInt8) {parts : List (List UInt8)} (hne : parts ≠ []) :
    joinPieces (piece :: parts) = piece ++ slash :: joinPieces parts := by
  cases parts with
  | nil => exact absurd rfl hne
  | cons next parts => rfl

theorem joinPieces_append {front back : List (List UInt8)} (hfront : front ≠ [])
    (hback : back ≠ []) :
    joinPieces (front ++ back) = joinPieces front ++ slash :: joinPieces back := by
  induction front with
  | nil => exact absurd rfl hfront
  | cons piece front ih =>
    rw [List.cons_append, joinPieces_cons piece (List.append_ne_nil_of_right_ne_nil front hback)]
    by_cases last : front = []
    · rw [last]
      rfl
    · rw [ih last, joinPieces_cons piece last, List.append_assoc]
      rfl

theorem joinPieces_pieces (bytes : List UInt8) : joinPieces (pieces bytes) = bytes := by
  induction bytes with
  | nil => rfl
  | cons b rest ih =>
    rw [pieces]
    split
    · rename_i hb
      rw [joinPieces_cons [] (pieces_ne_nil rest), ih, hb]
      rfl
    · cases parts : pieces rest with
      | nil => exact absurd parts (pieces_ne_nil rest)
      | cons piece more =>
        rw [parts] at ih
        have joined : joinPieces ((b :: piece) :: more) = b :: joinPieces (piece :: more) := by
          cases more <;> rfl
        rw [joined, ih]

theorem pieces_joinPieces {parts : List (List UInt8)} (hne : parts ≠ [])
    (h : ∀ piece ∈ parts, slash ∉ piece) : pieces (joinPieces parts) = parts := by
  induction parts with
  | nil => exact absurd rfl hne
  | cons piece parts ih =>
    have first := h piece List.mem_cons_self
    cases parts with
    | nil => exact pieces_of_slash_not_mem first
    | cons next parts =>
      have rest := ih (List.cons_ne_nil next parts)
        fun p hp => h p (List.mem_cons_of_mem piece hp)
      rw [joinPieces_cons piece (List.cons_ne_nil next parts), pieces_append_slash,
        pieces_of_slash_not_mem first, rest]
      rfl

end Pieces

section Components

/-- The components behind the one in front that tells absolute paths and those that start with
`.`. -/
def body (p : Path) : List Component := (pieces p.bytes).filterMap component?

/-- How a path is spelled: from the root, from `.`, or neither. -/
inductive Spelling
  | absolute
  | dotted
  | bare
  deriving DecidableEq

def spelling (p : Path) : Spelling :=
  if p.isAbsolute then .absolute
  else if (pieces p.bytes).head? = some [dot] then .dotted
  else .bare

/-- What a spelling puts in front of the components. -/
def Spelling.front : Spelling → List Component
  | absolute => [.root]
  | dotted => [.current]
  | bare => []

theorem components_eq (p : Path) : p.components = p.spelling.front ++ p.body := by
  simp only [components, spelling]
  split
  · rfl
  · split <;> rfl

/-- Neither the root nor `.`. -/
def Plain (c : Component) : Prop := c ≠ .root ∧ c ≠ .current

theorem plain_of_component? {piece : List UInt8} {c : Component} (h : component? piece = some c) :
    Plain c := by
  unfold component? at h
  split_ifs at h <;> cases h <;> simp [Plain]

theorem bytes_of_component? {piece : List UInt8} {c : Component} (h : component? piece = some c) :
    c.bytes = piece := by
  unfold component? at h
  split_ifs at h with empty double
  · cases h
    exact double.symm
  · cases h
    rfl

theorem plain_of_mem_body {p : Path} {c : Component} (h : c ∈ p.body) : Plain c := by
  obtain ⟨piece, -, hc⟩ := List.mem_filterMap.mp h
  exact plain_of_component? hc

/-- The components but for the root and `.`. -/
theorem filter_components (p : Path) :
    (p.components.filter fun c => c != .root && c != .current) = p.body := by
  have front : (p.spelling.front.filter fun c => c != .root && c != .current) = [] := by
    cases p.spelling <;> rfl
  have rest : (p.body.filter fun c => c != .root && c != .current) = p.body := by
    refine List.filter_eq_self.mpr fun c hc => ?_
    have plain := plain_of_mem_body hc
    simp [plain.1, plain.2]
  rw [components_eq, List.filter_append, front, rest, List.nil_append]

/-- The first component tells how a path is spelled. -/
def Spelling.ofHead : Option Component → Spelling
  | some .root => absolute
  | some .current => dotted
  | _ => bare

theorem spelling_eq_ofHead (p : Path) : p.spelling = .ofHead p.components.head? := by
  rw [components_eq]
  cases p.spelling with
  | absolute => rfl
  | dotted => rfl
  | bare =>
    cases rest : p.body with
    | nil => rfl
    | cons c cs =>
      have plain := plain_of_mem_body (rest ▸ List.mem_cons_self : c ∈ p.body)
      cases c with
      | root => exact absurd rfl plain.1
      | current => exact absurd rfl plain.2
      | parent => rfl
      | normal name => rfl

theorem same_iff_components {p q : Path} : p.same q = true ↔ p.components = q.components := by
  rw [same, decide_eq_true_eq]

theorem same_refl (p : Path) : p.same p = true :=
  same_iff_components.mpr rfl

theorem same_iff {p q : Path} :
    p.same q = true ↔ p.spelling = q.spelling ∧ p.body = q.body := by
  rw [same_iff_components]
  constructor
  · intro h
    rw [spelling_eq_ofHead, spelling_eq_ofHead, ← filter_components, ← filter_components, h]
    exact ⟨rfl, rfl⟩
  · rintro ⟨spelled, rest⟩
    rw [components_eq, components_eq, spelled, rest]

end Components

section Join

variable {p q : Path}

theorem join_of_empty (hp : p.bytes = []) (q : Path) : p.join q = q := by
  unfold join
  rw [hp]
  simp

theorem bytes_join (p : Path) {q : Path} (hq : q.isAbsolute = false) :
    ∃ more, (p.join q).bytes = p.bytes ++ more := by
  unfold join
  rw [hq, if_neg Bool.false_ne_true]
  split
  · exact ⟨q.bytes, rfl⟩
  · exact ⟨slash :: q.bytes, rfl⟩

/-- What is appended brings its own pieces; a slash at the end of what it is appended to opens no
piece then. -/
theorem pieces_join (hp : p.bytes ≠ []) (hq : q.isAbsolute = false) :
    ∃ front, front ≠ [] ∧ pieces (p.join q).bytes = front ++ pieces q.bytes ∧
      (pieces p.bytes = front ∨ pieces p.bytes = front ++ [[]]) := by
  unfold join
  rw [hq, if_neg Bool.false_ne_true]
  by_cases closed : p.bytes.getLast? = some slash
  · obtain ⟨front, hfront⟩ := List.getLast?_eq_some_iff.mp closed
    refine ⟨pieces front, pieces_ne_nil front, ?_, .inr ?_⟩
    · rw [if_pos (by simp [closed]), hfront, List.append_assoc]
      exact pieces_append_slash front q.bytes
    · rw [hfront]
      exact pieces_append_slash front []
  · refine ⟨pieces p.bytes, pieces_ne_nil p.bytes, ?_, .inl rfl⟩
    rw [if_neg (by simp [closed, hp])]
    exact pieces_append_slash p.bytes q.bytes

/-- Behind a path that is not empty, what is appended does not change how it is spelled. -/
theorem spelling_join (hp : p.bytes ≠ []) (hq : q.isAbsolute = false) :
    (p.join q).spelling = p.spelling := by
  obtain ⟨more, bytes⟩ := bytes_join p hq
  obtain ⟨front, hne, joined, alone⟩ := pieces_join hp hq
  have absolute : (p.join q).isAbsolute = p.isAbsolute := by
    rw [isAbsolute, isAbsolute, bytes, List.head?_append_of_ne_nil _ hp]
  have first : (pieces (p.join q).bytes).head? = (pieces p.bytes).head? := by
    rw [joined, List.head?_append_of_ne_nil _ hne]
    rcases alone with alone | alone
    · rw [alone]
    · rw [alone, List.head?_append_of_ne_nil _ hne]
  rw [spelling, spelling, absolute, first]

/-- A slash at the end of a path opens a piece that does not count. -/
theorem body_of_pieces {front : List (List UInt8)}
    (alone : pieces p.bytes = front ∨ pieces p.bytes = front ++ [[]]) :
    p.body = front.filterMap component? := by
  rw [body]
  rcases alone with alone | alone
  · rw [alone]
  · rw [alone, List.filterMap_append]
    simp [component?]

theorem body_join (p : Path) {q : Path} (hq : q.isAbsolute = false) :
    (p.join q).body = p.body ++ q.body := by
  by_cases hp : p.bytes = []
  · have none : p.body = [] := by simp [body, hp, pieces, component?]
    rw [join_of_empty hp, none, List.nil_append]
  · obtain ⟨front, -, joined, alone⟩ := pieces_join hp hq
    rw [body, joined, List.filterMap_append, body_of_pieces alone]
    rfl

/-- Components that a path can have behind the first: the bytes of each are one piece that stands
for it. -/
def Wellformed (c : Component) : Prop := slash ∉ c.bytes ∧ component? c.bytes = some c

instance {c : Component} : Decidable (Wellformed c) := inferInstanceAs (Decidable (_ ∧ _))

theorem Wellformed.bytes_ne_nil {c : Component} (h : Wellformed c) : c.bytes ≠ [] := by
  intro empty
  have read := h.2
  rw [empty] at read
  cases read

theorem wellformed_of_mem_body {c : Component} (h : c ∈ p.body) : Wellformed c := by
  obtain ⟨piece, hpiece, hc⟩ := List.mem_filterMap.mp h
  have inside := slash_not_mem_of_mem_pieces hpiece
  rw [Wellformed, bytes_of_component? hc]
  exact ⟨inside, hc⟩

theorem body_of_wellformed {c : Component} (h : Wellformed c) : body ⟨c.bytes⟩ = [c] := by
  rw [body, pieces_of_slash_not_mem h.1]
  simp [h.2]

theorem isAbsolute_of_slash_not_mem {bytes : List UInt8} (h : slash ∉ bytes) :
    isAbsolute ⟨bytes⟩ = false := by
  cases bytes with
  | nil => rfl
  | cons b bytes =>
    rw [List.mem_cons, not_or] at h
    simp [isAbsolute, Ne.symm h.1]

theorem body_foldl_join {cs : List Component} (h : ∀ c ∈ cs, Wellformed c) (p : Path) :
    (cs.foldl (fun p c => p.join ⟨c.bytes⟩) p).body = p.body ++ cs := by
  induction cs generalizing p with
  | nil => rw [List.foldl_nil, List.append_nil]
  | cons c cs ih =>
    have first := h c List.mem_cons_self
    have relative := isAbsolute_of_slash_not_mem first.1
    rw [List.foldl_cons, ih fun d hd => h d (List.mem_cons_of_mem c hd), body_join p relative,
      body_of_wellformed first, List.append_assoc, List.singleton_append]

theorem spelling_foldl_join {cs : List Component} (h : ∀ c ∈ cs, Wellformed c) (hp : p.bytes ≠ []) :
    (cs.foldl (fun p c => p.join ⟨c.bytes⟩) p).spelling = p.spelling := by
  induction cs generalizing p with
  | nil => rfl
  | cons c cs ih =>
    have first := h c List.mem_cons_self
    have relative := isAbsolute_of_slash_not_mem first.1
    obtain ⟨more, bytes⟩ := bytes_join p relative
    have next : (p.join ⟨c.bytes⟩).bytes ≠ [] := by simp [bytes, hp]
    rw [List.foldl_cons, ih (fun d hd => h d (List.mem_cons_of_mem c hd)) next,
      spelling_join hp relative]

theorem spelling_of_wellformed {c : Component} (h : Wellformed c) :
    spelling ⟨c.bytes⟩ = .bare := by
  have relative := isAbsolute_of_slash_not_mem h.1
  have other : c.bytes ≠ [dot] := by
    intro hc
    have read := h.2
    rw [hc] at read
    cases read
  simp [spelling, relative, pieces_of_slash_not_mem h.1, other]

theorem ofComponents_relative {cs : List Component} (h : ∀ c ∈ cs, Wellformed c) :
    (ofComponents cs).spelling = .bare ∧ (ofComponents cs).body = cs := by
  refine ⟨?_, body_foldl_join h ⟨[]⟩⟩
  cases cs with
  | nil => rfl
  | cons c cs =>
    have first := h c List.mem_cons_self
    have rest := spelling_foldl_join (p := ⟨c.bytes⟩)
      (fun d hd => h d (List.mem_cons_of_mem c hd)) first.bytes_ne_nil
    have start : ofComponents (c :: cs) =
        cs.foldl (fun p c => p.join ⟨c.bytes⟩) ⟨c.bytes⟩ := by
      rw [ofComponents, List.foldl_cons, join_of_empty rfl]
    rw [start, rest, spelling_of_wellformed first]

theorem ofComponents_absolute {cs : List Component} (h : ∀ c ∈ cs, Wellformed c) :
    (ofComponents (.root :: cs)).spelling = .absolute ∧ (ofComponents (.root :: cs)).body = cs := by
  have root : ofComponents (.root :: cs) =
      cs.foldl (fun p c => p.join ⟨c.bytes⟩) ⟨[slash]⟩ := rfl
  rw [root]
  exact ⟨spelling_foldl_join h (List.cons_ne_nil _ _), body_foldl_join h ⟨[slash]⟩⟩

end Join

section Strip

theorem filterMap_trimFront (parts : List (List UInt8)) :
    (trimFront parts).filterMap component? = parts.filterMap component? := by
  induction parts with
  | nil => rfl
  | cons piece parts ih =>
    rw [trimFront]
    cases h : component? piece with
    | none => simp [h, ih]
    | some c => simp [h]

theorem filterMap_dropPieces (n : Nat) (parts : List (List UInt8)) :
    (dropPieces n parts).filterMap component? = (parts.filterMap component?).drop n := by
  induction parts generalizing n with
  | nil => cases n <;> simp [dropPieces]
  | cons piece parts ih =>
    cases n with
    | zero => rfl
    | succ n =>
      rw [dropPieces]
      cases h : component? piece with
      | none => simp [h, ih]
      | some c => simp [h, ih]

theorem trimFront_suffix (parts : List (List UInt8)) : trimFront parts <:+ parts := by
  induction parts with
  | nil => exact List.suffix_refl _
  | cons piece parts ih =>
    rw [trimFront]
    split
    · exact ih.trans (List.suffix_cons piece parts)
    · exact List.suffix_refl _

theorem dropPieces_suffix (n : Nat) (parts : List (List UInt8)) : dropPieces n parts <:+ parts := by
  induction parts generalizing n with
  | nil => cases n <;> exact List.suffix_refl _
  | cons piece parts ih =>
    cases n with
    | zero => exact List.suffix_refl _
    | succ n =>
      rw [dropPieces]
      split <;> exact (ih _).trans (List.suffix_cons piece parts)

/-- What is left is trimmed at both ends. -/
def trimmed (parts : List (List UInt8)) : List (List UInt8) :=
  (trimFront (trimFront parts).reverse).reverse

theorem stripPrefix?_eq (p base : Path) :
    p.stripPrefix? base =
      if base.components = [] then some p
      else if base.components.isPrefixOf p.components then
        some ⟨joinPieces (trimmed (dropPieces base.body.length (pieces p.bytes)))⟩
      else none := by
  rw [stripPrefix?, filter_components]
  rfl

theorem filterMap_trimmed (parts : List (List UInt8)) :
    (trimmed parts).filterMap component? = parts.filterMap component? := by
  rw [trimmed, List.filterMap_reverse, filterMap_trimFront, ← List.filterMap_reverse,
    List.reverse_reverse, filterMap_trimFront]

theorem component?_isSome_of_head?_trimFront {parts : List (List UInt8)} :
    ∀ piece ∈ (trimFront parts).head?, (component? piece).isSome = true := by
  induction parts with
  | nil => simp [trimFront]
  | cons first parts ih =>
    rw [trimFront]
    cases h : component? first with
    | none => simpa using ih
    | some c => simp [h]

theorem trimmed_isPrefix (parts : List (List UInt8)) : trimmed parts <+: trimFront parts := by
  have back := trimFront_suffix (trimFront parts).reverse
  rwa [← List.reverse_prefix, List.reverse_reverse] at back

theorem head?_trimmed {parts : List (List UInt8)} {piece : List UInt8}
    (h : (trimmed parts).head? = some piece) : (component? piece).isSome = true := by
  obtain ⟨more, text⟩ := trimmed_isPrefix parts
  have head : (trimFront parts).head? = some piece := by
    rw [← text, List.head?_append, h]
    rfl
  exact component?_isSome_of_head?_trimFront piece head

theorem head?_pieces_of_isAbsolute {p : Path} (h : p.isAbsolute = true) :
    (pieces p.bytes).head? = some [] := by
  unfold isAbsolute at h
  cases bytes : p.bytes with
  | nil => simp [bytes] at h
  | cons b rest =>
    obtain rfl : b = slash := by simpa [bytes] using h
    simp [pieces]

theorem spelling_of_head?_pieces {p : Path}
    (h : ∀ piece ∈ (pieces p.bytes).head?, (component? piece).isSome = true) :
    p.spelling = .bare := by
  have relative : ¬p.isAbsolute = true := by
    intro absolute
    have empty := h [] (head?_pieces_of_isAbsolute absolute)
    simp [component?] at empty
  have other : ¬(pieces p.bytes).head? = some [dot] := by
    intro dotted
    have current := h [dot] dotted
    simp [component?] at current
  rw [spelling, if_neg relative, if_neg other]

/-- What is left of a path names the components that were not dropped, and these alone. -/
theorem joinPieces_trimmed {parts : List (List UInt8)} (h : ∀ piece ∈ parts, slash ∉ piece) :
    spelling ⟨joinPieces (trimmed parts)⟩ = .bare ∧
      body ⟨joinPieces (trimmed parts)⟩ = parts.filterMap component? := by
  have inside : ∀ piece ∈ trimmed parts, slash ∉ piece := by
    intro piece hpiece
    exact h piece ((trimFront_suffix parts).subset ((trimmed_isPrefix parts).subset hpiece))
  have names := filterMap_trimmed parts
  by_cases none : trimmed parts = []
  · rw [none] at names ⊢
    exact ⟨rfl, names⟩
  · have joined := pieces_joinPieces none inside
    refine ⟨spelling_of_head?_pieces ?_, ?_⟩
    · rw [joined]
      exact fun piece hpiece => head?_trimmed hpiece
    · rw [body, joined, names]

end Strip

end Linting.Path
