import Linting.Proofs.Files.Filters
import Linting.Proofs.Files.Spelling
import Linting.Proofs.Glob.Rests

/-! What a filter decides, in terms of the patterns that it was made from. Which patterns there are
is all that counts, and what lies in a directory of the version control is never taken. -/

namespace Linting

namespace Path

def gitName : List UInt8 := [0x2E, 0x67, 0x69, 0x74]

/-- Something lies in a directory of the version control. -/
def InGit (p : Path) : Prop :=
  ∃ before after, p.components = before ++ .normal gitName :: after ∧ after ≠ []

variable {p : Path}

theorem inGit_iff_body :
    p.InGit ↔ ∃ before after, p.body = before ++ .normal gitName :: after ∧ after ≠ [] := by
  unfold InGit
  rw [components_eq]
  constructor
  · rintro ⟨before, after, split, more⟩
    cases spelled : p.spelling with
    | bare => exact ⟨before, after, by simpa [spelled, Spelling.front] using split, more⟩
    | absolute | dotted =>
      cases before with
      | nil => simp [spelled, Spelling.front] at split
      | cons first before =>
        rw [spelled] at split
        exact ⟨before, after, (List.cons.inj split).2, more⟩
  · rintro ⟨before, after, split, more⟩
    exact ⟨p.spelling.front ++ before, after, by rw [split, List.append_assoc], more⟩

/-- The name stands at the start or behind a slash, and a slash stands behind it. -/
theorem InGit.exists_behind (h : p.InGit) :
    ∃ back, gitName ++ slash :: back ∈ p.bytes :: Glob.afterSlashes p.bytes := by
  obtain ⟨before, after, split, more⟩ := inGit_iff_body.mp h
  obtain ⟨front, others, parts, -, rest⟩ := List.filterMap_eq_append_iff.mp split
  obtain ⟨blanks, piece, back, rfl, -, named, rfl⟩ := List.filterMap_eq_cons_iff.mp rest
  have name : gitName = piece := bytes_of_component? named
  have last : back ≠ [] := by
    rintro rfl
    exact more rfl
  refine ⟨joinPieces back, ?_⟩
  rw [← joinPieces_pieces p.bytes, parts, ← List.append_assoc, ← name]
  by_cases start : front ++ blanks = []
  · rw [start, List.nil_append, joinPieces_cons gitName last]
    exact List.mem_cons_self
  · rw [joinPieces_append start (List.cons_ne_nil gitName back), joinPieces_cons gitName last]
    exact List.mem_cons_of_mem _ (Glob.mem_afterSlashes _ _)

end Path

namespace FileFilter

open Linting.Path

theorem covers_gitGlob {bytes back : List UInt8}
    (h : gitName ++ slash :: back ∈ bytes :: Glob.afterSlashes bytes) :
    gitGlob.covers bytes = true := by
  have first : gitName ++ slash :: back ∈
      Glob.Token.rests .filter bytes .recursivePrefix := by
    simpa [Glob.Token.rests] using h
  have behindName : Glob.Leaves .filter [.recursiveSuffix] (slash :: back) [] :=
    .cons (by simp [Glob.Token.rests, Glob.afterByte, slash, Glob.slash, Glob.nil_mem_suffixes])
      (.nil [])
  have behindStars : Glob.Leaves .filter gitGlob.tokens.tail (gitName ++ slash :: back) [] :=
    .literal '.' (.literal 'g' (.literal 'i' (.literal 't' behindName)))
  exact Glob.covers_iff.mpr (.inr (.cons first behindStars))

theorem isMatch_gitGlob {p : Path} (h : p.InGit) : gitGlob.isMatch p.bytes = true := by
  obtain ⟨back, behind⟩ := h.exists_behind
  -- the pattern asks for no name of a file, so a path that ends in `..` is no exception
  have unnamed : Glob.namesFile gitGlob.dialect gitGlob.tokens = false := rfl
  rw [Glob.isMatch, covers_gitGlob behind, unnamed, Bool.and_false]
  rfl

/-- Some pattern of a list matches a path. -/
def SomeMatches (patterns : List String) (p : Path) : Prop :=
  ∃ pattern ∈ patterns, ∃ glob, Glob.compile pattern .filter = .ok glob ∧
    glob.isMatch p.bytes = true

/-- The patterns to include take a path. Without any they take all. -/
def Includes (included : List String) (p : Path) : Prop := included = [] ∨ SomeMatches included p

/-- The patterns to exclude reject a path; one that is not in their list is always among them. -/
def Excludes (excluded : List String) (p : Path) : Prop :=
  SomeMatches excluded p ∨ SomeMatches [alwaysExcluded] p

theorem any_compileAll {patterns : List String} {globs : List Glob}
    (h : compileAll patterns = .ok globs) (p : Path) :
    (globs.any fun glob => glob.isMatch p.bytes) = true ↔ SomeMatches patterns p := by
  rw [List.any_eq_true]
  constructor
  · rintro ⟨glob, hglob, hit⟩
    obtain ⟨pattern, hpattern, compiled⟩ := (mem_compileAll h).mp hglob
    exact ⟨pattern, hpattern, glob, compiled, hit⟩
  · rintro ⟨pattern, hpattern, glob, compiled, hit⟩
    exact ⟨glob, (mem_compileAll h).mpr ⟨pattern, hpattern, compiled⟩, hit⟩

theorem someMatches_append {front back : List String} {p : Path} :
    SomeMatches (front ++ back) p ↔ SomeMatches front p ∨ SomeMatches back p := by
  simp only [SomeMatches, List.mem_append, or_and_right, exists_or]

theorem SomeMatches.mono {some more : List String} (sub : ∀ s ∈ some, s ∈ more) {p : Path}
    (h : SomeMatches some p) : SomeMatches more p := by
  obtain ⟨pattern, hpattern, matching⟩ := h
  exact ⟨pattern, sub pattern hpattern, matching⟩

section Decisions

variable {included excluded : List String} {f : FileFilter} {p : Path}

theorem excluded_any_iff (h : ofPatterns included excluded = .ok f) (p : Path) :
    (f.excluded.any fun glob => glob.isMatch p.bytes) = true ↔ Excludes excluded p := by
  rw [any_compileAll (ofPatterns_eq_ok_iff.mp h).2, someMatches_append]
  rfl

theorem included_any_iff (h : ofPatterns included excluded = .ok f) (p : Path) :
    (f.included.any fun globs => !globs.any fun glob => glob.isMatch p.bytes) = true ↔
      ¬Includes included p := by
  rcases (ofPatterns_eq_ok_iff.mp h).1 with ⟨rfl, none⟩ | ⟨nonempty, globs, compiled, some⟩
  · simp [none, Includes]
  · rw [some, Option.any_some, Bool.not_eq_true', ← Bool.not_eq_true, any_compileAll compiled,
      Includes, or_iff_right nonempty]

theorem check_cases (h : ofPatterns included excluded = .ok f) (p : Path) :
    (¬Includes included p ∧ f.check p = some .notIncluded) ∨
      (Includes included p ∧ Excludes excluded p ∧ f.check p = some .excluded) ∨
      (Includes included p ∧ ¬Excludes excluded p ∧ f.check p = none) := by
  rw [check]
  split
  · rename_i refused
    exact .inl ⟨(included_any_iff h p).mp refused, rfl⟩
  · rename_i taken
    have taken := not_not.mp (mt (included_any_iff h p).mpr taken)
    split
    · rename_i rejected
      exact .inr (.inl ⟨taken, (excluded_any_iff h p).mp rejected, rfl⟩)
    · rename_i kept
      exact .inr (.inr ⟨taken, mt (excluded_any_iff h p).mpr kept, rfl⟩)

theorem check_eq_none_iff (h : ofPatterns included excluded = .ok f) :
    f.check p = none ↔ Includes included p ∧ ¬Excludes excluded p := by
  rcases check_cases h p with ⟨no, eq⟩ | ⟨yes, out, eq⟩ | ⟨yes, kept, eq⟩ <;> simp [*]

theorem check_eq_notIncluded_iff (h : ofPatterns included excluded = .ok f) :
    f.check p = some .notIncluded ↔ ¬Includes included p := by
  rcases check_cases h p with ⟨no, eq⟩ | ⟨yes, out, eq⟩ | ⟨yes, kept, eq⟩ <;> simp [*]

theorem check_eq_excluded_iff (h : ofPatterns included excluded = .ok f) :
    f.check p = some .excluded ↔ Includes included p ∧ Excludes excluded p := by
  rcases check_cases h p with ⟨no, eq⟩ | ⟨yes, out, eq⟩ | ⟨yes, kept, eq⟩ <;> simp [*]

theorem isExcluded_iff (h : ofPatterns included excluded = .ok f) (cwd p : Path) :
    f.isExcluded cwd p = true ↔ Excludes excluded (matchablePath cwd p) :=
  excluded_any_iff h (matchablePath cwd p)

end Decisions

section Lists

variable {included excluded others more : List String} {f g : FileFilter}

theorem Excludes.mono (sub : ∀ s ∈ excluded, s ∈ more) {p : Path} (h : Excludes excluded p) :
    Excludes more p :=
  h.imp_left fun some => some.mono sub

theorem Includes.mono (sub : ∀ s ∈ included, s ∈ more) (nonempty : included ≠ []) {p : Path}
    (h : Includes included p) : Includes more p :=
  .inr ((h.resolve_left nonempty).mono sub)

theorem excludes_congr (same : ∀ s, s ∈ more ↔ s ∈ excluded) (p : Path) :
    Excludes more p ↔ Excludes excluded p :=
  ⟨.mono fun s => (same s).mp, .mono fun s => (same s).mpr⟩

theorem includes_congr (same : ∀ s, s ∈ more ↔ s ∈ included) (p : Path) :
    Includes more p ↔ Includes included p := by
  have empty : more = [] ↔ included = [] := by
    simp only [List.eq_nil_iff_forall_not_mem, same]
  exact or_congr empty ⟨.mono fun s => (same s).mp, .mono fun s => (same s).mpr⟩

theorem isExcluded_congr (hf : ofPatterns included excluded = .ok f)
    (hg : ofPatterns others more = .ok g) (same : ∀ s, s ∈ more ↔ s ∈ excluded) :
    g.isExcluded = f.isExcluded := by
  funext cwd p
  rw [Bool.eq_iff_iff, isExcluded_iff hf, isExcluded_iff hg, excludes_congr same]

theorem check_congr (hf : ofPatterns included excluded = .ok f)
    (hg : ofPatterns others more = .ok g) (sameIncluded : ∀ s, s ∈ others ↔ s ∈ included)
    (sameExcluded : ∀ s, s ∈ more ↔ s ∈ excluded) : g.check = f.check := by
  funext p
  have taken := includes_congr sameIncluded p
  have rejected := excludes_congr sameExcluded p
  rcases check_cases hf p with ⟨no, eq⟩ | ⟨yes, out, eq⟩ | ⟨yes, kept, eq⟩
  · rw [eq, check_eq_notIncluded_iff hg, taken]
    exact no
  · rw [eq, check_eq_excluded_iff hg, taken, rejected]
    exact ⟨yes, out⟩
  · rw [eq, check_eq_none_iff hg, taken, rejected]
    exact ⟨yes, kept⟩

end Lists

theorem excludes_of_inGit {p : Path} (h : p.InGit) (excluded : List String) : Excludes excluded p :=
  .inr ⟨alwaysExcluded, List.mem_singleton_self _, gitGlob, compile_alwaysExcluded,
    isMatch_gitGlob h⟩

theorem inGit_matchablePath {p : Path} (h : p.InGit) (relative : p.isAbsolute = false)
    (cwd : Path) : (matchablePath cwd p).InGit := by
  rw [Path.InGit, components_matchablePath_of_relative cwd relative]
  exact inGit_iff_body.mp h

/-- What a filter made from two lists of patterns does. -/
structure Obeys (f : FileFilter) (included excluded : List String) : Prop where
  /-- A path is taken when a pattern includes it, or there is none to include by, and none
  excludes it. -/
  taken : ∀ p, f.check p = none ↔ Includes included p ∧ ¬Excludes excluded p
  /-- That a path is not included is told whether or not it is excluded, too. -/
  notIncluded : ∀ p, f.check p = some .notIncluded ↔ ¬Includes included p
  rejected : ∀ p, f.check p = some .excluded ↔ Includes included p ∧ Excludes excluded p
  named : ∀ cwd p, f.isExcluded cwd p = true ↔ Excludes excluded (matchablePath cwd p)
  /-- Files that are named are excluded by the second list alone. -/
  includedAside : ∀ {others g}, ofPatterns others excluded = .ok g → g.isExcluded = f.isExcluded
  /-- Neither the order of patterns counts nor how often there is one. -/
  unordered : ∀ {others more}, (∀ s, s ∈ others ↔ s ∈ included) → (∀ s, s ∈ more ↔ s ∈ excluded) →
    ∃ g, ofPatterns others more = .ok g ∧ g.check = f.check ∧ g.isExcluded = f.isExcluded
  /-- More patterns to exclude take no path that was passed over. -/
  moreExcluded : ∀ {more g}, (∀ s ∈ excluded, s ∈ more) → ofPatterns included more = .ok g →
    ∀ p, f.check p ≠ none → g.check p ≠ none
  /-- More patterns to include pass over no path that was taken. -/
  moreIncluded : ∀ {more g}, included ≠ [] → (∀ s ∈ included, s ∈ more) →
    ofPatterns more excluded = .ok g → ∀ p, f.check p = none → g.check p = none
  /-- The first patterns to include take no path that was passed over. -/
  firstIncluded : ∀ {more g}, included = [] → ofPatterns more excluded = .ok g →
    ∀ p, f.check p ≠ none → g.check p ≠ none
  /-- What lies in a directory of the version control is never taken. -/
  inGit : ∀ p, p.InGit → f.check p ≠ none ∧
    ∀ cwd, p.isAbsolute = false → f.isExcluded cwd p = true

/-- Making a filter fails exactly when a pattern cannot be read, for the first of these, and a
filter that is made obeys its lists. -/
theorem ofPatterns_obeys (included excluded : List String) :
    (∀ bad, ofPatterns included excluded = .error bad ↔
      IsFirstBad (included ++ excluded) bad) ∧
    ((∃ f, ofPatterns included excluded = .ok f) ↔
      ∀ p ∈ included ++ excluded, ∃ glob, Glob.compile p .filter = .ok glob) ∧
    ∀ f, ofPatterns included excluded = .ok f → f.Obeys included excluded := by
  refine ⟨fun bad => ofPatterns_eq_error_iff, exists_ofPatterns_iff, fun f hf => ?_⟩
  exact {
    taken := fun p => check_eq_none_iff hf
    notIncluded := fun p => check_eq_notIncluded_iff hf
    rejected := fun p => check_eq_excluded_iff hf
    named := isExcluded_iff hf
    includedAside := fun hg => isExcluded_congr hf hg fun s => Iff.rfl
    unordered := fun {others more} sameIncluded sameExcluded => by
      have readable := exists_ofPatterns_iff.mp ⟨f, hf⟩
      obtain ⟨g, hg⟩ : ∃ g, ofPatterns others more = .ok g := by
        refine exists_ofPatterns_iff.mpr fun p hp => readable p ?_
        simpa [sameIncluded, sameExcluded] using hp
      exact ⟨g, hg, check_congr hf hg sameIncluded sameExcluded,
        isExcluded_congr hf hg sameExcluded⟩
    moreExcluded := fun sub hg p => by
      rw [Ne, Ne, check_eq_none_iff hf, check_eq_none_iff hg]
      exact mt fun ⟨yes, kept⟩ => ⟨yes, fun out => kept (out.mono sub)⟩
    moreIncluded := fun nonempty sub hg p => by
      rw [check_eq_none_iff hf, check_eq_none_iff hg]
      exact fun ⟨yes, kept⟩ => ⟨yes.mono sub nonempty, kept⟩
    firstIncluded := fun empty hg p => by
      rw [Ne, Ne, check_eq_none_iff hf, check_eq_none_iff hg]
      exact mt fun ⟨_, kept⟩ => ⟨.inl empty, kept⟩
    inGit := fun p inside => by
      refine ⟨?_, fun cwd relative => ?_⟩
      · rw [Ne, check_eq_none_iff hf]
        exact fun ⟨_, kept⟩ => kept (excludes_of_inGit inside excluded)
      · rw [isExcluded_iff hf]
        exact excludes_of_inGit (inGit_matchablePath inside relative cwd) excluded }

/-- A filter that takes style sheets but for those in one directory, and none that the version
control keeps. -/
theorem ofPatterns_obeys_styleSheets :
    ∃ f, ofPatterns ["*.scss"] ["vendor/*"] = .ok f ∧
      f.check (.ofString "vendor/a.scss") = some .excluded ∧
      f.check (.ofString "./.git/a.scss") ≠ none ∧
      f.isExcluded (.ofString "/w") (.ofString "./.git/a.scss") = true := by
  obtain ⟨-, readable, made⟩ := ofPatterns_obeys ["*.scss"] ["vendor/*"]
  obtain ⟨f, hf⟩ := readable.mpr <| List.forall_mem_cons.mpr
    ⟨⟨_, rfl⟩, List.forall_mem_singleton.mpr ⟨_, rfl⟩⟩
  have obeys := made f hf
  let sheets : Glob := ⟨"*.scss", .filter, .zeroOrMore :: ".scss".toList.map .literal⟩
  let vendor : Glob := ⟨"vendor/*", .filter, "vendor/".toList.map .literal ++ [.zeroOrMore]⟩
  have sheet : Includes ["*.scss"] (.ofString "vendor/a.scss") :=
    .inr ⟨"*.scss", List.mem_singleton_self _, sheets, rfl, by cbv⟩
  have vendored : Excludes ["vendor/*"] (.ofString "vendor/a.scss") :=
    .inl ⟨"vendor/*", List.mem_singleton_self _, vendor, rfl, by cbv⟩
  have inside : (Path.ofString "./.git/a.scss").InGit :=
    ⟨[.current], [.normal (Text.encode "a.scss".toList)], by decide, by simp⟩
  obtain ⟨passedOver, named⟩ := obeys.inGit _ inside
  exact ⟨f, hf, (obeys.rejected _).mpr ⟨sheet, vendored⟩, passedOver, named _ rfl⟩

end FileFilter

end Linting
