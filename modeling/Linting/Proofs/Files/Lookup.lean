import Linting.Files.FileSystem

/-! What looking up a path gives: the node at the end of its real path. So whatever is read is the
content of a file in the tree. -/

namespace Linting

theorem Node.descend?_concat (n : Node) (names : List FileName) (name : FileName) :
    n.descend? (names ++ [name]) = (n.descend? names).bind fun parent => parent.child? name := by
  induction names generalizing n with
  | nil => simp only [List.nil_append, descend?, Option.bind_some, Option.bind_fun_some]
  | cons first names ih => simp only [List.cons_append, descend?, ih, Option.bind_assoc]

/-- What passes from a directory to its entries passes to everything below it. -/
theorem Node.descend?_induction {P : Node → Prop}
    (step : ∀ entries, P (dir entries) → ∀ entry ∈ entries, P entry.2) {n node : Node} (h : P n)
    {names : List FileName} (descended : n.descend? names = some node) : P node := by
  induction names generalizing n with
  | nil =>
    cases descended
    exact h
  | cons name names ih =>
    obtain ⟨child, hchild, further⟩ := Option.bind_eq_some_iff.mp descended
    obtain ⟨entry, hentry, rfl⟩ := Option.map_eq_some_iff.mp hchild
    have member := List.mem_of_find?_eq_some hentry
    cases n with
    | file bytes => cases member
    | link target => cases member
    | dir entries => exact ih (step entries h entry member) further

/-- Below a directory of files there is nothing but these. -/
theorem Node.exists_entry_of_descend? {entries : List (FileName × Node)}
    (hfiles : ∀ entry ∈ entries, entry.2.isFile = true) {names : List FileName}
    {bytes : List UInt8} (h : (dir entries).descend? names = some (.file bytes)) :
    ∃ entry ∈ entries, entry.2 = .file bytes := by
  cases names with
  | nil => cases h
  | cons name rest =>
    obtain ⟨child, hchild, hrest⟩ := Option.bind_eq_some_iff.mp h
    obtain ⟨entry, hentry, rfl⟩ := Option.map_eq_some_iff.mp hchild
    have hmem : entry ∈ entries := List.mem_of_find?_eq_some hentry
    have hfile := hfiles entry hmem
    refine ⟨entry, hmem, ?_⟩
    cases hnode : entry.2 with
    | file content =>
      rw [hnode] at hrest
      cases rest with
      | nil => exact Option.some.inj hrest
      | cons next more => cases hrest
    | dir entries =>
      rw [hnode] at hfile
      cases hfile
    | link target =>
      rw [hnode] at hfile
      cases hfile

namespace FileSystem

variable {fs : FileSystem}

theorem descend?_of_resolveFrom {follow : Bool} {links : Nat} {names pieces found : List FileName}
    {node : Node} (h : fs.resolveFrom follow links names pieces = .ok (.present found node)) :
    fs.root.descend? found = some node := by
  fun_induction resolveFrom fs follow links names pieces with
  | case1 links names child hchild =>
    -- the path has come to its end
    cases h
    exact hchild
  | case10 links names piece rest parent hparent _ _ _ _ target hlink _ =>
    -- a link in the last place is not followed
    cases h
    rw [Node.descend?_concat, hparent]
    exact hlink
  | case5 | case6 | case12 | case13 =>
    rename_i ih
    exact ih h
  | _ => cases h

theorem descend?_of_find {follow : Bool} {p : Path} {names : List FileName} {node : Node}
    (h : fs.find follow p = .ok (names, node)) : fs.root.descend? names = some node := by
  unfold find at h
  split at h
  · rename_i hresolve
    cases h
    unfold resolve at hresolve
    split at hresolve
    · cases hresolve
    · split at hresolve
      · cases hresolve
      · exact descend?_of_resolveFrom hresolve
  · cases h
  · cases h

/-- What is read is the text of some file. -/
theorem exists_file_of_readText {p : Path} {text : List Char} (h : fs.readText p = .ok text) :
    ∃ names bytes, fs.root.descend? names = some (.file bytes) ∧
      Text.decode? bytes = some text := by
  unfold readText readBytes at h
  cases hfind : fs.find true p with
  | error e =>
    rw [hfind] at h
    cases h
  | ok found =>
    obtain ⟨names, node⟩ := found
    rw [hfind] at h
    cases node with
    | file bytes =>
      refine ⟨names, bytes, descend?_of_find hfind, ?_⟩
      cases hdecode : Text.decode? bytes with
      | none =>
        simp only [bind, Except.bind, hdecode] at h
        cases h
      | some read =>
        simp only [bind, Except.bind, hdecode] at h
        cases h
        rfl
    | dir entries => cases h
    | link target => cases h

end FileSystem

end Linting
