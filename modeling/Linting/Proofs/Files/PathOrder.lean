import Linting.Path

/-! The order of paths. It is total, and paths that it does not tell apart have the same
components. -/

namespace Linting

theorem compareBytes_eq_compareLex : compareBytes = List.compareLex compare := by
  funext as bs
  induction as generalizing bs with
  | nil => cases bs <;> rfl
  | cons a as ih =>
    cases bs with
    | nil => rfl
    | cons b bs => rw [compareBytes, List.compareLex_cons_cons, ih]

instance : Std.TransCmp compareBytes := by
  rw [compareBytes_eq_compareLex]
  infer_instance

instance : Std.LawfulEqCmp compareBytes := by
  rw [compareBytes_eq_compareLex]
  infer_instance

namespace Component

/-- Bytes in whose order components are. -/
def key : Component → List UInt8
  | root => [0]
  | current => [1]
  | parent => [2]
  | normal name => 3 :: name

theorem cmp_eq_compareBytes (a b : Component) : a.cmp b = compareBytes a.key b.key := by
  cases a <;> cases b <;> rfl

theorem key_injective {a b : Component} (h : a.key = b.key) : a = b := by
  cases a <;> cases b <;> simp_all [key]

instance : Std.TransCmp cmp where
  eq_swap := by
    simp only [cmp_eq_compareBytes]
    exact Std.OrientedCmp.eq_swap
  isLE_trans := by
    simp only [cmp_eq_compareBytes]
    exact Std.TransCmp.isLE_trans

instance : Std.LawfulEqCmp cmp where
  compare_self := by
    simp only [cmp_eq_compareBytes]
    exact Std.ReflCmp.compare_self
  eq_of_compare h := key_injective (Std.LawfulEqCmp.eq_of_compare (cmp_eq_compareBytes _ _ ▸ h))

theorem cmpAll_eq_compareLex : cmpAll = List.compareLex cmp := by
  funext as bs
  induction as generalizing bs with
  | nil => cases bs <;> rfl
  | cons a as ih =>
    cases bs with
    | nil => rfl
    | cons b bs => rw [cmpAll, List.compareLex_cons_cons, ih]

instance : Std.TransCmp cmpAll := by
  rw [cmpAll_eq_compareLex]
  infer_instance

instance : Std.LawfulEqCmp cmpAll := by
  rw [cmpAll_eq_compareLex]
  infer_instance

end Component

namespace Path

instance : Std.TransCmp cmp where
  eq_swap := by
    intro p q
    simp only [cmp]
    exact Std.OrientedCmp.eq_swap
  isLE_trans := by
    intro p q r
    simp only [cmp]
    exact Std.TransCmp.isLE_trans

@[simp] theorem cmp_self (p : Path) : p.cmp p = .eq :=
  Std.ReflCmp.compare_self

theorem cmp_eq_eq_iff {p q : Path} : p.cmp q = .eq ↔ p.same q = true := by
  rw [cmp, same, Std.LawfulEqCmp.compare_eq_iff_eq, decide_eq_true_eq]

end Path

end Linting
