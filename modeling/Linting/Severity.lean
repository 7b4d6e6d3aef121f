/-! How serious a lint is. -/

namespace Linting

inductive Severity
  | warning
  | error
  deriving DecidableEq, Repr, Inhabited

namespace Severity

/-- The name in configuration and in machine-readable output. -/
def name : Severity → String
  | warning => "warning"
  | error => "error"

/-- The single letter in human-readable output. -/
def short : Severity → String
  | warning => "W"
  | error => "E"

def ofName? : String → Option Severity
  | "warning" => some warning
  | "error" => some error
  | _ => none

def rank : Severity → Nat
  | warning => 0
  | error => 1

theorem rank_injective {a b : Severity} (h : a.rank = b.rank) : a = b := by
  cases a <;> cases b <;> simp_all [rank]

instance : LE Severity := ⟨fun a b => a.rank ≤ b.rank⟩

instance (a b : Severity) : Decidable (a ≤ b) := inferInstanceAs (Decidable (a.rank ≤ b.rank))

instance : Max Severity := ⟨fun a b => if a ≤ b then b else a⟩

instance : Min Severity := ⟨fun a b => if a ≤ b then a else b⟩

theorem ofName?_name (s : Severity) : ofName? s.name = some s := by
  cases s <;> rfl

end Severity

end Linting
