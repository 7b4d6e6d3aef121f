import Linting.Proofs.Json.Lines
import Linting.Proofs.Text.Utf8

/-! What a program reads in a report. Each lint, the summary and a linter's failure are told
completely, whatever characters their texts hold. -/

namespace Linting

namespace Json

def text? : Json → Option String
  | string s => some s
  | _ => none

def natural? : Json → Option Nat
  | integer n => n.toNat?
  | _ => none

def flag? : Json → Option Bool
  | boolean b => some b
  | _ => none

def texts? : Json → Option (List String)
  | array items => items.mapM text?
  | _ => none

theorem natural?_nat (n : Nat) : (nat n).natural? = some n := rfl

theorem texts?_strings (texts : List String) : (strings texts).texts? = some texts := by
  rw [strings, texts?]
  induction texts with
  | nil => rfl
  | cons text texts ih => simp [ih, text?]

end Json

/-- What one line of a report tells. -/
inductive ReportLine
  | lint (linter file : String) (line column length : Nat) (severity : Severity)
      (message : String)
  | summary (passed : Bool) (filesChecked lintersRun totalLints : Nat)
  | failure (linter file message : String) (backtrace : List String)
  deriving DecidableEq

namespace ReportLine
open Json

/-- Reads a record by the names of its fields. -/
def ofJson? (j : Json) : Option ReportLine := do
  match ← (← j.field? "type").text? with
  | "lint" =>
    some (.lint (← (← j.field? "linter").text?) (← (← j.field? "file").text?)
      (← (← j.field? "line").natural?) (← (← j.field? "column").natural?)
      (← (← j.field? "length").natural?)
      (← Severity.ofName? (← (← j.field? "severity").text?))
      (← (← j.field? "message").text?))
  | "summary" =>
    some (.summary (← (← j.field? "passed").flag?) (← (← j.field? "files_checked").natural?)
      (← (← j.field? "linters_run").natural?) (← (← j.field? "total_lints").natural?))
  | "error" =>
    some (.failure (← (← j.field? "linter").text?) (← (← j.field? "file").text?)
      (← (← j.field? "message").text?) (← (← j.field? "backtrace").texts?))
  | _ => none

/-- Reads a line of text. -/
def read? (line : List Char) : Option ReportLine := (parse? (String.ofList line)).bind ofJson?

/-- What is to be told of a lint. -/
def ofLint (l : Lint) : ReportLine :=
  .lint l.linter.text l.file.display l.location.line.toNat l.location.column.toNat
    l.location.length.toNat l.severity l.message

def ofReport (r : Report) : ReportLine :=
  .summary r.lints.isEmpty r.filesChecked r.lintersRun r.lints.length

def ofError (e : LinterError) : ReportLine :=
  .failure e.linter.text e.file.display e.message e.failure.backtrace.frames

theorem ofJson?_lint (l : Lint) : ofJson? (.object l.record) = some (ofLint l) := by
  have severity := Severity.ofName?_name l.severity
  simp [ofJson?, Lint.record, field?, text?, natural?_nat, severity, ofLint]

theorem ofJson?_summary (r : Report) : ofJson? (.object r.summaryRecord) = some (ofReport r) := by
  simp [ofJson?, Report.summaryRecord, field?, text?, natural?_nat, flag?, ofReport,
    Report.isClean]

theorem ofJson?_failure (e : LinterError) : ofJson? (.object e.record) = some (ofError e) := by
  simp [ofJson?, LinterError.record, field?, text?, texts?_strings, ofError]

end ReportLine

open Json

theorem Json.exact_nat {n : Nat} (h : n < wordLimit) : Exact (.nat n) := by
  unfold wordLimit at h
  exact .integer (by omega) (by omega)

theorem Json.exact_strings (texts : List String) : Exact (.strings texts) := by
  refine .array fun item hitem => ?_
  obtain ⟨text, _, rfl⟩ := List.mem_map.mp hitem
  exact .string text

theorem Json.exact_word (w : UInt32) : Exact (.nat w.toNat) := by
  have bound := w.toNat_lt
  exact exact_nat (by unfold wordLimit; omega)

theorem Lint.exact_record (l : Lint) : Exact (.object l.record) := by
  refine .object ?_
  simp [record, Exact.string, exact_word]

theorem LinterError.exact_record (e : LinterError) : Exact (.object e.record) := by
  refine .object ?_
  simp [record, Exact.string, exact_strings]

namespace Report

/-- Counters are machine words of 64 bits. -/
structure CountsFit (r : Report) : Prop where
  files : r.filesChecked < wordLimit
  linters : r.lintersRun < wordLimit
  lints : r.lints.length < wordLimit

theorem exact_summaryRecord {r : Report} (h : r.CountsFit) : Exact (.object r.summaryRecord) := by
  refine .object ?_
  simp [summaryRecord, Exact.string, Exact.boolean, exact_nat, h.files, h.linters, h.lints]

theorem exact_records {r : Report} (h : r.CountsFit) :
    ∀ fields ∈ r.records, Exact (.object fields) := by
  intro fields hfields
  rcases List.mem_append.mp hfields with hfields | hfields
  · obtain ⟨l, _, rfl⟩ := List.mem_map.mp hfields
    exact l.exact_record
  · exact List.mem_singleton.mp hfields ▸ exact_summaryRecord h

/-- A report is told completely: a line for each lint, in order, and one for the summary. So is a
linter's failure, on one line. A path is told as its text, and that text is the path whenever the
path is UTF-8. -/
theorem jsonl_tells_everything {r : Report} (h : r.CountsFit) (e : LinterError) :
    (IsLinesOf ReportLine.read? r.jsonl (r.lints.map .ofLint ++ [.ofReport r]) ∧
      r.jsonl.toList.count '\n' = r.lints.length + 1) ∧
    IsLinesOf ReportLine.read? e.jsonl [.ofError e] ∧
    ∀ (p : Path) (text : String), p.toText? = some text →
      p.display = text ∧ Path.ofString text = p := by
  have report : IsLinesOf ReportLine.read? r.jsonl (r.lints.map .ofLint ++ [.ofReport r]) := by
    refine isLinesOf_join (exact_records h) ?_
    have lints : (r.lints.map Lint.record).map (fun fields => ReportLine.ofJson? (.object fields)) =
        (r.lints.map ReportLine.ofLint).map some := by
      rw [List.map_map, List.map_map]
      exact List.map_congr_left fun l _ => ReportLine.ofJson?_lint l
    have summary := ReportLine.ofJson?_summary r
    simp only [records, List.map_append, lints, List.map_cons, List.map_nil, summary]
  have failure : IsLinesOf ReportLine.read? e.jsonl [.ofError e] := by
    have alone : e.jsonl = String.join ([e.record].map Json.line) := by
      simp [LinterError.jsonl]
    have line := ReportLine.ofJson?_failure e
    rw [alone]
    refine isLinesOf_join ?_ (by simp only [List.map_cons, List.map_nil, line])
    exact fun fields hfields => List.mem_singleton.mp hfields ▸ e.exact_record
  have count := report.count_newline
  rw [List.length_append, List.length_map, List.length_singleton] at count
  exact ⟨⟨report, count⟩, failure, fun _ _ htext => Path.ofString_display htext⟩

/-- A lint with a newline and a quote in its message, in a file whose path is not UTF-8. -/
theorem jsonl_tells_odd_lint :
    let name : LinterName := ⟨"A", by decide +kernel⟩
    let r : Report := ⟨[⟨name, ⟨[0x61, 0xFF]⟩, ⟨1, 2, 3⟩, .error, "x\ny\"\x01"⟩], 1, 1⟩
    r.CountsFit ∧
    IsLinesOf ReportLine.read? r.jsonl
      [.lint "A" "a\uFFFD" 1 2 3 .error "x\ny\"\x01", .summary false 1 1 1] := by
  intro name r
  have fits : r.CountsFit := ⟨by decide, by decide, by decide⟩
  have told := (jsonl_tells_everything fits ⟨name, ⟨[]⟩, .withFrames "" []⟩).1.1
  have path : Path.display ⟨[0x61, 0xFF]⟩ = "a\uFFFD" := by decide +kernel
  simp [r, name, ReportLine.ofLint, ReportLine.ofReport, path] at told
  exact ⟨fits, told⟩

end Report

end Linting
