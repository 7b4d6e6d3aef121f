import Linting.Proofs.CommandLine.ReportOrder
import Linting.Proofs.CommandLine.Verdicts
import Linting.Proofs.Linter.Arithmetic

/-! Why a check does not crash. Every linter that can be registered reports on every text that is
short enough for words of 32 bits, so a run over such files is never ended by a linter, and the
program never exits with the code that tells so. -/

namespace Linting

theorem Orderly.exists_reported {make : LinterName → Linter} (h : Orderly make) (name : LinterName)
    (path : Path) {cs : List Char} (hlen : cs.length < 0xFFFFFFFF) :
    ∃ lints, make name (.ofChars path cs) = .reported lints := by
  obtain ⟨lints, hlints, _⟩ := h name path cs hlen
  exact ⟨lints, hlints⟩

/-- A document as it is made of a text that is short enough. -/
def Document.IsShort (d : Document) : Prop :=
  ∃ path cs, d = .ofChars path cs ∧ cs.length < 0xFFFFFFFF

namespace Runner

theorem run_ne_crash_of_build {maxLineLength : Nat} {patterns : List PatternDefinition}
    {registry : Registry} (hbuild : Registry.build maxLineLength patterns = .ok registry)
    (selection : Selection) {engine : Engine} {files : List Path}
    (short : ∀ file ∈ files, ∀ d, engine file = .ok d → d.IsShort) (e : LinterError) :
    (make registry selection engine).run files ≠ .error (.linter e) := by
  apply run_ne_linter_error
  intro active hactive file hfile d hd
  obtain ⟨descriptor, hdescriptor, rfl⟩ := List.mem_map.mp hactive
  have orderly := Registry.orderly_of_build hbuild descriptor (List.mem_of_mem_filter hdescriptor)
  obtain ⟨path, cs, rfl, hlen⟩ := short file hfile d hd
  exact orderly.exists_reported descriptor.name path hlen

end Runner

namespace CommandLine

theorem runCheck_exitCode_eq_four_iff {fs : FileSystem} {log : LogFilter} {color : ColorChoice}
    {options : CheckOptions} :
    (runCheck fs log color options).exitCode = 4 ↔
      ∃ e, (check fs options).result = .error (.run (.linter e)) := by
  rw [exitCode_eq_iff_verdict]
  constructor
  · intro verdict
    cases verdict with
    | @crash e first => exact ⟨e, check_eq_error_iff_firstFault.mpr ⟨.run, first⟩⟩
  · rintro ⟨e, h⟩
    obtain ⟨stage, first⟩ := check_eq_error_iff_firstFault.mp h
    cases first.fault with
    | run => exact .crash first

/-- The files that a check is going to lint are short, as far as they are texts. -/
def FilesAreShort (fs : FileSystem) (options : CheckOptions) : Prop :=
  ∀ p, (plan fs options).result = .ok p → ∀ file ∈ p.files, ∀ text,
    fs.readText file = .ok text → text.length < 0xFFFFFFFF

theorem check_ne_crash {fs : FileSystem} {options : CheckOptions} (short : FilesAreShort fs options)
    (e : LinterError) : (check fs options).result ≠ .error (.run (.linter e)) := by
  intro h
  rcases check_eq_error_iff.mp h with h | ⟨p, hp, cause, hrun, hcause⟩
  · exact plan_ne_run_error _ h
  · obtain ⟨_, _, _, _, hbuild, _⟩ := plan_eq_ok_iff.mp hp
    cases hcause
    refine Runner.run_ne_crash_of_build hbuild p.selection ?_ e hrun
    intro file hfile d hd
    obtain ⟨text, htext, rfl⟩ := FileSystem.source_eq_ok hd
    exact ⟨file, text, rfl, short p hp file hfile text htext⟩

/-- Every builtin linter and every linter of a pattern reports on every short text: it asks for no
location that cannot be told, and its arithmetic fits. So no run with the registry of a
configuration is ended by a linter, however its files are shared among workers, and neither is a
check. -/
theorem shipped_linters_never_crash :
    (∀ path cs, cs.length < 0xFFFFFFFF →
      (∀ maxLineLength, ∀ entry ∈ Builtin.entries maxLineLength, ∀ name,
        ∃ lints, entry.make name (.ofChars path cs) = .reported lints) ∧
      (∀ linter : PatternLinter, ∃ lints, linter.run (.ofChars path cs) = .reported lints) ∧
      (Document.ofChars path cs).ArithmeticFits) ∧
    (∀ maxLineLength patterns registry, Registry.build maxLineLength patterns = .ok registry →
      ∀ selection engine files,
        (∀ file ∈ files, ∀ d, engine file = .ok d → d.IsShort) →
        let runner := Runner.make registry selection engine
        ∀ e, runner.run files ≠ .error (.linter e) ∧
          ∀ schedule, (runner.pool files schedule).isDone = true →
            runner.runScheduled files schedule ≠ .error (.linter e)) ∧
    ∀ fs options, FilesAreShort fs options →
      (∀ e, (check fs options).result ≠ .error (.run (.linter e))) ∧
      ∀ log color, (runCheck fs log color options).exitCode ≠ 4 := by
  refine ⟨?_, ?_, ?_⟩
  · intro path cs hlen
    refine ⟨?_, ?_, Document.arithmeticFits_ofChars path hlen⟩
    · intro maxLineLength entry hentry name
      exact (Builtin.entries_orderly hentry).exists_reported name path hlen
    · intro linter
      have orderly := PatternLinter.orderly linter.regex linter.message linter.severity
      exact orderly.exists_reported linter.name path hlen
  · intro maxLineLength patterns registry hbuild selection engine files short runner e
    have never := Runner.run_ne_crash_of_build hbuild selection short e
    refine ⟨never, fun schedule hdone => ?_⟩
    rwa [Runner.runScheduled_of_isDone hdone]
  · intro fs options short
    have never := check_ne_crash short
    refine ⟨never, fun log color hcode => ?_⟩
    obtain ⟨e, he⟩ := runCheck_exitCode_eq_four_iff.mp hcode
    exact never e he

end CommandLine

end Linting
