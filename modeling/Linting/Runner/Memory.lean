import Linting.Runner

/-! An engine whose files are in memory, under the texts of their paths. -/

namespace Linting

/-- What is in the place of a file. -/
inductive MemoryFile
  | contents (text : String)
  | unreadable (cause : String)
  | malformed (reason : String)
  deriving DecidableEq, Repr

/-- Looks files up by the text of their path. -/
def memoryEngine (files : List (String × MemoryFile)) : Engine := fun p =>
  match (files.find? fun f => f.1 = p.display).map Prod.snd with
  | some (.contents text) => .ok (.ofString p text)
  | some (.unreadable cause) => .error (.read p cause)
  | some (.malformed reason) => .error (.malformed p reason)
  | none => .error (.read p "not in memory")

end Linting
