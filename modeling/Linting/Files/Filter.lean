import Linting.Glob
import Linting.Path

/-! Which files to lint: the include and exclude patterns of the configuration. -/

namespace Linting

/-- Why an entry of a directory is not linted. -/
inductive SkipReason
  | notIncluded
  | excluded
  | notAFile
  deriving DecidableEq, Repr

def SkipReason.name : SkipReason → String
  | notIncluded => "NotIncluded"
  | excluded => "Excluded"
  | notAFile => "NotAFile"

/-- A pattern that cannot be read. -/
structure BadPattern where
  pattern : String
  error : Glob.Error
  deriving DecidableEq, Repr

/-- Patterns that compiled. Without an include list everything is included. -/
structure FileFilter where
  included : Option (List Glob)
  excluded : List Glob

namespace FileFilter

/-- Files of the version control are never linted. -/
def alwaysExcluded : String := "**/.git/**"

/-- Compiles patterns up to the first that cannot be read. -/
def compileAll : List String → Except BadPattern (List Glob)
  | [] => .ok []
  | pattern :: rest =>
    match Glob.compile pattern .filter with
    | .error e => .error ⟨pattern, e⟩
    | .ok glob => (compileAll rest).map (glob :: ·)

def ofPatterns (included excluded : List String) : Except BadPattern FileFilter := do
  let includedGlobs ← if included.isEmpty then pure none else (compileAll included).map some
  let excludedGlobs ← compileAll (excluded ++ [alwaysExcluded])
  .ok ⟨includedGlobs, excludedGlobs⟩

/-- Why a path relative to the root of a walk is passed over, if it is. -/
def check (f : FileFilter) (relative : Path) : Option SkipReason :=
  if f.included.any fun globs => !globs.any fun glob => glob.isMatch relative.bytes then
    some .notIncluded
  else if f.excluded.any fun glob => glob.isMatch relative.bytes then some .excluded
  else none

/-- The spelling of a path that patterns are matched against: relative to the working directory
where that is possible, and without `.`. -/
def matchablePath (cwd p : Path) : Path :=
  let relative := if p.isAbsolute then (p.stripPrefix? cwd).getD p else p
  Path.ofComponents (relative.components.filter (· != .current))

/-- Whether a file that the user named is passed over. -/
def isExcluded (f : FileFilter) (cwd p : Path) : Bool :=
  f.excluded.any fun glob => glob.isMatch (matchablePath cwd p).bytes

end FileFilter

end Linting
