import Linting.Files.Walk
import Linting.Log

/-! Turning the paths that the user named into the files to lint. Directories are walked; a file is
taken unless it is excluded, whatever the include patterns say. The answer is sorted by components
and names no file twice. -/

namespace Linting

inductive DiscoveryError
  | badPattern (error : BadPattern)
  | walk (error : WalkError)
  | missing (path : Path)
  deriving DecidableEq, Repr

def DiscoveryError.message : DiscoveryError → String
  | badPattern e => s!"Invalid glob pattern '{e.pattern}': {Glob.errorMessage e.pattern e.error}"
  | walk e => s!"Walk error: {e.message}"
  | missing path => s!"Path does not exist: {path.display}"

/-- The event of an entry that is passed over. -/
def Visit.event? (v : Visit) : Option LogEvent := v.skipped.map (.skipped v.path)

namespace Discovery

def filterOf (included excluded : List String) : Except DiscoveryError FileFilter :=
  (FileFilter.ofPatterns included excluded).mapError .badPattern

/-- The files of a walk. -/
def walkFiles (visits : List Visit) : List Path :=
  (visits.filter fun v => v.skipped.isNone).map Visit.path

/-- The files that one path stands for. -/
def filesAt (fs : FileSystem) (filter : FileFilter) (p : Path) :
    Logged DiscoveryError (List Path) :=
  if fs.isFile p then
    if filter.isExcluded (FileSystem.absolute fs.cwd) p then ⟨[.explicitExcluded p], .ok []⟩
    else ⟨[], .ok [p]⟩
  else if fs.isDir p then
    match Walk.visits fs filter p with
    | .error e => ⟨[], .error (.walk e)⟩
    | .ok visits => ⟨visits.filterMap Visit.event?, .ok (walkFiles visits)⟩
  else ⟨[], .error (.missing p)⟩

def filesAtAll (fs : FileSystem) (filter : FileFilter) :
    List Path → Logged DiscoveryError (List Path)
  | [] => pure []
  | p :: rest => do
    let files ← filesAt fs filter p
    let more ← filesAtAll fs filter rest
    pure (files ++ more)

/-- Of neighbours with equal components only the first is kept. -/
def dedup : List Path → List Path
  | [] => []
  | p :: rest => p :: dedupAfter p rest
where
  dedupAfter (p : Path) : List Path → List Path
    | [] => []
    | q :: rest => if p.same q then dedupAfter p rest else q :: dedupAfter q rest

def sortFiles (files : List Path) : List Path :=
  dedup (files.mergeSort fun p q => (p.cmp q).isLE)

/-- The files to lint, with a log of the search. -/
def discover (fs : FileSystem) (filter : FileFilter) (paths : List Path) :
    Logged DiscoveryError (List Path) := do
  let files ← filesAtAll fs filter paths
  Logged.log [.discovered (sortFiles files).length]
  pure (sortFiles files)

end Discovery

end Linting
