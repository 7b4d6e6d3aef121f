import Linting.Files.Filter
import Linting.Files.IgnoreFile

/-! Walking a directory. Every entry that is not ignored is visited; what an ignored directory holds
is not. Patterns are matched against paths relative to the root of the walk. -/

namespace Linting

/-- An entry that a walk came to, and why it is not linted if it is not. -/
structure Visit where
  path : Path
  skipped : Option SkipReason
  deriving DecidableEq, Repr

inductive WalkError
  | root (path : Path) (error : IoError)
  | ignoreFiles (errors : List IgnoreError)
  deriving DecidableEq, Repr

def WalkError.message : WalkError → String
  | root path error =>
    s!"{path.display}: IO error for operation on {path.display}: {error.message}"
  | ignoreFiles errors => "\n".intercalate (errors.map IgnoreError.message)

namespace Walk

/-- What stays the same during a walk. -/
structure Context where
  fs : FileSystem
  filter : FileFilter
  root : Path

def Context.visitFile (c : Context) (path : Path) : Visit :=
  ⟨path, c.filter.check ((path.stripPrefix? c.root).getD path)⟩

def Context.enter (c : Context) (levels : List IgnoreLevel) (names : List FileName) :
    List IgnoreLevel :=
  (IgnoreLevel.ofDirectory c.fs names).1 :: levels

mutual

/-- Visits an entry that is not ignored. `names` is its real path. -/
def visit (c : Context) (levels : List IgnoreLevel) (path : Path) (names : List FileName) :
    Node → List Visit
  | .file _ => [c.visitFile path]
  | .link _ => [⟨path, some .notAFile⟩]
  | .dir entries =>
    ⟨path, some .notAFile⟩ :: visitEntries c (c.enter levels names) path names entries

def visitEntries (c : Context) (levels : List IgnoreLevel) (path : Path)
    (names : List FileName) : List (FileName × Node) → List Visit
  | [] => []
  | (name, node) :: rest =>
    (if IgnoreLevel.isIgnored levels (names ++ [name]) node.isDir then []
      else visit c levels (path.join ⟨name⟩) (names ++ [name]) node) ++
      visitEntries c levels path names rest

end

/-- The ignore files of the directories above one, the innermost first. -/
def parentLevels (fs : FileSystem) (names : List FileName) :
    List IgnoreLevel × List IgnoreError :=
  let parents := (List.range names.length).map fun depth =>
    IgnoreLevel.ofDirectory fs (names.take depth)
  ((parents.map Prod.fst).reverse, parents.flatMap Prod.snd)

/-- Everything that a walk visits. A root that is a link to a directory is walked, a link to a file
is no file. Faulty lines are an error in directories above the root, and nowhere else. -/
def visits (fs : FileSystem) (filter : FileFilter) (root : Path) :
    Except WalkError (List Visit) :=
  match fs.find false root, fs.find true root with
  | .error e, _ => .error (.root root e)
  | _, .error e => .error (.root root e)
  | .ok (_, entry), .ok (names, node) =>
    let c : Context := ⟨fs, filter, root⟩
    if node.isDir then
      match parentLevels fs names with
      | (levels, []) => .ok (visit c levels root names node)
      | (_, errors) => .error (.ignoreFiles errors)
    else if entry.isFile then .ok [c.visitFile root]
    else .ok [⟨root, some .notAFile⟩]

end Walk

end Linting
