import Linting.Files.FileSystem
import Linting.Files.IgnoreRule

/-! Ignore files: what is read from them, and what they say together. -/

namespace Linting

/-- What is wrong with a line of an ignore file. -/
inductive IgnoreFault
  | pattern (text : String) (error : Glob.Error)
  | encoding
  deriving DecidableEq, Repr

/-- A line of an ignore file that cannot be read. -/
structure IgnoreError where
  file : Path
  line : Nat
  fault : IgnoreFault
  deriving DecidableEq, Repr

def IgnoreFault.message : IgnoreFault → String
  | pattern text error => Glob.errorMessage text error
  | encoding => IoError.invalidUtf8.message

def IgnoreError.message (e : IgnoreError) : String :=
  s!"{e.file.display}: line {e.line}: {e.fault.message}"

/-- The lines of a file, each without its end. -/
def lineBytes (line : List UInt8) : List UInt8 → List (List UInt8)
  | [] => if line.isEmpty then [] else [line.reverse]
  | b :: rest =>
    if b = 0x0A then
      (if line.head? = some 0x0D then line.tail.reverse else line.reverse) :: lineBytes [] rest
    else lineBytes (b :: line) rest

/-- Reads numbered lines up to the first that is not UTF-8. Lines that cannot be read are passed
over. -/
def readRules (file : Path) : List (List UInt8 × Nat) → List IgnoreRule × List IgnoreError
  | [] => ([], [])
  | (bytes, number) :: rest =>
    match Text.decode? bytes with
    | none => ([], [⟨file, number, .encoding⟩])
    | some line =>
      let line := if number = 1 then line.dropWhile (· = '\uFEFF') else line
      let (rules, errors) := readRules file rest
      match IgnoreRule.ofLine? line with
      | .ok rule => (rule.toList ++ rules, errors)
      | .error e =>
        let text := String.ofList (IgnoreRule.trimLine line)
        (rules, ⟨file, number, .pattern text e⟩ :: errors)

/-- The rules of a file, if it can be read at all. A file whose only fault is its encoding counts as
cut short, not as faulty. -/
def readIgnoreFile (fs : FileSystem) (file : Path) : List IgnoreRule × List IgnoreError :=
  match fs.readBytes file with
  | .error _ => ([], [])
  | .ok bytes =>
    let (rules, errors) := readRules file ((lineBytes [] bytes).zipIdx 1)
    match errors with
    | [⟨_, _, .encoding⟩] => (rules, [])
    | errors => (rules, errors)

/-- The rules that one directory brings, by the file they are from. `depth` counts the names of the
directory's real path. -/
structure IgnoreLevel where
  depth : Nat
  ignore : List IgnoreRule
  gitIgnore : List IgnoreRule
  gitExclude : List IgnoreRule

namespace IgnoreLevel

/-- Reads the ignore files of a directory. -/
def ofDirectory (fs : FileSystem) (names : List FileName) : IgnoreLevel × List IgnoreError :=
  let dir := FileSystem.absolute names
  let read (name : String) := readIgnoreFile fs (dir.join (Path.ofString name))
  let (ignore, errors₁) := read ".ignore"
  let (gitIgnore, errors₂) := read ".gitignore"
  let (gitExclude, errors₃) := read ".git/info/exclude"
  (⟨names.length, ignore, gitIgnore, gitExclude⟩, errors₁ ++ errors₂ ++ errors₃)

/-- The path of an entry relative to the directory of the level. -/
def relative (level : IgnoreLevel) (names : List FileName) : List UInt8 :=
  Path.joinPieces (names.drop level.depth)

/-- Whether an entry is ignored. Inner directories win over outer ones, and one kind of file over
the next: first `.ignore`, then `.gitignore`, then the exclude file of the repository. -/
def isIgnored (levels : List IgnoreLevel) (names : List FileName) (isDir : Bool) : Bool :=
  let decide (rules : IgnoreLevel → List IgnoreRule) : Option Verdict :=
    levels.findSome? fun level => IgnoreRule.verdict? (rules level) (level.relative names) isDir
  ((decide ignore).or ((decide gitIgnore).or (decide gitExclude))) = some .ignored

end IgnoreLevel

end Linting
