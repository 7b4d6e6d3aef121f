import Linting.CommandLine.Program

/-! The program. What a run may look at is copied from the disk into a tree; the run is a function
of that tree, and what it says is written out. -/

namespace Linting.CommandLine

/-- The first files that a command looks at, and the paths that it was given. -/
def Command.paths : Command → List Path
  | .check options => options.config.getD (Path.ofString Config.fileName) :: options.paths
  | .list _ config => [config.getD (Path.ofString Config.fileName)]
  | .init _ => [Path.ofString Config.fileName]

/-- The files that a command reads once it knows what to lint. -/
def Command.sources (fs : FileSystem) : Command → List Path
  | .check options =>
    match (plan fs options).result with
    | .ok plan => plan.files
    | .error _ => []
  | _ => []

/-- Files that say what to lint; they are copied with their contents, wherever they are. -/
def ignoreFiles : List String := [".ignore", ".gitignore", "exclude"]

/-- Copies an entry of a directory. Links that lead nowhere are left out. -/
partial def copyEntry (entry : IO.FS.DirEntry) : IO (Option Node) := do
  match (← entry.path.symlinkMetadata).type with
  | .dir =>
    let nodes ← (← entry.path.readDir).toList.filterMapM fun child => do
      return (← copyEntry child).map fun node => (Text.encode child.fileName.toList, node)
    return some (.dir (nodes.mergeSort fun a b => (compareBytes a.1 b.1).isLE))
  | .file =>
    if ignoreFiles.contains entry.fileName then
      return some (.file (← IO.FS.readBinFile entry.path).toList)
    return some (.file [])
  | .symlink =>
    if ← entry.path.pathExists then
      return some (.link (Path.ofString (← IO.FS.realPath entry.path).toString))
    return none
  | .other => return none

/-- Copies the rules that hold in a directory and those above it. -/
def copyIgnoreFiles (fs : FileSystem) (names : List FileName) : IO FileSystem := do
  let dirs := (List.range (names.length + 1)).map fun depth =>
    FileSystem.absolute (names.take depth)
  let files := dirs.flatMap fun dir =>
    [".ignore", ".gitignore", ".git/info/exclude"].map fun name => dir.join (Path.ofString name)
  files.foldlM (fun fs file => do
    try return fs.place file (.file (← IO.FS.readBinFile file.display).toList)
    catch _ => return fs) fs

/-- Copies a link, or a directory without what is in it, that stands on the way along a path. -/
def copyStep (fs : FileSystem) (p : Path) : IO FileSystem := do
  let entry : IO.FS.DirEntry := ⟨← IO.currentDir, p.display⟩
  if ← entry.path.pathExists then
    let real ← IO.FS.realPath entry.path
    let fs := if (← entry.path.symlinkMetadata).type == .symlink then
      fs.place p (.link (Path.ofString real.toString)) else fs
    return if ← real.isDir then fs.place (Path.ofString real.toString) (.dir []) else fs
  return fs

/-- Copies what a path leads to. -/
def copyPath (fs : FileSystem) (p : Path) : IO FileSystem := do
  let pieces := Path.pieces p.bytes
  let steps := (List.range pieces.length).map fun n => Path.joinPieces (pieces.take (n + 1))
  let fs ← steps.foldlM (fun fs step => if step.isEmpty then pure fs else copyStep fs ⟨step⟩) fs
  let entry : IO.FS.DirEntry := ⟨← IO.currentDir, p.display⟩
  if ← entry.path.pathExists then
    let real ← IO.FS.realPath entry.path
    let place := Path.ofString real.toString
    let fs ← copyIgnoreFiles fs (fs.namesOf place)
    match ← copyEntry ⟨real, real.toString⟩ with
    | some node => return fs.place place node
    | none => return fs
  return fs

/-- Copies what a file holds. -/
def copyContents (fs : FileSystem) (p : Path) : IO FileSystem := do
  if fs.isFile p then return fs.place p (.file (← IO.FS.readBinFile p.display).toList)
  return fs

/-- The part of the disk that a command looks at. -/
def copyFor (fs : FileSystem) (command : Command) : IO FileSystem := do
  let fs ← command.paths.foldlM copyPath fs
  let fs ← copyContents fs (command.paths.headD ⟨[]⟩)
  (command.sources fs).foldlM copyContents fs

/-- Carries out what a run did to the configuration file. -/
def saveConfig (before after : FileSystem) : IO Unit := do
  let p := Path.ofString Config.fileName
  match (after.readBytes p).toOption with
  | some bytes =>
    if (before.readBytes p).toOption != some bytes then
      IO.FS.writeBinFile p.display ⟨bytes.toArray⟩
  | none => return ()

/-- A run on the disk; the exit code is the answer. -/
def runOnDisk (arguments : List Argument) : IO Nat := do
  let cwd := Path.ofString (← IO.FS.realPath (← IO.currentDir)).toString
  let start := FileSystem.empty ((FileSystem.empty []).namesOf cwd)
  let fs ← match parse arguments with
    | .ok invocation => copyFor start invocation.command
    | .error _ => pure start
  let ending := run fs arguments (← IO.getEnv "LINTEL_LOG")
  saveConfig fs ending.fs
  (← IO.getStdout).putStr ending.stdout
  (← IO.getStderr).putStr ending.stderr
  return ending.exitCode

end Linting.CommandLine

open Linting.CommandLine in
def main (arguments : List String) : IO UInt32 := do
  try
    let code ← runOnDisk (arguments.map fun argument => Linting.Text.encode argument.toList)
    return code.toUInt32
  catch e =>
    (← IO.getStderr).putStr (errorText (toString e))
    return ExitStatus.error.code.toUInt32
