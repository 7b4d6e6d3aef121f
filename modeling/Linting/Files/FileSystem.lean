import Linting.Path

/-! Files and directories as a tree, and what looking up a path in it gives. -/

namespace Linting

abbrev FileName := List UInt8

/-- A file, a directory, or a symbolic link. Entries of a directory are in the order of their
names. -/
inductive Node
  | file (bytes : List UInt8)
  | dir (entries : List (FileName × Node))
  | link (target : Path)
  deriving Inhabited

inductive IoError
  | notFound
  | notDirectory
  | isDirectory
  | nameTooLong
  | tooManyLinks
  | nulByte
  | invalidUtf8
  deriving DecidableEq, Repr

def IoError.message : IoError → String
  | notFound => "No such file or directory (os error 2)"
  | notDirectory => "Not a directory (os error 20)"
  | isDirectory => "Is a directory (os error 21)"
  | nameTooLong => "File name too long (os error 36)"
  | tooManyLinks => "Too many levels of symbolic links (os error 40)"
  | nulByte => "file name contained an unexpected NUL byte"
  | invalidUtf8 => "stream did not contain valid UTF-8"

namespace Node

def isDir : Node → Bool
  | dir _ => true
  | _ => false

def isFile : Node → Bool
  | file _ => true
  | _ => false

def entries : Node → List (FileName × Node)
  | dir entries => entries
  | _ => []

def child? (n : Node) (name : FileName) : Option Node :=
  (n.entries.find? fun entry => entry.1 = name).map Prod.snd

/-- The node at the end of a chain of names. -/
def descend? : Node → List FileName → Option Node
  | n, [] => some n
  | n, name :: rest => (n.child? name).bind fun child => child.descend? rest

/-- Puts an entry in its place; one of the same name is replaced. -/
def insertEntry (name : FileName) (node : Node) :
    List (FileName × Node) → List (FileName × Node)
  | [] => [(name, node)]
  | entry :: rest =>
    match compareBytes name entry.1 with
    | .lt => (name, node) :: entry :: rest
    | .eq => (name, node) :: rest
    | .gt => entry :: insertEntry name node rest

def eraseEntry (name : FileName) (entries : List (FileName × Node)) : List (FileName × Node) :=
  entries.filter fun entry => entry.1 != name

/-- Puts a node at the end of a chain of names, making directories on the way. -/
def insertAt (node : Node) : List FileName → Node → Node
  | [], _ => node
  | name :: rest, parent =>
    dir (insertEntry name (insertAt node rest ((parent.child? name).getD (dir []))) parent.entries)

/-- Removes the node at the end of a chain of names. -/
def eraseAt : List FileName → Node → Node
  | [], parent => parent
  | [name], parent => dir (eraseEntry name parent.entries)
  | name :: rest, parent =>
    match parent.child? name with
    | some child => dir (insertEntry name (eraseAt rest child) parent.entries)
    | none => parent

end Node

/-- A tree of files, with the names that lead to the working directory. -/
structure FileSystem where
  cwd : List FileName
  root : Node

/-- Where a path leads: to a node, or to a name that its directory does not hold. -/
inductive Place
  | present (names : List FileName) (node : Node)
  | vacant (parent : List FileName) (name : FileName)

namespace FileSystem

/-- Symbolic links that a lookup may follow. -/
def linkLimit : Nat := 40

/-- Bytes that a name may have. -/
def nameLimit : Nat := 255

/-- Follows the pieces of a path from the directory at `names`. The last piece is followed if it is
a link only when `follow`. -/
def resolveFrom (fs : FileSystem) (follow : Bool) (links : Nat) (names : List FileName)
    (pieces : List FileName) : Except IoError Place :=
  match pieces with
  | [] =>
    match fs.root.descend? names with
    | some node => .ok (.present names node)
    | none => .error .notFound
  | piece :: rest =>
    match fs.root.descend? names with
    | none => .error .notFound
    | some node =>
      if !node.isDir then .error .notDirectory
      else if piece = [] ∨ piece = [Path.dot] then resolveFrom fs follow links names rest
      else if piece = [Path.dot, Path.dot] then resolveFrom fs follow links names.dropLast rest
      else if nameLimit < piece.length then .error .nameTooLong
      else
        match node.child? piece with
        | none => if rest.isEmpty then .ok (.vacant names piece) else .error .notFound
        | some (.link target) =>
          if rest.isEmpty && !follow then .ok (.present (names ++ [piece]) (.link target))
          else
            match links with
            | 0 => .error .tooManyLinks
            | links + 1 =>
              resolveFrom fs follow links (if target.isAbsolute then [] else names)
                (Path.pieces target.bytes ++ rest)
        | some _ => resolveFrom fs follow links (names ++ [piece]) rest
termination_by (links, pieces.length)

def resolve (fs : FileSystem) (follow : Bool) (p : Path) : Except IoError Place :=
  if p.bytes.contains 0 then .error .nulByte
  else if p.bytes.isEmpty then .error .notFound
  else
    resolveFrom fs follow linkLimit (if p.isAbsolute then [] else fs.cwd) (Path.pieces p.bytes)

/-- The node that a path leads to, with the names on its real path. -/
def find (fs : FileSystem) (follow : Bool) (p : Path) : Except IoError (List FileName × Node) :=
  match fs.resolve follow p with
  | .ok (.present names node) => .ok (names, node)
  | .ok (.vacant _ _) => .error .notFound
  | .error e => .error e

/-- The node that a path leads to through any links. -/
def node? (fs : FileSystem) (p : Path) : Option Node := (fs.find true p).toOption.map Prod.snd

def contains (fs : FileSystem) (p : Path) : Bool := (fs.node? p).isSome

def isFile (fs : FileSystem) (p : Path) : Bool := (fs.node? p).any Node.isFile

def isDir (fs : FileSystem) (p : Path) : Bool := (fs.node? p).any Node.isDir

def readBytes (fs : FileSystem) (p : Path) : Except IoError (List UInt8) := do
  match (← fs.find true p).2 with
  | .file bytes => .ok bytes
  | .dir _ => .error .isDirectory
  | .link _ => .error .notFound

def readText (fs : FileSystem) (p : Path) : Except IoError (List Char) := do
  match Text.decode? (← fs.readBytes p) with
  | some text => .ok text
  | none => .error .invalidUtf8

/-- Writes a file, also through links. -/
def write (fs : FileSystem) (p : Path) (bytes : List UInt8) : Except IoError FileSystem := do
  match ← fs.resolve true p with
  | .present _ (.dir _) => .error .isDirectory
  | .present names _ => .ok { fs with root := Node.insertAt (.file bytes) names fs.root }
  | .vacant parent name =>
    .ok { fs with root := Node.insertAt (.file bytes) (parent ++ [name]) fs.root }

/-- The names of an absolute spelling of a path, without looking anything up. -/
def namesOf (fs : FileSystem) (p : Path) : List FileName :=
  p.components.foldl (fun names component =>
    match component with
    | .root => []
    | .current => names
    | .parent => names.dropLast
    | .normal name => names ++ [name]) fs.cwd

/-- Puts a node at a path, making directories on the way. Files are written through links. -/
def place (fs : FileSystem) (p : Path) (node : Node) : FileSystem :=
  match node, fs.resolve true p with
  | .file bytes, .ok (.present names (.file _)) =>
    { fs with root := Node.insertAt (.file bytes) names fs.root }
  | .dir [], .ok (.present _ (.dir _)) => fs
  | node, .ok (.vacant parent name) =>
    { fs with root := Node.insertAt node (parent ++ [name]) fs.root }
  | node, _ => { fs with root := Node.insertAt node (fs.namesOf p) fs.root }

/-- Removes a file, a link, or a directory with everything in it. -/
def remove (fs : FileSystem) (p : Path) : Except IoError FileSystem := do
  let (names, _) ← fs.find false p
  .ok { fs with root := Node.eraseAt names fs.root }

/-- The absolute path of a chain of names. -/
def absolute (names : List FileName) : Path :=
  Path.ofComponents (.root :: names.map .normal)

/-- A tree that holds the working directory only. -/
def empty (cwd : List FileName) : FileSystem := ⟨cwd, Node.insertAt (.dir []) cwd (.dir [])⟩

end FileSystem

end Linting
