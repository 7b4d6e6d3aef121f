import Linting.Glob.Match

/-! Glob patterns. Matching is on bytes, so that it also covers paths that are not UTF-8. -/

namespace Linting

/-- A pattern that could be read. -/
structure Glob where
  pattern : String
  dialect : Glob.Dialect
  tokens : List Glob.Token

namespace Glob

def compile (pattern : String) (dialect : Dialect) : Except Error Glob :=
  (Glob.parse dialect pattern).map fun tokens => ⟨pattern, dialect, tokens⟩

/-- Whether the pieces of the pattern can take up all of the bytes; `**` alone takes up anything. -/
def covers (g : Glob) (bytes : List UInt8) : Bool :=
  match g.tokens with
  | [.recursivePrefix] => true
  | tokens => (restsOf g.dialect [bytes] tokens).any List.isEmpty

/-- Whether the pattern matches all of the bytes. A path that ends in `..` names no file, so
patterns for names of files do not match it. -/
def isMatch (g : Glob) (bytes : List UInt8) : Bool :=
  !(endsInParent bytes && namesFile g.dialect g.tokens) && g.covers bytes

/-- What is said of a pattern that cannot be read. -/
def errorMessage (pattern : String) (e : Error) : String :=
  s!"error parsing glob '{pattern}': {e.message}"

end Glob

end Linting
