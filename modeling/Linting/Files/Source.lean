import Linting.Files.FileSystem
import Linting.Runner

/-! The engine that reads source files. -/

namespace Linting.FileSystem

/-- Reads a file as a document. -/
def source (fs : FileSystem) : Engine := fun p =>
  match fs.readText p with
  | .ok contents => .ok (.ofChars p contents)
  | .error .invalidUtf8 => .error (.malformed p "file is not valid UTF-8")
  | .error e => .error (.read p e.message)

end Linting.FileSystem
