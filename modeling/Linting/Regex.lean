import Linting.Regex.Size
import Linting.Regex.Search

/-! Regular expressions: compiling a pattern and finding its matches in a text. -/

namespace Linting

/-- A pattern that compiled, with its program. -/
structure Regex where
  pattern : String
  program : Regex.Program

namespace Regex

def compile (pattern : String) : Except Error Regex := do
  let ast ← parse pattern
  let (node, _) ← ast.meaning {}
  let node := node.simplify
  if node.fits then .ok ⟨pattern, node.toProgram⟩ else .error (.tooLarge sizeLimit)

/-- The matches from left to right; no two overlap. -/
def findAll (r : Regex) (text : String) : List Match := r.program.findAll text.toList

end Regex

end Linting
