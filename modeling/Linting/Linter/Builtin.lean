import Linting.Linter

/-! The linters that come with the program. They read the text line by line and need no parser. -/

namespace Linting.Builtin

/-- The greatest number a location can hold. -/
def maxWord32 : Nat := 0xFFFFFFFF

/-- A number as a word, the greatest one when it does not fit. -/
def saturate (n : Nat) : UInt32 := (min n maxWord32).toUInt32

def isBlank (c : Char) : Bool := c = ' ' || c = '\t'

/-- A line without the blanks at its end. -/
def trimEnd (line : List Char) : List Char := (line.reverse.dropWhile isBlank).reverse

/-- Reports each line that ends with blanks, at those blanks. -/
def trailingWhitespace (name : LinterName) : Linter := fun d =>
  .reported (d.lines.filterMap fun (number, line) =>
    let trimmed := trimEnd line
    if Text.byteLength trimmed = Text.byteLength line then none
    else
      some (d.lint name
        ⟨number, saturate (trimmed.length + 1),
          saturate (Text.byteLength line - Text.byteLength trimmed)⟩
        .warning "Line contains trailing whitespace"))

/-- What a linter's call comes to when a location cannot be told. -/
def offBoundary : Outcome := .panicked (.text "byte index is not a char boundary") "location"

/-- Reports a text that is not empty and does not end with a newline, at its end. -/
def finalNewline (name : LinterName) : Linter := fun d =>
  if d.isEmpty || d.contents.getLast? = some '\n' then .reported []
  else
    match d.locationOf d.size 0 with
    | none => offBoundary
    | some location =>
      .reported [d.lint name location .warning "Files should end with a trailing newline"]

def tooLongMessage (max length : Nat) : String :=
  s!"Line should be at most {max} characters wide, but was {length}"

/-- Reports each line of more than `max` characters, at what exceeds them. -/
def lineLength (max : Nat) (name : LinterName) : Linter := fun d =>
  .reported (d.lines.filterMap fun (number, line) =>
    if line.length ≤ max then none
    else
      some (d.lint name
        ⟨number, saturate (max + 1), saturate (line.length - max)⟩
        .warning (tooLongMessage max line.length)))

def important : List Char := "!important".toList

/-- The byte offsets of a word in a text, from left to right. Having found one the search goes on
behind it: `skip` counts its characters that are still to be passed. -/
def occurrences (word : List Char) (offset skip : Nat) : List Char → List Nat
  | [] => []
  | c :: rest =>
    match skip with
    | n + 1 => occurrences word (offset + c.utf8Size) n rest
    | 0 =>
      if word.isPrefixOf (c :: rest) then
        offset :: occurrences word (offset + c.utf8Size) (word.length - 1) rest
      else occurrences word (offset + c.utf8Size) 0 rest

/-- One lint for each span of bytes, given by its offset and its length. -/
def lintSpans (d : Document) (name : LinterName) (severity : Severity) (message : String)
    (spans : List (Nat × Nat)) : Outcome :=
  match spans.mapM fun span => d.locationOf span.1 span.2 with
  | none => offBoundary
  | some locations => .reported (locations.map fun loc => d.lint name loc severity message)

/-- Reports each `!important`. -/
def importantRule (name : LinterName) : Linter := fun d =>
  lintSpans d name .warning "!important should not be used"
    ((occurrences important 0 0 d.contents).map fun offset => (offset, Text.byteLength important))

/-- A builtin linter before it is registered. -/
structure Entry where
  name : String
  description : String
  make : LinterName → Linter

def defaultMaxLineLength : Nat := 80

/-- The builtin linters in the order in which they run. -/
def entries (maxLineLength : Nat) : List Entry := [
  ⟨"TrailingWhitespace", "Lines must not end with spaces or tabs", trailingWhitespace⟩,
  ⟨"FinalNewline", "Files must end with a newline", finalNewline⟩,
  ⟨"LineLength", s!"Lines must not be longer than {maxLineLength} characters",
    lineLength maxLineLength⟩,
  ⟨"ImportantRule", "Declarations must not use !important", importantRule⟩]

end Linting.Builtin
