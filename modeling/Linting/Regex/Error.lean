/-! What can be wrong with a regular expression. -/

namespace Linting.Regex

/-- Why a pattern does not compile. -/
inductive Error
  | groupUnclosed
  | groupUnopened
  | groupNameDuplicate
  | groupNameEmpty
  | groupNameInvalid
  | groupNameUnclosed
  | classUnclosed
  | classRangeInvalid
  | classRangeBoundary
  | classEscapeInvalid
  | repetitionMissing
  | repetitionCountEmpty
  | repetitionCountUnclosed
  | repetitionCountInvalid
  | decimalInvalid
  | flagUnrecognized
  | flagDuplicate
  | flagRepeatedNegation
  | flagDanglingNegation
  | flagUnexpectedEnd
  | escapeUnexpectedEnd
  | escapeUnrecognized
  | hexEmpty
  | hexInvalid
  | hexInvalidDigit
  | backreference
  | lookAround
  | unicodeClassInvalid
  | unicodeNotAllowed
  | propertyNotFound
  | propertyValueNotFound
  | invalidUtf8
  | nestLimit (limit : Nat)
  | wordBoundaryUnclosed
  | wordBoundaryUnrecognized
  | wordBoundaryUnexpectedEnd
  | tooLarge (limit : Nat)
  deriving DecidableEq, Repr

namespace Error

/-- The fault by itself, for every error but the one on size. -/
def kind : Error → String
  | groupUnclosed => "unclosed group"
  | groupUnopened => "unopened group"
  | groupNameDuplicate => "duplicate capture group name"
  | groupNameEmpty => "empty capture group name"
  | groupNameInvalid => "invalid capture group character"
  | groupNameUnclosed => "unclosed capture group name"
  | classUnclosed => "unclosed character class"
  | classRangeInvalid => "invalid character class range, the start must be <= the end"
  | classRangeBoundary => "invalid range boundary, must be a literal"
  | classEscapeInvalid => "invalid escape sequence found in character class"
  | repetitionMissing => "repetition operator missing expression"
  | repetitionCountEmpty => "repetition quantifier expects a valid decimal"
  | repetitionCountUnclosed => "unclosed counted repetition"
  | repetitionCountInvalid => "invalid repetition count range, the start must be <= the end"
  | decimalInvalid => "decimal literal invalid"
  | flagUnrecognized => "unrecognized flag"
  | flagDuplicate => "duplicate flag"
  | flagRepeatedNegation => "flag negation operator repeated"
  | flagDanglingNegation => "dangling flag negation operator"
  | flagUnexpectedEnd => "expected flag but got end of regex"
  | escapeUnexpectedEnd => "incomplete escape sequence, reached end of pattern prematurely"
  | escapeUnrecognized => "unrecognized escape sequence"
  | hexEmpty => "hexadecimal literal empty"
  | hexInvalid => "hexadecimal literal is not a Unicode scalar value"
  | hexInvalidDigit => "invalid hexadecimal digit"
  | backreference => "backreferences are not supported"
  | lookAround => "look-around, including look-ahead and look-behind, is not supported"
  | unicodeClassInvalid => "invalid Unicode character class"
  | unicodeNotAllowed => "Unicode not allowed here"
  | propertyNotFound => "Unicode property not found"
  | propertyValueNotFound => "Unicode property value not found"
  | invalidUtf8 => "pattern can match invalid UTF-8"
  | nestLimit limit => s!"exceed the maximum number of nested parentheses/brackets ({limit})"
  | wordBoundaryUnclosed =>
    "special word boundary assertion is either unclosed or contains an invalid character"
  | wordBoundaryUnrecognized =>
    "unrecognized special word boundary assertion, valid choices are: start, end, start-half " ++
      "or end-half"
  | wordBoundaryUnexpectedEnd =>
    "found either the beginning of a special word boundary or a bounded repetition on a \\b " ++
      "with an opening brace, but no closing brace"
  | tooLarge limit => s!"Compiled regex exceeds size limit of {limit} bytes."

/-- The full text: faults of the pattern's text are introduced as such. -/
def message : Error → String
  | tooLarge limit => kind (tooLarge limit)
  | e => "regex parse error: " ++ kind e

end Error

end Linting.Regex
