import Linting.Unicode.CodeSet
import Linting.Unicode.CategoryTable
import Linting.Unicode.PropertyTable

/-! Classes of characters that names, patterns and quoted text ask for. ASCII characters are
classified without a table. -/

namespace Linting.Unicode

/-- The code points of a general category, by its two letters in lower case. -/
def category? (key : String) : Option CodeSet :=
  (categoryTable.lookup key).map CodeSet.ofText

/-- The code points with a binary property, by its long name in lower case. -/
def property? (key : String) : Option CodeSet :=
  (propertyTable.lookup key).map CodeSet.ofText

/-- The code points of any of the categories given. -/
def categories (keys : List String) : CodeSet :=
  CodeSet.ofRuns (keys.flatMap fun key => ((category? key).getD .empty).ranges.toList)

def property (key : String) : CodeSet := (property? key).getD .empty

def alphabetic : CodeSet := property "alphabetic"

def alphanumeric : CodeSet := alphabetic.union (categories ["nd", "nl", "no"])

def decimalDigit : CodeSet := categories ["nd"]

def whiteSpace : CodeSet := property "whitespace"

/-- Letters, marks, decimal digits, connectors and joiners. -/
def wordCharacter : CodeSet :=
  (alphabetic.union (categories ["mn", "mc", "me", "nd", "pc"])).union (property "joincontrol")

/-- What a quoted text shows by its code: controls, separators, and what is not assigned. -/
def unprintable : CodeSet := categories ["cc", "cf", "cs", "co", "cn", "zl", "zp", "zs"]

/-- Marks that join the character before them. -/
def graphemeExtend : CodeSet := property "graphemeextend"

/-- Letters and numerals of every script. -/
def isAlphanumeric (c : Char) : Bool :=
  if c.toNat < 0x80 then c.isAlphanum else alphanumeric.contains c.toNat

def isAlphabetic (c : Char) : Bool :=
  if c.toNat < 0x80 then c.isAlpha else alphabetic.contains c.toNat

def isWhiteSpace (c : Char) : Bool :=
  if c.toNat < 0x80 then c = ' ' || ('\t' ≤ c && c ≤ '\r') else whiteSpace.contains c.toNat

def isAsciiWord (c : Char) : Bool := c.isAlphanum || c = '_'

def isWord (c : Char) : Bool :=
  if c.toNat < 0x80 then isAsciiWord c else wordCharacter.contains c.toNat

def isPrintable (c : Char) : Bool :=
  if c.toNat < 0x80 then ' ' ≤ c && c ≤ '~' else !unprintable.contains c.toNat

def isGraphemeExtend (c : Char) : Bool :=
  0x80 ≤ c.toNat && graphemeExtend.contains c.toNat

end Linting.Unicode
