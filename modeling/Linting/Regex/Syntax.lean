import Linting.Unicode.Query

/-! The parts of a regular expression as it is written. -/

namespace Linting.Regex

/-- A letter of a flag group such as `(?i-s)`, or the hyphen in it. -/
inductive FlagItem
  | negation
  | caseInsensitive
  | multiLine
  | dotMatchesNewLine
  | swapGreed
  | unicode
  | crlf
  | ignoreWhitespace
  deriving DecidableEq, Repr

inductive Assertion
  | startLine
  | endLine
  | startText
  | endText
  | wordBoundary
  | notWordBoundary
  | wordStart
  | wordEnd
  | wordStartHalf
  | wordEndHalf
  deriving DecidableEq, Repr

inductive PerlClass
  | digit
  | space
  | word
  deriving DecidableEq, Repr

/-- The classes written `[:name:]` inside brackets. -/
inductive AsciiClass
  | alnum | alpha | ascii | blank | cntrl | digit | graph | lower | print | punct | space | upper
  | word | xdigit
  deriving DecidableEq, Repr

/-- What stands for one position of the text. `byte` marks a literal written as `\x` and two
digits, which means a byte where Unicode is off. -/
inductive Primitive
  | literal (c : Char) (byte : Bool)
  | dot
  | assertion (a : Assertion)
  | perl (cls : PerlClass) (negated : Bool)
  | unicode (query : Unicode.ClassQuery) (negated : Bool)
  deriving DecidableEq, Repr

inductive SetOp
  | intersection
  | difference
  | symmetricDifference
  deriving DecidableEq, Repr

/-- What a bracketed class lists. -/
inductive ClassItem
  | literal (c : Char) (byte : Bool)
  | range (first : Char) (firstByte : Bool) (final : Char) (finalByte : Bool)
  | ascii (cls : AsciiClass) (negated : Bool)
  | perl (cls : PerlClass) (negated : Bool)
  | unicode (query : Unicode.ClassQuery) (negated : Bool)
  | bracketed (negated : Bool) (item : ClassItem)
  | union (items : List ClassItem)
  | combine (op : SetOp) (lhs rhs : ClassItem)
  deriving Repr

/-- A pattern as written. A group without flags captures or just groups; what it is called does not
matter for matching. -/
inductive Ast
  | empty
  | flags (items : List FlagItem)
  | primitive (p : Primitive)
  | bracketed (negated : Bool) (item : ClassItem)
  | repetition (min : Nat) (max : Option Nat) (greedy : Bool) (body : Ast)
  | group (captures : Bool) (items : List FlagItem) (body : Ast)
  | alternation (branches : List Ast)
  | concat (parts : List Ast)
  deriving Repr

namespace ClassItem

/-- How deep brackets, unions and set operations nest. -/
def depth : ClassItem → Nat
  | bracketed _ item => item.depth + 1
  | union [] => 0
  | union (item :: items) => max item.depth (depthAll items) + 1
  | combine _ lhs rhs => max lhs.depth rhs.depth + 1
  | _ => 0
where
  depthAll : List ClassItem → Nat
    | [] => 0
    | item :: items => max item.depth (depthAll items)

/-- One item stands for itself. -/
def ofList : List ClassItem → ClassItem
  | [item] => item
  | items => union items

end ClassItem

namespace Ast

/-- How deep groups, classes, repetitions, branches and sequences nest. -/
def depth : Ast → Nat
  | bracketed _ item => item.depth + 1
  | repetition _ _ _ body => body.depth + 1
  | group _ _ body => body.depth + 1
  | alternation branches => depthAll branches + 1
  | concat parts => depthAll parts + 1
  | _ => 0
where
  depthAll : List Ast → Nat
    | [] => 0
    | part :: parts => max part.depth (depthAll parts)

/-- A sequence; one part stands for itself. -/
def ofParts : List Ast → Ast
  | [] => empty
  | [part] => part
  | parts => concat parts

end Ast

end Linting.Regex
