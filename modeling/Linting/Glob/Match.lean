import Linting.Glob.Token
import Linting.Text.Utf8

/-! What glob patterns match. A piece turns a sequence of bytes into the sequences that may be left
behind what it matches; a pattern matches when nothing may be left. -/

namespace Linting.Glob

def slash : UInt8 := 0x2F

/-- The sequence and everything behind a prefix of it that holds no slash when `stops`. -/
def suffixes (stops : Bool) : List UInt8 → List (List UInt8)
  | [] => [[]]
  | b :: rest => (b :: rest) :: (if stops && b = slash then [] else suffixes stops rest)

/-- What stands behind each slash. -/
def afterSlashes : List UInt8 → List (List UInt8)
  | [] => []
  | b :: rest => if b = slash then rest :: afterSlashes rest else afterSlashes rest

/-- Sequences with one common end, each once. -/
def distinct (rests : List (List UInt8)) : List (List UInt8) :=
  rests.foldl (fun kept rest =>
    if kept.any fun other => other.length = rest.length then kept else rest :: kept) []

/-- The bytes that a class stands for, as ranges. A range between characters of several bytes
stands for the leading bytes of the first, a range of bytes, and the trailing bytes of the last. -/
def byteRanges (range : Char × Char) : List (UInt8 × UInt8) :=
  let first := String.utf8EncodeChar range.1
  let last := String.utf8EncodeChar range.2
  if range.1 = range.2 then first.map fun b => (b, b)
  else
    first.dropLast.map (fun b => (b, b)) ++
      (first.getLast?.getD 0, last.head?.getD 0) :: last.tail.map fun b => (b, b)

def classHolds (ranges : List (Char × Char)) (b : UInt8) : Bool :=
  (ranges.flatMap byteRanges).any fun r => r.1 ≤ b && b ≤ r.2

/-- What is left behind one byte that passes a test. -/
def afterByte (test : UInt8 → Bool) : List UInt8 → List (List UInt8)
  | [] => []
  | b :: rest => if test b then [rest] else []

mutual

/-- Whether a piece says nothing at all, as a group without branches does. -/
def Token.isVacant : Token → Bool
  | .alternates branches => allVacant branches
  | _ => false

def areVacant : List Token → Bool
  | [] => true
  | token :: rest => token.isVacant && areVacant rest

def allVacant : List (List Token) → Bool
  | [] => true
  | branch :: rest => areVacant branch && allVacant rest

end

mutual

/-- What may be left behind a piece. Empty branches of a group do not count, and a group without
others matches nothing at all without failing. -/
def Token.rests (dialect : Dialect) (bytes : List UInt8) : Token → List (List UInt8)
  | .literal c =>
    let code := String.utf8EncodeChar c
    if code.isPrefixOf bytes then [bytes.drop code.length] else []
  | .any => afterByte (fun b => !dialect.separatorIsLiteral || b != slash) bytes
  | .zeroOrMore => suffixes dialect.separatorIsLiteral bytes
  | .recursivePrefix => bytes :: afterSlashes bytes
  | .recursiveSuffix => (afterByte (· = slash) bytes).flatMap (suffixes false)
  | .recursiveZeroOrMore =>
    (afterByte (· = slash) bytes).flatMap fun rest => rest :: afterSlashes rest
  | .oneOf negated ranges => afterByte (fun b => classHolds ranges b != negated) bytes
  | .alternates branches =>
    if allVacant branches then [bytes] else branchRests dialect bytes branches

def restsOf (dialect : Dialect) (rests : List (List UInt8)) : List Token → List (List UInt8)
  | [] => rests
  | token :: more =>
    restsOf dialect (distinct (rests.flatMap fun bytes => token.rests dialect bytes)) more

def branchRests (dialect : Dialect) (bytes : List UInt8) :
    List (List Token) → List (List UInt8)
  | [] => []
  | branch :: more =>
    (if areVacant branch then [] else restsOf dialect [bytes] branch) ++
      branchRests dialect bytes more

end

/-- Whether the last component of a path is `..`. -/
def endsInParent (bytes : List UInt8) : Bool :=
  (bytes.reverse.takeWhile (· != slash)) = [0x2E, 0x2E]

def Token.isLiteral : Token → Bool
  | .literal _ => true
  | _ => false

/-- A character that stands for itself and is not among some. -/
def Token.isPlain (special : List Char) : Token → Bool
  | .literal c => !special.contains c
  | _ => false

/-- Pieces behind `**` as the first component. -/
def dropRecursivePrefix : List Token → List Token
  | .recursivePrefix :: rest => rest
  | tokens => tokens

/-- `**` and a name. -/
def isFileName : List Token → Bool
  | .recursivePrefix :: rest => !rest.isEmpty && rest.all (Token.isPlain ['/'])
  | _ => false

/-- `*` and an extension, in any directory. -/
def isExtension (dialect : Dialect) (tokens : List Token) : Bool :=
  match tokens with
  | .recursivePrefix :: .zeroOrMore :: .literal '.' :: rest => rest.all (Token.isPlain ['.', '/'])
  | .zeroOrMore :: .literal '.' :: rest =>
    !dialect.separatorIsLiteral && rest.all (Token.isPlain ['.', '/'])
  | _ => false

/-- Anything, and then text that stands for itself. -/
def isSuffix (dialect : Dialect) (tokens : List Token) : Bool :=
  match dropRecursivePrefix tokens with
  | .zeroOrMore :: rest => !dialect.separatorIsLiteral && rest.all Token.isLiteral
  | rest => rest.all Token.isLiteral

/-- An extension at the end, whatever stands before it. -/
def endsInExtension (tokens : List Token) : Bool :=
  match tokens.reverse.dropWhile (Token.isPlain ['.', '/']) with
  | .literal '.' :: _ => true
  | _ => false

/-- Whether a pattern asks for the name of a file or for its extension, and not just for what a path
is or ends in. -/
def namesFile (dialect : Dialect) (tokens : List Token) : Bool :=
  isFileName tokens || isExtension dialect tokens ||
    (!isSuffix dialect tokens && endsInExtension tokens)

end Linting.Glob
