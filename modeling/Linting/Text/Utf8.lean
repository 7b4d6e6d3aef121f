/-! UTF-8: the bytes of characters, and the characters of bytes, well-formed or not. -/

namespace Linting.Text

/-- The bytes of a text. -/
def encode (cs : List Char) : List UInt8 := cs.flatMap String.utf8EncodeChar

/-- The number of bytes of a text. -/
def byteLength : List Char → Nat
  | [] => 0
  | c :: rest => c.utf8Size + byteLength rest

/-- What may follow a leading byte: the number of continuation bytes and the bounds of the first of
them. Those bounds keep out overlong forms, surrogates and codes past the last one. -/
def tailShape (b : Nat) : Option (Nat × Nat × Nat) :=
  if b < 0x80 then some (0, 0, 0)
  else if b < 0xC2 then none
  else if b < 0xE0 then some (1, 0x80, 0xBF)
  else if b = 0xE0 then some (2, 0xA0, 0xBF)
  else if b = 0xED then some (2, 0x80, 0x9F)
  else if b < 0xF0 then some (2, 0x80, 0xBF)
  else if b = 0xF0 then some (3, 0x90, 0xBF)
  else if b < 0xF4 then some (3, 0x80, 0xBF)
  else if b = 0xF4 then some (3, 0x80, 0x8F)
  else none

/-- How many of the next bytes continue a character that needs `n` more. -/
def tailLength (n lo hi : Nat) : List UInt8 → Nat
  | [] => 0
  | b :: rest =>
    match n with
    | 0 => 0
    | n + 1 => if lo ≤ b.toNat ∧ b.toNat ≤ hi then tailLength n 0x80 0xBF rest + 1 else 0

/-- The character with a leading byte and continuation bytes. -/
def assemble (b : Nat) (tail : List UInt8) : Char :=
  let lead := match tail.length with
    | 0 => b
    | 1 => b % 0x20
    | 2 => b % 0x10
    | _ => b % 0x08
  Char.ofNat (tail.foldl (fun n c => n * 64 + c.toNat % 64) lead)

/-- Decodes bytes; `none` stands for a longest sequence of bytes that begins a character and cannot
go on, or for a single byte that begins none. -/
def scan : List UInt8 → List (Option Char)
  | [] => []
  | b :: rest =>
    match tailShape b.toNat with
    | none => none :: scan rest
    | some (n, lo, hi) =>
      let k := tailLength n lo hi rest
      (if k = n then some (assemble b.toNat (rest.take k)) else none) :: scan (rest.drop k)
termination_by bytes => bytes.length
decreasing_by all_goals simp; try omega

/-- The text that the bytes encode, if they are well formed. -/
def decode? (bytes : List UInt8) : Option (List Char) := (scan bytes).mapM id

/-- The text with a replacement character for each malformed sequence. -/
def decodeLossy (bytes : List UInt8) : List Char :=
  (scan bytes).map fun c => c.getD '\uFFFD'

end Linting.Text
