/-! The shortest decimal that reads back as a given binary floating-point number, written without an
exponent. -/

namespace Linting.Decimal

/-- A positive number `mantissa * 2 ^ exponent`. -/
structure Binary where
  mantissa : Nat
  exponent : Int

/-- A number `digits * 10 ^ exponent`. -/
structure Scientific where
  digits : Nat
  exponent : Int
  deriving DecidableEq, Repr

/-- The fraction of a number has 52 bits. -/
def fractionLimit : Nat := 0x10000000000000

/-- The highest of the 64 bits is the sign. -/
def signBit : Nat := 0x8000000000000000

/-- The finite magnitude that 63 bits stand for, or `none` for infinities and what is no number. -/
def ofBits? (bits : Nat) : Option Binary :=
  let field : Nat := bits / fractionLimit % 2048
  let fraction : Nat := bits % fractionLimit
  if field = 2047 then none
  else if field = 0 then some ⟨fraction, -1074⟩
  else some ⟨fractionLimit + fraction, (field : Int) - 1075⟩

/-- `n * 2 ^ e * 10 ^ (-k)` as a quotient of naturals. -/
def scaled (n : Nat) (e k : Int) : Nat × Nat :=
  (n * Nat.pow 2 e.toNat * Nat.pow 10 (-k).toNat, Nat.pow 2 (-e).toNat * Nat.pow 10 k.toNat)

/-- The multiple of `10 ^ k` next to the number, if it lies among those that round to the number.
The bounds belong to these when the mantissa is even. -/
def onGrid? (x : Binary) (k : Int) : Option Scientific :=
  let e := x.exponent - 2
  let below := if x.mantissa = fractionLimit ∧ -1074 < x.exponent then 1 else 2
  let (lo, den) := scaled (4 * x.mantissa - below) e k
  let (mid, _) := scaled (4 * x.mantissa) e k
  let (hi, _) := scaled (4 * x.mantissa + 2) e k
  let fits (c : Nat) : Bool :=
    if x.mantissa % 2 = 0 then lo ≤ c * den && c * den ≤ hi else lo < c * den && c * den < hi
  let down := mid / den
  let nearest := if 2 * (mid - down * den) < den then [down, down + 1] else [down + 1, down]
  (nearest.find? fun c => 0 < c && fits c).map fun c => ⟨c, k⟩

/-- The first grid with a hit, from coarse to fine. -/
def shortest (x : Binary) : Scientific :=
  ((List.range 660).findSome? fun (i : Nat) => onGrid? x (320 - (i : Int))).getD ⟨0, 0⟩

/-- Digits with a point and at least one place behind it. -/
def Scientific.text (s : Scientific) : String :=
  let digits := Nat.toDigits 10 s.digits
  if 0 ≤ s.exponent then
    String.ofList (digits ++ List.replicate s.exponent.toNat '0' ++ ['.', '0'])
  else
    let places := (-s.exponent).toNat
    let padded := List.replicate (places + 1 - digits.length) '0' ++ digits
    let whole := padded.length - places
    String.ofList (padded.take whole ++ '.' :: padded.drop whole)

/-- The text of a floating-point number. -/
def floatText (x : Float) : String :=
  let bits := x.toBits.toNat
  let magnitude := bits % signBit
  let sign := if signBit ≤ bits then "-" else ""
  match ofBits? magnitude with
  | none => if magnitude % fractionLimit = 0 then sign ++ "inf" else "NaN"
  | some x => sign ++ (if x.mantissa = 0 then "0.0" else (shortest x).text)

/-- The floating-point number nearest to `digits * 10 ^ exponent`. Exponents so large or so small
that the number overflows or vanishes are cut short. -/
def toFloat (digits : Nat) (exponent : Int) : Float :=
  let width : Int := (Nat.toDigits 10 digits).length
  if digits = 0 then 0
  else if 400 < exponent + width then 1 / 0
  else if exponent + width < -400 then 0
  else if 0 ≤ exponent then Float.ofScientific (digits * Nat.pow 10 exponent.toNat) false 0
  else Float.ofScientific digits true (-exponent).toNat

end Linting.Decimal
