/-!
# Rounding a ratio to a binary format

A binary format keeps a fixed number of significant bits and a bounded exponent. Every number
of a scene document is a ratio of two naturals before it is stored, so one rounding serves
decimal literals, integers and narrowing alike: `BinaryFormat.encode` gives the bits of the
nearest representable number, ties to the even significand, infinity beyond the range.
-/

namespace SceneLoad

/-- A power of two. -/
def pow2 (exponent : Nat) : Nat := Nat.pow 2 exponent

/-- A power of ten. -/
def pow10 (exponent : Nat) : Nat := Nat.pow 10 exponent

/-- The nearest natural to `num / den`, a half going to the even neighbour. -/
def roundRatio (num den : Nat) : Nat :=
  let quotient := num / den
  let twice := 2 * (num % den)
  if twice < den then quotient
  else if den < twice then quotient + 1
  else quotient + quotient % 2

/-- The widths of a binary interchange format. -/
structure BinaryFormat where
  /-- Bits stored after the leading significant one. -/
  fractionBits : Nat
  /-- Bits of the biased exponent. -/
  exponentBits : Nat

namespace BinaryFormat

/-- Single precision. -/
def single : BinaryFormat := ⟨23, 8⟩

/-- Double precision. -/
def double : BinaryFormat := ⟨52, 11⟩

variable (format : BinaryFormat)

/-- Distance of the sign bit from the lowest bit. -/
def width : Nat := format.fractionBits + format.exponentBits

/-- Bits of positive infinity. -/
def infinity : Nat := (pow2 format.exponentBits - 1) * pow2 format.fractionBits

/-- Exponent of the least positive number, which is a power of two. -/
def leastExponent : Int :=
  2 - pow2 (format.exponentBits - 1) - format.fractionBits

/-- `num / den / 2 ^ exponent` as a pair of naturals. -/
def scaled (num den : Nat) (exponent : Int) : Nat × Nat :=
  if 0 ≤ exponent then (num, den * pow2 exponent.toNat)
  else (num * pow2 (-exponent).toNat, den)

/-- Exponent of the last place that keeps the significand of `num / den` in full. -/
def placeExponent (num den : Nat) : Int :=
  let guess : Int := (num.log2 : Int) - den.log2 - format.fractionBits - 1
  let (n, d) := scaled num den guess
  let exponent := if d * pow2 (format.fractionBits + 1) ≤ n then guess + 1 else guess
  max exponent format.leastExponent

/-- Bits of the positive number nearest to `num / den`. The significand is added onto the
exponent field, so that a carry out of the significand raises the exponent. -/
def magnitude (num den : Nat) : Nat :=
  if num = 0 then 0 else
    let exponent := format.placeExponent num den
    let (n, d) := scaled num den exponent
    let bits := (exponent - format.leastExponent).toNat * pow2 format.fractionBits + roundRatio n d
    min bits format.infinity

/-- Bits of the number nearest to `num / den` with the given sign. -/
def encode (negative : Bool) (num den : Nat) : Nat :=
  (if negative then pow2 format.width else 0) + format.magnitude num den

/-- A number taken apart. -/
inductive Parts where
  | nan
  | infinite (negative : Bool)
  /-- The number `significand * 2 ^ exponent`. -/
  | finite (negative : Bool) (significand : Nat) (exponent : Int)

/-- The number that `bits` stand for. -/
def decode (bits : Nat) : Parts :=
  let negative := bits / pow2 format.width % 2 == 1
  let field := bits / pow2 format.fractionBits % pow2 format.exponentBits
  let fraction := bits % pow2 format.fractionBits
  if field = pow2 format.exponentBits - 1 then
    if fraction = 0 then .infinite negative else .nan
  else if field = 0 then .finite negative fraction format.leastExponent
  else
    .finite negative (pow2 format.fractionBits + fraction) (format.leastExponent + (field - 1))

end BinaryFormat

end SceneLoad
