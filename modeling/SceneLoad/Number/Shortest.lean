import SceneLoad.Number.Binary

/-!
# Shortest decimal text of a number

A double-precision number is written with the fewest significant digits that still read back as
it. `shortest` tries one digit, two digits and so on: on the grid of decimals of each length only
the two neighbours of the value can be nearest to it, and the first grid with a neighbour inside
the interval of reals that round to the value wins. `Binary64.text` lays the digits out.
-/

namespace SceneLoad

/-- The decimal `digits * 10 ^ exponent`. -/
structure ScaledDecimal where
  digits : Nat
  exponent : Int

/-- The positive reals that round to one binary number, as ratios over the common denominator
`den`. The ends belong to it when `closed`. -/
structure RoundingInterval where
  low : Nat
  value : Nat
  high : Nat
  den : Nat
  closed : Bool

namespace RoundingInterval

/-- The interval of `significand * 2 ^ exponent`. Below a power of two the numbers are twice as
dense, except at the least exponent. -/
def of (significand : Nat) (exponent : Int) : RoundingInterval :=
  let format := BinaryFormat.double
  let narrowBelow := significand == pow2 format.fractionBits && format.leastExponent < exponent
  let up := if 0 ≤ exponent then pow2 exponent.toNat else 1
  { low := (4 * significand - (if narrowBelow then 1 else 2)) * up
    value := 4 * significand * up
    high := (4 * significand + 2) * up
    den := 4 * (if 0 ≤ exponent then 1 else pow2 (-exponent).toNat)
    closed := significand % 2 == 0 }

/-- Whether the decimal `num / den'` lies in the interval. -/
def contains (interval : RoundingInterval) (num den : Nat) : Bool :=
  let left := interval.low * den
  let middle := num * interval.den
  let right := interval.high * den
  if interval.closed then left ≤ middle && middle ≤ right else left < middle && middle < right

end RoundingInterval

/-- The greatest `e` with `10 ^ e ≤ num / den`, searched downwards from `start`. -/
def decimalExponent (num den : Nat) : (steps : Nat) → (start : Int) → Int
  | 0, start => start
  | steps + 1, start =>
    let fits :=
      if 0 ≤ start then den * pow10 start.toNat ≤ num else den ≤ num * pow10 (-start).toNat
    if fits then start else decimalExponent num den steps (start - 1)

/-- The nearest decimal in the interval on the grid `10 ^ place`, if it has one. -/
def RoundingInterval.onGrid (interval : RoundingInterval) (place : Int) : Option ScaledDecimal :=
  let up := if 0 ≤ place then pow10 place.toNat else 1
  let down := if 0 ≤ place then 1 else pow10 (-place).toNat
  let below := interval.value * down / (interval.den * up)
  let twice := 2 * (interval.value * down % (interval.den * up))
  let nearAbove := interval.den * up < twice || twice == interval.den * up && below % 2 == 1
  let ordered := if nearAbove then [below + 1, below] else [below, below + 1]
  match ordered.find? fun digits => interval.contains (digits * up) down with
  | some digits => some ⟨digits, place⟩
  | none => none

/-- The first of the grids `place`, `place - 1`, ... that has a decimal in the interval. -/
def RoundingInterval.firstOnGrids (interval : RoundingInterval) :
    (count : Nat) → (place : Int) → ScaledDecimal
  | 0, place => ⟨interval.value, place⟩
  | count + 1, place =>
    match interval.onGrid place with
    | some decimal => decimal
    | none => interval.firstOnGrids count (place - 1)

/-- The decimal with the fewest digits that reads back as `significand * 2 ^ exponent`, which is
positive. Seventeen digits always suffice. -/
def shortest (significand : Nat) (exponent : Int) : ScaledDecimal :=
  let interval := RoundingInterval.of significand exponent
  let top := decimalExponent interval.value interval.den 640 309
  interval.firstOnGrids 17 top

/-- Digits of a natural without its trailing zeros, and how many zeros those were. -/
def trimZeros : (fuel : Nat) → Nat → Nat × Nat
  | 0, n => (n, 0)
  | fuel + 1, n =>
    if n ≠ 0 && n % 10 == 0 then
      let (digits, zeros) := trimZeros fuel (n / 10)
      (digits, zeros + 1)
    else (n, 0)

/-- Where positional notation ends and scientific notation begins. -/
structure DecimalLayout where
  /-- Least decimal exponent written positionally. -/
  lowest : Int
  /-- Greatest decimal exponent written positionally. -/
  highest : Int

namespace DecimalLayout

/-- Positional from `0.00001` up to, but not including, ten quadrillion. -/
def standard : DecimalLayout := ⟨-5, 15⟩

/-- A positive decimal as text: positional with at least one decimal place, or scientific with a
signed exponent. -/
def render (layout : DecimalLayout) (decimal : ScaledDecimal) : String :=
  let (digits, zeros) := trimZeros 400 decimal.digits
  let text := toString digits
  let exponent : Int := decimal.exponent + zeros + text.length - 1
  if layout.lowest ≤ exponent ∧ exponent ≤ layout.highest then
    if exponent < 0 then
      "0." ++ String.ofList (List.replicate (-exponent - 1).toNat '0') ++ text
    else
      let whole := exponent.toNat + 1
      if text.length ≤ whole then
        text ++ String.ofList (List.replicate (whole - text.length) '0') ++ ".0"
      else
        String.ofList (text.toList.take whole) ++ "." ++ String.ofList (text.toList.drop whole)
  else
    let significand :=
      match text.toList with
      | [] => ""
      | [digit] => String.ofList [digit]
      | digit :: rest => String.ofList (digit :: '.' :: rest)
    let mark := if exponent < 0 then "e-" else "e+"
    significand ++ mark ++ toString exponent.natAbs

end DecimalLayout

/-- The shortest text that reads back as the number. -/
def Binary64.text (x : Binary64) : String :=
  match x.parts with
  | .nan => "NaN"
  | .infinite negative => if negative then "-inf" else "inf"
  | .finite negative significand exponent =>
    let sign := if negative then "-" else ""
    if significand = 0 then sign ++ "0.0"
    else sign ++ DecimalLayout.standard.render (shortest significand exponent)

end SceneLoad
