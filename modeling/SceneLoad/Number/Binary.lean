import SceneLoad.Number.Rounding

/-!
# Binary numbers by their bits

`Binary32` and `Binary64` are floating-point numbers kept as their bits, so that equal values are
equal terms and `=` is decidable. Their `==` is the numeric comparison: the two zeros are equal
and a value that is not a number differs from itself.
-/

namespace SceneLoad

/-- A single-precision number. -/
structure Binary32 where
  bits : UInt32
deriving DecidableEq, Inhabited

/-- A double-precision number. -/
structure Binary64 where
  bits : UInt64
deriving DecidableEq, Inhabited

namespace Binary32

/-- The number nearest to `num / den` with the given sign. -/
def ofRatio (negative : Bool) (num den : Nat) : Binary32 :=
  ⟨.ofNat (BinaryFormat.single.encode negative num den)⟩

/-- The number nearest to an integer. -/
def ofInt (value : Int) : Binary32 := ofRatio (decide (value < 0)) value.natAbs 1

/-- The value that is not a number. -/
def nan : Binary32 := ⟨0x7fc00000⟩

def isNaN (x : Binary32) : Bool := 0x7f800000 < x.bits &&& 0x7fffffff

def isZero (x : Binary32) : Bool := x.bits &&& 0x7fffffff == 0

/-- Numeric comparison: zeros of either sign are equal and nothing equals what is not a number. -/
instance : BEq Binary32 where
  beq x y := !x.isNaN && !y.isNaN && (x.bits == y.bits || x.isZero && y.isZero)

instance {n : Nat} : OfNat Binary32 n where
  ofNat := ofRatio false n 1

instance : OfScientific Binary32 where
  ofScientific digits negativeExponent exponent :=
    if negativeExponent then ofRatio false digits (pow10 exponent)
    else ofRatio false (digits * pow10 exponent) 1

instance : Neg Binary32 where
  neg x := ⟨x.bits ^^^ 0x80000000⟩

/-- The number as an operand of machine arithmetic. -/
def toFloat (x : Binary32) : Float32 := .ofBits x.bits

/-- The result of machine arithmetic. -/
def ofFloat (x : Float32) : Binary32 := ⟨x.toBits⟩

/-- The number taken apart. -/
def parts (x : Binary32) : BinaryFormat.Parts := BinaryFormat.single.decode x.bits.toNat

end Binary32

namespace Binary64

/-- The number nearest to `num / den` with the given sign. -/
def ofRatio (negative : Bool) (num den : Nat) : Binary64 :=
  ⟨.ofNat (BinaryFormat.double.encode negative num den)⟩

def isNaN (x : Binary64) : Bool := 0x7ff0000000000000 < x.bits &&& 0x7fffffffffffffff

def isZero (x : Binary64) : Bool := x.bits &&& 0x7fffffffffffffff == 0

def isInfinite (x : Binary64) : Bool := x.bits &&& 0x7fffffffffffffff == 0x7ff0000000000000

/-- Numeric comparison: zeros of either sign are equal and nothing equals what is not a number. -/
instance : BEq Binary64 where
  beq x y := !x.isNaN && !y.isNaN && (x.bits == y.bits || x.isZero && y.isZero)

/-- The number taken apart. -/
def parts (x : Binary64) : BinaryFormat.Parts := BinaryFormat.double.decode x.bits.toNat

/-- Rounds to single precision. -/
def narrow (x : Binary64) : Binary32 :=
  match x.parts with
  | .nan => Binary32.nan
  | .infinite negative => ⟨if negative then 0xff800000 else 0x7f800000⟩
  | .finite negative significand exponent =>
    if 0 ≤ exponent then .ofRatio negative (significand * pow2 exponent.toNat) 1
    else .ofRatio negative significand (pow2 (-exponent).toNat)

end Binary64

end SceneLoad
