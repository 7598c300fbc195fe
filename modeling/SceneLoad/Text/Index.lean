/-!
# Decimal indices

An index is written with decimal digits, an optional `+` before them, and has to fit in 64 bits.
-/

namespace SceneLoad.Text

/-- Greatest index that can be written. -/
def maxIndex : Nat := 18446744073709551615

/-- The value of a run of decimal digits, or nothing if another character occurs. -/
def digitsValue (cs : List Char) : Option Nat :=
  if cs.all Char.isDigit then
    some (cs.foldl (fun value c => 10 * value + (c.toNat - 48)) 0)
  else none

/-- The index that a character list denotes. -/
def parseIndexList (cs : List Char) : Option Nat :=
  let digits := match cs with
    | '+' :: rest => rest
    | _ => cs
  if digits.isEmpty then none
  else
    match digitsValue digits with
    | some value => if value ≤ maxIndex then some value else none
    | none => none

/-- The index that a text denotes. -/
def parseIndex (text : String) : Option Nat := parseIndexList text.toList

end SceneLoad.Text
