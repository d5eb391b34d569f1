import ServerUi.Number.Rounding

/-! Double precision numbers as exact values: a finite one is a sign and a count of the
smallest positive double, `2 ^ -1074`. -/

namespace ServerUi

def unitsPerOne : Nat := twoPower 1074

/-- The first count of units that is too large for a finite double. -/
def unitsLimit : Nat := twoPower 2098

theorem unitsPerOne_pos : 0 < unitsPerOne := twoPower_pos 1074

theorem unitsLimit_pos : 0 < unitsLimit := twoPower_pos 2098

/-- A double precision number. Zero keeps its sign. -/
inductive Double where
  | finite (negative : Bool) (units : Nat) (short : Short units) (small : units < unitsLimit)
  | infinite (negative : Bool)
  | nan
  deriving DecidableEq

namespace Double

/-- The finite double nearest to `num / den` units, unless that is too large. -/
def round? (negative : Bool) (num den : Nat) : Option Double :=
  if h : roundUnits num den < unitsLimit then
    some (.finite negative (roundUnits num den) (roundUnits_short num den) h)
  else none

/-- The double nearest to a whole number; there is none for a number that is too large. -/
def ofInt? (n : Int) : Option Double :=
  round? (n < 0) (n.natAbs * unitsPerOne) 1

/-- The double nearest to `digits * 10 ^ exponent`; too large a number becomes infinite. The
two outer branches only keep the powers of ten small. -/
def ofDecimal (negative : Bool) (digits : Nat) (exponent : Int) : Double :=
  if digits = 0 then .finite negative 0 short_zero unitsLimit_pos
  else if 400 < exponent then .infinite negative
  else if digits.log2 + 1 + 3 * exponent < -1200 then
    .finite negative 0 short_zero unitsLimit_pos
  else
    let num := digits * tenPower exponent.toNat * unitsPerOne
    (round? negative num (tenPower (-exponent).toNat)).getD (.infinite negative)

def ofNat (n : Nat) : Double := (ofInt? n).getD .nan

def zero : Double := .finite false 0 short_zero unitsLimit_pos

def isZero : Double → Bool
  | finite _ units _ _ => units == 0
  | _ => false

/-- At least zero, which holds of `-0.0` and not of a number that is none. -/
def isNonnegative : Double → Bool
  | finite negative units _ _ => !negative || units == 0
  | infinite negative => !negative
  | nan => false

/-- The whole number that a double is. -/
def toInt? : Double → Option Int
  | finite negative units _ _ =>
    if units % unitsPerOne = 0 then
      let n : Int := (units / unitsPerOne : Nat)
      some (if negative then -n else n)
    else none
  | _ => none

/-- Equality as numbers: zeros of both signs are equal, and a number that is none is not even
equal to itself. -/
def sameNumber : Double → Double → Bool
  | finite s a _ _, finite t b _ _ => a == b && (s == t || a == 0)
  | infinite s, infinite t => s == t
  | _, _ => false

end Double

end ServerUi
