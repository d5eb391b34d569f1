import ServerUi.Number.Double

/-! Decimal digits of a double: the fewest that read back as the same double, and a fixed count
of significant ones. -/

namespace ServerUi

/-- Significant digits without trailing zeros and the decimal exponent of the first one. -/
structure Decimal where
  digits : List Char
  exponent : Int
  deriving DecidableEq

namespace Decimal

def significant (n : Nat) : List Char :=
  ((Nat.toDigits 10 n).reverse.dropWhile (· == '0')).reverse

/-- The number `n * 10 ^ -places`. -/
def ofScaled (n : Nat) (places : Int) : Decimal :=
  ⟨significant n, (Nat.toDigits 10 n).length - 1 - places⟩

/-- The decimal exponent of the first digit of a positive count of units. -/
def leadingExponent (units : Nat) : Int :=
  (Nat.toDigits 10 (units * tenPower 400 / unitsPerOne)).length - 401

/-- Numerator and denominator of a count of units times `10 ^ places`. -/
def scaled (units : Nat) (places : Int) : Nat × Nat :=
  (units * tenPower places.toNat, unitsPerOne * tenPower (-places).toNat)

/-- Whether `n * 10 ^ -places` reads back as the given count of units. -/
def readsBack (units n : Nat) (places : Int) : Bool :=
  roundUnits (n * tenPower (-places).toNat * unitsPerOne) (tenPower places.toNat) == units

/-- The neighbour on the decimal grid with `places` digits after the point that reads back as
the given count of units; of two the nearer one, and of two equally near the even one. -/
def onGrid? (units : Nat) (places : Int) : Option Decimal :=
  let (num, den) := scaled units places
  let below := num / den
  let closest := nearest num den
  let other := if closest = below then below + 1 else below
  if readsBack units closest places then some (ofScaled closest places)
  else if readsBack units other places then some (ofScaled other places)
  else none

/-- The first grid with a point that reads back, from one significant digit on. -/
def shortestFrom (units : Nat) (exponent : Int) : Nat → Nat → Decimal
  | 0, digits => ofScaled (nearest (scaled units (digits - 1 - exponent)).1
      (scaled units (digits - 1 - exponent)).2) (digits - 1 - exponent)
  | more + 1, digits =>
    (onGrid? units (digits - 1 - exponent)).getD (shortestFrom units exponent more (digits + 1))

/-- The fewest digits that read back as a positive count of units; seventeen always do. -/
def shortest (units : Nat) : Decimal :=
  shortestFrom units (leadingExponent units) 16 1

/-- A positive count of units rounded to `count` significant digits, a half to the even digit. -/
def rounded (units count : Nat) : Decimal :=
  let places : Int := count - 1 - leadingExponent units
  let (num, den) := scaled units places
  ofScaled (nearest num den) places

/-- How a decimal is written: positionally for exponents from `low` up to, not including,
`high`, else with an exponent of at least two digits; `point` keeps `.0` on a whole number. -/
structure Form where
  low : Int
  high : Int
  point : Bool

def exponentText (e : Int) : List Char :=
  let ds := Nat.toDigits 10 e.natAbs
  (if e < 0 then '-' else '+') :: (if ds.length < 2 then '0' :: ds else ds)

/-- Digits in front of a point and behind it; the point is left out when nothing follows. -/
def pointed (front back : List Char) : List Char :=
  if back.isEmpty then front else front ++ '.' :: back

def write (form : Form) (d : Decimal) : List Char :=
  if form.low ≤ d.exponent ∧ d.exponent < form.high then
    if d.exponent < 0 then
      pointed ['0'] (List.replicate (d.exponent.natAbs - 1) '0' ++ d.digits)
    else
      let whole := d.exponent.natAbs + 1
      let back := d.digits.drop whole
      pointed (d.digits.take whole ++ List.replicate (whole - d.digits.length) '0')
        (if back.isEmpty && form.point then ['0'] else back)
  else
    pointed (d.digits.take 1) (d.digits.drop 1) ++ 'e' :: exponentText d.exponent

end Decimal

namespace Double

/-- Positional from `0.0001` up to sixteen digits, and a whole number keeps its `.0`. -/
def exactForm : Decimal.Form := ⟨-4, 16, true⟩

/-- Positional from `0.0001` up to six digits, and a whole number has no point. -/
def shortForm : Decimal.Form := ⟨-4, 6, false⟩

/-- The text of a double, given how a positive count of units and zero are written. -/
def textWith (positive : Nat → List Char) (zeroText : List Char) : Double → String
  | finite negative units _ _ =>
    let digits := if units = 0 then zeroText else positive units
    String.ofList (if negative then '-' :: digits else digits)
  | infinite negative => if negative then "-inf" else "inf"
  | nan => "nan"

/-- The fewest digits that read back: `8.0`, `1e+16`, `5e-324`. -/
def text : Double → String :=
  textWith (fun units => (Decimal.shortest units).write exactForm) ['0', '.', '0']

/-- Six significant digits: `8`, `1e+06`, `0.333333`. -/
def shortText : Double → String :=
  textWith (fun units => (Decimal.rounded units 6).write shortForm) ['0']

end Double

end ServerUi
