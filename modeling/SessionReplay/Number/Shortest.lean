import SessionReplay.Number.Double
import SessionReplay.Text.Basic

/-!
# Shortest decimals

The decimal text of a double has the fewest digits that read back as the same double, and of the
decimals with so few digits it is the nearest one. The digits are found on decimal grids, coarse to
fine: the first grid that has a point among the numbers that round to the double wins. How the
digits are laid out is one record, `FloatStyle`.
-/

namespace SessionReplay

/-- The number `digits · 10 ^ exponent`. -/
structure Decimal where
  digits : Nat
  exponent : Int
deriving DecidableEq, Repr

namespace Magnitude

/-- Four times the lower end of the numbers that round to the magnitude. Below a power of two the
doubles lie twice as close. -/
def lowerEnd (x : Magnitude) : Nat :=
  let gap := Double.spacing x.units
  4 * x.units - (if 52 < x.units.log2 ∧ x.units = 2 ^ x.units.log2 then gap else 2 * gap)

def upperEnd (x : Magnitude) : Nat := 4 * x.units + 2 * Double.spacing x.units

/-- The ends round to the magnitude themselves when its last significant bit is zero. -/
def endsIncluded (x : Magnitude) : Bool := x.units / Double.spacing x.units % 2 == 0

/-- Whether `amount / scale` steps, four times, lie among the numbers that round to `x`. -/
def admits (x : Magnitude) (amount scale : Nat) : Bool :=
  if x.endsIncluded then x.lowerEnd * scale ≤ amount && amount ≤ x.upperEnd * scale
  else x.lowerEnd * scale < amount && amount < x.upperEnd * scale

/-- The better of the two multiples of `10 ^ exponent` around `x`, if one of them rounds to `x`:
the nearer one, and of two equally near the even one. -/
def onGrid? (x : Magnitude) (exponent : Int) : Option Nat :=
  let scale := 10 ^ (-exponent).toNat
  let grid := 4 * Double.unitsPerOne * 10 ^ exponent.toNat
  let amount := 4 * x.units * scale
  let below := amount / grid
  let above := below + 1
  match x.admits (below * grid) scale, x.admits (above * grid) scale with
  | false, false => none
  | true, false => some below
  | false, true => some above
  | true, true =>
    let down := amount - below * grid
    let up := above * grid - amount
    if down < up then some below
    else if up < down then some above
    else some (if below % 2 = 0 then below else above)

def leadingPower (x : Magnitude) : Int :=
  if Double.unitsPerOne ≤ x.units then
    (Text.ofNat (x.units / Double.unitsPerOne)).length - 1
  else
    -(Text.ofNat ((Double.unitsPerOne - 1) / x.units)).length

/-- The most significant digits that a double needs to be told from its neighbours. -/
def enoughDigits : Nat := 17

def shortest (x : Magnitude) : Decimal :=
  let found := (List.range enoughDigits).findSome? fun (more : Nat) =>
    let exponent := x.leadingPower - more
    (x.onGrid? exponent).map (Decimal.mk · exponent)
  found.getD ⟨0, 0⟩

end Magnitude

structure FloatStyle where
  /-- The least power of ten of the first digit that is written without an exponent. -/
  positionalFrom : Int
  /-- The first power of ten of the first digit that is written with an exponent again. -/
  positionalTo : Int
  /-- The least number of digits of an exponent. -/
  exponentWidth : Nat
  nan : Text
  infinity : Text

namespace FloatStyle

/-- Positional from a ten-thousandth up to 10¹⁶, `.0` after a whole number, an exponent with its
sign and at least two digits. -/
def plain : FloatStyle where
  positionalFrom := -4
  positionalTo := 16
  exponentWidth := 2
  nan := "nan"
  infinity := "inf"

/-- The digits around the decimal point, when the first one stands for `10 ^ power`. -/
def positional (digits : Text) (power : Int) : Text :=
  if power < 0 then
    "0." ++ List.replicate (-power - 1).toNat '0' ++ digits
  else
    let whole := power.toNat + 1
    let fraction : Text := if digits.length ≤ whole then "0" else digits.drop whole
    digits.take whole ++ List.replicate (whole - digits.length) '0' ++ "." ++ fraction

def scientific (style : FloatStyle) (digits : Text) (power : Int) : Text :=
  let fraction : Text := if digits.length ≤ 1 then [] else '.' :: digits.drop 1
  let sign : Text := if power < 0 then "-" else "+"
  digits.take 1 ++ fraction ++ "e" ++ sign ++ Text.padded style.exponentWidth power.natAbs

def magnitude (style : FloatStyle) (x : Magnitude) : Text :=
  let decimal := x.shortest
  let written := Text.ofNat decimal.digits
  let power := decimal.exponent + written.length - 1
  let digits := (written.reverse.dropWhile (· == '0')).reverse
  if style.positionalFrom ≤ power ∧ power < style.positionalTo then positional digits power
  else style.scientific digits power

def sign (negative : Bool) : Text := if negative then "-" else ""

def format (style : FloatStyle) : Double → Text
  | .nan => style.nan
  | .infinite negative => sign negative ++ style.infinity
  | .finite negative x =>
    if x.units = 0 then sign negative ++ "0.0" else sign negative ++ style.magnitude x

end FloatStyle

def Double.numeral (x : Double) : Text := FloatStyle.plain.format x

end SessionReplay
