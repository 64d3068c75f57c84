import SessionReplay.Number.Double

/-!
# Sums and products of doubles

Both are computed exactly and rounded once.
-/

namespace SessionReplay.Double

/-- The double nearest to a quotient that counts steps of 2⁻¹⁰⁷⁴. -/
def ofUnits (negative : Bool) (dividend divisor : Nat) : Double :=
  let units := nearestUnits dividend divisor
  if h : units < unitsLimit then .finite negative ⟨units, h, representable_nearestUnits _ _⟩
  else .infinite negative

def negate : Double → Double
  | .nan => .nan
  | .infinite negative => .infinite !negative
  | .finite negative magnitude => .finite (!negative) magnitude

/-- The number of steps of 2⁻¹⁰⁷⁴, negative for a negative double. -/
def signedUnits (negative : Bool) (magnitude : Magnitude) : Int :=
  if negative then -magnitude.units else magnitude.units

/-- The sum. A sum of zero is negative only if both parts are. -/
def add : Double → Double → Double
  | .finite a x, .finite b y =>
    let sum := signedUnits a x + signedUnits b y
    ofUnits (if sum = 0 then a && b else sum < 0) sum.natAbs 1
  | .infinite a, .infinite b => if a = b then .infinite a else .nan
  | .infinite a, .finite _ _ | .finite _ _, .infinite a => .infinite a
  | _, _ => .nan

def mul : Double → Double → Double
  | .finite a x, .finite b y => ofUnits (a != b) (x.units * y.units) unitsPerOne
  | .infinite a, .infinite b => .infinite (a != b)
  | .infinite a, .finite b x | .finite b x, .infinite a =>
    if x.units = 0 then .nan else .infinite (a != b)
  | _, _ => .nan

end SessionReplay.Double
