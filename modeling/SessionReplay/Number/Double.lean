/-!
# Doubles

The numbers of the binary interchange format with 64 bits, without bits: a finite double is a sign
and a magnitude that counts steps of 2⁻¹⁰⁷⁴, the distance between the smallest doubles. All
arithmetic on magnitudes is arithmetic on natural numbers, so nothing is rounded before the one
place that rounds, `nearestUnits`.

`representable_nearestUnits` says that what rounding yields has at most 53 significant bits.
-/

namespace SessionReplay

/-- Powers are those of the core library, also where an algebraic hierarchy brings its own. -/
@[default_instance high]
instance corePow {α : Type} [NatPow α] : Pow α Nat := instPowNat

/-- The quotient as the nearest natural number; a half goes to the even neighbour. -/
def roundHalfEven (dividend divisor : Nat) : Nat :=
  let quotient := dividend / divisor
  let twice := 2 * (dividend % divisor)
  if twice < divisor then quotient
  else if divisor < twice then quotient + 1
  else if quotient % 2 = 0 then quotient
  else quotient + 1

theorem roundHalfEven_le (n d : Nat) : roundHalfEven n d ≤ n / d + 1 := by
  unfold roundHalfEven; grind

theorem le_roundHalfEven (n d : Nat) : n / d ≤ roundHalfEven n d := by
  unfold roundHalfEven; grind

namespace Double

/-- The number of steps of 2⁻¹⁰⁷⁴ in one. -/
def unitsPerOne : Nat := 2 ^ 1074

/-- The number of steps in 2¹⁰²⁴, the first power of two that is no double. -/
def unitsLimit : Nat := 2 ^ 2098

/-- The distance, in steps, between neighbouring doubles from `units` upwards. -/
def spacing (units : Nat) : Nat := 2 ^ (units.log2 - 52)

/-- At most 53 significant bits. -/
def Representable (units : Nat) : Prop := spacing units ∣ units

instance (units : Nat) : Decidable (Representable units) :=
  inferInstanceAs (Decidable (_ ∣ _))

/-- The quotient, counted in steps, with 53 significant bits; a half goes to the even neighbour. -/
def nearestUnits (dividend divisor : Nat) : Nat :=
  let gap := spacing (dividend / divisor)
  roundHalfEven dividend (divisor * gap) * gap

theorem representable_mul_two_pow {k s : Nat} (h : k ≤ 2 ^ 53) : Representable (k * 2 ^ s) := by
  unfold Representable spacing
  rcases Nat.eq_zero_or_pos k with rfl | hk
  · simp
  rcases Nat.lt_or_eq_of_le h with hlt | rfl
  · have hpos : k * 2 ^ s ≠ 0 := Nat.mul_ne_zero (by omega) (by simp)
    have hlog : (k * 2 ^ s).log2 < 53 + s := by
      rw [Nat.log2_lt hpos, Nat.pow_add]
      exact Nat.mul_lt_mul_of_pos_right hlt (Nat.two_pow_pos s)
    exact Nat.dvd_trans (Nat.pow_dvd_pow 2 (by omega)) (Nat.dvd_mul_left _ _)
  · rw [← Nat.pow_add, Nat.log2_two_pow]
    exact Nat.pow_dvd_pow 2 (by omega)

theorem representable_nearestUnits (n d : Nat) : Representable (nearestUnits n d) := by
  unfold nearestUnits spacing
  apply representable_mul_two_pow
  refine Nat.le_trans (roundHalfEven_le _ _) ?_
  rw [← Nat.div_div_eq_div_mul]
  generalize n / d = q
  rcases Nat.eq_zero_or_pos q with rfl | hq
  · simp
  have hlt : q < 2 ^ (q.log2 + 1) := Nat.lt_log2_self
  have hle : 2 ^ (q.log2 + 1) ≤ 2 ^ 53 * 2 ^ (q.log2 - 52) := by
    rw [← Nat.pow_add]
    exact Nat.pow_le_pow_right (by decide) (by omega)
  have hdiv : q / 2 ^ (q.log2 - 52) < 2 ^ 53 :=
    Nat.div_lt_of_lt_mul (by rw [Nat.mul_comm]; exact Nat.lt_of_lt_of_le hlt hle)
  omega

end Double

/-- The absolute value of a finite double, counted in steps of 2⁻¹⁰⁷⁴. -/
structure Magnitude where
  units : Nat
  units_lt : units < Double.unitsLimit
  representable : Double.Representable units
deriving DecidableEq

/-- A binary number of 64 bits. Zero has a sign. -/
inductive Double where
  | nan
  | infinite (negative : Bool)
  | finite (negative : Bool) (magnitude : Magnitude)
deriving DecidableEq

namespace Double

/-- The double nearest to a quotient; from halfway between the greatest double and 2¹⁰²⁴ on it is
infinite. -/
def ofRatio (negative : Bool) (dividend divisor : Nat) : Double :=
  let units := nearestUnits (dividend * unitsPerOne) divisor
  if h : units < unitsLimit then
    .finite negative ⟨units, h, representable_nearestUnits _ _⟩
  else .infinite negative

def finite? : Double → Option Double
  | .finite negative magnitude => some (.finite negative magnitude)
  | _ => none

/-- The double nearest to an integer, if one of them is near enough. -/
def ofInt? (n : Int) : Option Double := finite? (ofRatio (n < 0) n.natAbs 1)

/-- The double nearest to `digits · 10 ^ exponent`. Beyond 10³⁰⁹ and below 10⁻³³⁰ no arithmetic is
needed to tell. -/
def ofDecimal (negative : Bool) (digits : Nat) (exponent : Int) : Double :=
  if digits = 0 then ofRatio negative 0 1
  else if 309 < exponent then .infinite negative
  else if (Nat.toDigits 10 digits).length + exponent < -330 then ofRatio negative 0 1
  else if 0 ≤ exponent then ofRatio negative (digits * 10 ^ exponent.toNat) 1
  else ofRatio negative digits (10 ^ (-exponent).toNat)

def toInt? : Double → Option Int
  | .finite negative magnitude =>
    if magnitude.units % unitsPerOne = 0 then
      let n : Int := (magnitude.units / unitsPerOne : Nat)
      some (if negative then -n else n)
    else none
  | _ => none

/-- Equality as numbers: the two zeros are one number, and NaN equals nothing. -/
def sameNumber : Double → Double → Bool
  | .infinite a, .infinite b => a == b
  | .finite a x, .finite b y => x.units == y.units && (a == b || x.units == 0)
  | _, _ => false

def isFinite : Double → Bool
  | .finite _ _ => true
  | _ => false

def isZero : Double → Bool
  | .finite _ magnitude => magnitude.units == 0
  | _ => false

end Double
end SessionReplay
