import SessionReplay.Number.Double

/-!
# The integers that have a double

Rounding to 53 significant bits reaches 2¹⁰²⁴ from halfway between the greatest double and 2¹⁰²⁴
on, that is from 2¹⁰²⁴ - 2⁹⁷⁰. The integers below are rounded to doubles; the others have none.
-/

namespace SessionReplay

/-- A quotient rounds below an even bound exactly when it lies below the half before it. -/
theorem roundHalfEven_lt_iff {n d k : Nat} (hd : 0 < d) (hk : k % 2 = 1) (hn : n < (k + 1) * d) :
    roundHalfEven n d < k + 1 ↔ 2 * n < (2 * k + 1) * d := by
  have hq : n / d < k + 1 := (Nat.div_lt_iff_lt_mul hd).mpr hn
  have hsplit : d * (n / d) + n % d = n := Nat.div_add_mod n d
  have hr : n % d < d := Nat.mod_lt n hd
  have hexpand : (2 * k + 1) * d = 2 * (d * k) + d := by
    rw [Nat.add_mul, Nat.one_mul, Nat.mul_assoc, Nat.mul_comm k d]
  rcases Nat.lt_or_eq_of_le (Nat.le_of_lt_succ hq) with hlt | heq
  · have hmul : d * (n / d) + d ≤ d * k := by
      have h := Nat.mul_le_mul_left d hlt
      rwa [Nat.succ_eq_add_one, Nat.mul_add, Nat.mul_one] at h
    have hround := roundHalfEven_le n d
    constructor
    · intro _
      omega
    · intro _
      omega
  · -- the quotient is odd, so a tie rounds up to the bound
    have hodd : ¬ n / d % 2 = 0 := by omega
    have hround : roundHalfEven n d = if 2 * (n % d) < d then n / d else n / d + 1 := by
      simp only [roundHalfEven, if_neg hodd, ite_self]
    rw [heq] at hsplit hround
    rw [hround]
    split <;> omega

namespace Double

theorem nearestUnits_one (q : Nat) :
    nearestUnits q 1 = roundHalfEven q (spacing q) * spacing q := by
  simp [nearestUnits]

/-- Where the spacing is known, a number rounds below 2⁵⁴ steps of twice its half exactly when it
lies below the last midpoint. -/
theorem nearestUnits_lt_iff (e q : Nat) :
    nearestUnits q 1 < 2 ^ (e + 54) ↔ q < 2 ^ (e + 54) - 2 ^ e := by
  have hpow : 2 ^ (e + 54) = 2 ^ 54 * 2 ^ e := by rw [Nat.add_comm, Nat.pow_add]
  have hone : 0 < 2 ^ e := Nat.two_pow_pos e
  rw [nearestUnits_one]
  rcases Nat.lt_trichotomy q.log2 (e + 53) with hlog | hlog | hlog
  · -- the number is below half the bound, and rounding adds no more than its spacing
    have hq : q < 2 ^ (e + 53) := by
      rcases Nat.eq_zero_or_pos q with rfl | hpos
      · exact Nat.two_pow_pos _
      · exact (Nat.log2_lt (by omega)).mp hlog
    have hgap : spacing q ≤ 2 ^ e := Nat.pow_le_pow_right (by decide) (by omega)
    have hround : roundHalfEven q (spacing q) * spacing q ≤ q + spacing q := by
      calc roundHalfEven q (spacing q) * spacing q
          ≤ (q / spacing q + 1) * spacing q := Nat.mul_le_mul_right _ (roundHalfEven_le _ _)
        _ = q / spacing q * spacing q + spacing q := by rw [Nat.add_mul, Nat.one_mul]
        _ ≤ q + spacing q := Nat.add_le_add_right (Nat.div_mul_le_self _ _) _
    have hhalf : 2 ^ (e + 53) = 2 ^ 53 * 2 ^ e := by rw [Nat.add_comm, Nat.pow_add]
    constructor <;> intro _ <;> omega
  · -- the number has the spacing of the greatest doubles
    have hq0 : q ≠ 0 := by
      rintro rfl
      simp at hlog
    have hq : q < 2 ^ (e + 54) := by
      have h : q.log2 < e + 54 := by omega
      exact (Nat.log2_lt hq0).mp h
    have hgap : spacing q = 2 ^ e * 2 := by
      rw [spacing, hlog, show e + 53 - 52 = e + 1 by omega, Nat.pow_succ]
    have hbound : 2 ^ (e + 54) = (2 ^ 53 - 1 + 1) * (2 ^ e * 2) := by
      rw [hpow]
      omega
    have hiff := roundHalfEven_lt_iff (n := q) (d := 2 ^ e * 2) (k := 2 ^ 53 - 1)
      (by omega) (by decide) (hbound ▸ hq)
    rw [hgap, hbound, Nat.mul_lt_mul_right (by omega), hiff]
    omega
  · -- the number is beyond the bound, and so is the part of it before rounding
    have hq0 : q ≠ 0 := by
      rintro rfl
      simp at hlog
    have hle : 2 ^ (e + 54) ≤ 2 ^ q.log2 := Nat.pow_le_pow_right (by decide) hlog
    have hq : 2 ^ q.log2 ≤ q := Nat.log2_self_le hq0
    have hgap : 2 ^ 52 * spacing q = 2 ^ q.log2 := by
      rw [spacing, ← Nat.pow_add, Nat.add_sub_of_le (by omega)]
    have hquot : 2 ^ 52 ≤ q / spacing q :=
      (Nat.le_div_iff_mul_le (Nat.two_pow_pos _)).mpr (Nat.le_trans (Nat.le_of_eq hgap) hq)
    have hround : 2 ^ 52 * spacing q ≤ roundHalfEven q (spacing q) * spacing q :=
      Nat.mul_le_mul_right _ (Nat.le_trans hquot (le_roundHalfEven _ _))
    omega

theorem nearestUnits_mul_lt_iff (e u top bound n : Nat) (htop : top = e + u + 54)
    (hbound : bound = e + 54) :
    nearestUnits (n * 2 ^ u) 1 < 2 ^ top ↔ n < 2 ^ bound - 2 ^ e := by
  have hscale : 2 ^ (e + u + 54) - 2 ^ (e + u) = (2 ^ (e + 54) - 2 ^ e) * 2 ^ u := by
    rw [Nat.sub_mul, ← Nat.pow_add, ← Nat.pow_add, Nat.add_right_comm]
  rw [htop, hbound, nearestUnits_lt_iff, hscale, Nat.mul_lt_mul_right (Nat.two_pow_pos u)]

/-- The least natural number that has no double. -/
def integerLimit : Nat := 2 ^ 1024 - 2 ^ 970

theorem nearestUnits_integer_lt_iff (n : Nat) :
    nearestUnits (n * unitsPerOne) 1 < unitsLimit ↔ n < integerLimit := by
  unfold unitsPerOne unitsLimit integerLimit
  exact nearestUnits_mul_lt_iff 970 1074 2098 1024 n (by decide) (by decide)

theorem finite?_eq_none_iff (x : Double) : finite? x = none ↔ x.isFinite = false := by
  cases x <;> simp [finite?, isFinite]

/-- Rounding a quotient gives a finite double exactly below the limit. The statement is about any
limit, so that the limit of doubles is not computed. -/
theorem isFinite_dite {units limit : Nat} (negative : Bool) (f : units < limit → Double)
    (hf : ∀ h, (f h).isFinite = true) :
    (if h : units < limit then f h else .infinite negative).isFinite = true ↔ units < limit := by
  split
  next h => exact ⟨fun _ => h, fun _ => hf h⟩
  next h => exact ⟨fun hi => Bool.noConfusion hi, fun hl => absurd hl h⟩

theorem isFinite_ofRatio (negative : Bool) (dividend divisor : Nat) :
    (ofRatio negative dividend divisor).isFinite = true ↔
      nearestUnits (dividend * unitsPerOne) divisor < unitsLimit := by
  rw [ofRatio]
  exact isFinite_dite negative
    (fun h => .finite negative ⟨_, h, representable_nearestUnits _ _⟩) fun _ => rfl

theorem ofInt?_eq_none_iff (n : Int) : ofInt? n = none ↔ integerLimit ≤ n.natAbs := by
  rw [ofInt?, finite?_eq_none_iff, ← Bool.not_eq_true, isFinite_ofRatio,
    nearestUnits_integer_lt_iff, Nat.not_lt]

end Double
end SessionReplay
