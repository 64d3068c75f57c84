import SessionReplay.Proofs.Number.Limit
import SessionReplay.Proofs.Number.Rounding

/-!
# The shortest decimal rounds back

The search for the shortest decimal always ends: the doubles have at most 53 significant bits, so a
grid with 17 digits is finer than the numbers that round to a magnitude lie apart. What is found
rounds to the magnitude again.
-/

namespace SessionReplay

/-! ### The number of digits -/

namespace Text

theorem length_ofNat_pos (n : Nat) : 0 < (ofNat n).length := Nat.length_toDigits_pos

theorem lt_ten_pow_length (n : Nat) : n < 10 ^ (ofNat n).length :=
  (Nat.length_toDigits_le_iff (by decide) (length_ofNat_pos n)).mp (Nat.le_refl _)

theorem lt_length_ofNat_iff {n k : Nat} (hk : 0 < k) : k < (ofNat n).length ↔ 10 ^ k ≤ n := by
  rw [← Nat.not_le, ofNat, Nat.length_toDigits_le_iff (by decide) hk, Nat.not_lt]

end Text

namespace Double

/-- The number of steps nearest to `digits · 10 ^ exponent`. -/
def decimalUnits (digits : Nat) (exponent : Int) : Nat :=
  nearestUnits (digits * 10 ^ exponent.toNat * unitsPerOne) (10 ^ (-exponent).toNat)

theorem unitsPerOne_pos : 0 < unitsPerOne := by
  rw [unitsPerOne]
  apply Nat.pow_pos
  decide

theorem ten_pow_pos (n : Nat) : 0 < 10 ^ n := Nat.pow_pos (by decide)

theorem decimalUnits_eq {digits a b : Nat} {exponent : Int} (h : (a : Int) - b = exponent) :
    decimalUnits digits exponent = nearestUnits (digits * 10 ^ a * unitsPerOne) (10 ^ b) := by
  apply nearestUnits_eq_of_mul_eq (ten_pow_pos _) (ten_pow_pos _)
  have hsum : exponent.toNat + b = a + (-exponent).toNat := by omega
  rw [Nat.mul_right_comm, Nat.mul_right_comm _ _ (10 ^ (-exponent).toNat),
    Nat.mul_assoc digits (10 ^ exponent.toNat), Nat.mul_assoc digits (10 ^ a), ← Nat.pow_add,
    ← Nat.pow_add, hsum]

theorem decimalUnits_mul_ten_pow (digits zeros : Nat) (exponent : Int) :
    decimalUnits (digits * 10 ^ zeros) exponent = decimalUnits digits (exponent + zeros) := by
  have hsum : ((zeros + exponent.toNat : Nat) : Int) - (-exponent).toNat = exponent + zeros := by
    omega
  rw [decimalUnits_eq hsum, decimalUnits, Nat.mul_assoc digits, ← Nat.pow_add]

theorem units_lt_mul_spacing (units : Nat) : units < 2 ^ 53 * spacing units := by
  refine Nat.lt_of_lt_of_le Nat.lt_log2_self ?_
  rw [spacing, ← Nat.pow_add]
  exact Nat.pow_le_pow_right (by decide) (by omega)

end Double

namespace Magnitude

open Double (unitsPerOne spacing decimalUnits nearestUnits ten_pow_pos)

variable {x : Magnitude}

/-! ### The first significant digit -/

theorem ten_pow_leadingPower_le (hpos : 0 < x.units) {a b : Nat}
    (h : (a : Int) - b = x.leadingPower) : unitsPerOne * 10 ^ a ≤ x.units * 10 ^ b := by
  unfold leadingPower at h
  split at h
  next hone =>
    have hlength := Text.length_ofNat_pos (x.units / unitsPerOne)
    have ha : a = (Text.ofNat (x.units / unitsPerOne)).length - 1 + b := by omega
    have hdigit : 10 ^ ((Text.ofNat (x.units / unitsPerOne)).length - 1) ≤
        x.units / unitsPerOne := by
      rcases Nat.eq_zero_or_pos ((Text.ofNat (x.units / unitsPerOne)).length - 1) with hz | hp
      · rw [hz]
        exact Nat.div_pos hone Double.unitsPerOne_pos
      · exact (Text.lt_length_ofNat_iff hp).mp (by omega)
    rw [ha, Nat.pow_add, ← Nat.mul_assoc]
    refine Nat.mul_le_mul_right _ (Nat.le_trans (Nat.mul_le_mul_left _ hdigit) ?_)
    exact Nat.mul_div_le _ _
  next hone =>
    have hb : b = (Text.ofNat ((unitsPerOne - 1) / x.units)).length + a := by omega
    have hdigit := Text.lt_ten_pow_length ((unitsPerOne - 1) / x.units)
    rw [Nat.div_lt_iff_lt_mul hpos] at hdigit
    rw [hb, Nat.pow_add, ← Nat.mul_assoc, Nat.mul_comm x.units]
    refine Nat.mul_le_mul_right _ ?_
    omega

/-! ### Points on a grid -/

/-- Four times the distance between the points of a decimal grid, before division by its scale. -/
def gridStep (exponent : Int) : Nat := 4 * unitsPerOne * 10 ^ exponent.toNat

def gridScale (exponent : Int) : Nat := 10 ^ (-exponent).toNat

theorem admits_of_onGrid? {exponent : Int} {digits : Nat} (h : x.onGrid? exponent = some digits) :
    x.admits (digits * gridStep exponent) (gridScale exponent) = true := by
  simp only [onGrid?] at h
  unfold gridStep gridScale
  split at h
  · exact absurd h (by simp)
  next hbelow _ =>
    rw [← Option.some.inj h]
    exact hbelow
  next _ habove =>
    rw [← Option.some.inj h]
    exact habove
  next hbelow habove =>
    have hside : digits = 4 * x.units * 10 ^ (-exponent).toNat /
        (4 * unitsPerOne * 10 ^ exponent.toNat) ∨
      digits = 4 * x.units * 10 ^ (-exponent).toNat /
        (4 * unitsPerOne * 10 ^ exponent.toNat) + 1 := by
      grind
    rcases hside with rfl | rfl
    · exact hbelow
    · exact habove

theorem decimalUnits_of_onGrid? (hpos : 0 < x.units) {exponent : Int} {digits : Nat}
    (h : x.onGrid? exponent = some digits) : decimalUnits digits exponent = x.units := by
  have hstep : digits * gridStep exponent = digits * 10 ^ exponent.toNat * unitsPerOne * 4 := by
    rw [gridStep]
    grind
  have hround := nearestUnits_of_admits hpos (ten_pow_pos _) (admits_of_onGrid? h)
  rw [hstep, Nat.mul_comm 4, Double.nearestUnits_mul_right _ _ (by decide)] at hround
  exact hround

/-- A grid that is finer than the numbers that round to the magnitude are spread has a point among
them. -/
theorem exists_onGrid? {exponent : Int}
    (hstep : x.lowerEnd * gridScale exponent + gridStep exponent < x.upperEnd * gridScale exponent)
    (hlow : x.lowerEnd * gridScale exponent ≤ 4 * x.units * gridScale exponent)
    (hhigh : 4 * x.units * gridScale exponent < x.upperEnd * gridScale exponent) :
    ∃ digits, x.onGrid? exponent = some digits := by
  have hpos : 0 < gridStep exponent :=
    Nat.mul_pos (Nat.mul_pos (by decide) Double.unitsPerOne_pos) (ten_pow_pos _)
  obtain ⟨below, hbelow⟩ : ∃ below, below = 4 * x.units * gridScale exponent / gridStep exponent :=
    ⟨_, rfl⟩
  have hle : below * gridStep exponent ≤ 4 * x.units * gridScale exponent :=
    hbelow ▸ Nat.div_mul_le_self _ _
  have hlt : 4 * x.units * gridScale exponent < (below + 1) * gridStep exponent :=
    (Nat.div_lt_iff_lt_mul hpos).mp (hbelow ▸ Nat.lt_succ_self _)
  have hpoint : x.admits (below * gridStep exponent) (gridScale exponent) = true ∨
      x.admits ((below + 1) * gridStep exponent) (gridScale exponent) = true := by
    rw [admits_iff, admits_iff]
    rw [Nat.add_mul, Nat.one_mul] at hlt ⊢
    omega
  unfold gridStep gridScale at hpoint hbelow
  simp only [onGrid?, ← hbelow]
  split
  next hno hno' => simp [hno, hno'] at hpoint
  · exact ⟨_, rfl⟩
  · exact ⟨_, rfl⟩
  · split
    · exact ⟨_, rfl⟩
    · split <;> exact ⟨_, rfl⟩

/-! ### The search -/

/-- With 17 significant digits a grid is finer than the numbers that round to the magnitude are
spread. -/
theorem lowerEnd_add_lt_upperEnd (hpos : 0 < x.units) {step scale : Nat}
    (hstep : step * 10 ^ 16 ≤ 4 * (x.units * scale)) (hs : 0 < scale) :
    x.lowerEnd * scale + step < x.upperEnd * scale := by
  have hgap : spacing x.units * scale ≤ x.units * scale :=
    Nat.mul_le_mul_right _ (Nat.le_of_dvd hpos x.representable)
  have hgapPos : 0 < spacing x.units * scale := Nat.mul_pos (Double.spacing_pos _) hs
  have hbound : x.units * scale < 2 ^ 53 * (spacing x.units * scale) := by
    rw [← Nat.mul_assoc]
    exact Nat.mul_lt_mul_of_pos_right (Double.units_lt_mul_spacing _) hs
  have hupper : x.upperEnd * scale = 4 * (x.units * scale) + 2 * (spacing x.units * scale) := by
    rw [upperEnd, Nat.add_mul, Nat.mul_assoc, Nat.mul_assoc]
  by_cases hpower : 52 < x.units.log2 ∧ x.units = 2 ^ x.units.log2
  · -- a power of two has fewer numbers below it, and is itself the least of its significands
    have hlower : x.lowerEnd * scale = 4 * (x.units * scale) - spacing x.units * scale := by
      rw [lowerEnd, if_pos hpower, Nat.sub_mul, Nat.mul_assoc]
    have hleast : x.units * scale = 2 ^ 52 * (spacing x.units * scale) := by
      rw [← Nat.mul_assoc, spacing, ← Nat.pow_add, Nat.add_sub_cancel' (Nat.le_of_lt hpower.1),
        ← hpower.2]
    omega
  · have hlower : x.lowerEnd * scale = 4 * (x.units * scale) - 2 * (spacing x.units * scale) := by
      rw [lowerEnd, if_neg hpower, Nat.sub_mul, Nat.mul_assoc, Nat.mul_assoc]
    omega

theorem lowerEnd_le (x : Magnitude) : x.lowerEnd ≤ 4 * x.units := Nat.sub_le _ _

theorem lt_upperEnd (x : Magnitude) : 4 * x.units < x.upperEnd := by
  have := Double.spacing_pos x.units
  rw [upperEnd]
  omega

theorem exists_onGrid?_last (hpos : 0 < x.units) :
    ∃ digits, x.onGrid? (x.leadingPower - (enoughDigits - 1 : Nat)) = some digits := by
  obtain ⟨exponent, hexponent⟩ : ∃ e, e = x.leadingPower - (enoughDigits - 1 : Nat) := ⟨_, rfl⟩
  rw [← hexponent]
  have hscale : 0 < gridScale exponent := ten_pow_pos _
  have hleading : ((exponent.toNat + 16 : Nat) : Int) - (-exponent).toNat = x.leadingPower := by
    rw [enoughDigits] at hexponent
    omega
  have hstep : gridStep exponent * 10 ^ 16 ≤ 4 * (x.units * gridScale exponent) := by
    have hle := ten_pow_leadingPower_le hpos hleading
    calc gridStep exponent * 10 ^ 16
        = 4 * (unitsPerOne * 10 ^ (exponent.toNat + 16)) := by
          rw [gridStep, Nat.mul_assoc, Nat.mul_assoc, ← Nat.pow_add]
      _ ≤ 4 * (x.units * gridScale exponent) := Nat.mul_le_mul_left _ hle
  exact exists_onGrid? (lowerEnd_add_lt_upperEnd hpos hstep hscale)
    (Nat.mul_le_mul_right _ x.lowerEnd_le) (Nat.mul_lt_mul_of_pos_right x.lt_upperEnd hscale)

theorem onGrid?_shortest (hpos : 0 < x.units) :
    (∃ more < enoughDigits, x.shortest.exponent = x.leadingPower - (more : Nat)) ∧
      x.onGrid? x.shortest.exponent = some x.shortest.digits := by
  obtain ⟨last, hlast⟩ := exists_onGrid?_last hpos
  simp only [shortest]
  cases hfound : (List.range enoughDigits).findSome? fun (more : Nat) =>
      (x.onGrid? (x.leadingPower - more)).map (Decimal.mk · (x.leadingPower - more)) with
  | none =>
    have hnone := List.findSome?_eq_none_iff.mp hfound (enoughDigits - 1) (by decide)
    rw [hlast] at hnone
    exact absurd hnone (by simp)
  | some decimal =>
    obtain ⟨more, hmore, hdecimal⟩ := List.exists_of_findSome?_eq_some hfound
    obtain ⟨digits, hdigits, rfl⟩ := Option.map_eq_some_iff.mp hdecimal
    exact ⟨⟨more, List.mem_range.mp hmore, rfl⟩, hdigits⟩

/-- The shortest decimal of a positive magnitude rounds back to it. -/
theorem decimalUnits_shortest (hpos : 0 < x.units) :
    decimalUnits x.shortest.digits x.shortest.exponent = x.units :=
  decimalUnits_of_onGrid? hpos (onGrid?_shortest hpos).2

end Magnitude
end SessionReplay
