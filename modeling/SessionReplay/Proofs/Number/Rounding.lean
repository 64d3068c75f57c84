import SessionReplay.Number.Shortest

/-!
# Rounding to a double

A quotient rounds to the multiple of its spacing that lies within half a spacing, and only the value
of the quotient matters. From this the numbers that `Magnitude.admits` lets through are those that
round to the magnitude, also below a power of two, where doubles lie twice as close.
-/

namespace SessionReplay

theorem roundHalfEven_eq {n d k : Nat} (hd : 0 < d) (hlow : 2 * (k * d) ≤ 2 * n + d)
    (hhigh : 2 * n ≤ 2 * (k * d) + d)
    (htie : 2 * (k * d) = 2 * n + d ∨ 2 * n = 2 * (k * d) + d → k % 2 = 0) :
    roundHalfEven n d = k := by
  have hsplit : n / d * d + n % d = n := Nat.div_add_mod' n d
  have hr : n % d < d := Nat.mod_lt n hd
  have hk : k = n / d ∨ k = n / d + 1 := by
    rcases Nat.lt_trichotomy k (n / d) with hlt | heq | hgt
    · have hmul : (k + 1) * d ≤ n / d * d := Nat.mul_le_mul_right d hlt
      rw [Nat.succ_mul] at hmul
      omega
    · exact .inl heq
    · have hnot : ¬ n / d + 2 ≤ k := by
        intro hle
        have hmul : (n / d + 2) * d ≤ k * d := Nat.mul_le_mul_right d hle
        rw [Nat.add_mul] at hmul
        omega
      omega
  rcases hk with rfl | rfl
  · simp only [roundHalfEven]
    grind
  · rw [Nat.succ_mul] at hlow hhigh htie
    simp only [roundHalfEven]
    grind

theorem roundHalfEven_mul_right (n d : Nat) {m : Nat} (hm : 0 < m) :
    roundHalfEven (n * m) (d * m) = roundHalfEven n d := by
  have hmod : n * m % (d * m) = n % d * m := Nat.mul_mod_mul_right m n d
  have htwice : 2 * (n % d * m) = 2 * (n % d) * m := (Nat.mul_assoc _ _ _).symm
  simp only [roundHalfEven, Nat.mul_div_mul_right _ _ hm, hmod, htwice, Nat.mul_lt_mul_right hm]

namespace Double

theorem spacing_pos (units : Nat) : 0 < spacing units := Nat.two_pow_pos _

theorem nearestUnits_mul_right (n d : Nat) {m : Nat} (hm : 0 < m) :
    nearestUnits (n * m) (d * m) = nearestUnits n d := by
  simp only [nearestUnits, Nat.mul_div_mul_right _ _ hm]
  rw [Nat.mul_right_comm d m, roundHalfEven_mul_right _ _ hm]

/-- Rounding looks at the value of a quotient only. -/
theorem nearestUnits_eq_of_mul_eq {n d n' d' : Nat} (hd : 0 < d) (hd' : 0 < d')
    (h : n * d' = n' * d) : nearestUnits n d = nearestUnits n' d' := by
  rw [← nearestUnits_mul_right n d hd', h, Nat.mul_comm d d', nearestUnits_mul_right n' d' hd]

/-- A quotient rounds to a multiple of its spacing from which it is at most half a spacing away. -/
theorem nearestUnits_eq {n d k gap : Nat} (hd : 0 < d) (hgap : spacing (n / d) = gap)
    (hlow : 2 * (k * (d * gap)) ≤ 2 * n + d * gap) (hhigh : 2 * n ≤ 2 * (k * (d * gap)) + d * gap)
    (htie : 2 * (k * (d * gap)) = 2 * n + d * gap ∨ 2 * n = 2 * (k * (d * gap)) + d * gap →
      k % 2 = 0) : nearestUnits n d = k * gap := by
  have hpos : 0 < d * gap := Nat.mul_pos hd (hgap ▸ spacing_pos _)
  simp only [nearestUnits]
  rw [hgap, roundHalfEven_eq hpos hlow hhigh htie]

theorem nearestUnits_eq_zero {n d : Nat} (h : 2 * n < d) : nearestUnits n d = 0 := by
  have hquot : n / d = 0 := Nat.div_eq_of_lt (by omega)
  have hgap : spacing (n / d) = 1 := by rw [hquot]; rfl
  have hround := nearestUnits_eq (k := 0) (by omega) hgap (by omega) (by omega) (by omega)
  rw [hround, Nat.zero_mul]

/-! ### The spacing of doubles -/

theorem log2_eq {units s : Nat} (hlow : 2 ^ 52 * 2 ^ s ≤ units) (hhigh : units < 2 ^ 53 * 2 ^ s) :
    units.log2 = 52 + s := by
  have hpos : units ≠ 0 := by
    have hs := Nat.two_pow_pos s
    omega
  rw [Nat.log2_eq_iff hpos, Nat.pow_add, Nat.add_right_comm, Nat.pow_add]
  exact ⟨hlow, hhigh⟩

theorem spacing_eq {units s : Nat} (hlow : 2 ^ 52 * 2 ^ s ≤ units)
    (hhigh : units < 2 ^ 53 * 2 ^ s) : spacing units = 2 ^ s := by
  rw [spacing, log2_eq hlow hhigh, Nat.add_sub_cancel_left]

theorem spacing_eq_one {units : Nat} (h : units < 2 ^ 53) : spacing units = 1 := by
  rcases Nat.eq_zero_or_pos units with rfl | hpos
  · rfl
  · have hlog : units.log2 < 53 := (Nat.log2_lt (by omega)).mpr h
    rw [spacing, Nat.sub_eq_zero_of_le (by omega), Nat.pow_zero]

/-- Rounding where the spacing is `2 ^ s`, all amounts being in units of the divisor. -/
theorem nearestUnits_of_near {n d k s step : Nat} (hd : 0 < d) (hstep : 2 ^ s * d = step)
    (hlow : 2 ^ 52 * step ≤ n) (hhigh : n < 2 ^ 53 * step) (hbelow : 2 * (k * step) ≤ 2 * n + step)
    (habove : 2 * n ≤ 2 * (k * step) + step)
    (htie : 2 * (k * step) = 2 * n + step ∨ 2 * n = 2 * (k * step) + step → k % 2 = 0) :
    nearestUnits n d = k * 2 ^ s := by
  subst hstep
  have hgap : spacing (n / d) = 2 ^ s := by
    rw [← Nat.mul_assoc] at hlow hhigh
    exact spacing_eq ((Nat.le_div_iff_mul_le hd).mpr hlow) ((Nat.div_lt_iff_lt_mul hd).mpr hhigh)
  rw [Nat.mul_comm (2 ^ s) d] at hbelow habove htie
  exact nearestUnits_eq hd hgap hbelow habove htie

/-- A double from 2⁵³ on has 53 significant bits and at least one zero behind them. -/
theorem exists_significand {units : Nat} (hunits : Representable units) (h : 2 ^ 53 ≤ units) :
    ∃ k s, units = k * 2 ^ (s + 1) ∧ 2 ^ 52 ≤ k ∧ k < 2 ^ 53 := by
  have hpos : units ≠ 0 := by omega
  have hlog : 53 ≤ units.log2 := (Nat.le_log2 hpos).mpr h
  obtain ⟨s, hs⟩ := Nat.exists_eq_add_of_le hlog
  have hlow : 2 ^ 52 * 2 ^ (s + 1) ≤ units := by
    rw [← Nat.pow_add, show 52 + (s + 1) = units.log2 by omega]
    exact Nat.log2_self_le hpos
  have hhigh : units < 2 ^ 53 * 2 ^ (s + 1) := by
    rw [← Nat.pow_add, show 53 + (s + 1) = units.log2 + 1 by omega]
    exact Nat.lt_log2_self
  obtain ⟨k, hk⟩ := hunits
  rw [spacing_eq hlow hhigh, Nat.mul_comm] at hk
  rw [hk] at hlow hhigh
  exact ⟨k, s, hk, Nat.le_of_mul_le_mul_right hlow (Nat.two_pow_pos _),
    Nat.lt_of_mul_lt_mul_right hhigh⟩

end Double

/-! ### The numbers that round to a magnitude -/

namespace Magnitude

theorem admits_iff (x : Magnitude) (amount scale : Nat) :
    x.admits amount scale = true ↔
      x.lowerEnd * scale ≤ amount ∧ amount ≤ x.upperEnd * scale ∧
        (amount = x.lowerEnd * scale ∨ amount = x.upperEnd * scale → x.endsIncluded = true) := by
  unfold admits
  split
  next h => simp [h]
  next h =>
    simp only [Bool.and_eq_true, decide_eq_true_eq, h, Bool.false_eq_true, imp_false]
    omega

variable {x : Magnitude} {amount scale : Nat}

theorem nearestUnits_of_admits_small (hpos : 0 < x.units) (hsmall : x.units < 2 ^ 53)
    (hs : 0 < scale) (h : x.admits amount scale = true) :
    Double.nearestUnits amount (4 * scale) = x.units := by
  have hgap : Double.spacing x.units = 1 := Double.spacing_eq_one hsmall
  have hlog : x.units.log2 < 53 := (Nat.log2_lt (by omega)).mpr hsmall
  have hplain : ¬ (52 < x.units.log2 ∧ x.units = 2 ^ x.units.log2) := by omega
  have hlower : x.lowerEnd * scale = 4 * (x.units * scale) - 2 * scale := by
    rw [lowerEnd, if_neg hplain, hgap, Nat.sub_mul, Nat.mul_assoc]
  have hupper : x.upperEnd * scale = 4 * (x.units * scale) + 2 * scale := by
    rw [upperEnd, hgap, Nat.add_mul, Nat.mul_assoc]
  have hlarge : scale ≤ x.units * scale := Nat.le_mul_of_pos_left scale hpos
  have hexpand : x.units * (4 * scale * 1) = 4 * (x.units * scale) := by
    rw [Nat.mul_one, Nat.mul_left_comm]
  obtain ⟨hlow, hhigh, hends⟩ := (admits_iff x amount scale).mp h
  have hquot : amount / (4 * scale) < 2 ^ 53 := by
    refine Nat.lt_of_lt_of_le ((Nat.div_lt_iff_lt_mul (by omega)).mpr ?_) hsmall
    rw [Nat.succ_mul, Nat.mul_left_comm]
    omega
  have heven : x.endsIncluded = true → x.units % 2 = 0 := by
    simp [endsIncluded, hgap]
  rw [Double.nearestUnits_eq (k := x.units) (by omega) (Double.spacing_eq_one hquot)]
  · exact Nat.mul_one _
  · omega
  · omega
  · intro htie
    exact heven (hends (by omega))

/-! From 2⁵³ on a magnitude has 53 significant bits, and its spacing is even. -/

section Large

variable {k s : Nat}

theorem spacing_of_significand (hk : x.units = k * 2 ^ (s + 1)) (hlow : 2 ^ 52 ≤ k)
    (hhigh : k < 2 ^ 53) : Double.spacing x.units = 2 * 2 ^ s := by
  rw [← Nat.pow_succ', hk]
  exact Double.spacing_eq (Nat.mul_le_mul_right _ hlow)
    (Nat.mul_lt_mul_of_pos_right hhigh (Nat.two_pow_pos _))

theorem upperEnd_of_significand (hk : x.units = k * 2 ^ (s + 1)) (hlow : 2 ^ 52 ≤ k)
    (hhigh : k < 2 ^ 53) : x.upperEnd = 8 * (k * 2 ^ s) + 4 * 2 ^ s := by
  rw [upperEnd, spacing_of_significand hk hlow hhigh, hk, Nat.pow_succ]
  grind

theorem lowerEnd_of_significand (hk : x.units = k * 2 ^ (s + 1)) (hlow : 2 ^ 52 ≤ k)
    (hhigh : k < 2 ^ 53) :
    x.lowerEnd = 8 * (k * 2 ^ s) - (if k = 2 ^ 52 then 2 else 4) * 2 ^ s := by
  have hlog : x.units.log2 = 52 + (s + 1) := by
    rw [hk]
    exact Double.log2_eq (Nat.mul_le_mul_right _ hlow)
      (Nat.mul_lt_mul_of_pos_right hhigh (Nat.two_pow_pos _))
  have hpower : (52 < x.units.log2 ∧ x.units = 2 ^ x.units.log2) ↔ k = 2 ^ 52 := by
    rw [hlog, Nat.pow_add, hk]
    constructor
    · exact fun h => Nat.eq_of_mul_eq_mul_right (Nat.two_pow_pos _) h.2
    · rintro rfl
      exact ⟨by omega, rfl⟩
  rw [lowerEnd, spacing_of_significand hk hlow hhigh]
  simp only [hpower]
  rw [hk, Nat.pow_succ]
  split <;> grind

theorem even_of_endsIncluded (hk : x.units = k * 2 ^ (s + 1)) (hlow : 2 ^ 52 ≤ k)
    (hhigh : k < 2 ^ 53) (h : x.endsIncluded = true) : k % 2 = 0 := by
  rw [endsIncluded, spacing_of_significand hk hlow hhigh, hk, ← Nat.pow_succ',
    Nat.mul_div_cancel _ (Nat.two_pow_pos _), beq_iff_eq] at h
  exact h

theorem nearestUnits_of_admits_large (hlarge : 2 ^ 53 ≤ x.units) (hs : 0 < scale)
    (h : x.admits amount scale = true) : Double.nearestUnits amount (4 * scale) = x.units := by
  obtain ⟨k, s, hk, hk52, hk53⟩ := Double.exists_significand x.representable hlarge
  obtain ⟨hleft, hright, hends⟩ := (admits_iff x amount scale).mp h
  have heven := even_of_endsIncluded hk hk52 hk53
  have hdouble : 2 ^ (s + 1) = 2 * 2 ^ s := Nat.pow_succ'
  -- all amounts are multiples of `part`, half of the spacing
  obtain ⟨part, hpart⟩ : ∃ part, part = 2 ^ s * scale := ⟨_, rfl⟩
  have hpos : 0 < part := hpart ▸ Nat.mul_pos (Nat.two_pow_pos s) hs
  have hlower : x.lowerEnd * scale = 8 * (k * part) - (if k = 2 ^ 52 then 2 else 4) * part := by
    rw [lowerEnd_of_significand hk hk52 hk53, Nat.sub_mul, hpart]
    simp only [Nat.mul_assoc]
  have hupper : x.upperEnd * scale = 8 * (k * part) + 4 * part := by
    rw [upperEnd_of_significand hk hk52 hk53, Nat.add_mul, hpart]
    simp only [Nat.mul_assoc]
  have hlow : 2 ^ 52 * part ≤ k * part := Nat.mul_le_mul_right _ hk52
  have hhigh : k * part + part ≤ 2 ^ 53 * part := by
    rw [← Nat.succ_mul]
    exact Nat.mul_le_mul_right _ hk53
  have hstep : 2 ^ s * (4 * scale) = 4 * part := by
    rw [hpart, Nat.mul_left_comm]
  by_cases hside : k = 2 ^ 52 ∧ amount < 8 * (k * part)
  · -- the quotient lies below a power of two
    obtain ⟨rfl, hless⟩ := hside
    rw [if_pos rfl] at hlower
    rw [hk, Double.nearestUnits_of_near (k := 2 ^ 53) (by omega) hstep (by omega) (by omega)
      (by omega) (by omega) fun _ => rfl]
    omega
  · have hnext : k ≠ 2 ^ 52 → 2 ^ 52 * part + part ≤ k * part := by
      intro hne
      rw [← Nat.succ_mul]
      exact Nat.mul_le_mul_right _ (by omega)
    have hnear : 2 ^ 52 * (8 * part) ≤ amount := by
      split at hlower <;> omega
    have hback : 8 * (k * part) ≤ amount + 4 * part := by
      split at hlower <;> omega
    have hend : 8 * (k * part) = amount + 4 * part → amount = x.lowerEnd * scale := by
      split at hlower <;> omega
    have hstepNext : 2 ^ (s + 1) * (4 * scale) = 8 * part := by
      rw [hdouble, Nat.mul_assoc, hstep]
      omega
    have hexpand : k * (8 * part) = 8 * (k * part) := Nat.mul_left_comm _ _ _
    have htie : 2 * (k * (8 * part)) = 2 * amount + 8 * part ∨
        2 * amount = 2 * (k * (8 * part)) + 8 * part → k % 2 = 0 := by
      intro htie
      exact heven (hends (by omega))
    rw [hk]
    exact Double.nearestUnits_of_near (by omega) hstepNext hnear (by omega) (by omega) (by omega) htie

end Large

theorem nearestUnits_of_admits (hpos : 0 < x.units) (hs : 0 < scale)
    (h : x.admits amount scale = true) : Double.nearestUnits amount (4 * scale) = x.units := by
  rcases Nat.lt_or_ge x.units (2 ^ 53) with hsmall | hlarge
  · exact nearestUnits_of_admits_small hpos hsmall hs h
  · exact nearestUnits_of_admits_large hlarge hs h

end Magnitude
end SessionReplay
