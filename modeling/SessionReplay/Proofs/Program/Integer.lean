import SessionReplay.Proofs.Program.Number
import SessionReplay.Proofs.Result

/-!
# The literals of integers

Integers of 64 bits are written by their digits, all but the least of them: the range of integers is
tested on the absolute value, and that of -2⁶³ is one too large. An integer that is not written by its
digits has the literal of the nearest double. Doubles of this size are not written as integers, and
their numerals have an exponent.
-/

namespace SessionReplay

namespace Text

theorem padded_eq_ofNat {width n : Nat} (h : width ≤ (ofNat n).length) : padded width n = ofNat n := by
  simp only [padded]
  rw [Nat.sub_eq_zero_of_le h]
  rfl

end Text

/-! ### Doubles beyond the integers -/

namespace Double

/-- The double of an integer has the sign of the integer and the nearest magnitude. -/
theorem exists_of_ofInt? {n : Int} {x : Double} (h : ofInt? n = some x) :
    ∃ m : Magnitude, x = .finite (n < 0) m ∧ m.units = nearestUnits (n.natAbs * unitsPerOne) 1 := by
  by_cases hlt : nearestUnits (n.natAbs * unitsPerOne) 1 < unitsLimit
  · obtain ⟨m, hm⟩ : ∃ m : Magnitude, m.units = nearestUnits (n.natAbs * unitsPerOne) 1 :=
      ⟨⟨_, hlt, representable_nearestUnits _ _⟩, rfl⟩
    rw [ofInt?, ofRatio_of_units hm.symm] at h
    exact ⟨m, (Option.some.inj h).symm, hm⟩
  · rw [ofInt?, ofRatio_of_not_lt hlt] at h
    exact absurd h (by simp [finite?])

/-- Rounding takes only the last 2⁹ integers before 2⁶³ to it. -/
theorem le_nearestUnits_iff (n : Nat) :
    2 ^ 63 * unitsPerOne ≤ nearestUnits (n * unitsPerOne) 1 ↔ 2 ^ 63 - 2 ^ 9 ≤ n := by
  have hscale : 2 ^ 63 * unitsPerOne = 2 ^ (63 + 1074) := by rw [unitsPerOne, Nat.pow_add]
  have hlt := nearestUnits_mul_lt_iff 9 1074 (63 + 1074) 63 n (by decide) (by decide)
  rw [hscale, ← Nat.not_lt, ← Nat.not_lt]
  exact not_congr hlt

end Double

namespace Magnitude

open Double (unitsPerOne decimalUnits unitsPerOne_pos)

variable {x : Magnitude}

/-- A magnitude from 2⁶³ on. -/
def IsLarge (x : Magnitude) : Prop := 2 ^ 63 * unitsPerOne ≤ x.units

theorem IsLarge.pos (h : x.IsLarge) : 0 < x.units :=
  Nat.lt_of_lt_of_le (Nat.mul_pos (by decide) unitsPerOne_pos) h

theorem IsLarge.le_div (h : x.IsLarge) : 2 ^ 63 ≤ x.units / unitsPerOne :=
  (Nat.le_div_iff_mul_le unitsPerOne_pos).mpr h

theorem IsLarge.leadingPower (h : x.IsLarge) : 18 ≤ x.leadingPower := by
  have hone : unitsPerOne ≤ x.units := Nat.le_trans (Nat.le_mul_of_pos_left _ (by decide)) h
  have hlength : 18 < (Text.ofNat (x.units / unitsPerOne)).length :=
    (Text.lt_length_ofNat_iff (by decide)).mpr (Nat.le_trans (by decide) h.le_div)
  rw [Magnitude.leadingPower, if_pos hone]
  omega

/-- The search stays on grids of whole numbers, as it looks at 17 digits only. -/
theorem IsLarge.shortest_exponent (h : x.IsLarge) : 0 ≤ x.shortest.exponent := by
  obtain ⟨⟨more, hmore, hexponent⟩, -⟩ := onGrid?_shortest h.pos
  have hleading := h.leadingPower
  rw [enoughDigits] at hmore
  omega

/-- The first digit of a large magnitude stands for 10¹⁸ or more. -/
theorem IsLarge.power (h : x.IsLarge) :
    18 ≤ x.shortest.exponent + (Text.ofNat x.shortest.digits).length - 1 := by
  obtain ⟨e, he⟩ := Int.eq_ofNat_of_zero_le h.shortest_exponent
  have hunits := decimalUnits_shortest h.pos
  have hplace : (e : Int) - (0 : Nat) = x.shortest.exponent := by omega
  rw [Double.decimalUnits_eq hplace, Nat.pow_zero] at hunits
  have hvalue : 2 ^ 63 - 2 ^ 9 ≤ x.shortest.digits * 10 ^ e :=
    (Double.le_nearestUnits_iff _).mp (hunits ▸ h)
  have hpower : 10 ^ 18 < 10 ^ ((Text.ofNat x.shortest.digits).length + e) :=
    calc 10 ^ 18 ≤ 2 ^ 63 - 2 ^ 9 := by decide
      _ ≤ x.shortest.digits * 10 ^ e := hvalue
      _ < 10 ^ (Text.ofNat x.shortest.digits).length * 10 ^ e :=
        Nat.mul_lt_mul_of_pos_right (Text.lt_ten_pow_length _) (Double.ten_pow_pos e)
      _ = 10 ^ ((Text.ofNat x.shortest.digits).length + e) := (Nat.pow_add _ _ _).symm
  have hlength := (Nat.pow_lt_pow_iff_right (by decide)).mp hpower
  omega

end Magnitude

namespace FloatStyle

/-- The exponent of a number from 10¹⁰ on, which has two digits or more. -/
theorem exists_scientific_plain (digits : Text) {power : Int} (h : 10 ≤ power) :
    ∃ front, plain.scientific digits power = front ++ "e+" ++ Text.ofNat power.toNat := by
  have hpower : power.natAbs = power.toNat := by omega
  have hwidth : plain.exponentWidth ≤ (Text.ofNat power.toNat).length :=
    (Text.lt_length_ofNat_iff (k := 1) (by decide)).mpr (by omega)
  refine ⟨digits.take 1 ++ (if digits.length ≤ 1 then [] else '.' :: digits.drop 1), ?_⟩
  simp only [scientific, hpower, if_neg (show ¬ power < 0 by omega), Text.padded_eq_ofNat hwidth]
  simp

theorem exists_magnitude_plain {x : Magnitude} (h : x.IsLarge) :
    ∃ front, ∃ power ≥ 18, plain.magnitude x = front ++ "e+" ++ Text.ofNat power := by
  have hpower := h.power
  simp only [magnitude]
  rw [if_neg (fun hrange => absurd hrange.2 (by simp only [plain]; omega))]
  obtain ⟨front, hfront⟩ := exists_scientific_plain
    ((Text.ofNat x.shortest.digits).reverse.dropWhile (· == '0')).reverse
    (show 10 ≤ x.shortest.exponent + (Text.ofNat x.shortest.digits).length - 1 by omega)
  exact ⟨front, _, by omega, hfront⟩

end FloatStyle

theorem Double.exists_numeral_large (negative : Bool) {x : Magnitude} (h : x.IsLarge) :
    ∃ front, ∃ power ≥ 18, (Double.finite negative x).numeral = front ++ "e+" ++ Text.ofNat power := by
  obtain ⟨front, power, hpower, htext⟩ := FloatStyle.exists_magnitude_plain h
  refine ⟨FloatStyle.sign negative ++ front, power, hpower, ?_⟩
  rw [Double.numeral, FloatStyle.format, if_neg (Nat.pos_iff_ne_zero.mp h.pos), htext]
  simp only [List.append_assoc]

namespace Program

open Double (unitsPerOne)

/-- A whole number that is too large is not written as one. -/
theorem exactInt?_large (negative : Bool) {x : Magnitude} (h : x.IsLarge) :
    exactInt? (.finite negative x) = none := by
  rw [Option.eq_none_iff_forall_ne_some]
  intro n hn
  obtain ⟨hwhole, hexact⟩ := Option.filter_eq_some_iff.mp hn
  have hle : n.natAbs ≤ maxExact := of_decide_eq_true hexact
  have hunits : n.natAbs = x.units / unitsPerOne := by
    simp only [Double.toInt?] at hwhole
    split at hwhole
    · rw [← Option.some.inj hwhole]
      split
      · rw [Int.natAbs_neg, Int.natAbs_natCast]
      · rw [Int.natAbs_natCast]
    · exact absurd hwhole (by simp)
  have hlarge := h.le_div
  rw [maxExact] at hle
  omega

theorem doubleLiteral_large (negative : Bool) {x : Magnitude} (h : x.IsLarge) :
    doubleLiteral (.finite negative x) = (Double.finite negative x).numeral := by
  rw [doubleLiteral_finite, exactInt?_large negative h]
  rfl

/-! ### Integers -/

/-- An integer of 64 bits, one of them for the sign. -/
def IsLong (n : Int) : Prop := -2 ^ 63 ≤ n ∧ n ≤ 2 ^ 63 - 1

theorem natAbs_le_maxLong_iff (n : Int) : n.natAbs ≤ maxLong ↔ IsLong n ∧ n ≠ -2 ^ 63 := by
  unfold maxLong IsLong
  omega

section Undecorated

variable {indent option : Text} (ho : option ∉ decimalOptions)
include ho

theorem literal_int (n : Int) : literal indent option (.int n) = intLiteral n := by
  rw [literal, numberSuffix, if_neg ho]
  cases intLiteral n with
  | error fault => rfl
  | ok text => exact congrArg Except.ok (List.append_nil text)

theorem literal_float (x : Double) : literal indent option (.float x) = .ok (doubleLiteral x) := by
  rw [literal, if_neg fun h => ho h.1, numberSuffix, if_neg ho, List.append_nil]

end Undecorated

/-- Beyond the integers that are written by their digits, the literal is that of the nearest double and
has an exponent. -/
theorem intLiteral_of_not_le {n : Int} {x : Double} (hn : ¬ n.natAbs ≤ maxLong)
    (h : Double.ofInt? n = some x) :
    intLiteral n = .ok (doubleLiteral x) ∧ Text.toInt? (doubleLiteral x) = none ∧
      ∃ front, ∃ power ≥ 18, doubleLiteral x = front ++ "e+" ++ Text.ofNat power := by
  obtain ⟨m, rfl, hunits⟩ := Double.exists_of_ofInt? h
  have hlarge : m.IsLarge := by
    rw [Magnitude.IsLarge, hunits, Double.le_nearestUnits_iff]
    rw [maxLong] at hn
    omega
  rw [intLiteral, if_neg hn, h, doubleLiteral_large _ hlarge]
  exact ⟨rfl, Double.toInt?_numeral _ m, Double.exists_numeral_large _ hlarge⟩

/-- The literal of an integer reads back as the integer exactly if it is in the range of the test. -/
theorem toInt?_intLiteral_iff (n : Int) :
    (∃ text, intLiteral n = .ok text ∧ Text.toInt? text = some n) ↔ n.natAbs ≤ maxLong := by
  constructor
  · rintro ⟨text, htext, hread⟩
    refine Decidable.byContradiction fun hn => ?_
    cases hx : Double.ofInt? n with
    | none =>
      rw [intLiteral, if_neg hn, hx] at htext
      exact absurd htext (by simp)
    | some x =>
      obtain ⟨hliteral, hnone, -⟩ := intLiteral_of_not_le hn hx
      obtain rfl := Except.ok.inj (hliteral.symm.trans htext)
      exact absurd (hnone.symm.trans hread) (by simp)
  · intro hn
    exact ⟨Text.ofInt n, by rw [intLiteral, if_pos hn], Text.toInt?_ofInt n⟩

theorem intLiteral_eq_ofInt_iff (n : Int) :
    intLiteral n = .ok (Text.ofInt n) ↔ n.natAbs ≤ maxLong := by
  constructor
  · intro h
    exact (toInt?_intLiteral_iff n).mp ⟨_, h, Text.toInt?_ofInt n⟩
  · intro hn
    rw [intLiteral, if_pos hn]

/-- An integer is written by its digits, and read back from them, exactly if it has 64 bits and is not
the least of these. Any other one that has a double is written as that double, with an exponent. -/
theorem literal_int_eq_ofInt_iff (indent : Text) {option : Text} (ho : option ∉ decimalOptions)
    (n : Int) :
    (literal indent option (.int n) = .ok (Text.ofInt n) ↔ IsLong n ∧ n ≠ -2 ^ 63) ∧
    ((∃ text, literal indent option (.int n) = .ok text ∧ Text.toInt? text = some n) ↔
      IsLong n ∧ n ≠ -2 ^ 63) ∧
    ∀ x, Double.ofInt? n = some x → ¬ (IsLong n ∧ n ≠ -2 ^ 63) →
      literal indent option (.int n) = literal indent option (.float x) ∧
        ∃ front, ∃ power ≥ 18,
          literal indent option (.int n) = .ok (front ++ "e+" ++ Text.ofNat power) := by
  rw [literal_int ho, ← natAbs_le_maxLong_iff]
  refine ⟨intLiteral_eq_ofInt_iff n, toInt?_intLiteral_iff n, fun x hx hn => ?_⟩
  obtain ⟨hliteral, -, front, power, hpower, htext⟩ := intLiteral_of_not_le hn hx
  rw [hliteral, literal_float ho, htext]
  exact ⟨rfl, front, power, hpower, rfl⟩

/-- -2⁶³ is a double itself. -/
theorem literal_int_eq_ofInt_iff_least :
    literal defaultIndent "slowMo" (.int (-2 ^ 63)) =
      literal defaultIndent "slowMo" (.float (Double.ofRatio true (2 ^ 63) 1)) :=
  ((literal_int_eq_ofInt_iff defaultIndent (by decide) (-2 ^ 63)).2.2 _ (by decide +kernel)
    fun h => h.2 rfl).1

/-- The least integer of 64 bits is written as a double. -/
theorem not_forall_literal_int :
    ¬ ∀ n, IsLong n → literal defaultIndent "slowMo" (.int n) = .ok (Text.ofInt n) := by
  intro h
  have hleast := h (-2 ^ 63) (by unfold IsLong; omega)
  have hdouble : literal defaultIndent "slowMo" (.int (-2 ^ 63)) = .ok "-9.223372036854776e+18" := by
    decide +kernel
  exact absurd (hdouble.symm.trans hleast) (by decide +kernel)

end Program
end SessionReplay
