import SessionReplay.Number.Reading
import SessionReplay.Proofs.Number.Shortest
import SessionReplay.Proofs.Text.Delimited

/-!
# Numerals read back

The text of a double is read as the same double. Its digits are those of the shortest decimal, however
they are laid out, and where reading takes a short cut it gives what rounding would give.
-/

namespace SessionReplay

namespace Double

/-! ### The short cuts of reading -/

theorem ofRatio_congr {negative : Bool} {a b a' b' : Nat}
    (h : nearestUnits (a * unitsPerOne) b = nearestUnits (a' * unitsPerOne) b') :
    ofRatio negative a b = ofRatio negative a' b' := by
  simp only [ofRatio, h]

theorem ofRatio_of_not_lt {negative : Bool} {a b : Nat}
    (h : ¬ nearestUnits (a * unitsPerOne) b < unitsLimit) :
    ofRatio negative a b = .infinite negative := by
  simp only [ofRatio, dif_neg h]

theorem ofRatio_of_units {negative : Bool} {a b : Nat} {x : Magnitude}
    (h : nearestUnits (a * unitsPerOne) b = x.units) :
    ofRatio negative a b = .finite negative x := by
  simp only [ofRatio, h, dif_pos x.units_lt]

/-- A number with this many digits before the point has no double. -/
theorem not_lt_of_large {digits : Nat} {exponent : Int} (bound : Nat)
    (hbound : integerLimit ≤ 10 ^ bound) (hdigits : 0 < digits) (h : bound ≤ exponent) :
    ¬ nearestUnits (digits * 10 ^ exponent.toNat * unitsPerOne) 1 < unitsLimit := by
  have hpow : 10 ^ bound ≤ 10 ^ exponent.toNat := Nat.pow_le_pow_right (by decide) (by omega)
  rw [nearestUnits_integer_lt_iff, Nat.not_lt]
  exact Nat.le_trans hbound (Nat.le_trans hpow (Nat.le_mul_of_pos_left _ hdigits))

/-- A number with this many zeros behind the point is nearest to zero. -/
theorem decimalUnits_eq_zero {digits : Nat} {exponent : Int} (bound : Nat)
    (hbound : 2 * unitsPerOne < 10 ^ bound)
    (h : (Nat.toDigits 10 digits).length + bound ≤ -exponent) :
    decimalUnits digits exponent = 0 := by
  have hdigits : digits < 10 ^ (Nat.toDigits 10 digits).length := Text.lt_ten_pow_length digits
  have hnonneg : exponent.toNat = 0 := by omega
  apply nearestUnits_eq_zero
  rw [hnonneg, Nat.pow_zero, Nat.mul_one, Nat.mul_left_comm]
  calc digits * (2 * unitsPerOne)
      ≤ 10 ^ (Nat.toDigits 10 digits).length * (2 * unitsPerOne) :=
        Nat.mul_le_mul_right _ (Nat.le_of_lt hdigits)
    _ < 10 ^ (Nat.toDigits 10 digits).length * 10 ^ bound :=
        Nat.mul_lt_mul_of_pos_left hbound (ten_pow_pos _)
    _ = 10 ^ ((Nat.toDigits 10 digits).length + bound) := (Nat.pow_add _ _ _).symm
    _ ≤ 10 ^ (-exponent).toNat := Nat.pow_le_pow_right (by decide) (by omega)

theorem nearestUnits_zero {divisor : Nat} (h : 0 < divisor) : nearestUnits 0 divisor = 0 :=
  nearestUnits_eq_zero h

/-- Beyond 10³⁰⁹ and below 10⁻³³⁰ rounding gives what is known without it. -/
theorem ofDecimal_eq (negative : Bool) (digits : Nat) (exponent : Int) :
    ofDecimal negative digits exponent =
      ofRatio negative (digits * 10 ^ exponent.toNat) (10 ^ (-exponent).toNat) := by
  unfold ofDecimal
  split
  next hzero =>
    apply ofRatio_congr
    rw [hzero, Nat.zero_mul, Nat.zero_mul, Nat.zero_mul, nearestUnits_zero (ten_pow_pos _),
      nearestUnits_zero (by decide)]
  next hzero =>
    split
    next hlarge =>
      refine (ofRatio_of_not_lt ?_).symm
      rw [Int.toNat_of_nonpos (by omega : -exponent ≤ 0), Nat.pow_zero]
      exact not_lt_of_large 310 (by decide +kernel) (by omega) (by omega)
    next =>
      split
      next hsmall =>
        apply ofRatio_congr
        have hnone : decimalUnits digits exponent = 0 :=
          decimalUnits_eq_zero 330 (by decide +kernel) (by omega)
        rw [decimalUnits] at hnone
        rw [hnone, Nat.zero_mul, nearestUnits_zero (by decide)]
      next =>
        split
        next hpos => rw [Int.toNat_of_nonpos (by omega : -exponent ≤ 0), Nat.pow_zero]
        next hneg => rw [Int.toNat_of_nonpos (by omega : exponent ≤ 0), Nat.pow_zero, Nat.mul_one]

theorem ofDecimal_of_units {negative : Bool} {digits : Nat} {exponent : Int} {x : Magnitude}
    (h : decimalUnits digits exponent = x.units) :
    ofDecimal negative digits exponent = .finite negative x := by
  rw [ofDecimal_eq]
  exact ofRatio_of_units h

end Double

/-! ### Runs of digits -/

namespace Text

def IsDigits (text : Text) : Prop := ∀ c ∈ text, c.isDigit = true

theorem isDigits_ofNat (n : Nat) : IsDigits (ofNat n) :=
  fun _ hc => Nat.isDigit_of_mem_toDigits (by decide) (by decide) hc

theorem isDigits_zeros (n : Nat) : IsDigits (List.replicate n '0') := by
  intro c hc
  rw [List.eq_of_mem_replicate hc]
  rfl

theorem IsDigits.append {a b : Text} (ha : IsDigits a) (hb : IsDigits b) : IsDigits (a ++ b) :=
  fun c hc => (List.mem_append.mp hc).elim (ha c) (hb c)

theorem IsDigits.sublist {a b : Text} (h : a.Sublist b) (hb : IsDigits b) : IsDigits a :=
  fun c hc => hb c (h.subset hc)

theorem isDigits_padded (width n : Nat) : IsDigits (padded width n) :=
  (isDigits_zeros _).append (isDigits_ofNat n)

theorem ofNat_ne_nil (n : Nat) : ofNat n ≠ [] := List.ne_nil_of_length_pos (length_ofNat_pos n)

/-- A run of digits is taken whole where no digit follows. -/
theorem takeDigits_append {digits rest : Text} (h : IsDigits digits)
    (hrest : ∀ c ∈ rest.head?, c.isDigit = false) : takeDigits (digits ++ rest) = (digits, rest) := by
  have htake : rest.takeWhile Char.isDigit = [] := by
    cases rest with
    | nil => rfl
    | cons c rest => simp [hrest c rfl]
  have hdrop : rest.dropWhile Char.isDigit = rest := by
    cases rest with
    | nil => rfl
    | cons c rest => simp [hrest c rfl]
  rw [takeDigits, List.takeWhile_append_of_pos h, List.dropWhile_append_of_pos h, htake, hdrop,
    List.append_nil]

theorem digitsValue_append (a b : Text) :
    digitsValue (a ++ b) = digitsValue a * 10 ^ b.length + digitsValue b := by
  change Nat.ofDigitChars 10 (a ++ b) 0 = _
  rw [Nat.ofDigitChars_append, Nat.ofDigitChars_eq_ofDigitChars_zero, Nat.mul_comm]
  rfl

theorem digitsValue_zeros (n : Nat) : digitsValue (List.replicate n '0') = 0 := by
  change Nat.ofDigitChars 10 (List.replicate n '0') 0 = _
  rw [Nat.ofDigitChars_replicate_zero, Nat.mul_zero]

theorem digitsValue_ofNat (n : Nat) : digitsValue (ofNat n) = n := Nat.ofDigitChars_ten_toDigits

theorem digitsValue_padded (width n : Nat) : digitsValue (padded width n) = n := by
  simp only [padded]
  rw [digitsValue_append, digitsValue_zeros, digitsValue_ofNat, Nat.zero_mul, Nat.zero_add]

theorem exists_zeros (text : Text) :
    ∃ zeros, text = (text.reverse.dropWhile (· == '0')).reverse ++ List.replicate zeros '0' := by
  have hall : text.reverse.takeWhile (· == '0') =
      List.replicate (text.reverse.takeWhile (· == '0')).length '0' := by
    refine List.eq_replicate_iff.mpr ⟨rfl, fun c hc => ?_⟩
    exact eq_of_beq (List.all_eq_true.mp List.all_takeWhile c hc)
  have hsplit := congrArg List.reverse
    (List.takeWhile_append_dropWhile (p := (· == '0')) (l := text.reverse))
  rw [List.reverse_append, List.reverse_reverse, hall, List.reverse_replicate] at hsplit
  exact ⟨_, hsplit.symm⟩

theorem toInt?_of_digits {digits : Text} (h : IsDigits digits) (hne : digits ≠ [])
    (negative : Bool) :
    toInt? ((if negative then "-".toList else "+".toList) ++ digits) =
      some (if negative then -(digitsValue digits : Int) else digitsValue digits) := by
  have hall : digits.all Char.isDigit = true := List.all_eq_true.mpr h
  have hempty : digits.isEmpty = false := List.isEmpty_eq_false_iff.mpr hne
  cases negative <;> simp [toInt?, takeSign, hall, hempty]

end Text

/-! ### The two layouts -/

namespace Double

open Text (IsDigits digitsValue)

theorem magnitude?_point (negative : Bool) (whole fraction rest : Text) (hw : IsDigits whole)
    (hf : IsDigits fraction) (hne : whole ≠ [])
    (hrest : ∀ c ∈ rest.head?, c.isDigit = false) :
    magnitude? negative (whole ++ '.' :: (fraction ++ rest)) =
      (power? rest).map fun power =>
        ofDecimal negative (digitsValue (whole ++ fraction)) (power - fraction.length) := by
  have hpoint : ∀ c ∈ ('.' :: (fraction ++ rest)).head?, c.isDigit = false :=
    Text.forall_head?_cons (by decide) _
  simp only [magnitude?, Text.takeDigits_append hw hpoint, Text.takeDigits_append hf hrest,
    List.isEmpty_eq_false_iff.mpr hne, Bool.false_and, Bool.false_eq_true, if_false]

theorem magnitude?_whole (negative : Bool) {whole : Text} (hw : IsDigits whole) (hne : whole ≠ [])
    (rest : Text) :
    magnitude? negative (whole ++ 'e' :: rest) =
      (power? ('e' :: rest)).map fun power => ofDecimal negative (digitsValue whole) power := by
  have hmark : ∀ c ∈ ('e' :: rest).head?, c.isDigit = false := Text.forall_head?_cons (by decide) _
  simp only [magnitude?, Text.takeDigits_append hw hmark, List.isEmpty_eq_false_iff.mpr hne,
    Bool.false_and, Bool.false_eq_true, if_false]
  change (power? ('e' :: rest)).map
    (fun power => ofDecimal negative (digitsValue (whole ++ [])) (power - 0)) = _
  simp only [List.append_nil, Int.sub_zero]

theorem power?_written (width : Nat) (power : Int) :
    power? ('e' :: ((if power < 0 then "-".toList else "+".toList) ++ Text.padded width power.natAbs)) =
      some power := by
  have hread := Text.toInt?_of_digits (Text.isDigits_padded width power.natAbs)
    (List.append_ne_nil_of_right_ne_nil _ (Text.ofNat_ne_nil _)) (decide (power < 0))
  have hpower : (if power < 0 then -(power.natAbs : Int) else power.natAbs) = power := by omega
  simp only [decide_eq_true_eq, Text.digitsValue_padded, hpower] at hread
  exact hread

variable {x : Magnitude} {digits : Text}

/-- What has no exponent is read as its digits with the point at its place. -/
theorem magnitude?_plain (negative : Bool) (whole fraction : Text) (hw : IsDigits whole)
    (hf : IsDigits fraction) (hne : whole ≠ [])
    (h : decimalUnits (digitsValue (whole ++ fraction)) (-fraction.length) = x.units) :
    magnitude? negative (whole ++ '.' :: fraction) = some (.finite negative x) := by
  have hread := magnitude?_point negative whole fraction [] hw hf hne (by simp)
  rw [List.append_nil] at hread
  rw [hread, power?, Option.map_some, Int.zero_sub, ofDecimal_of_units h]

theorem digitsValue_zero : digitsValue "0" = 0 := by decide

theorem magnitude?_leadingZeros (negative : Bool) (hd : IsDigits digits) (zeros : Nat)
    (h : decimalUnits (digitsValue digits) (-((zeros + digits.length : Nat) : Int)) = x.units) :
    magnitude? negative ("0".toList ++ '.' :: (List.replicate zeros '0' ++ digits)) =
      some (.finite negative x) := by
  refine magnitude?_plain negative "0" _ (Text.isDigits_zeros 1)
    ((Text.isDigits_zeros zeros).append hd) (by decide) ?_
  rw [Text.digitsValue_append, Text.digitsValue_append, Text.digitsValue_zeros, digitsValue_zero,
    Nat.zero_mul, Nat.zero_mul, Nat.zero_add, Nat.zero_add, List.length_append,
    List.length_replicate]
  exact h

theorem magnitude?_trailingZeros (negative : Bool) (hd : IsDigits digits) (hne : digits ≠ [])
    (zeros : Nat) (h : decimalUnits (digitsValue digits) zeros = x.units) :
    magnitude? negative (digits ++ List.replicate zeros '0' ++ '.' :: "0".toList) =
      some (.finite negative x) := by
  refine magnitude?_plain negative _ "0" (hd.append (Text.isDigits_zeros zeros))
    (Text.isDigits_zeros 1) (List.append_ne_nil_of_left_ne_nil hne _) ?_
  have hvalue : digitsValue (digits ++ List.replicate zeros '0' ++ "0") =
      digitsValue digits * 10 ^ (zeros + 1) := by
    rw [Text.digitsValue_append, Text.digitsValue_append, Text.digitsValue_zeros, digitsValue_zero,
      List.length_replicate, Nat.pow_succ, Nat.add_zero, Nat.add_zero, Nat.mul_assoc]
    rfl
  have hplace : -("0".toList.length : Int) + (zeros + 1 : Nat) = zeros := by
    change -(1 : Int) + (zeros + 1 : Nat) = _
    omega
  rw [hvalue, decimalUnits_mul_ten_pow, hplace]
  exact h

theorem magnitude?_among (negative : Bool) (hd : IsDigits digits) {whole : Nat} (hpos : 0 < whole)
    (hlong : whole < digits.length)
    (h : decimalUnits (digitsValue digits) (whole - digits.length) = x.units) :
    magnitude? negative (digits.take whole ++ '.' :: digits.drop whole) =
      some (.finite negative x) := by
  refine magnitude?_plain negative _ _ (hd.sublist (List.take_sublist _ _))
    (hd.sublist (List.drop_sublist _ _)) ?_ ?_
  · intro hnil
    have hlength := congrArg List.length hnil
    rw [List.length_take, List.length_nil] at hlength
    omega
  · have hplace : -((digits.drop whole).length : Int) = whole - digits.length := by
      rw [List.length_drop]
      omega
    rw [List.take_append_drop, hplace]
    exact h

theorem magnitude?_positional (negative : Bool) (hd : IsDigits digits) (hne : digits ≠ [])
    {power : Int}
    (h : decimalUnits (digitsValue digits) (power + 1 - digits.length) = x.units) :
    magnitude? negative (FloatStyle.positional digits power) = some (.finite negative x) := by
  have hlength : 0 < digits.length := List.length_pos_iff.mpr hne
  unfold FloatStyle.positional
  split
  next hsmall =>
    have hplace : power + 1 - digits.length =
        -(((-power - 1).toNat + digits.length : Nat) : Int) := by omega
    rw [List.append_assoc]
    exact magnitude?_leadingZeros negative hd _ (hplace ▸ h)
  next hlarge =>
    simp only
    split
    next hshort =>
      have hplace : power + 1 - digits.length = (power.toNat + 1 - digits.length : Nat) := by omega
      rw [List.take_of_length_le hshort, List.append_assoc _ ".".toList]
      exact magnitude?_trailingZeros negative hd hne _ (hplace ▸ h)
    next hlong =>
      have hplace : power + 1 - digits.length = (power.toNat + 1 : Nat) - digits.length := by omega
      rw [Nat.sub_eq_zero_of_le (by omega), List.replicate_zero, List.append_nil,
        List.append_assoc _ ".".toList]
      exact magnitude?_among negative hd (Nat.succ_pos _) (by omega) (hplace ▸ h)

theorem magnitude?_scientific (style : FloatStyle) (negative : Bool) (hd : IsDigits digits)
    (hne : digits ≠ []) {power : Int}
    (h : decimalUnits (digitsValue digits) (power + 1 - digits.length) = x.units) :
    magnitude? negative (style.scientific digits power) = some (.finite negative x) := by
  have hpower := power?_written style.exponentWidth power
  rcases digits with - | ⟨first, - | ⟨second, others⟩⟩
  · exact absurd rfl hne
  · have hread := magnitude?_whole negative hd hne
      ((if power < 0 then "-".toList else "+".toList) ++ Text.padded style.exponentWidth power.natAbs)
    have hplace : power = power + 1 - [first].length := (Int.add_sub_cancel power 1).symm
    rw [hpower, Option.map_some, hplace, ofDecimal_of_units h] at hread
    simpa [FloatStyle.scientific] using hread
  · have hread := magnitude?_point negative [first] (second :: others)
      ('e' :: ((if power < 0 then "-".toList else "+".toList) ++ Text.padded style.exponentWidth power.natAbs))
      (hd.sublist (by simp)) (hd.sublist (by simp)) (by simp) (by simp)
    have hplace : power - (second :: others).length =
        power + 1 - (first :: second :: others).length := by
      simp only [List.length_cons]
      omega
    have hvalue : [first] ++ second :: others = first :: second :: others := rfl
    rw [hpower, Option.map_some, hplace, hvalue, ofDecimal_of_units h] at hread
    simpa [FloatStyle.scientific] using hread

end Double

/-! ### Numerals -/

namespace FloatStyle

open Text (IsDigits digitsValue)

variable {x : Magnitude} {digits : Text}

theorem exists_digit_positional (hd : IsDigits digits) (hne : digits ≠ []) (power : Int) :
    ∃ c rest, positional digits power = c :: rest ∧ c.isDigit = true := by
  obtain ⟨first, others, rfl⟩ := List.exists_cons_of_ne_nil hne
  unfold positional
  split
  · exact ⟨'0', _, rfl, rfl⟩
  · exact ⟨first, _, rfl, hd first List.mem_cons_self⟩

theorem exists_digit_scientific (style : FloatStyle) (hd : IsDigits digits) (hne : digits ≠ [])
    (power : Int) : ∃ c rest, style.scientific digits power = c :: rest ∧ c.isDigit = true := by
  obtain ⟨first, others, rfl⟩ := List.exists_cons_of_ne_nil hne
  exact ⟨first, _, rfl, hd first List.mem_cons_self⟩

/-- The digits that a positive magnitude is written with: the shortest ones without the zeros at their
end, in their place. -/
theorem shortest_digits (hpos : 0 < x.units) {zeros : Nat}
    (hsplit : Text.ofNat x.shortest.digits = digits ++ List.replicate zeros '0') :
    IsDigits digits ∧ digits ≠ [] ∧
      Double.decimalUnits (digitsValue digits)
        (x.shortest.exponent + (Text.ofNat x.shortest.digits).length - 1 + 1 - digits.length) =
          x.units := by
  have hunits := Magnitude.decimalUnits_shortest hpos
  have hvalue : x.shortest.digits = digitsValue digits * 10 ^ zeros := by
    rw [← Text.digitsValue_ofNat x.shortest.digits, hsplit, Text.digitsValue_append,
      Text.digitsValue_zeros, List.length_replicate, Nat.add_zero]
  have hplace : x.shortest.exponent + (Text.ofNat x.shortest.digits).length - 1 + 1 - digits.length =
      x.shortest.exponent + zeros := by
    rw [hsplit, List.length_append, List.length_replicate]
    omega
  refine ⟨(Text.isDigits_ofNat x.shortest.digits).sublist (hsplit ▸ List.sublist_append_left _ _),
    ?_, ?_⟩
  · rintro rfl
    have hzero : x.shortest.digits = 0 := by
      rw [hvalue]
      exact Nat.zero_mul _
    rw [hzero, Double.decimalUnits, Nat.zero_mul, Nat.zero_mul,
      Double.nearestUnits_zero (Double.ten_pow_pos _)] at hunits
    omega
  · rw [hplace, ← Double.decimalUnits_mul_ten_pow, ← hvalue]
    exact hunits

/-- The text of a positive magnitude begins with a digit and is read as the magnitude. -/
theorem magnitude_spec (style : FloatStyle) (hpos : 0 < x.units) (negative : Bool) :
    (∃ c rest, style.magnitude x = c :: rest ∧ c.isDigit = true) ∧
      Double.magnitude? negative (style.magnitude x) = some (.finite negative x) := by
  obtain ⟨zeros, hsplit⟩ := Text.exists_zeros (Text.ofNat x.shortest.digits)
  obtain ⟨hd, hne, hunits⟩ := shortest_digits hpos hsplit
  simp only [magnitude]
  split
  · exact ⟨exists_digit_positional hd hne _, Double.magnitude?_positional negative hd hne hunits⟩
  · exact ⟨exists_digit_scientific style hd hne _,
      Double.magnitude?_scientific style negative hd hne hunits⟩

end FloatStyle

namespace Double

open Text (digitsValue)

theorem ofText?_digit {c : Char} (hc : c.isDigit = true) (negative : Bool) (rest : Text) :
    ofText? (FloatStyle.sign negative ++ c :: rest) = magnitude? negative (c :: rest) := by
  have hcode : 48 ≤ c.toNat ∧ c.toNat ≤ 57 := by
    simpa [Char.isDigit, UInt32.le_iff_toNat_le] using hc
  have hne : ∀ d : Char, (d.toNat < 48 ∨ 57 < d.toNat) → c ≠ d := by
    rintro d hd rfl
    omega
  have hlower : c.toLower = c := by
    refine dif_neg fun hupper => ?_
    have hletter : 65 ≤ c.toNat := UInt32.le_iff_toNat_le.mp hupper.1
    omega
  have hsign : Text.takeSign (FloatStyle.sign negative ++ c :: rest) = (negative, c :: rest) := by
    cases negative with
    | true => rfl
    | false =>
      have hminus := hne '-' (by decide)
      have hplus := hne '+' (by decide)
      simp [FloatStyle.sign, Text.takeSign, hminus, hplus]
  have hn := hne 'n' (by decide)
  have hi := hne 'i' (by decide)
  simp [ofText?, hsign, Text.lowerAscii, hlower, hn, hi]

theorem ofText?_numeral (x : Double) : ofText? x.numeral = some x := by
  cases x with
  | nan => decide
  | infinite negative => cases negative <;> decide
  | finite negative x =>
    rw [numeral, FloatStyle.format]
    split
    next hzero =>
      rw [show ("0.0" : Text) = '0' :: ".0".toList from rfl, ofText?_digit rfl]
      refine magnitude?_plain negative "0" "0" (Text.isDigits_zeros 1) (Text.isDigits_zeros 1)
        (by decide) ?_
      rw [hzero, show digitsValue ("0".toList ++ "0".toList) = 0 by decide, decimalUnits,
        Nat.zero_mul, Nat.zero_mul, nearestUnits_zero (ten_pow_pos _)]
    next hne =>
      obtain ⟨⟨c, rest, htext, hc⟩, hread⟩ :=
        FloatStyle.magnitude_spec .plain (Nat.pos_of_ne_zero hne) negative
      rw [htext] at hread ⊢
      rw [ofText?_digit hc, hread]

end Double
end SessionReplay
