import SessionReplay.Number.Arithmetic
import SessionReplay.Program.Literal
import SessionReplay.Proofs.Number.Numeral
import SessionReplay.Proofs.Number.Reading

/-!
# What the literal of a number tells

Two literals of numbers are the same only if the numbers have the same value, be they integers or
doubles. Integers are written by their digits; the numeral of a double that is not written as an
integer has a point or an exponent, and reading it gives the double back.
-/

namespace SessionReplay

/-- The value of a number. A finite one is counted in steps of 2⁻¹⁰⁷⁴, negative below zero. -/
inductive Amount where
  | nan
  | infinite (negative : Bool)
  | steps (n : Int)
deriving DecidableEq

def Amount.ofInt (n : Int) : Amount := .steps (n * Double.unitsPerOne)

/-- The value of a double; both zeros have the same. -/
def Double.amount : Double → Amount
  | .nan => .nan
  | .infinite negative => .infinite negative
  | .finite negative x => .steps (signedUnits negative x)

/-! ### Numerals of integers and of doubles -/

namespace Text

theorem toInt?_ofInt (n : Int) : toInt? (ofInt n) = some n := by
  cases n with
  | ofNat n =>
    obtain ⟨first, others, hdigits⟩ := List.exists_cons_of_ne_nil (ofNat_ne_nil n)
    have hfirst : first.isDigit = true := isDigits_ofNat n first (hdigits ▸ List.mem_cons_self)
    have hsign : takeSign (ofNat n) = (false, ofNat n) := by
      have hminus : first ≠ '-' := by rintro rfl; exact absurd hfirst (by decide)
      have hplus : first ≠ '+' := by rintro rfl; exact absurd hfirst (by decide)
      rw [hdigits]
      simp [takeSign, hminus, hplus]
    have hall : (ofNat n).all Char.isDigit = true := List.all_eq_true.mpr (isDigits_ofNat n)
    have hempty : (ofNat n).isEmpty = false := List.isEmpty_eq_false_iff.mpr (ofNat_ne_nil n)
    simp [ofInt, toInt?, hsign, hall, hempty, digitsValue_ofNat]
  | negSucc n =>
    have hread := toInt?_of_digits (isDigits_ofNat (n + 1)) (ofNat_ne_nil (n + 1)) true
    rw [digitsValue_ofNat] at hread
    exact hread

theorem exists_ofInt (n : Int) :
    ∃ c digits, ofInt n = c :: digits ∧ (c.isDigit = true ∨ c = '-') ∧ IsDigits digits := by
  cases n with
  | ofNat n =>
    obtain ⟨first, others, hdigits⟩ := List.exists_cons_of_ne_nil (ofNat_ne_nil n)
    have hall := isDigits_ofNat n
    rw [hdigits] at hall
    exact ⟨first, others, hdigits, .inl (hall first List.mem_cons_self),
      fun c hc => hall c (List.mem_cons_of_mem _ hc)⟩
  | negSucc n => exact ⟨'-', _, rfl, .inr rfl, isDigits_ofNat (n + 1)⟩

theorem toInt?_eq_none {c : Char} {text : Text} (hc : c ∈ text) (hdigit : c.isDigit = false)
    (hminus : c ≠ '-') (hplus : c ≠ '+') : toInt? text = none := by
  have hmem : c ∈ (takeSign text).2 := by
    unfold takeSign
    split
    · exact (List.mem_cons.mp hc).resolve_left hminus
    · exact (List.mem_cons.mp hc).resolve_left hplus
    · exact hc
  have hall : (takeSign text).2.all Char.isDigit = false :=
    List.all_eq_false.mpr ⟨c, hmem, by simp [hdigit]⟩
  simp [toInt?, hall]

end Text

namespace FloatStyle

theorem point_mem_positional (digits : Text) (power : Int) : '.' ∈ positional digits power := by
  unfold positional
  split
  · simp
  · simp

theorem mark_mem_scientific (style : FloatStyle) (digits : Text) (power : Int) :
    'e' ∈ style.scientific digits power := by
  simp [scientific]

end FloatStyle

namespace Double

/-- The numeral of a finite double has a point or an exponent. -/
theorem mark_mem_numeral (negative : Bool) (x : Magnitude) :
    '.' ∈ (Double.finite negative x).numeral ∨ 'e' ∈ (Double.finite negative x).numeral := by
  rw [numeral, FloatStyle.format]
  split
  · exact .inl (List.mem_append_right _ (by decide))
  · simp only [FloatStyle.magnitude]
    split
    · exact .inl (List.mem_append_right _ (FloatStyle.point_mem_positional _ _))
    · exact .inr (List.mem_append_right _ (FloatStyle.mark_mem_scientific _ _ _))

theorem toInt?_numeral (negative : Bool) (x : Magnitude) :
    Text.toInt? (Double.finite negative x).numeral = none := by
  rcases mark_mem_numeral negative x with hm | hm
  · exact Text.toInt?_eq_none hm (by decide) (by decide) (by decide)
  · exact Text.toInt?_eq_none hm (by decide) (by decide) (by decide)

theorem exists_numeral (negative : Bool) (x : Magnitude) :
    ∃ c rest, (Double.finite negative x).numeral = c :: rest ∧ (c.isDigit = true ∨ c = '-') := by
  have hsign : ∀ c rest, c.isDigit = true → ∃ d others, FloatStyle.sign negative ++ c :: rest =
      d :: others ∧ (d.isDigit = true ∨ d = '-') := by
    intro c rest hc
    cases negative with
    | true => exact ⟨'-', _, rfl, .inr rfl⟩
    | false => exact ⟨c, rest, rfl, .inl hc⟩
  rw [numeral, FloatStyle.format]
  split
  next => exact hsign '0' ".0" rfl
  next hne =>
    obtain ⟨⟨c, rest, htext, hc⟩, -⟩ :=
      FloatStyle.magnitude_spec .plain (Nat.pos_of_ne_zero hne) negative
    rw [htext]
    exact hsign c rest hc

theorem amount_of_toInt? {x : Double} {n : Int} (h : x.toInt? = some n) :
    x.amount = Amount.ofInt n := by
  cases x with
  | nan => exact absurd h (by simp [toInt?])
  | infinite negative => exact absurd h (by simp [toInt?])
  | finite negative x =>
    simp only [toInt?] at h
    split at h
    next hwhole =>
      have hunits : ((x.units / unitsPerOne : Nat) : Int) * unitsPerOne = x.units := by
        rw [← Int.natCast_mul, Nat.div_mul_cancel (Nat.dvd_of_mod_eq_zero hwhole)]
      rw [← Option.some.inj h, amount, Amount.ofInt, signedUnits]
      cases negative
      · exact congrArg Amount.steps hunits.symm
      · refine congrArg Amount.steps ?_
        rw [if_pos rfl, if_pos rfl, Int.neg_mul, hunits]
    next => exact absurd h (by simp)

end Double

/-! ### Literals of numbers -/

namespace Program

inductive WritesNumber : Text → Amount → Prop
  | int (n : Int) : WritesNumber (Text.ofInt n) (.ofInt n)
  | numeral (negative : Bool) (x : Magnitude) :
      WritesNumber (Double.finite negative x).numeral (Double.finite negative x).amount
  | nan : WritesNumber "double.NaN" .nan
  | positive : WritesNumber "double.PositiveInfinity" (.infinite false)
  | negative : WritesNumber "double.NegativeInfinity" (.infinite true)

theorem writesNumber_intLiteral {n : Int} {text : Text} (hn : n.natAbs ≤ maxLong)
    (h : intLiteral n = .ok text) : WritesNumber text (.ofInt n) := by
  rw [intLiteral, if_pos hn] at h
  rw [← Except.ok.inj h]
  exact .int n

theorem doubleLiteral_finite (negative : Bool) (x : Magnitude) :
    doubleLiteral (.finite negative x) =
      ((exactInt? (.finite negative x)).map Text.ofInt).getD (Double.finite negative x).numeral := by
  unfold doubleLiteral
  rfl

theorem writesNumber_doubleLiteral (x : Double) : WritesNumber (doubleLiteral x) x.amount := by
  cases x with
  | nan => exact .nan
  | infinite negative =>
    cases negative
    · exact .positive
    · exact .negative
  | finite negative x =>
    rw [doubleLiteral_finite]
    cases hexact : exactInt? (.finite negative x) with
    | none =>
      rw [Option.map_none, Option.getD_none]
      exact .numeral negative x
    | some n =>
      rw [Option.map_some, Option.getD_some,
        Double.amount_of_toInt? (Option.filter_eq_some_iff.mp hexact).1]
      exact .int n

namespace WritesNumber

variable {text : Text} {amount : Amount}

theorem exists_cons (h : WritesNumber text amount) :
    ∃ c rest, text = c :: rest ∧ (c.isDigit = true ∨ c = '-' ∨ c = 'd') := by
  cases h with
  | int n =>
    obtain ⟨c, digits, htext, hc, -⟩ := Text.exists_ofInt n
    exact ⟨c, digits, htext, hc.imp_right .inl⟩
  | numeral negative x =>
    obtain ⟨c, rest, htext, hc⟩ := Double.exists_numeral negative x
    exact ⟨c, rest, htext, hc.imp_right .inl⟩
  | nan => exact ⟨'d', _, rfl, .inr (.inr rfl)⟩
  | positive => exact ⟨'d', _, rfl, .inr (.inr rfl)⟩
  | negative => exact ⟨'d', _, rfl, .inr (.inr rfl)⟩

/-- What can stand behind a number does not stand in it. -/
theorem not_mem (h : WritesNumber text amount) : ∀ c ∈ text, c ∉ ("m, " : Text) := by
  have hall : ∀ c ∈ numeralChars, c ∉ ("m, " : Text) := by decide
  cases h with
  | int n => exact fun c hc => hall c (IsNumeral.ofInt n c hc)
  | numeral negative x => exact fun c hc => hall c (IsNumeral.numeral _ c hc)
  | nan => decide
  | positive => decide
  | negative => decide

end WritesNumber

def readNumber? (text : Text) : Option Amount :=
  if text = "double.NaN" then some .nan
  else if text = "double.PositiveInfinity" then some (.infinite false)
  else if text = "double.NegativeInfinity" then some (.infinite true)
  else
    match Text.toInt? text with
    | some n => some (.ofInt n)
    | none => (Double.ofText? text).map Double.amount

theorem readNumber?_of_head {c : Char} {text rest : Text} (htext : text = c :: rest) (hc : c ≠ 'd') :
    readNumber? text =
      match Text.toInt? text with
      | some n => some (.ofInt n)
      | none => (Double.ofText? text).map Double.amount := by
  have hne : ∀ word : Text, word.head? = some 'd' → text ≠ word := by
    rintro word hword rfl
    rw [htext] at hword
    exact hc (Option.some.inj hword)
  unfold readNumber?
  rw [if_neg (hne _ rfl), if_neg (hne _ rfl), if_neg (hne _ rfl)]

theorem readNumber?_of_writes {text : Text} {amount : Amount} (h : WritesNumber text amount) :
    readNumber? text = some amount := by
  have hd : ∀ c : Char, c.isDigit = true ∨ c = '-' → c ≠ 'd' := by
    rintro c hc rfl
    exact absurd hc (by decide)
  cases h with
  | int n =>
    obtain ⟨c, digits, htext, hc, -⟩ := Text.exists_ofInt n
    rw [readNumber?_of_head htext (hd c hc), Text.toInt?_ofInt]
  | numeral negative x =>
    obtain ⟨c, rest, htext, hc⟩ := Double.exists_numeral negative x
    rw [readNumber?_of_head htext (hd c hc), Double.toInt?_numeral, Double.ofText?_numeral]
    rfl
  | nan => rfl
  | positive => rfl
  | negative => rfl

end Program
end SessionReplay
