import SessionReplay.Number.Shortest
import SessionReplay.Proofs.Text.Line

/-!
# The characters of numerals

Whatever number is written, its text is made of digits, a sign, a point, the mark of an exponent and
the letters of `nan` and `inf`.
-/

namespace SessionReplay

def numeralChars : Text := "0123456789+-.einfa"

def IsNumeral (text : Text) : Prop := ∀ c ∈ text, c ∈ numeralChars

instance (text : Text) : Decidable (IsNumeral text) := Text.decidableForallMem _ text

theorem mem_numeralChars_of_isDigit {c : Char} (h : c.isDigit = true) : c ∈ numeralChars := by
  have hrange : 48 ≤ c.toNat ∧ c.toNat ≤ 57 := by
    simpa [Char.isDigit, UInt32.le_iff_toNat_le] using h
  have hc : c = Char.ofNat c.toNat := (Char.ofNat_toNat c).symm
  have hn : c.toNat ∈ List.range' 48 10 := by
    rw [List.mem_range'_1]
    omega
  have hall : ∀ n ∈ List.range' 48 10, Char.ofNat n ∈ numeralChars := by decide
  rw [hc]
  exact hall _ hn

namespace IsNumeral

variable {a b : Text}

theorem append (ha : IsNumeral a) (hb : IsNumeral b) : IsNumeral (a ++ b) := by
  intro c hc
  exact (List.mem_append.mp hc).elim (ha c) (hb c)

theorem cons {c : Char} (hc : c ∈ numeralChars) (ha : IsNumeral a) : IsNumeral (c :: a) := by
  intro d hd
  rcases List.mem_cons.mp hd with rfl | hd
  · exact hc
  · exact ha d hd

theorem sublist (h : a.Sublist b) (hb : IsNumeral b) : IsNumeral a :=
  fun c hc => hb c (h.subset hc)

theorem zeros (n : Nat) : IsNumeral (List.replicate n '0') := by
  intro c hc
  rw [List.eq_of_mem_replicate hc]
  decide

theorem ofNat (n : Nat) : IsNumeral (Text.ofNat n) := fun _ hc =>
  mem_numeralChars_of_isDigit (Nat.isDigit_of_mem_toDigits (by decide) (by decide) hc)

theorem ofInt : (n : Int) → IsNumeral (Text.ofInt n)
  | .ofNat n => ofNat n
  | .negSucc n => cons (by decide) (ofNat (n + 1))

theorem padded (width n : Nat) : IsNumeral (Text.padded width n) := (zeros _).append (ofNat n)

theorem positional {digits : Text} (h : IsNumeral digits) (power : Int) :
    IsNumeral (FloatStyle.positional digits power) := by
  unfold FloatStyle.positional
  split
  · exact ((by decide : IsNumeral "0.").append (zeros _)).append h
  · have hfraction : IsNumeral
        (if digits.length ≤ power.toNat + 1 then "0" else digits.drop (power.toNat + 1)) := by
      split
      · decide
      · exact h.sublist (List.drop_sublist _ _)
    exact (((h.sublist (List.take_sublist _ _)).append (zeros _)).append (by decide)).append
      hfraction

theorem scientific (style : FloatStyle) {digits : Text} (h : IsNumeral digits) (power : Int) :
    IsNumeral (style.scientific digits power) := by
  unfold FloatStyle.scientific
  have hfraction : IsNumeral (if digits.length ≤ 1 then [] else '.' :: digits.drop 1) := by
    split
    · decide
    · exact cons (by decide) (h.sublist (List.drop_sublist _ _))
  have hsign : IsNumeral (if power < 0 then "-" else "+") := by
    split <;> decide
  exact ((((h.sublist (List.take_sublist _ _)).append hfraction).append (by decide)).append
    hsign).append (padded _ _)

theorem magnitude (style : FloatStyle) (x : Magnitude) : IsNumeral (style.magnitude x) := by
  have hdigits : IsNumeral ((Text.ofNat x.shortest.digits).reverse.dropWhile (· == '0')).reverse := by
    intro c hc
    have hmem := (List.dropWhile_sublist _).subset (List.mem_reverse.mp hc)
    exact ofNat _ c (List.mem_reverse.mp hmem)
  simp only [FloatStyle.magnitude]
  split
  · exact positional hdigits _
  · exact scientific style hdigits _

/-- The text of a double is a numeral, an infinity and NaN included. -/
theorem numeral (x : Double) : IsNumeral x.numeral := by
  have hsign : ∀ negative, IsNumeral (FloatStyle.sign negative) := by decide
  cases x with
  | nan => exact (by decide : IsNumeral "nan")
  | infinite negative => exact (hsign negative).append (by decide : IsNumeral "inf")
  | finite negative x =>
    rw [Double.numeral, FloatStyle.format]
    split
    · exact (hsign negative).append (by decide)
    · exact (hsign negative).append (magnitude _ x)

end IsNumeral
end SessionReplay
