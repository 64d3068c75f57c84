import Mathlib.Tactic.SplitIfs
import SessionReplay.Text.Utf8

/-!
# Text through UTF-8

Every character is encoded by a first byte, which tells how many others follow and within which bounds
the next one is, and by bytes that each bring six more bits. Decoding such bytes gives the character
back, so a text that is encoded and decoded comes back as it is.
-/

namespace SessionReplay.Text

def consDecoded (c : Char) (decoded : Text × Option Utf8Fault) : Text × Option Utf8Fault :=
  (c :: decoded.1, decoded.2)

/-! ### First bytes -/

theorem followers?_two : ∀ high ∈ List.range 32, 2 ≤ high →
    followers? (0xC0 + high).toUInt8 = some (1, 0x80, 0xBF) := by
  decide

theorem followers?_three : ∀ high ∈ List.range 16, followers? (0xE0 + high).toUInt8 =
    some (2, if high = 0 then 0xA0 else 0x80, if high = 13 then 0x9F else 0xBF) := by
  decide

theorem followers?_four : ∀ high ∈ List.range 5, followers? (0xF0 + high).toUInt8 =
    some (3, if high = 0 then 0x90 else 0x80, if high = 4 then 0x8F else 0xBF) := by
  decide

theorem toNat_toUInt8 {n : Nat} (h : n < 256) : n.toUInt8.toNat = n := by
  rw [Nat.toUInt8, UInt8.toNat_ofNat']
  exact Nat.mod_eq_of_lt h

theorem decodeFrom_first {position first left : Nat} {low high : UInt8} {rest : List UInt8}
    (hascii : 0x80 ≤ first) (hbyte : first < 256)
    (hfollowers : followers? first.toUInt8 = some (left, low, high)) :
    decodeFrom position none (first.toUInt8 :: rest) =
      decodeFrom (position + 1) (some ⟨position, first.toUInt8, 1, left, low, high,
        first % (1 <<< (6 - left))⟩) rest := by
  have hnot : ¬ first.toUInt8 < 0x80 := by
    rw [UInt8.lt_iff_toNat_lt, toNat_toUInt8 hbyte]
    exact Nat.not_lt.mpr hascii
  rw [decodeFrom]
  simp only [if_neg hnot, Utf8Partial.begin?, hfollowers, Option.map_some, toNat_toUInt8 hbyte]

/-! ### Bytes that follow -/

variable {position next : Nat} {char : Utf8Partial} {rest : List UInt8}

theorem bounds_of_toNat (hlow : char.low.toNat ≤ 0x80 + next) (hhigh : 0x80 + next ≤ char.high.toNat)
    (hnext : next < 64) :
    char.low ≤ (0x80 + next).toUInt8 ∧ (0x80 + next).toUInt8 ≤ char.high := by
  have hbyte : (0x80 + next).toUInt8.toNat = 0x80 + next := toNat_toUInt8 (by omega)
  constructor
  · rw [UInt8.le_iff_toNat_le, hbyte]
    exact hlow
  · rw [UInt8.le_iff_toNat_le, hbyte]
    exact hhigh

/-- The byte brings six more bits. -/
theorem next_eq (hnext : next < 64) : char.next (0x80 + next).toUInt8 =
    { char with
      read := char.read + 1, left := char.left - 1, low := 0x80, high := 0xBF
      bits := 64 * char.bits + next } := by
  have hbits : (0x80 + next).toUInt8.toNat % 64 = next := by
    rw [toNat_toUInt8 (by omega)]
    omega
  rw [Utf8Partial.next, hbits]

theorem decodeFrom_last (hleft : char.left = 1) (hlow : char.low.toNat ≤ 0x80 + next)
    (hhigh : 0x80 + next ≤ char.high.toNat) (hnext : next < 64) :
    decodeFrom position (some char) ((0x80 + next).toUInt8 :: rest) =
      consDecoded (Char.ofNat (64 * char.bits + next)) (decodeFrom (position + 1) none rest) := by
  rw [decodeFrom]
  simp only [if_pos (bounds_of_toNat hlow hhigh hnext), next_eq hnext, hleft, if_true, consDecoded]

theorem decodeFrom_more (hleft : 1 < char.left) (hlow : char.low.toNat ≤ 0x80 + next)
    (hhigh : 0x80 + next ≤ char.high.toNat) (hnext : next < 64) :
    decodeFrom position (some char) ((0x80 + next).toUInt8 :: rest) =
      decodeFrom (position + 1) (some { char with
        read := char.read + 1, left := char.left - 1, low := 0x80, high := 0xBF
        bits := 64 * char.bits + next }) rest := by
  have hmore : char.left - 1 ≠ 0 := by omega
  rw [decodeFrom]
  simp only [if_pos (bounds_of_toNat hlow hhigh hnext), next_eq hnext, if_neg hmore]

/-! ### Characters and texts -/

theorem decodeFrom_one {code : Nat} (h : code < 0x80) :
    decodeFrom position none (code.toUInt8 :: rest) =
      consDecoded (Char.ofNat code) (decodeFrom (position + 1) none rest) := by
  have hbyte : code.toUInt8.toNat = code := toNat_toUInt8 (by omega)
  have hascii : code.toUInt8 < 0x80 := by
    rw [UInt8.lt_iff_toNat_lt, hbyte]
    exact h
  rw [decodeFrom]
  simp only [if_pos hascii, hbyte, consDecoded]

theorem decodeFrom_two {code : Nat} (hlow : 0x80 ≤ code) (hhigh : code < 0x800) :
    decodeFrom position none
        ((0xC0 + code / 64).toUInt8 :: (0x80 + code % 64).toUInt8 :: rest) =
      consDecoded (Char.ofNat code) (decodeFrom (position + 2) none rest) := by
  have hbits : (0xC0 + code / 64) % (1 <<< (6 - 1)) = code / 64 := by
    change (0xC0 + code / 64) % 32 = code / 64
    omega
  have hcode : 64 * (code / 64) + code % 64 = code := Nat.div_add_mod code 64
  have hfollowers := followers?_two (code / 64) (List.mem_range.mpr (by omega)) (by omega)
  rw [decodeFrom_first (by omega) (by omega) hfollowers, hbits,
    decodeFrom_last rfl (Nat.le_add_right 0x80 _)
      (show 0x80 + code % 64 ≤ 0xBF by omega) (by omega), hcode]

theorem decodeFrom_three {code : Nat} (hlow : 0x800 ≤ code) (hhigh : code < 0x10000)
    (hvalid : code < 0xD800 ∨ 0xDFFF < code) :
    decodeFrom position none ((0xE0 + code / 4096).toUInt8 ::
        (0x80 + code / 64 % 64).toUInt8 :: (0x80 + code % 64).toUInt8 :: rest) =
      consDecoded (Char.ofNat code) (decodeFrom (position + 3) none rest) := by
  have hbits : (0xE0 + code / 4096) % (1 <<< (6 - 2)) = code / 4096 := by
    change (0xE0 + code / 4096) % 16 = code / 4096
    omega
  have hcode : 64 * (64 * (code / 4096) + code / 64 % 64) + code % 64 = code := by omega
  have hfollowers := followers?_three (code / 4096) (List.mem_range.mpr (by omega))
  -- The bounds keep out longer forms of what two bytes can encode, and surrogates.
  have hfloor :
      (if code / 4096 = 0 then (0xA0 : UInt8) else 0x80).toNat ≤ 0x80 + code / 64 % 64 := by
    rw [apply_ite UInt8.toNat]
    change (if _ then 0xA0 else 0x80) ≤ _
    split <;> omega
  have hceiling :
      0x80 + code / 64 % 64 ≤ (if code / 4096 = 13 then (0x9F : UInt8) else 0xBF).toNat := by
    rw [apply_ite UInt8.toNat]
    change _ ≤ (if _ then 0x9F else 0xBF)
    split <;> omega
  rw [decodeFrom_first (by omega) (by omega) hfollowers, hbits,
    decodeFrom_more (show 1 < 2 by omega) hfloor hceiling (by omega),
    decodeFrom_last rfl (Nat.le_add_right 0x80 _)
      (show 0x80 + code % 64 ≤ 0xBF by omega) (by omega), hcode]

theorem decodeFrom_four {code : Nat} (hlow : 0x10000 ≤ code) (hhigh : code < 0x110000) :
    decodeFrom position none ((0xF0 + code / 262144).toUInt8 ::
        (0x80 + code / 4096 % 64).toUInt8 :: (0x80 + code / 64 % 64).toUInt8 ::
        (0x80 + code % 64).toUInt8 :: rest) =
      consDecoded (Char.ofNat code) (decodeFrom (position + 4) none rest) := by
  have hbits : (0xF0 + code / 262144) % (1 <<< (6 - 3)) = code / 262144 := by
    change (0xF0 + code / 262144) % 8 = code / 262144
    omega
  have hcode : 64 * (64 * (64 * (code / 262144) + code / 4096 % 64) + code / 64 % 64) +
      code % 64 = code := by omega
  have hfollowers := followers?_four (code / 262144) (List.mem_range.mpr (by omega))
  -- Here the upper bound keeps out what lies beyond U+10FFFF.
  have hfloor :
      (if code / 262144 = 0 then (0x90 : UInt8) else 0x80).toNat ≤ 0x80 + code / 4096 % 64 := by
    rw [apply_ite UInt8.toNat]
    change (if _ then 0x90 else 0x80) ≤ _
    split <;> omega
  have hceiling :
      0x80 + code / 4096 % 64 ≤ (if code / 262144 = 4 then (0x8F : UInt8) else 0xBF).toNat := by
    rw [apply_ite UInt8.toNat]
    change _ ≤ (if _ then 0x8F else 0xBF)
    split <;> omega
  rw [decodeFrom_first (by omega) (by omega) hfollowers, hbits,
    decodeFrom_more (show 1 < 3 by omega) hfloor hceiling (by omega),
    decodeFrom_more (show 1 < 2 by omega) (Nat.le_add_right 0x80 _)
      (show 0x80 + code / 64 % 64 ≤ 0xBF by omega) (by omega),
    decodeFrom_last rfl (Nat.le_add_right 0x80 _)
      (show 0x80 + code % 64 ≤ 0xBF by omega) (by omega), hcode]

/-- A character is decoded from its bytes, whatever follows. -/
theorem decodeFrom_charUtf8 (position : Nat) (c : Char) (rest : List UInt8) :
    ∃ behind, decodeFrom position none (charUtf8 c ++ rest) =
      consDecoded c (decodeFrom behind none rest) := by
  have hvalid : c.toNat < 0xD800 ∨ 0xDFFF < c.toNat ∧ c.toNat < 0x110000 := c.valid
  have hc : Char.ofNat c.toNat = c := Char.ofNat_toNat c
  generalize hn : c.toNat = n at hvalid hc
  simp only [charUtf8, hn, Nat.shiftRight_eq_div_pow]
  split_ifs with hone htwo hthree
  · rw [List.singleton_append, decodeFrom_one hone, hc]
    exact ⟨_, rfl⟩
  · simp only [Nat.mul_zero, Nat.pow_zero, Nat.div_one, List.cons_append, List.nil_append]
    rw [decodeFrom_two (by omega) htwo, hc]
    exact ⟨_, rfl⟩
  · simp only [Nat.mul_zero, Nat.pow_zero, Nat.div_one, List.cons_append, List.nil_append]
    rw [decodeFrom_three (by omega) hthree (by omega), hc]
    exact ⟨_, rfl⟩
  · simp only [Nat.mul_zero, Nat.pow_zero, Nat.div_one, List.cons_append, List.nil_append]
    rw [decodeFrom_four (by omega) (by omega), hc]
    exact ⟨_, rfl⟩

/-- Whatever a text is encoded as is decoded as the text, without a fault. -/
theorem decodeFrom_toUtf8 (position : Nat) (text : Text) :
    decodeFrom position none text.toUtf8 = (text, none) := by
  induction text generalizing position with
  | nil => rfl
  | cons c rest ih =>
    rw [toUtf8, List.flatMap_cons]
    obtain ⟨behind, h⟩ := decodeFrom_charUtf8 position c (toUtf8 rest)
    exact h.trans (congrArg (consDecoded c) (ih behind))

theorem ofUtf8_toUtf8 (text : Text) : ofUtf8 text.toUtf8 = .ok text := by
  rw [ofUtf8, decodeFrom_toUtf8]

end SessionReplay.Text
