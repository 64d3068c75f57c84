import Mathlib.Tactic.SplitIfs
import SessionReplay.Text.Quoted

/-!
# Pieces that delimit themselves

Where one of two equal texts begins with a run of characters of a class, and what follows the run is
not of the class, the other one begins with the same run. A literal needs no such condition: reading
it stops at its closing quote, whatever follows.
-/

namespace SessionReplay.Text

theorem forall_head?_cons {p : Char → Prop} {d : Char} (hd : p d) (tail : Text) :
    ∀ c ∈ (d :: tail).head?, p c := by
  intro c hc
  rwa [← Option.some.inj hc]

/-- Two equal texts have the same run of a class at the front. -/
theorem run_append_inj {p : Char → Prop} {a b rest other : Text} (ha : ∀ c ∈ a, p c)
    (hb : ∀ c ∈ b, p c) (hrest : ∀ c ∈ rest.head?, ¬ p c) (hother : ∀ c ∈ other.head?, ¬ p c)
    (h : a ++ rest = b ++ other) : a = b ∧ rest = other := by
  induction a generalizing b with
  | nil =>
    cases b with
    | nil => exact ⟨rfl, h⟩
    | cons d b =>
      have hd : d ∈ rest.head? := by
        rw [List.nil_append] at h
        rw [h]
        rfl
      exact absurd (hb d List.mem_cons_self) (hrest d hd)
  | cons c a ih =>
    cases b with
    | nil =>
      have hc : c ∈ other.head? := by
        rw [List.nil_append] at h
        rw [← h]
        rfl
      exact absurd (ha c List.mem_cons_self) (hother c hc)
    | cons d b =>
      obtain ⟨rfl, htail⟩ := List.cons.inj h
      obtain ⟨rfl, hsame⟩ := ih (fun e he => ha e (List.mem_cons_of_mem _ he))
        (fun e he => hb e (List.mem_cons_of_mem _ he)) htail
      exact ⟨rfl, hsame⟩

/-! ### Literals -/

theorem hexValue?_hex : ∀ code ∈ List.range 0x20 ++ [0x2028, 0x2029],
    (hex 4 code).length = 4 ∧ hexValue? (hex 4 code) = some code := by
  decide

theorem readInside?_hex {c : Char} (h : c.toNat < 0x20 ∨ c = '\u2028' ∨ c = '\u2029')
    (rest : Text) :
    readInside? ('\\' :: 'u' :: (hex 4 c.toNat ++ rest)) =
      (readInside? rest).map fun read => (c :: read.1, read.2) := by
  have hcode : c.toNat ∈ List.range 0x20 ++ [0x2028, 0x2029] := by
    rcases h with h | rfl | rfl
    · exact List.mem_append_left _ (List.mem_range.mpr h)
    · decide
    · decide
  obtain ⟨hlength, hvalue⟩ := hexValue?_hex _ hcode
  match hex 4 c.toNat, hlength, hvalue with
  | [a, b, d, e], _, hvalue =>
    simp only [List.cons_append, List.nil_append, readInside?, hvalue]
    cases readInside? rest with
    | none => rfl
    | some read =>
      change some (Char.ofNat c.toNat :: read.1, read.2) = _
      rw [Char.ofNat_toNat]
      rfl

theorem readInside?_mark {mark char : Char} (hne : mark ≠ 'u') (hchar : escapedChar? mark = some char)
    (rest : Text) :
    readInside? ('\\' :: mark :: rest) =
      (readInside? rest).map fun read => (char :: read.1, read.2) := by
  rw [readInside?]
  · rw [hchar]
    cases readInside? rest <;> rfl
  · rintro a b c d rest rfl
    exact absurd rfl hne

theorem readInside?_plain {c : Char} (hquote : c ≠ '"') (hslash : c ≠ '\\') (rest : Text) :
    readInside? (c :: rest) = (readInside? rest).map fun read => (c :: read.1, read.2) := by
  rw [readInside?]
  · rw [if_neg hslash]
  · exact hquote
  · exact fun _ _ _ _ _ h => absurd h hslash
  · exact fun _ _ h => absurd h hslash

theorem readInside?_escape (c : Char) (rest : Text) :
    readInside? (escape c ++ rest) =
      (readInside? rest).map fun read => (c :: read.1, read.2) := by
  unfold escape
  split_ifs with hquote hslash hfeed hreturn htab hback hform hcode
  · exact readInside?_mark (by decide) (hquote ▸ rfl) rest
  · exact readInside?_mark (by decide) (hslash ▸ rfl) rest
  · exact readInside?_mark (by decide) (hfeed ▸ rfl) rest
  · exact readInside?_mark (by decide) (hreturn ▸ rfl) rest
  · exact readInside?_mark (by decide) (htab ▸ rfl) rest
  · exact readInside?_mark (by decide) (hback ▸ rfl) rest
  · exact readInside?_mark (by decide) (hform ▸ rfl) rest
  · exact readInside?_hex hcode rest
  · exact readInside?_plain hquote hslash rest

theorem readInside?_flatMap (text rest : Text) :
    readInside? (text.flatMap escape ++ '"' :: rest) = some (text, rest) := by
  induction text with
  | nil => rfl
  | cons c text ih =>
    rw [List.flatMap_cons, List.append_assoc, readInside?_escape, ih]
    rfl

/-- Reading a literal gives its text back and stops where the literal ends. -/
theorem readLiteral?_quoted_append (text rest : Text) :
    readLiteral? (quoted text ++ rest) = some (text, rest) := by
  simp only [quoted, List.cons_append, List.append_assoc, List.nil_append, readLiteral?]
  exact readInside?_flatMap text rest

theorem quoted_append_inj {a b rest other : Text} (h : quoted a ++ rest = quoted b ++ other) :
    a = b ∧ rest = other := by
  have hread := readLiteral?_quoted_append a rest
  rw [h, readLiteral?_quoted_append, Option.some_inj] at hread
  exact Prod.mk.inj hread.symm

end SessionReplay.Text
