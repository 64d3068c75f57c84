import Mathlib.Data.List.Infix
import SessionReplay.Text.Basic

/-!
# Pairs joined by a separator

Two texts with a separator between them are one text, which can be cut at another separator if there
is one. So two pairs that are joined to the same text are the same pair or differ in the separator at
which they are cut.
-/

namespace SessionReplay.Text

/-- A text of which no proper part stands both at its beginning and at its end. -/
def Borderless (separator : Text) : Prop :=
  ∀ border ∈ separator.tails, border <+: separator → border = [] ∨ border = separator

instance (separator : Text) : Decidable (Borderless separator) :=
  List.decidableBAll _ separator.tails

/-- The second pair is the first one, cut at a later separator. -/
def CutLater (separator : Text) (pair other : Text × Text) : Prop :=
  ∃ between, other.1 = pair.1 ++ separator ++ between ∧ pair.2 = between ++ separator ++ other.2

/-- One of two pairs is the other one, cut at another separator. -/
def CutElsewhere (separator : Text) (pair other : Text × Text) : Prop :=
  CutLater separator pair other ∨ CutLater separator other pair

def joined (separator : Text) (pair : Text × Text) : Text := pair.1 ++ separator ++ pair.2

theorem CutLater.length_lt {separator : Text} (hne : separator ≠ []) {pair other : Text × Text}
    (h : CutLater separator pair other) : pair.1.length < other.1.length := by
  obtain ⟨between, hfirst, -⟩ := h
  have hpos := List.length_pos_of_ne_nil hne
  rw [hfirst, List.length_append, List.length_append]
  omega

theorem CutLater.joined_eq {separator : Text} {pair other : Text × Text}
    (h : CutLater separator pair other) : joined separator pair = joined separator other := by
  obtain ⟨between, hfirst, hsecond⟩ := h
  simp only [joined, hfirst, hsecond, List.append_assoc]

/-- Where a text begins with a separator, the next one comes at once or behind it. -/
theorem separator_append_eq {separator : Text} (hborder : Borderless separator)
    {front back tail : Text} (h : separator ++ back = front ++ (separator ++ tail)) :
    front = [] ∧ back = tail ∨
      ∃ between, front = separator ++ between ∧ back = between ++ separator ++ tail := by
  rcases List.append_eq_append_iff.mp h with ⟨between, hfront, hback⟩ | ⟨border, hsep, htail⟩
  · exact .inr ⟨between, hfront, by rw [hback, List.append_assoc]⟩
  · -- what the two separators share would be a border
    have hsuffix : border ∈ separator.tails := (List.mem_tails _ _).mpr ⟨front, hsep.symm⟩
    have hprefix : border <+: separator :=
      List.prefix_of_prefix_length_le ⟨back, htail.symm⟩ (List.prefix_append _ _)
        (by rw [hsep, List.length_append]; omega)
    rcases hborder border hsuffix hprefix with hnil | hwhole
    · rw [hnil, List.append_nil] at hsep
      rw [hnil, List.nil_append] at htail
      exact .inr ⟨[], by rw [hsep, List.append_nil], by rw [← htail, List.nil_append, hsep]⟩
    · rw [hwhole] at htail hsep
      exact .inl ⟨List.self_eq_append_left.mp hsep, (List.append_cancel_left htail).symm⟩

/-- Two pairs are the same text exactly if they are the same pair, or the same text cut twice. -/
theorem joined_eq_iff {separator : Text} (hborder : Borderless separator) (pair other : Text × Text) :
    joined separator pair = joined separator other ↔
      pair = other ∨ CutElsewhere separator pair other := by
  constructor
  · intro h
    unfold joined at h
    rw [List.append_assoc, List.append_assoc] at h
    rcases List.append_eq_append_iff.mp h with ⟨more, hfirst, htail⟩ | ⟨more, hfirst, htail⟩
    · rcases separator_append_eq hborder htail with ⟨rfl, hsame⟩ | ⟨between, rfl, hsecond⟩
      · rw [List.append_nil] at hfirst
        exact .inl (Prod.ext hfirst.symm hsame)
      · exact .inr (.inl ⟨between, by rw [hfirst, List.append_assoc], hsecond⟩)
    · rcases separator_append_eq hborder htail with ⟨rfl, hsame⟩ | ⟨between, rfl, hsecond⟩
      · rw [List.append_nil] at hfirst
        exact .inl (Prod.ext hfirst hsame.symm)
      · exact .inr (.inr ⟨between, by rw [hfirst, List.append_assoc], hsecond⟩)
  · intro h
    rcases h with rfl | h | h
    · rfl
    · exact h.joined_eq
    · exact h.joined_eq.symm

theorem CutElsewhere.ne {separator : Text} (hne : separator ≠ []) {pair other : Text × Text}
    (h : CutElsewhere separator pair other) : pair ≠ other := by
  intro he
  rcases h with h | h
  · exact absurd (h.length_lt hne) (by rw [he]; omega)
  · exact absurd (h.length_lt hne) (by rw [he]; omega)

/-- Separators that begin differently cannot both stand at the end of the shorter first part. -/
theorem CutLater.not_other {c d : Char} {separator word : Text} (hcd : c ≠ d)
    {pair other : Text × Text} (h : CutLater (c :: separator) pair other) :
    ¬ CutLater (d :: word) pair other := by
  intro ho
  obtain ⟨between, hfirst, -⟩ := h
  obtain ⟨more, hother, -⟩ := ho
  rw [hfirst, List.append_assoc, List.append_assoc] at hother
  exact hcd (List.cons.inj (List.append_cancel_left hother)).1

theorem CutElsewhere.not_other {c d : Char} {separator word : Text} (hcd : c ≠ d)
    {pair other : Text × Text} (h : CutElsewhere (c :: separator) pair other) :
    ¬ CutElsewhere (d :: word) pair other := by
  intro ho
  rcases h with h | h
  · rcases ho with ho | ho
    · exact h.not_other hcd ho
    · have hlt := h.length_lt (List.cons_ne_nil _ _)
      have hgt := ho.length_lt (List.cons_ne_nil _ _)
      omega
  · rcases ho with ho | ho
    · have hlt := h.length_lt (List.cons_ne_nil _ _)
      have hgt := ho.length_lt (List.cons_ne_nil _ _)
      omega
    · exact h.not_other hcd ho

/-- Two ways to join pairs tell the same pairs apart exactly if neither of the two pairs is the other
one, cut elsewhere. -/
theorem joined_agree_iff {c d : Char} {separator word : Text} (hcd : c ≠ d)
    (hseparator : Borderless (c :: separator)) (hword : Borderless (d :: word))
    (pair other : Text × Text) :
    (joined (c :: separator) pair = joined (c :: separator) other ↔
        joined (d :: word) pair = joined (d :: word) other) ↔
      ¬ CutElsewhere (c :: separator) pair other ∧ ¬ CutElsewhere (d :: word) pair other := by
  rw [joined_eq_iff hseparator, joined_eq_iff hword]
  constructor
  · intro h
    constructor
    · intro hcut
      rcases h.mp (.inr hcut) with he | ho
      · exact hcut.ne (List.cons_ne_nil _ _) he
      · exact hcut.not_other hcd ho
    · intro hcut
      rcases h.mpr (.inr hcut) with he | ho
      · exact hcut.ne (List.cons_ne_nil _ _) he
      · exact hcut.not_other hcd.symm ho
  · intro h
    rw [or_iff_left h.1, or_iff_left h.2]

end SessionReplay.Text
