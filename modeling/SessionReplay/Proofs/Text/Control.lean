import SessionReplay.Proofs.Text.OuterLine
import SessionReplay.Text.Control

/-!
# What is left of a text without control sequences

Control sequences are left out from left to right, and everything else is kept. So a text is kept as a
whole exactly if there is no control sequence in it, and what stands before the first escape character
is kept in any case.
-/

namespace SessionReplay.Text

inductive IsControl : Text → Prop
  | mk {parameters : Text} {letter : Char} (hparameters : ∀ c ∈ parameters, isParameter c = true)
    (hletter : letter.isAlpha = true) : IsControl ('\x1b' :: '[' :: (parameters ++ [letter]))

/-- What is left of a text when control sequences are left out from left to right. -/
inductive Bares : Text → Text → Prop
  | nil : Bares [] []
  | control {sequence rest bare : Text} (hcontrol : IsControl sequence) (hrest : Bares rest bare) :
    Bares (sequence ++ rest) bare
  | keep {c : Char} {rest bare : Text} (hfront : ∀ sequence, IsControl sequence →
      ¬ sequence <+: c :: rest) (hrest : Bares rest bare) : Bares (c :: rest) (c :: bare)

variable {sequence text bare : Text}

theorem IsControl.ne_nil (h : IsControl sequence) : sequence ≠ [] := by
  cases h
  exact List.cons_ne_nil _ _

namespace Bares

theorem length_le (h : Bares text bare) : bare.length ≤ text.length := by
  induction h with
  | nil => exact Nat.le_refl _
  | control _ _ ih =>
    rw [List.length_append]
    omega
  | keep _ _ ih => exact Nat.succ_le_succ ih

/-- A text is kept as a whole exactly if there is no control sequence in it. -/
theorem eq_iff (h : Bares text bare) :
    bare = text ↔ ∀ sequence, IsControl sequence → ¬ sequence <:+: text := by
  induction h with
  | nil =>
    refine iff_of_true rfl fun sequence hcontrol hinfix => hcontrol.ne_nil ?_
    exact List.infix_nil.mp hinfix
  | @control sequence rest bare hcontrol hrest ih =>
    refine iff_of_false (fun heq => ?_) fun hnone => ?_
    · have hpos := List.length_pos_of_ne_nil hcontrol.ne_nil
      have hlength := hrest.length_le
      rw [heq, List.length_append] at hlength
      omega
    · exact hnone sequence hcontrol (List.prefix_append sequence rest).isInfix
  | @keep c rest bare hfront hrest ih =>
    rw [List.cons.injEq, and_iff_right rfl, ih]
    refine forall₂_congr fun sequence hcontrol => ?_
    rw [List.infix_cons_iff, or_iff_right (hfront sequence hcontrol)]

end Bares

/-! ### The scanner -/

theorem isParameter_eq_false {c : Char} (h : c.isAlpha = true) : isParameter c = false := by
  have hdigit : c.isDigit = false := by
    unfold Char.isAlpha Char.isUpper Char.isLower at h
    simp only [Char.isDigit, ge_iff_le] at h ⊢
    grind
  have hmark : c ≠ ';' ∧ c ≠ '?' := by
    constructor <;> rintro rfl <;> revert h <;> decide
  simp [isParameter, hdigit, hmark]

theorem controlLength?_append (h : IsControl sequence) (rest : Text) :
    controlLength? (sequence ++ rest) = some sequence.length := by
  obtain ⟨hparameters, hletter⟩ := h
  rename_i parameters letter
  have hbehind : (parameters ++ letter :: rest).dropWhile isParameter = letter :: rest := by
    rw [List.dropWhile_append_of_pos hparameters,
      List.dropWhile_cons_of_neg (by simp [isParameter_eq_false hletter])]
  have hfront : (parameters ++ letter :: rest).takeWhile isParameter = parameters := by
    rw [List.takeWhile_append_of_pos hparameters,
      List.takeWhile_cons_of_neg (by simp [isParameter_eq_false hletter]), List.append_nil]
  simp only [List.cons_append, List.append_assoc, List.nil_append, controlLength?, hbehind, hfront,
    hletter, if_true, List.length_cons, List.length_append, List.length_nil]

theorem exists_of_controlLength? {length : Nat} (h : controlLength? text = some length) :
    ∃ sequence, IsControl sequence ∧ sequence <+: text := by
  unfold controlLength? at h
  split at h
  · rename_i rest
    split at h
    · rename_i letter behind hbehind
      split at h
      · rename_i hletter
        have hrest := List.takeWhile_append_dropWhile (p := isParameter) (l := rest)
        rw [hbehind] at hrest
        have hcontrol : IsControl ('\x1b' :: '[' :: (rest.takeWhile isParameter ++ [letter])) :=
          .mk (List.all_eq_true.mp List.all_takeWhile) hletter
        exact ⟨_, hcontrol, behind, by simpa using hrest⟩
      · cases h
    · cases h
  · cases h

theorem withoutControlsFrom_eq_drop (left : Nat) (text : Text) :
    withoutControlsFrom left text = withoutControls (text.drop left) := by
  induction text generalizing left with
  | nil => cases left <;> rfl
  | cons c rest ih =>
    cases left with
    | zero => rfl
    | succ left => exact ih left

theorem withoutControls_control_append (h : IsControl sequence) (rest : Text) :
    withoutControls (sequence ++ rest) = withoutControls rest := by
  have hlength := controlLength?_append h rest
  obtain ⟨first, behind, rfl⟩ := List.exists_cons_of_ne_nil h.ne_nil
  rw [List.cons_append] at hlength
  rw [withoutControls, List.cons_append, withoutControlsFrom]
  simp only [hlength, withoutControlsFrom_eq_drop, List.length_cons, Nat.add_sub_cancel]
  rw [List.drop_left]

theorem withoutControls_cons {c : Char} {rest : Text}
    (h : ∀ sequence, IsControl sequence → ¬ sequence <+: c :: rest) :
    withoutControls (c :: rest) = c :: withoutControls rest := by
  cases hlength : controlLength? (c :: rest) with
  | none =>
    rw [withoutControls, withoutControlsFrom]
    simp only [hlength]
    rfl
  | some length =>
    obtain ⟨sequence, hcontrol, hbegins⟩ := exists_of_controlLength? hlength
    exact absurd hbegins (h sequence hcontrol)

theorem bares_withoutControls (text : Text) : Bares text text.withoutControls := by
  induction hlength : text.length using Nat.strongRecOn generalizing text with
  | _ length ih =>
    subst hlength
    by_cases hfront : ∃ sequence, IsControl sequence ∧ sequence <+: text
    · obtain ⟨sequence, hcontrol, rest, rfl⟩ := hfront
      rw [withoutControls_control_append hcontrol]
      refine .control hcontrol (ih _ ?_ rest rfl)
      have := List.length_pos_of_ne_nil hcontrol.ne_nil
      rw [List.length_append]
      omega
    · have hfront : ∀ sequence, IsControl sequence → ¬ sequence <+: text :=
        fun sequence hcontrol hbegins => hfront ⟨sequence, hcontrol, hbegins⟩
      cases text with
      | nil => exact .nil
      | cons c rest =>
        rw [withoutControls_cons hfront]
        exact .keep hfront (ih _ (Nat.lt_succ_self _) rest rfl)

theorem bares_iff : Bares text bare ↔ text.withoutControls = bare := by
  constructor
  · intro h
    induction h with
    | nil => rfl
    | control hcontrol _ ih => rw [withoutControls_control_append hcontrol, ih]
    | keep hfront _ ih => rw [withoutControls_cons hfront, ih]
  · rintro rfl
    exact bares_withoutControls text

/-- What stands before the first escape character is kept. -/
theorem withoutControls_append {front : Text} (h : '\x1b' ∉ front) (rest : Text) :
    withoutControls (front ++ rest) = front ++ withoutControls rest := by
  induction front with
  | nil => rfl
  | cons c front ih =>
    rw [List.mem_cons, not_or] at h
    have hfront : ∀ sequence, IsControl sequence → ¬ sequence <+: c :: (front ++ rest) := by
      rintro _ ⟨-, -⟩ hbegins
      exact h.1 (List.cons_prefix_cons.mp hbegins).1
    rw [List.cons_append, withoutControls_cons hfront, ih h.2, List.cons_append]

end SessionReplay.Text
