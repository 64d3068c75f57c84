import SessionReplay.Proofs.Program.Layout
import SessionReplay.Proofs.Text.OuterLine

/-!
# Filling a buffer and rendering it again

A buffer is filled by steps that put the lines of a text at one of its ends, or an empty line behind
all others. `render_ofEdits` says which lines are in it then, and that rendering puts nothing but
spaces before them. What is rendered can be gathered and rendered again: the second run takes the
empty lines at the two ends away and changes nothing else.
-/

namespace SessionReplay.Program

open Text (Tight lines unlines stripWhere)

inductive Edit where
  | add (text : Text)
  | prepend (text : Text)
  | newLine

def Edit.front : Edit → Lines
  | .prepend text => Lines.ofText text
  | .add _ | .newLine => []

def Edit.back : Edit → Lines
  | .add text => Lines.ofText text
  | .newLine => [[]]
  | .prepend _ => []

namespace Lines

def edit (buffer : Lines) : Edit → Lines
  | .add text => add buffer text
  | .prepend text => prepend buffer text
  | .newLine => newLine buffer

/-- The buffer that steps fill, one after the other. -/
def ofEdits (edits : List Edit) : Lines := edits.foldl edit []

theorem trimmed_edit {buffer : Lines} (h : Trimmed buffer) (step : Edit) :
    Trimmed (edit buffer step) := by
  cases step with
  | add text => exact h.append (trimmed_ofText text)
  | prepend text => exact (trimmed_ofText text).append h
  | newLine => exact h.append (List.forall_mem_singleton.mpr (by decide))

theorem trimmed_foldl_edit (edits : List Edit) {buffer : Lines} (h : Trimmed buffer) :
    Trimmed (edits.foldl edit buffer) := by
  induction edits generalizing buffer with
  | nil => exact h
  | cons step rest ih => exact ih (trimmed_edit h step)

theorem trimmed_ofEdits (edits : List Edit) : Trimmed (ofEdits edits) :=
  trimmed_foldl_edit edits (List.forall_mem_nil _)

/-! ### The lines of a filled buffer -/

theorem edit_eq (buffer : Lines) (step : Edit) :
    edit buffer step = step.front ++ buffer ++ step.back := by
  cases step with
  | add text => rfl
  | prepend text => exact (List.append_nil _).symm
  | newLine => rfl

/-- The later a step, the farther out its lines stand at either end. -/
theorem foldl_edit (edits : List Edit) (buffer : Lines) :
    edits.foldl edit buffer =
      edits.reverse.flatMap Edit.front ++ buffer ++ edits.flatMap Edit.back := by
  induction edits generalizing buffer with
  | nil => exact (List.append_nil buffer).symm
  | cons step rest ih =>
    rw [List.foldl_cons, ih, edit_eq, List.reverse_cons, List.flatMap_append, List.flatMap_singleton,
      List.flatMap_cons]
    simp only [List.append_assoc]

theorem ofEdits_eq (edits : List Edit) :
    ofEdits edits = edits.reverse.flatMap Edit.front ++ edits.flatMap Edit.back := by
  rw [ofEdits, foldl_edit, List.append_nil]

/-- A line and what is rendered from it: an empty one stays empty, another one has `offset` spaces and
some steps of depth before it. -/
inductive RendersAs (offset : Nat) : Text → Text → Prop
  | blank : RendersAs offset [] []
  | line {line : Text} (steps : Nat) : line ≠ [] →
      RendersAs offset line (List.replicate (offset + 4 * steps) ' ' ++ line)

theorem exists_spaces_eq (before : Depth) (line : Text) : ∃ steps, before.spaces line = 4 * steps := by
  unfold Depth.spaces indentWidth
  split
  · exact ⟨before.ofLine line + 1, rfl⟩
  · exact ⟨before.ofLine line, rfl⟩

theorem forall₂_renderFrom (offset : Nat) (before : Depth) (buffer : Lines) :
    List.Forall₂ (RendersAs offset) buffer (renderFrom offset before buffer) := by
  induction buffer generalizing before with
  | nil => exact .nil
  | cons line rest ih =>
    rw [renderFrom]
    split
    next hnil =>
      rw [hnil]
      exact .cons .blank (ih before)
    next hne =>
      obtain ⟨steps, hsteps⟩ := exists_spaces_eq before line
      rw [hsteps]
      exact .cons (.line steps hne) (ih _)

/-- Gathering the lines of a text trims each and leaves out the empty ones at the two ends. -/
theorem ofText_spec (text : Text) : Tight (ofText text) ∧ ∃ n m,
    (lines text).map Text.trim = List.replicate n [] ++ ofText text ++ List.replicate m [] :=
  ⟨Text.tight_lines_trim text, Text.exists_map_trim_lines text⟩

/-- Nothing is lost, moved or made up. A filled buffer holds the lines put before all others, those of
the last step first, and behind them the lines put behind all others, in the order of the steps; the
lines put there by a text are its trimmed ones, without the empty ones at the two ends. The rendered
text has one line for each, with nothing but its indentation before it. -/
theorem render_ofEdits (edits : List Edit) (offset : Nat) :
    (∀ text, Tight (ofText text) ∧ ∃ n m,
      (lines text).map Text.trim = List.replicate n [] ++ ofText text ++ List.replicate m []) ∧
    ofEdits edits = edits.reverse.flatMap Edit.front ++ edits.flatMap Edit.back ∧
    ∃ rendered, render offset (ofEdits edits) = unlines rendered ∧
      List.Forall₂ (RendersAs offset) (ofEdits edits) rendered ∧ ∀ line ∈ rendered, '\n' ∉ line :=
  ⟨ofText_spec, ofEdits_eq edits, renderFrom offset {} (ofEdits edits), rfl,
    forall₂_renderFrom offset {} (ofEdits edits), feed_not_mem_renderFrom (trimmed_ofEdits edits)⟩

/-! ### Rendering between empty lines -/

theorem leave_replicate (before : Depth) (n : Nat) : leave before (List.replicate n []) = before := by
  induction n with
  | zero => rfl
  | succ n ih => exact ih

theorem renderFrom_replicate (offset : Nat) (before : Depth) (n : Nat) :
    renderFrom offset before (List.replicate n []) = List.replicate n [] := by
  induction n with
  | zero => rfl
  | succ n ih => exact congrArg ([] :: ·) ih

/-- Empty lines around others are rendered around them. -/
theorem renderFrom_surrounded (offset : Nat) (before : Depth) (n m : Nat) (buffer : Lines) :
    renderFrom offset before (List.replicate n [] ++ buffer ++ List.replicate m []) =
      List.replicate n [] ++ renderFrom offset before buffer ++ List.replicate m [] := by
  rw [renderFrom_append, renderFrom_append, renderFrom_replicate, renderFrom_replicate,
    leave_replicate]

theorem renderFrom_singleton_ne_nil (offset : Nat) (before : Depth) {line : Text} (h : line ≠ []) :
    renderFrom offset before [line] = [List.replicate (offset + before.spaces line) ' ' ++ line] :=
  if_neg h

theorem tight_renderFrom (offset : Nat) (before : Depth) {buffer : Lines} (h : Tight buffer) :
    Tight (renderFrom offset before buffer) := by
  cases h with
  | blank => exact .blank
  | ends hne hfirst hlast =>
    refine .ends ?_ ?_ ?_
    · intro hnil
      have hlength := length_renderFrom offset before buffer
      rw [hnil] at hlength
      exact hne (List.length_eq_zero_iff.mp hlength.symm)
    · obtain ⟨first, rest, rfl⟩ := List.exists_cons_of_ne_nil hne
      rw [renderFrom, if_neg (hfirst first rfl)]
      rintro piece ⟨⟩
      exact List.append_ne_nil_of_right_ne_nil _ (hfirst first rfl)
    · obtain ⟨front, last, rfl⟩ := List.eq_nil_or_concat' buffer |>.resolve_left hne
      have hl : last ≠ [] := hlast last (by simp)
      rw [renderFrom_append, renderFrom_singleton_ne_nil offset _ hl, List.getLast?_concat]
      rintro piece ⟨⟩
      exact List.append_ne_nil_of_right_ne_nil _ hl

theorem exists_surrounded_ofText_render (offset : Nat) {buffer : Lines} (hne : buffer ≠ [])
    (h : Trimmed buffer) : ∃ n m, buffer =
      List.replicate n [] ++ ofText (render offset buffer) ++ List.replicate m [] := by
  obtain ⟨n, m, hall⟩ := Text.exists_map_trim_lines (render offset buffer)
  rw [map_trim_lines_render offset hne h] at hall
  exact ⟨n, m, hall⟩

/-- What is rendered from a filled buffer is rendered the same once more, but for the line feeds at its
two ends. -/
theorem render_ofText_render (edits : List Edit) (offset : Nat) :
    render offset (add [] (render offset (ofEdits edits))) =
      stripWhere (· == '\n') (render offset (ofEdits edits)) := by
  by_cases hne : ofEdits edits = []
  · -- a text has a line always, so an empty buffer is not one that a text gives back
    rw [hne]
    rfl
  · obtain ⟨n, m, hbuffer⟩ :=
      exists_surrounded_ofText_render offset hne (trimmed_ofEdits edits)
    have htight : Tight (ofText (render offset (ofEdits edits))) := Text.tight_lines_trim _
    have htrimmed := trimmed_ofText (render offset (ofEdits edits))
    rw [add, List.nil_append]
    generalize ofText (render offset (ofEdits edits)) = core at hbuffer htight htrimmed ⊢
    rw [hbuffer, render, render, renderFrom_surrounded,
      Text.stripWhere_unlines_surrounded n m (tight_renderFrom offset {} htight)
        (feed_not_mem_renderFrom htrimmed)]

end Lines
end SessionReplay.Program
