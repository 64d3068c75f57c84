import Mathlib.Data.List.ReduceOption
import SessionReplay.Proofs.Layout.Edit
import SessionReplay.Proofs.Layout.Setting

/-!
# Properly nested code

Lines are properly nested if they are those of a forest: a block has a line that opens it and one that
closes it, and every other line does neither. Of such lines the guess from the brackets at their ends
is right: each of them stands at the margin of the blocks around it, with empty lines put in anywhere.
-/

namespace SessionReplay.Program

open Text (trim unlines)

/-! ### The lines of a forest -/

def openingEnds : List (Option Char) := [some '{', some '[', some '(']

/-- How a line begins that closes a block, unless it only ends a call. -/
def closingStarts : List (Option Char) := [some '}', some ']']

/-- A line as a buffer holds it, and not empty. -/
structure IsLine (line : Text) : Prop where
  ne_nil : line ≠ []
  feed : '\n' ∉ line
  trimmed : trim line = line

/-- Code that neither opens nor closes a block, and after which nothing is guessed. -/
structure IsStatement (line : Text) : Prop where
  first : line.head? ∉ closingStarts
  ne_call : line ≠ (");" : Text)
  call : ¬ ("\x7d);" : Text) <:+: line
  last : line.getLast? ∉ openingEnds
  calls : ¬ ("));" : Text) <:+ line
  header : isBareHeader line = false

/-- A line within blocks: a comment, whatever it says, or a statement. -/
structure IsLeaf (line : Text) : Prop extends IsLine line where
  kind : isComment line = true ∨ IsStatement line

structure IsOpener (line : Text) : Prop extends IsLine line where
  first : line.head? ∉ closingStarts
  call : ¬ ("\x7d);" : Text) <:+: line
  comment : isComment line = false
  last : line.getLast? ∈ openingEnds

structure IsCloser (line : Text) : Prop extends IsLine line where
  first : line.head? ∈ closingStarts ∨ line = (");" : Text)
  last : line.getLast? ∉ openingEnds
  calls : ¬ ("));" : Text) <:+ line

theorem contains_eq_false_iff (part text : Text) :
    Text.contains part text = false ↔ ¬ part <:+: text := by
  rw [← Text.contains_iff, Bool.not_eq_true]

section Decidable

variable (line : Text)

instance : Decidable (IsLine line) :=
  decidable_of_iff (line ≠ [] ∧ '\n' ∉ line ∧ trim line = line)
    ⟨fun h => ⟨h.1, h.2.1, h.2.2⟩, fun h => ⟨h.ne_nil, h.feed, h.trimmed⟩⟩

instance : Decidable (IsStatement line) :=
  decidable_of_iff (line.head? ∉ closingStarts ∧ line ≠ (");" : Text) ∧
      Text.contains "\x7d);" line = false ∧ line.getLast? ∉ openingEnds ∧
      ¬ ("));" : Text) <:+ line ∧ isBareHeader line = false)
    ⟨fun h => ⟨h.1, h.2.1, (contains_eq_false_iff _ _).mp h.2.2.1, h.2.2.2.1, h.2.2.2.2.1,
        h.2.2.2.2.2⟩,
      fun h => ⟨h.first, h.ne_call, (contains_eq_false_iff _ _).mpr h.call, h.last, h.calls,
        h.header⟩⟩

instance : Decidable (IsLeaf line) :=
  decidable_of_iff (IsLine line ∧ (isComment line = true ∨ IsStatement line))
    ⟨fun h => ⟨h.1, h.2⟩, fun h => ⟨h.toIsLine, h.kind⟩⟩

instance : Decidable (IsOpener line) :=
  decidable_of_iff (IsLine line ∧ line.head? ∉ closingStarts ∧
      Text.contains "\x7d);" line = false ∧ isComment line = false ∧
      line.getLast? ∈ openingEnds)
    ⟨fun h => ⟨h.1, h.2.1, (contains_eq_false_iff _ _).mp h.2.2.1, h.2.2.2.1, h.2.2.2.2⟩,
      fun h => ⟨h.toIsLine, h.first, (contains_eq_false_iff _ _).mpr h.call, h.comment, h.last⟩⟩

instance : Decidable (IsCloser line) :=
  decidable_of_iff (IsLine line ∧ (line.head? ∈ closingStarts ∨ line = (");" : Text)) ∧
      line.getLast? ∉ openingEnds ∧ ¬ ("));" : Text) <:+ line)
    ⟨fun h => ⟨h.1, h.2.1, h.2.2.1, h.2.2.2⟩,
      fun h => ⟨h.toIsLine, h.first, h.last, h.calls⟩⟩

end Decidable

/-- A line, or a block with what stands in it. -/
inductive Tree where
  | leaf (line : Text) (isLeaf : IsLeaf line)
  | block (opener : Text) (inside : List Tree) (closer : Text) (opens : IsOpener opener)
      (closes : IsCloser closer)

mutual

/-- The lines of a tree, each with the number of blocks around it; those that open and close a block
stand outside of it. -/
def Tree.lines (around : Nat) : Tree → List (Nat × Text)
  | .leaf line _ => [(around, line)]
  | .block opener inside closer _ _ =>
    (around, opener) :: forestLines (around + 1) inside ++ [(around, closer)]
termination_by structural tree => tree

def forestLines (around : Nat) : List Tree → List (Nat × Text)
  | [] => []
  | tree :: rest => tree.lines around ++ forestLines around rest
termination_by structural trees => trees

end

/-! ### What a line does -/

namespace Depth

/-- Behind `opened` blocks a line stands in `around` of them and leaves `behind`. -/
def Places (opened around behind : Nat) (line : Text) : Prop :=
  ∀ before : Depth, before.Exact opened →
    before.ofLine line = around ∧ (before.after line).Exact behind

end Depth

theorem closesBlock_eq_false {line : Text} (first : line.head? ∉ closingStarts)
    (hcall : line ≠ (");" : Text)) (hend : ¬ ("\x7d);" : Text) <:+: line) :
    closesBlock line = false := by
  have hhead : ∀ start ∈ closingStarts, (line.head? == start) = false := by
    intro start hstart
    rw [beq_eq_false_iff_ne]
    exact fun he => first (he ▸ hstart)
  rw [closesBlock, hhead (some '}') (by decide), hhead (some ']') (by decide),
    beq_eq_false_iff_ne.mpr hcall, (contains_eq_false_iff _ _).mpr hend]
  rfl

theorem opensBlock_iff {line : Text} : opensBlock line = true ↔ line.getLast? ∈ openingEnds := by
  unfold opensBlock
  cases line.getLast? with
  | none => simp [openingEnds]
  | some c => simp [openingEnds, or_assoc]

theorem endsCalls_eq_false {line : Text} (h : ¬ ("));" : Text) <:+ line) : endsCalls line = false := by
  rw [Bool.eq_false_iff]
  exact fun hcalls => h (List.isSuffixOf_iff_suffix.mp hcalls)

theorem calm_of_last {line : Text} (last : line.getLast? ∉ openingEnds)
    (calls : ¬ ("));" : Text) <:+ line) : Calm line :=
  ⟨(Bool.not_eq_true _).mp fun h => last (opensBlock_iff.mp h), endsCalls_eq_false calls⟩

theorem IsLeaf.places {line : Text} (h : IsLeaf line) (opened : Nat) :
    Depth.Places opened opened opened line := by
  intro before hbefore
  cases hcomment : isComment line with
  | true =>
    rw [before.ofLine_comment hcomment, before.after_comment hcomment]
    exact ⟨hbefore.depth, hbefore.depth, (steady_comment hcomment).header⟩
  | false =>
    have hstatement : IsStatement line :=
      h.kind.resolve_left (ne_true_of_eq_false hcomment)
    have hcloses := closesBlock_eq_false hstatement.first hstatement.ne_call hstatement.call
    have hline : before.ofLine line = opened := by
      rw [Depth.ofLine_of_not_closes before hcloses, hbefore.depth]
    have hcalm := calm_of_last hstatement.last hstatement.calls
    refine ⟨hline, ?_, hstatement.header⟩
    rw [Depth.after_depth_of_calm before hcalm hcomment, hline]

theorem IsOpener.places {line : Text} (h : IsOpener line) (opened : Nat) :
    Depth.Places opened opened (opened + 1) line := by
  intro before hbefore
  have hends : ∀ c, some c ∉ openingEnds → line.getLast? ≠ some c := by
    intro c hc he
    exact hc (he ▸ h.last)
  have hopens : opensBlock line = true := opensBlock_iff.mpr h.last
  have hcall : line ≠ (");" : Text) := by
    rintro rfl
    exact hends ';' (by decide) rfl
  have hcalls : endsCalls line = false := by
    refine endsCalls_eq_false ?_
    rintro ⟨front, rfl⟩
    exact hends ';' (by decide) List.getLast?_append
  have hline : before.ofLine line = opened := by
    rw [Depth.ofLine_of_not_closes before (closesBlock_eq_false h.first hcall h.call), hbefore.depth]
  refine ⟨hline, ?_, not_isBareHeader_of_getLast? (hends ')' (by decide))⟩
  simp [Depth.after, h.comment, hopens, hcalls, hline]

theorem IsCloser.places {line : Text} (h : IsCloser line) (opened : Nat) :
    Depth.Places (opened + 1) opened opened line := by
  intro before hbefore
  have hhead : line.head? ∈ [some '}', some ']', some ')'] := by
    rcases h.first with hfirst | rfl
    · exact List.mem_append_left [some ')'] hfirst
    · decide
  have hcloses : closesBlock line = true := by
    rcases h.first with hfirst | rfl
    · have hfirst' : line.head? = some '}' ∨ line.head? = some ']' := by
        simpa [closingStarts] using hfirst
      rcases hfirst' with he | he <;> simp [closesBlock, he]
    · rfl
  -- a comment would not end the block, whatever it ends with
  have hcomment : isComment line = false := by
    rw [Bool.eq_false_iff]
    intro hcomment
    obtain ⟨rest, rfl⟩ := List.isPrefixOf_iff_prefix.mp hcomment
    exact absurd hhead (by simp)
  have hline : before.ofLine line = opened := by
    simp [Depth.ofLine, hcomment, hcloses, hbefore.depth]
  have hcalm := calm_of_last h.last h.calls
  refine ⟨hline, ?_, ?_⟩
  · rw [Depth.after_depth_of_calm before hcalm hcomment, hline]
  · simp only [List.mem_cons, List.not_mem_nil, or_false] at hhead
    rcases hhead with he | he | he
    all_goals exact not_isBareHeader_of_head? he (by decide)

/-! ### A run of lines -/

/-- Lines that stand in the blocks that they are said to stand in, behind blocks that are open. -/
inductive Nested : Nat → List (Nat × Text) → Nat → Prop
  | nil {opened : Nat} : Nested opened [] opened
  | cons {opened around middle behind : Nat} {line : Text} {rest : List (Nat × Text)} :
      IsLine line → Depth.Places opened around middle line → Nested middle rest behind →
      Nested opened ((around, line) :: rest) behind

namespace Nested

variable {opened middle behind : Nat} {first second : List (Nat × Text)}

theorem append (hf : Nested opened first middle) (hs : Nested middle second behind) :
    Nested opened (first ++ second) behind := by
  induction hf with
  | nil => exact hs
  | cons hline hplaces _ ih => exact .cons hline hplaces (ih hs)

theorem isLine (h : Nested opened first behind) : ∀ line ∈ first, IsLine line.2 := by
  induction h with
  | nil => exact List.forall_mem_nil _
  | cons hline _ _ ih => exact List.forall_mem_cons.mpr ⟨hline, ih⟩

end Nested

mutual

/-- The lines of a tree leave open what was open before it. -/
theorem nested_lines (around : Nat) : (tree : Tree) → Nested around (tree.lines around) around
  | .leaf _ isLeaf => .cons isLeaf.toIsLine (isLeaf.places around) .nil
  | .block _ inside _ opens closes =>
    .cons opens.toIsLine (opens.places around)
      ((nested_forestLines (around + 1) inside).append
        (.cons closes.toIsLine (closes.places around) .nil))
termination_by structural tree => tree

theorem nested_forestLines (around : Nat) : (trees : List Tree) →
    Nested around (forestLines around trees) around
  | [] => .nil
  | tree :: rest => (nested_lines around tree).append (nested_forestLines around rest)
termination_by structural trees => trees

end

/-! ### Rendering a forest -/

/-- What a line of a page is before its layout; there are empty lines among them. -/
def gathered : Option (Nat × Text) → Text
  | none => []
  | some (_, line) => line

/-- A line at the margin of the blocks around it; an empty line has no margin. -/
def placed (offset : Nat) : Option (Nat × Text) → Text
  | none => []
  | some (around, line) => List.replicate (offset + indentWidth * around) ' ' ++ line

def Edit.ofLine : Option (Nat × Text) → Edit
  | none => .newLine
  | some (_, line) => .add line

namespace Lines

theorem foldl_edit_ofLine (page : List (Option (Nat × Text)))
    (h : ∀ line ∈ page.reduceOption, IsLine line.2) (buffer : Lines) :
    (page.map Edit.ofLine).foldl edit buffer = buffer ++ page.map gathered := by
  induction page generalizing buffer with
  | nil => exact (List.append_nil buffer).symm
  | cons line rest ih =>
    cases line with
    | none =>
      rw [List.reduceOption_cons_of_none] at h
      rw [List.map_cons, List.foldl_cons, ih h, Edit.ofLine, edit, newLine, List.append_assoc]
      rfl
    | some line =>
      rw [List.reduceOption_cons_of_some, List.forall_mem_cons] at h
      obtain ⟨hline, hrest⟩ := h
      have hadd : ofText line.2 = [line.2] := by
        rw [ofText_of_not_mem hline.feed, hline.trimmed]
      rw [List.map_cons, List.foldl_cons, ih hrest, Edit.ofLine, edit, add, hadd, List.append_assoc]
      rfl

/-- Nested lines are rendered at the margins of the blocks around them, and the empty lines among them
change nothing. -/
theorem renderFrom_nested (offset : Nat) {opened behind : Nat} {page : List (Option (Nat × Text))}
    (h : Nested opened page.reduceOption behind) {before : Depth} (hbefore : before.Exact opened) :
    renderFrom offset before (page.map gathered) = page.map (placed offset) := by
  induction page generalizing opened before with
  | nil => rfl
  | cons line rest ih =>
    cases line with
    | none =>
      rw [List.reduceOption_cons_of_none] at h
      rw [List.map_cons, gathered, renderFrom, if_pos rfl, ih h hbefore]
      rfl
    | some line =>
      obtain ⟨around, line⟩ := line
      rw [List.reduceOption_cons_of_some] at h
      cases h with
      | cons hline hplaces hrest =>
        obtain ⟨hstands, hafter⟩ := hplaces before hbefore
        rw [List.map_cons, gathered, renderFrom, if_neg hline.ne_nil, ih hrest hafter,
          Depth.spaces_eq hbefore.previous, hstands]
        rfl

/-- The lines of a forest, added in order and with empty lines anywhere among them, are each rendered
at the margin of the blocks around it, and the empty lines stay empty. -/
theorem render_forest (forest : List Tree) (offset : Nat) {page : List (Option (Nat × Text))}
    (h : page.reduceOption = forestLines 0 forest) :
    render offset (ofEdits (page.map Edit.ofLine)) = unlines (page.map (placed offset)) := by
  have hnested : Nested 0 page.reduceOption 0 := h ▸ nested_forestLines 0 forest
  rw [ofEdits, foldl_edit_ofLine page hnested.isLine, List.nil_append, render,
    renderFrom_nested offset hnested ⟨rfl, by decide⟩]

/-- A method whose call spans lines, behind a comment that ends like a line that opens a block. -/
def callingForest : List Tree :=
  [.leaf "void Main()" (by decide),
    .block "\x7b"
      [.leaf "// \x7d); or (" (by decide),
        .block "Run(" [.leaf "\"if (x)\", 1" (by decide)] ");" (by decide) (by decide)]
      "\x7d" (by decide) (by decide)]

/-- The lines of the method with empty ones at both ends and in the middle. -/
def callingPage : List (Option (Nat × Text)) :=
  [none, some (0, "void Main()"), some (0, "\x7b"), some (1, "// \x7d); or ("), none,
    some (1, "Run("), some (2, "\"if (x)\", 1"), some (1, ");"), some (0, "\x7d"), none]

theorem render_forest_calling :
    callingPage.reduceOption = forestLines 0 callingForest ∧
      render 8 (ofEdits (callingPage.map Edit.ofLine)) = unlines (callingPage.map (placed 8)) ∧
      (callingPage.map (placed 8)).map margin = [0, 8, 8, 12, 0, 12, 16, 12, 8, 0] :=
  ⟨rfl, render_forest callingForest 8 rfl, by decide⟩

end Lines

end SessionReplay.Program
