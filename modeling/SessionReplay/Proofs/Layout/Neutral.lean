import SessionReplay.Proofs.Layout.Nesting

/-!
# Lines that do not count

A comment says nothing about the depth, whatever brackets it ends with, and an empty line says
nothing at all. Put in between other lines, they leave these where they are. There is one exception:
the line behind a header without a brace stands deeper, and a comment behind the header is that line.
-/

namespace SessionReplay.Program

namespace Lines

/-! ### The line before -/

/-- The last line that is not empty is a header whose body stands on the next line. -/
def followsHeader (before : Lines) : Bool :=
  (before.filter fun line => !line.isEmpty).getLast?.any isBareHeader

/-- The rendered lines, the first of them that is not empty one step deeper. -/
def indentNext : List Text → List Text
  | [] => []
  | line :: rest =>
    if line = [] then [] :: indentNext rest else (List.replicate indentWidth ' ' ++ line) :: rest

theorem leave_cons (before : Depth) {line : Text} (h : line ≠ []) (rest : Lines) :
    leave before (line :: rest) = leave (before.after line) rest :=
  congrArg (leave · rest) (if_neg h)

theorem previous_leave (before : Depth) (lines : Lines) :
    (leave before lines).previous =
      (lines.filter fun line => !line.isEmpty).getLast?.getD before.previous := by
  induction lines generalizing before with
  | nil => rfl
  | cons line rest ih =>
    cases line with
    | nil => exact ih before
    | cons c others =>
      rw [leave_cons before (List.cons_ne_nil c others), ih, List.filter_cons_of_pos rfl,
        List.getLast?_cons, Option.getD_some]
      rfl

theorem followsHeader_eq (before : Lines) :
    followsHeader before = isBareHeader (leave {} before).previous := by
  rw [previous_leave, followsHeader]
  cases (before.filter fun line => !line.isEmpty).getLast? with
  | none => rfl
  | some line => rfl

/-- The line before counts only if it is a header, and then for one step. -/
theorem spaces_previous (depth : Nat) (previous : Text) {other : Text}
    (h : isBareHeader other = false) (line : Text) :
    Depth.spaces ⟨depth, previous⟩ line =
      (if isBareHeader previous then indentWidth else 0) + Depth.spaces ⟨depth, other⟩ line := by
  have hline : Depth.ofLine ⟨depth, previous⟩ line = Depth.ofLine ⟨depth, other⟩ line := rfl
  rw [Depth.spaces, Depth.spaces, h, hline, if_neg Bool.false_ne_true, Nat.add_zero, Nat.add_comm]

/-- Behind a header the next line that is not empty stands one step deeper, and no other line does. -/
theorem renderFrom_previous (offset depth : Nat) (previous : Text) {other : Text}
    (h : isBareHeader other = false) (rest : Lines) :
    renderFrom offset ⟨depth, previous⟩ rest =
      if isBareHeader previous then indentNext (renderFrom offset ⟨depth, other⟩ rest)
      else renderFrom offset ⟨depth, other⟩ rest := by
  induction rest with
  | nil =>
    split
    · rfl
    · rfl
  | cons line rest ih =>
    cases line with
    | nil =>
      simp only [renderFrom, if_pos, ih]
      split
      · rfl
      · rfl
    | cons c others =>
      have hne := List.cons_ne_nil c others
      -- what the line leaves behind does not depend on the line before it
      have hafter : Depth.after ⟨depth, previous⟩ (c :: others) =
          Depth.after ⟨depth, other⟩ (c :: others) := rfl
      rw [renderFrom, if_neg hne, renderFrom, if_neg hne, hafter,
        spaces_previous depth previous h]
      split
      · rw [indentNext, if_neg (List.append_ne_nil_of_right_ne_nil _ hne), ← List.append_assoc,
          List.replicate_append_replicate, Nat.add_left_comm]
      · rw [Nat.zero_add]

/-! ### A line put in between -/

/-- A comment stands where the next line would stand, and leaves the depth as it is. -/
theorem renderFrom_comment (offset : Nat) (before : Depth) {line : Text}
    (h : isComment line = true) (rest : Lines) :
    renderFrom offset before (line :: rest) =
      (List.replicate (offset + (indentWidth * before.depth +
        if isBareHeader before.previous then indentWidth else 0)) ' ' ++ line) ::
        renderFrom offset ⟨before.depth, line⟩ rest := by
  rw [renderFrom, if_neg (ne_nil_of_isComment h), before.after_comment h, Depth.spaces,
    before.ofLine_comment h]

def renderedBehind (offset : Nat) (before : Lines) (line : Text) : Text :=
  if line = [] then []
  else
    List.replicate (offset + (indentWidth * (leave {} before).depth +
      if followsHeader before then indentWidth else 0)) ' ' ++ line

/-- A comment or an empty line that is put in between leaves all other lines as they are rendered, but
for one case: a comment behind a header without a brace takes the step that the next line that is not
empty stands deeper. -/
theorem renderFrom_insert (offset : Nat) (first rest : Lines) {line : Text}
    (h : line = [] ∨ isComment line = true) :
    ∃ below,
      renderFrom offset {} (first ++ line :: rest) =
        renderFrom offset {} first ++ renderedBehind offset first line :: below ∧
      renderFrom offset {} (first ++ rest) = renderFrom offset {} first ++
        if line ≠ [] ∧ followsHeader first = true then indentNext below else below := by
  rw [renderFrom_append, renderFrom_append]
  rcases h with rfl | hcomment
  · refine ⟨renderFrom offset (leave {} first) rest, ?_, ?_⟩
    · rw [renderFrom, if_pos rfl, renderedBehind, if_pos rfl]
    · simp
  · have hne := ne_nil_of_isComment hcomment
    refine ⟨renderFrom offset ⟨(leave {} first).depth, line⟩ rest, ?_, ?_⟩
    · rw [renderFrom_comment offset _ hcomment, renderedBehind, if_neg hne, followsHeader_eq]
    · have hbefore := renderFrom_previous offset (leave {} first).depth (leave {} first).previous
        (steady_comment hcomment).header rest
      rw [hbefore, followsHeader_eq]
      simp only [hne, ne_eq, not_false_eq_true, true_and]

/-- A header whose body is to stand behind an empty line. -/
def conditional : Lines := ["\x7b", "if (x)", ""]

def conditionalBody : Lines := ["foo();", "\x7d"]

/-- A comment between a header and its body stands deeper, and the body does not. -/
theorem renderFrom_insert_conditional :
    isComment "// \x7b" = true ∧ followsHeader conditional = true ∧
      (∃ below,
        renderFrom 4 {} (conditional ++ "// \x7b".toList :: conditionalBody) =
          renderFrom 4 {} conditional ++ renderedBehind 4 conditional "// \x7b" :: below ∧
        renderFrom 4 {} (conditional ++ conditionalBody) = renderFrom 4 {} conditional ++
          if "// \x7b".toList ≠ [] ∧ followsHeader conditional = true then indentNext below
          else below) ∧
      render 4 (conditional ++ conditionalBody) =
        "    \x7b\n        if (x)\n\n            foo();\n    \x7d".toList ∧
      render 4 (conditional ++ "// \x7b".toList :: conditionalBody) =
        "    \x7b\n        if (x)\n\n            // \x7b\n        foo();\n    \x7d".toList :=
  ⟨rfl, rfl, renderFrom_insert 4 conditional conditionalBody (.inr rfl), by decide, by decide⟩

end Lines
end SessionReplay.Program
