import Mathlib.Tactic.SplitIfs
import SessionReplay.Proofs.Program.Layout

/-!
# Depth and open blocks

How deep a line stands is guessed from the brackets at its ends, and those may belong to recorded
text. `Lines.blocksBehind` counts the blocks of the program itself: a brace on a line of its own opens
one, and a line that begins with a closing brace closes one. Of steady lines the guess is never more
than that count, so where all blocks are closed a line stands at the margin.
-/

namespace SessionReplay.Program

def openingBrace : Text := "\x7b"

namespace Lines

/-- The blocks that are open behind a line. None can be closed where none is open. -/
def blocksAfter (opened : Nat) (line : Text) : Option Nat :=
  if line = openingBrace then some (opened + 1)
  else if line.head? = some '\x7d' then
    match opened with
    | 0 => none
    | outer + 1 => some outer
  else some opened

def blocksBehind (opened : Nat) (lines : Lines) : Option Nat := lines.foldlM blocksAfter opened

theorem blocksBehind_cons (opened : Nat) (line : Text) (rest : Lines) :
    blocksBehind opened (line :: rest) =
      (blocksAfter opened line).bind fun behind => blocksBehind behind rest :=
  List.foldlM_cons

theorem blocksBehind_append (opened : Nat) (first second : Lines) :
    blocksBehind opened (first ++ second) =
      (blocksBehind opened first).bind fun behind => blocksBehind behind second :=
  List.foldlM_append

end Lines

/-! ### Steady lines -/

/-- A line after which the next one is guessed no deeper, unless it opens a block. -/
structure Steady (line : Text) : Prop where
  opens : opensBlock line = true → line = openingBrace ∨ isComment line = true
  header : isBareHeader line = false

theorem steady_openingBrace : Steady openingBrace := ⟨fun _ => .inl rfl, by decide⟩

def headerWords : List Text := ["for", "while", "if"]

/-- A header is a word, blanks, and something in round brackets. -/
theorem exists_of_isBareHeader {line : Text} (h : isBareHeader line = true) :
    ∃ word ∈ headerWords, ∃ blanks inside : Text, line = word ++ blanks ++ '(' :: inside ∧
      (∀ c ∈ blanks, Text.isBlank c = true) ∧ inside.getLast? = some ')' := by
  obtain ⟨rest, hrest, hcondition⟩ := List.any_eq_true.mp h
  obtain ⟨word, hword, hfront⟩ := List.mem_filterMap.mp hrest
  have hline : line = word ++ rest := by
    unfold Text.dropFront? at hfront
    split at hfront
    next hprefix =>
      obtain ⟨tail, rfl⟩ := List.isPrefixOf_iff_prefix.mp hprefix
      rw [List.drop_left] at hfront
      rw [Option.some.inj hfront]
    next => exact absurd hfront (by simp)
  unfold isCondition at hcondition
  split at hcondition
  next inside hinside =>
    refine ⟨word, hword, rest.takeWhile Text.isBlank, inside, ?_, fun c => Text.of_mem_takeWhile,
      beq_iff_eq.mp hcondition⟩
    rw [hline, List.append_assoc, ← hinside, List.takeWhile_append_dropWhile]
  next => exact absurd hcondition Bool.false_ne_true

theorem not_isBareHeader_of_getLast? {line : Text} (h : line.getLast? ≠ some ')') :
    isBareHeader line = false := by
  rw [Bool.eq_false_iff]
  intro hheader
  obtain ⟨word, -, blanks, inside, rfl, -, hlast⟩ := exists_of_isBareHeader hheader
  rw [List.getLast?_append, List.getLast?_cons, hlast] at h
  exact h rfl

theorem not_isBareHeader_of_head? {line : Text} {c : Char} (h : line.head? = some c)
    (hc : c ∉ ("fwi" : Text)) : isBareHeader line = false := by
  have hwords : ∀ word ∈ headerWords, ∃ d, word.head? = some d ∧ d ∈ ("fwi" : Text) := by
    simp only [headerWords, List.forall_mem_cons, List.not_mem_nil, false_implies, implies_true]
    exact ⟨⟨_, rfl, by decide⟩, ⟨_, rfl, by decide⟩, ⟨_, rfl, by decide⟩, trivial⟩
  rw [Bool.eq_false_iff]
  intro hheader
  obtain ⟨word, hword, blanks, inside, rfl, -, -⟩ := exists_of_isBareHeader hheader
  obtain ⟨d, hhead, hd⟩ := hwords word hword
  rw [List.append_assoc, List.head?_append, hhead] at h
  exact hc (Option.some.inj h ▸ hd)

theorem opensBlock_eq_false {line : Text} {c : Char} (h : line.getLast? = some c)
    (hc : c ∉ ("\x7b[(" : Text)) : opensBlock line = false := by
  unfold opensBlock
  rw [h]
  simpa [not_or, and_assoc] using hc

theorem steady_comment {line : Text} (h : isComment line = true) : Steady line where
  opens _ := .inr h
  header := by
    obtain ⟨rest, rfl⟩ := List.isPrefixOf_iff_prefix.mp h
    exact not_isBareHeader_of_head? rfl (by decide)

theorem ne_nil_of_isComment {line : Text} (h : isComment line = true) : line ≠ [] := by
  rintro rfl
  exact Bool.noConfusion h

/-! ### Runs of lines -/

namespace Lines

/-- Steady lines, none of them empty, that lead from some open blocks to others. -/
structure Leads (opened : Nat) (lines : Lines) (closed : Nat) : Prop where
  ne_nil : ∀ line ∈ lines, line ≠ []
  steady : ∀ line ∈ lines, Steady line
  blocks : blocksBehind opened lines = some closed

namespace Leads

variable {opened middle closed : Nat} {lines others : Lines} {line : Text}

theorem nil : Leads opened [] opened := ⟨by simp, by simp, rfl⟩

theorem append (h : Leads opened lines middle) (ho : Leads middle others closed) :
    Leads opened (lines ++ others) closed where
  ne_nil := List.forall_mem_append.mpr ⟨h.ne_nil, ho.ne_nil⟩
  steady := List.forall_mem_append.mpr ⟨h.steady, ho.steady⟩
  blocks := by
    rw [blocksBehind_append, h.blocks]
    exact ho.blocks

theorem openingBrace : Leads opened [openingBrace] (opened + 1) :=
  ⟨by decide, by simpa using steady_openingBrace, rfl⟩

theorem closing {back : Text} (hs : Steady ('\x7d' :: back))
    (hne : '\x7d' :: back ≠ Program.openingBrace) :
    Leads (opened + 1) ['\x7d' :: back] opened where
  ne_nil := by simp
  steady := by simpa using hs
  blocks := by
    rw [blocksBehind_cons]
    unfold blocksAfter
    rw [if_neg hne]
    rfl

theorem single (hne : line ≠ []) (hs : Steady line) (hbrace : line ≠ Program.openingBrace)
    (hhead : line.head? ≠ some '\x7d') : Leads opened [line] opened where
  ne_nil := by simpa using hne
  steady := by simpa using hs
  blocks := by
    rw [blocksBehind_cons]
    unfold blocksAfter
    rw [if_neg hbrace, if_neg hhead]
    rfl

end Leads
end Lines

/-! ### The depth of steady lines -/

namespace Depth

variable {before : Depth} {line : Text} {opened behind : Nat}

/-- A depth that is at most the number of open blocks, with no header before it. -/
structure Within (opened : Nat) (before : Depth) : Prop where
  depth : before.depth ≤ opened
  previous : isBareHeader before.previous = false

theorem spaces_eq (h : isBareHeader before.previous = false) (line : Text) :
    before.spaces line = indentWidth * before.ofLine line := by
  rw [spaces, h, if_neg Bool.false_ne_true, Nat.add_zero]

theorem ofLine_le (before : Depth) (line : Text) : before.ofLine line ≤ before.depth := by
  unfold ofLine
  split
  · exact Nat.sub_le _ _
  · exact Nat.le_refl _

theorem ofLine_closing (before : Depth) (back : Text) :
    before.ofLine ('\x7d' :: back) = before.depth - 1 := rfl

theorem ofLine_comment (before : Depth) (h : isComment line = true) :
    before.ofLine line = before.depth := by
  simp [ofLine, h]

/-- A comment is remembered as the line before, and nothing else of it. -/
theorem after_comment (before : Depth) (h : isComment line = true) :
    before.after line = ⟨before.depth, line⟩ := by
  simp [after, h, before.ofLine_comment h]

theorem Within.ofLine_le (h : before.Within opened)
    (hblocks : Lines.blocksAfter opened line = some behind) :
    before.ofLine line ≤ if line = openingBrace then opened else behind := by
  have hdepth : before.ofLine line ≤ opened := Nat.le_trans (Depth.ofLine_le before line) h.depth
  unfold Lines.blocksAfter at hblocks
  split_ifs at hblocks ⊢ with hbrace hclosing
  · exact hdepth
  · obtain ⟨back, rfl⟩ := List.head?_eq_some_iff.mp hclosing
    cases opened with
    | zero => exact absurd hblocks (by simp)
    | succ outer =>
      rw [ofLine_closing, ← Option.some.inj hblocks]
      exact Nat.sub_le_of_le_add h.depth
  · rw [← Option.some.inj hblocks]
    exact hdepth

theorem after_le (before : Depth) (line : Text) :
    (before.after line).depth ≤
      before.ofLine line + if !isComment line && opensBlock line then 1 else 0 := by
  simp only [after]
  split_ifs <;> simp_all

theorem Within.after (h : before.Within opened) (hsteady : Steady line)
    (hblocks : Lines.blocksAfter opened line = some behind) : (before.after line).Within behind where
  depth := by
    have hline := h.ofLine_le hblocks
    have hafter := before.after_le line
    by_cases hbrace : line = openingBrace
    · unfold Lines.blocksAfter at hblocks
      rw [if_pos hbrace] at hblocks
      rw [if_pos hbrace] at hline
      have hbehind := Option.some.inj hblocks
      split at hafter <;> omega
    · rw [if_neg hbrace] at hline
      have hopens : (!isComment line && opensBlock line) = false := by
        rw [Bool.eq_false_iff]
        intro hboth
        obtain ⟨hcomment, hopens⟩ := (Bool.and_eq_true _ _).mp hboth
        rcases hsteady.opens hopens with h | h
        · exact hbrace h
        · rw [h] at hcomment
          exact Bool.noConfusion hcomment
      rw [hopens] at hafter
      exact Nat.le_trans hafter hline
  previous := hsteady.header

end Depth

namespace Lines

end Lines

end SessionReplay.Program
