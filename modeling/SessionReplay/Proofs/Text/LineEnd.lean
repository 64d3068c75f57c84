import Mathlib.Tactic.SplitIfs
import SessionReplay.Proofs.Text.Line
import SessionReplay.Text.Quoted

/-!
# Line ends in source code

Source code has five characters that end a line, of which the line feed is one. A text is cut into
the same lines by all five as by the line feed alone exactly if no other of them stands in it. In a
literal all but U+0085 are escaped; a line feed never stands in one.
-/

namespace SessionReplay.Text

/-- A character that ends a line of source code. -/
def isLineEnd (c : Char) : Bool :=
  c == '\n' || c == '\r' || c == '\x85' || c == '\u2028' || c == '\u2029'

/-- The lines of a text as source code. -/
def sourceLines (text : Text) : List Text := text.splitOnP isLineEnd

def lineEnds (text : Text) : Text := text.filter isLineEnd

theorem mem_lineEnds {c : Char} {text : Text} : c ∈ lineEnds text ↔ c ∈ text ∧ isLineEnd c = true :=
  List.mem_filter

@[simp] theorem lineEnds_append (a b : Text) : lineEnds (a ++ b) = lineEnds a ++ lineEnds b :=
  List.filter_append ..

theorem isBlank_of_isLineEnd {c : Char} (h : isLineEnd c = true) : isBlank c = true := by
  simp only [isLineEnd, Bool.or_eq_true, beq_iff_eq] at h
  rcases h with (((rfl | rfl) | rfl) | rfl) | rfl <;> decide

/-- A word has no line ends, blanks that they are. -/
theorem IsWord.lineEnds {text : Text} (h : IsWord text) : lineEnds text = [] := by
  rw [Text.lineEnds, List.filter_eq_nil_iff]
  intro c hc he
  exact h.not_mem (isBlank_of_isLineEnd he) hc

theorem splitOnP_congr {p q : Char → Bool} {text : Text} (h : ∀ c ∈ text, p c = q c) :
    text.splitOnP p = text.splitOnP q := by
  induction text with
  | nil => rfl
  | cons c rest ih =>
    rw [List.splitOnP_cons_eq_if_modifyHead, List.splitOnP_cons_eq_if_modifyHead,
      h c List.mem_cons_self, ih fun d hd => h d (List.mem_cons_of_mem c hd)]

/-- All line ends cut as the line feed does if and only if there are no others. -/
theorem sourceLines_eq_lines_iff (text : Text) :
    sourceLines text = lines text ↔ ∀ c ∈ lineEnds text, c = '\n' := by
  constructor
  · intro h c hc
    obtain ⟨hmem, hend⟩ := mem_lineEnds.mp hc
    rw [← unlines_lines text] at hmem
    rcases mem_unlines hmem with hfeed | ⟨line, hline, hc⟩
    · exact hfeed
    · rw [← h] at hline
      exact absurd hend (by rw [(of_mem_splitOnP hline c hc).2]; decide)
  · intro h
    rw [sourceLines, lines, List.splitOn_eq_splitOnP]
    apply splitOnP_congr
    intro c hc
    by_cases hend : isLineEnd c = true
    · rw [hend, h c (mem_lineEnds.mpr ⟨hc, hend⟩)]
      rfl
    · have hfeed : c ≠ '\n' := fun he => hend (he ▸ rfl)
      rw [(Bool.not_eq_true _).mp hend, beq_eq_false_iff_ne.mpr hfeed]

/-! ### Literals -/

/-- The characters that stand in an escape behind its backslash. -/
def escapeChars : Text := "\"\\bfnrtu0123456789abcdef"

/-- What becomes of a character within a literal. -/
inductive Escaped (c : Char) : Text → Prop
  /-- The character stands for itself. -/
  | plain : c ≠ '"' → c ≠ '\\' → c ≠ '\n' → (isLineEnd c = true → c = '\x85') → Escaped c [c]
  /-- A backslash comes first; further quotes and backslashes only right behind it. -/
  | marked (mark : Char) (digits : Text) : c ≠ '\x85' → mark ∈ escapeChars →
      (∀ d ∈ digits, d ∈ escapeChars ∧ d ≠ '"' ∧ d ≠ '\\') → Escaped c ('\\' :: mark :: digits)

theorem hex_escape {c : Char} (h : c.toNat < 0x20 ∨ c = '\u2028' ∨ c = '\u2029') :
    ∀ d ∈ hex 4 c.toNat, d ∈ escapeChars ∧ d ≠ '"' ∧ d ≠ '\\' := by
  have hcode : c.toNat ∈ List.range 0x20 ++ [0x2028, 0x2029] := by
    rcases h with h | rfl | rfl
    · exact List.mem_append_left _ (List.mem_range.mpr h)
    · decide
    · decide
  have hall : ∀ n ∈ List.range 0x20 ++ [0x2028, 0x2029],
      ∀ d ∈ hex 4 n, d ∈ escapeChars ∧ d ≠ '"' ∧ d ≠ '\\' := by decide
  exact hall _ hcode

theorem escape_cases (c : Char) : Escaped c (escape c) := by
  have hmark : ∀ mark ∈ escapeChars, c ≠ '\x85' → Escaped c ['\\', mark] := fun mark hm hc =>
    .marked mark [] hc hm fun d hd => absurd hd List.not_mem_nil
  unfold escape
  split_ifs with hquote hslash hfeed hreturn htab hback hform hcode
  · exact hmark '"' (by decide) (by rw [hquote]; decide)
  · exact hmark '\\' (by decide) (by rw [hslash]; decide)
  · exact hmark 'n' (by decide) (by rw [hfeed]; decide)
  · exact hmark 'r' (by decide) (by rw [hreturn]; decide)
  · exact hmark 't' (by decide) (by rw [htab]; decide)
  · exact hmark 'b' (by decide) (by rw [hback]; decide)
  · exact hmark 'f' (by decide) (by rw [hform]; decide)
  · refine .marked 'u' _ ?_ (by decide) (hex_escape hcode)
    rintro rfl
    exact absurd hcode (by decide)
  · refine .plain hquote hslash hfeed fun hend => ?_
    simp only [isLineEnd, Bool.or_eq_true, beq_iff_eq] at hend
    rcases hend with (((h | h) | h) | h) | h
    · exact absurd h hfeed
    · exact absurd h hreturn
    · exact h
    · exact absurd (.inr (.inl h)) hcode
    · exact absurd (.inr (.inr h)) hcode

theorem Escaped.lineEnds {c : Char} {written : Text} (h : Escaped c written) :
    lineEnds written = if c = '\x85' then ['\x85'] else [] := by
  have hescape : ∀ d ∈ '\\' :: escapeChars, isLineEnd d = false := by decide
  cases h with
  | plain _ _ hfeed hend =>
    split
    next h => rw [h]; rfl
    next h =>
      rw [Text.lineEnds, List.filter_eq_nil_iff]
      intro d hd he
      rw [List.mem_singleton.mp hd] at he
      exact h (hend he)
  | marked mark digits hc hmark hdigits =>
    rw [if_neg hc, Text.lineEnds, List.filter_eq_nil_iff]
    intro d hd
    have hmem : d ∈ '\\' :: escapeChars := by
      rcases List.mem_cons.mp hd with rfl | hd
      · exact List.mem_cons_self
      · rcases List.mem_cons.mp hd with rfl | hd
        · exact List.mem_cons_of_mem _ hmark
        · exact List.mem_cons_of_mem _ (hdigits d hd).1
    rw [hescape d hmem]
    decide

/-- The only line ends in a literal are the U+0085 of its text. -/
theorem lineEnds_quoted (text : Text) : lineEnds (quoted text) = text.filter (· == '\x85') := by
  have hinside : lineEnds (text.flatMap escape) = text.filter (· == '\x85') := by
    induction text with
    | nil => rfl
    | cons c rest ih =>
      rw [List.flatMap_cons, lineEnds_append, ih, (escape_cases c).lineEnds, List.filter_cons]
      by_cases hc : c = '\x85' <;> simp [hc]
  have hmark : lineEnds ['"'] = [] := by decide
  rw [quoted, ← List.singleton_append, lineEnds_append, lineEnds_append, hinside, hmark,
    List.nil_append, List.append_nil]

theorem mem_quoted {text : Text} (h : '\x85' ∈ text) : '\x85' ∈ quoted text := by
  have hm : '\x85' ∈ lineEnds (quoted text) := by
    rw [lineEnds_quoted]
    exact List.mem_filter.mpr ⟨h, beq_self_eq_true _⟩
  exact (mem_lineEnds.mp hm).1

theorem getLast?_quoted (text : Text) : (quoted text).getLast? = some '"' := List.getLast?_concat

theorem not_mem_quoted (text : Text) : '\n' ∉ quoted text := by
  intro hm
  have h : '\n' ∈ lineEnds (quoted text) := mem_lineEnds.mpr ⟨hm, rfl⟩
  rw [lineEnds_quoted] at h
  exact absurd (List.mem_filter.mp h).2 (by decide)

end SessionReplay.Text
