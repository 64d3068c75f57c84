import SessionReplay.Proofs.Program.Layout
import SessionReplay.Proofs.Text.LineEnd

/-!
# Brackets of source code

A scanner reads source code character by character and keeps the brackets that are open. Brackets
within literals and comments do not count. It fails at a closing bracket that does not belong to the
last open one, and at a literal that does not end on its line.

What stands on a line may be trimmed and indented without changing what the scanner has read at the
end of the line, so buffers of lines can be scanned before their layout.
-/

namespace SessionReplay.Brackets

/-! ### The scanner -/

/-- What the scanner is within. -/
inductive Mode where
  | code
  /-- Code, right behind a slash. -/
  | slash
  | literal
  /-- A literal, right behind a backslash. -/
  | escaped
  | comment
deriving DecidableEq, Repr

structure Scanner where
  mode : Mode := .code
  /-- The brackets that are open, the last one first. -/
  opened : Text := []
deriving DecidableEq, Repr

def opener? : Char → Option Char
  | ')' => some '('
  | ']' => some '['
  | '}' => some '{'
  | _ => none

def readCode (s : Scanner) (c : Char) : Option Scanner :=
  if c = '"' then some ⟨.literal, s.opened⟩
  else if c = '/' then some ⟨if s.mode = .slash then .comment else .slash, s.opened⟩
  else if c = '(' ∨ c = '[' ∨ c = '{' then some ⟨.code, c :: s.opened⟩
  else
    match opener? c with
    | some bracket =>
      if s.opened.head? = some bracket then some ⟨.code, s.opened.tail⟩ else none
    | none => some ⟨.code, s.opened⟩

def next (s : Scanner) (c : Char) : Option Scanner :=
  match s.mode with
  | .code | .slash => readCode s c
  | .literal =>
    if c = '\n' then none
    else if c = '"' then some ⟨.code, s.opened⟩
    else if c = '\\' then some ⟨.escaped, s.opened⟩
    else some s
  | .escaped => if c = '\n' then none else some ⟨.literal, s.opened⟩
  | .comment => if c = '\n' then some ⟨.code, s.opened⟩ else some s

def scan (s : Scanner) (text : Text) : Option Scanner := text.foldlM next s

theorem scan_append (s : Scanner) (a b : Text) : scan s (a ++ b) = (scan s a).bind (scan · b) :=
  List.foldlM_append

@[simp] theorem scan_singleton (s : Scanner) (c : Char) : scan s [c] = next s c := by
  simp [scan]

theorem scan_cons (s : Scanner) (c : Char) (rest : Text) :
    scan s (c :: rest) = (next s c).bind (scan · rest) :=
  List.foldlM_cons

theorem scan_append_of_eq {s t : Scanner} {a : Text} (h : scan s a = some t) (b : Text) :
    scan s (a ++ b) = scan t b := by
  rw [scan_append, h, Option.bind_some]

/-! ### Texts that leave everything as it is -/

/-- Read as code, the text leaves code behind and the same brackets open. -/
def Closed (text : Text) : Prop := ∀ opened, scan ⟨.code, opened⟩ text = some ⟨.code, opened⟩

def specials : Text := "\"/()[]\x7b\x7d\n"

/-- A text without such characters. -/
def Plain (text : Text) : Prop := ∀ c ∈ text, c ∉ specials

instance (text : Text) : Decidable (Plain text) := Text.decidableForallMem _ text

theorem Plain.append {a b : Text} (ha : Plain a) (hb : Plain b) : Plain (a ++ b) := by
  intro c hc
  exact (List.mem_append.mp hc).elim (ha c) (hb c)

theorem Plain.feed_not_mem {text : Text} (h : Plain text) : '\n' ∉ text :=
  fun hm => h _ hm (by decide)

theorem readCode_of_not_mem {c : Char} (h : c ∉ specials) (s : Scanner) :
    readCode s c = some ⟨.code, s.opened⟩ := by
  have hne : ∀ d ∈ specials, c ≠ d := fun d hd he => h (he ▸ hd)
  have hcloser : opener? c = none := by
    unfold opener?
    split
    · exact absurd rfl (hne ')' (by decide))
    · exact absurd rfl (hne ']' (by decide))
    · exact absurd rfl (hne '}' (by decide))
    · rfl
  have hopener : ¬ (c = '(' ∨ c = '[' ∨ c = '{') := by
    rintro (he | he | he)
    · exact hne '(' (by decide) he
    · exact hne '[' (by decide) he
    · exact hne '{' (by decide) he
  simp only [readCode, hcloser, if_neg hopener, if_neg (hne '"' (by decide)),
    if_neg (hne '/' (by decide))]

theorem next_of_not_mem {c : Char} (h : c ∉ specials) (opened : Text) :
    next ⟨.code, opened⟩ c = some ⟨.code, opened⟩ :=
  readCode_of_not_mem h ⟨.code, opened⟩

namespace Closed

theorem nil : Closed [] := fun _ => rfl

theorem append {a b : Text} (ha : Closed a) (hb : Closed b) : Closed (a ++ b) := by
  intro opened
  rw [scan_append_of_eq (ha opened), hb opened]

theorem cons {c : Char} {text : Text} (hc : c ∉ specials) (h : Closed text) :
    Closed (c :: text) := by
  intro opened
  rw [scan_cons, next_of_not_mem hc, Option.bind_some, h opened]

theorem feed {text : Text} (h : Closed text) : Closed ('\n' :: text) := by
  intro opened
  rw [scan_cons]
  exact h opened

theorem of_plain {text : Text} (h : Plain text) : Closed text := by
  intro opened
  induction text with
  | nil => rfl
  | cons c rest ih =>
    rw [scan_cons, next_of_not_mem (h c List.mem_cons_self), Option.bind_some]
    exact ih fun d hd => h d (List.mem_cons_of_mem _ hd)

/-- A closed text between one that opens a bracket and one that closes it. -/
theorem within {front text back : Text} {bracket : Char} (h : Closed text)
    (hf : ∀ opened, scan ⟨.code, opened⟩ front = some ⟨.code, bracket :: opened⟩)
    (hb : ∀ opened, scan ⟨.code, bracket :: opened⟩ back = some ⟨.code, opened⟩) :
    Closed (front ++ text ++ back) := by
  intro opened
  rw [List.append_assoc, scan_append_of_eq (hf opened), scan_append_of_eq (h _), hb opened]

end Closed

/-! ### Literals -/

theorem scan_escaped {c : Char} {written : Text} (h : Text.Escaped c written) (opened : Text) :
    scan ⟨.literal, opened⟩ written = some ⟨.literal, opened⟩ := by
  cases h with
  | plain hquote hslash hfeed =>
    rw [scan_cons]
    simp only [next, if_neg hfeed, if_neg hquote, if_neg hslash]
    rfl
  | marked mark digits _ hmark hdigits =>
    have hfeeds : ∀ d ∈ Text.escapeChars, d ≠ '\n' := by decide
    have hread : next ⟨.escaped, opened⟩ mark = some ⟨.literal, opened⟩ :=
      if_neg (hfeeds mark hmark)
    have hplain : scan ⟨.literal, opened⟩ digits = some ⟨.literal, opened⟩ := by
      clear hread hmark
      induction digits with
      | nil => rfl
      | cons d rest ih =>
        obtain ⟨hd, hquote, hslash⟩ := hdigits d List.mem_cons_self
        rw [scan_cons]
        simp only [next, if_neg (hfeeds d hd), if_neg hquote, if_neg hslash, Option.bind_some]
        exact ih fun e he => hdigits e (List.mem_cons_of_mem _ he)
    have hback : next ⟨.literal, opened⟩ '\\' = some ⟨.escaped, opened⟩ := rfl
    rw [scan_cons, hback, Option.bind_some, scan_cons, hread, Option.bind_some, hplain]

/-- A literal is read to its last character, whatever text it stands for. -/
theorem closed_quoted (text : Text) : Closed text.quoted := by
  intro opened
  have hinside : scan ⟨.literal, opened⟩ (text.flatMap Text.escape) =
      some ⟨.literal, opened⟩ := by
    induction text with
    | nil => rfl
    | cons c rest ih =>
      rw [List.flatMap_cons, scan_append_of_eq (scan_escaped (Text.escape_cases c) opened), ih]
  rw [Text.quoted, List.cons_append, scan_cons]
  exact (scan_append_of_eq hinside ['"']).trans rfl

/-! ### Lines -/

/-- The brackets that are open at the end of the last line of a text. -/
def after (opened text : Text) : Option Text :=
  (scan ⟨.code, opened⟩ (text ++ ['\n'])).map Scanner.opened

def afterLines (opened : Text) (lines : List Text) : Option Text := lines.foldlM after opened

theorem next_feed (s : Scanner) :
    next s '\n' = if s.mode = .literal ∨ s.mode = .escaped then none else some ⟨.code, s.opened⟩ := by
  obtain ⟨mode, opened⟩ := s
  cases mode <;> rfl

theorem after_eq_some_iff {opened text result : Text} :
    after opened text = some result ↔
      scan ⟨.code, opened⟩ (text ++ ['\n']) = some ⟨.code, result⟩ := by
  unfold after
  rw [scan_append]
  cases scan ⟨.code, opened⟩ text with
  | none => exact ⟨fun h => absurd h (by simp), fun h => absurd h (by simp)⟩
  | some s =>
    rw [Option.bind_some, scan_singleton, next_feed]
    split <;> simp

theorem after_of_scan {opened text result : Text}
    (h : scan ⟨.code, opened⟩ text = some ⟨.code, result⟩) : after opened text = some result := by
  rw [after, scan_append_of_eq h]
  rfl

theorem after_of_closed {text : Text} (h : Closed text) (opened : Text) :
    after opened text = some opened :=
  after_of_scan (h opened)

/-- A blank within a line says nothing to the scanner. -/
theorem not_mem_of_isBlank {c : Char} (h : Text.isBlank c = true) (hc : c ≠ '\n') :
    c ∉ specials ∧ c ≠ '\\' := by
  have hall : ∀ d ∈ '\\' :: specials, d = '\n' ∨ Text.isBlank d = false := by decide
  have hnot : c ∉ '\\' :: specials := by
    intro hm
    rcases hall c hm with he | he
    · exact hc he
    · rw [h] at he
      exact Bool.noConfusion he
  rw [List.mem_cons, not_or] at hnot
  exact ⟨hnot.2, hnot.1⟩

theorem closed_blanks {blanks : Text} (h : ∀ c ∈ blanks, Text.isBlank c = true) :
    Closed blanks := by
  induction blanks with
  | nil => exact .nil
  | cons c rest ih =>
    have hrest := ih fun d hd => h d (List.mem_cons_of_mem _ hd)
    by_cases hc : c = '\n'
    · rw [hc]
      exact hrest.feed
    · exact hrest.cons (not_mem_of_isBlank (h c List.mem_cons_self) hc).1

/-- Blanks at the end of a line do not matter, be there line feeds among them or not. -/
theorem scan_blanks_feed {blanks : Text} (h : ∀ c ∈ blanks, Text.isBlank c = true) (s : Scanner) :
    scan s (blanks ++ ['\n']) = next s '\n' := by
  induction blanks generalizing s with
  | nil => rw [List.nil_append, scan_singleton]
  | cons c rest ih =>
    have hrest := ih fun d hd => h d (List.mem_cons_of_mem _ hd)
    rw [List.cons_append, scan_cons]
    by_cases hc : c = '\n'
    · rw [hc, next_feed]
      split
      next => rfl
      next => exact hrest _
    · obtain ⟨hspecial, hslash⟩ := not_mem_of_isBlank (h c List.mem_cons_self) hc
      have hquote : c ≠ '"' := fun he => hspecial (he ▸ by decide)
      obtain ⟨mode, opened⟩ := s
      cases mode with
      | code =>
        simp only [next, readCode_of_not_mem hspecial, Option.bind_some, hrest]
      | slash =>
        simp only [next, readCode_of_not_mem hspecial, Option.bind_some, hrest]
        rfl
      | _ => simp [next, hc, hquote, hslash, hrest]

theorem after_trim (opened text : Text) : after opened (Text.trim text) = after opened text := by
  obtain ⟨front, back, htext, hf, hb⟩ := Text.exists_trim text
  generalize Text.trim text = middle at htext ⊢
  subst htext
  unfold after
  rw [List.append_assoc, List.append_assoc, scan_append_of_eq (closed_blanks hf opened),
    scan_append, scan_append]
  cases scan ⟨.code, opened⟩ middle with
  | none => rfl
  | some s => rw [Option.bind_some, Option.bind_some, scan_blanks_feed hb, scan_singleton]

theorem after_append_feed (opened a b : Text) :
    after opened (a ++ '\n' :: b) = (after opened a).bind (after · b) := by
  have hsplit : a ++ '\n' :: b ++ ['\n'] = (a ++ ['\n']) ++ (b ++ ['\n']) := by simp
  cases h : after opened a with
  | none =>
    have hnone : scan ⟨.code, opened⟩ (a ++ ['\n']) = none := Option.map_eq_none_iff.mp h
    rw [after, hsplit, scan_append, hnone]
    rfl
  | some result =>
    rw [after, hsplit, scan_append_of_eq (after_eq_some_iff.mp h)]
    rfl

theorem after_unlines (opened first : Text) (rest : List Text) :
    after opened (Text.unlines (first :: rest)) = afterLines opened (first :: rest) := by
  induction rest generalizing opened first with
  | nil =>
    rw [Text.unlines_singleton, afterLines, List.foldlM_cons]
    cases after opened first <;> rfl
  | cons next rest ih =>
    rw [Text.unlines_cons_cons, after_append_feed, afterLines, List.foldlM_cons]
    exact congrArg (Option.bind _) (funext fun o => ih o next)

theorem afterLines_cons {opened line result : Text} (h : after opened line = some result)
    (rest : List Text) : afterLines opened (line :: rest) = afterLines result rest := by
  rw [afterLines, List.foldlM_cons, h]
  rfl

theorem afterLines_append (opened : Text) (first second : List Text) :
    afterLines opened (first ++ second) =
      (afterLines opened first).bind (afterLines · second) :=
  List.foldlM_append

theorem afterLines_append_of_eq {opened result : Text} {first : List Text}
    (h : afterLines opened first = some result) (second : List Text) :
    afterLines opened (first ++ second) = afterLines result second := by
  rw [afterLines_append, h, Option.bind_some]

theorem afterLines_eq_self {opened : Text} {lines : List Text}
    (h : ∀ line ∈ lines, after opened line = some opened) :
    afterLines opened lines = some opened := by
  induction lines with
  | nil => rfl
  | cons line rest ih =>
    rw [afterLines_cons (h line List.mem_cons_self)]
    exact ih fun l hl => h l (List.mem_cons_of_mem _ hl)

/-- A comment is read to the end of its line, whatever it says. -/
theorem after_comment (opened : Text) {text : Text} (h : '\n' ∉ text) :
    after opened ("//".toList ++ text) = some opened := by
  have hcomment : scan ⟨.comment, opened⟩ text = some ⟨.comment, opened⟩ := by
    induction text with
    | nil => rfl
    | cons c rest ih =>
      rw [List.mem_cons, not_or] at h
      rw [scan_cons]
      simp only [next, if_neg (Ne.symm h.1), Option.bind_some]
      exact ih h.2
  have hstart : scan ⟨.code, opened⟩ "//" = some ⟨.comment, opened⟩ := rfl
  rw [after, List.append_assoc, scan_append_of_eq hstart, scan_append_of_eq hcomment]
  rfl

theorem afterLines_map_trim (opened : Text) (lines : List Text) :
    afterLines opened (lines.map Text.trim) = afterLines opened lines := by
  simp only [afterLines, List.foldlM_map, after_trim]

theorem afterLines_ofText (opened text : Text) :
    afterLines opened (Program.Lines.ofText text) = after opened text := by
  obtain ⟨first, rest, hs⟩ := List.exists_cons_of_ne_nil (Text.lines_ne_nil (Text.trim text))
  rw [Program.Lines.ofText, afterLines_map_trim, hs, ← after_unlines, ← hs, Text.unlines_lines,
    after_trim]

theorem afterLines_flatMap_ofText (opened : Text) (texts : List Text) :
    afterLines opened (texts.flatMap Program.Lines.ofText) = afterLines opened texts := by
  induction texts generalizing opened with
  | nil => rfl
  | cons text rest ih =>
    rw [List.flatMap_cons, afterLines_append, afterLines_ofText, afterLines, List.foldlM_cons]
    exact congrArg (Option.bind _) (funext fun o => ih o)

theorem after_render (opened : Text) (offset : Nat) {buffer : Program.Lines} (hne : buffer ≠ [])
    (h : Program.Lines.Trimmed buffer) :
    after opened (buffer.render offset) = afterLines opened buffer := by
  have hrendered : buffer.renderFrom offset {} ≠ [] := by
    rw [← List.length_pos_iff, Program.Lines.length_renderFrom]
    exact List.length_pos_iff.mpr hne
  obtain ⟨first, rest, hs⟩ := List.exists_cons_of_ne_nil hrendered
  rw [Program.Lines.render, hs, after_unlines, ← hs, ← afterLines_map_trim,
    Program.Lines.map_trim_renderFrom offset {} h]

end SessionReplay.Brackets
