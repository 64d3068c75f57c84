import SessionReplay.Program.Layout
import SessionReplay.Proofs.Text.Line

/-!
# Gathered and rendered lines

A buffer holds trimmed lines without line feeds. Rendering puts only spaces before them, so cutting
the rendered text at line feeds and trimming the pieces gives the buffer back.
-/

namespace SessionReplay.Program.Lines

def Trimmed (buffer : Lines) : Prop := ∀ line ∈ buffer, '\n' ∉ line ∧ Text.trim line = line

theorem Trimmed.append {first second : Lines} (hf : Trimmed first) (hs : Trimmed second) :
    Trimmed (first ++ second) := by
  intro line hl
  exact (List.mem_append.mp hl).elim (hf line) (hs line)

theorem trimmed_ofText (text : Text) : Trimmed (ofText text) := by
  intro line hl
  obtain ⟨piece, hp, rfl⟩ := List.mem_map.mp hl
  refine ⟨?_, Text.trim_trim piece⟩
  intro hm
  exact Text.not_mem_of_mem_lines hp (Text.mem_of_mem_trim hm)

theorem trimmed_newLine_append (texts : List Text) :
    Trimmed (newLine [] ++ texts.flatMap ofText) := by
  apply Trimmed.append
  · intro line hl
    obtain rfl := List.mem_singleton.mp hl
    decide
  · intro line hl
    obtain ⟨text, -, hm⟩ := List.mem_flatMap.mp hl
    exact trimmed_ofText text line hm

theorem ofText_of_not_mem {text : Text} (h : '\n' ∉ text) : ofText text = [Text.trim text] := by
  have ht : '\n' ∉ Text.trim text := fun hm => h (Text.mem_of_mem_trim hm)
  rw [ofText, Text.lines_of_not_mem ht, List.map_singleton, Text.trim_trim]

theorem mem_of_mem_ofText {c : Char} {text line : Text} (hl : line ∈ ofText text) (hc : c ∈ line) :
    c ∈ text := by
  obtain ⟨piece, hp, rfl⟩ := List.mem_map.mp hl
  have hm := Text.mem_unlines_of_mem hp (Text.mem_of_mem_trim hc)
  rw [Text.unlines_lines] at hm
  exact Text.mem_of_mem_trim hm

/-- A piece without line feeds that neither begins nor ends with a blank stands whole on a line. -/
theorem infix_ofText {part text : Text} (h : part <:+: text) (hp : '\n' ∉ part)
    (hf : part.head?.map Text.isBlank = some false)
    (hl : part.getLast?.map Text.isBlank = some false) : ∃ line ∈ ofText text, part <:+: line := by
  obtain ⟨line, hm, hline⟩ := Text.infix_lines (Text.infix_trim h hf hl) hp
  exact ⟨Text.trim line, List.mem_map_of_mem hm, Text.infix_trim hline hf hl⟩

theorem ofText_of_trim_eq {text : Text} (h : Text.trim text = text) :
    ofText text = (Text.lines text).map Text.trim := by
  rw [ofText, h]

/-- Adding texts one after the other puts their lines behind each other. -/
theorem foldl_add (texts : List Text) (buffer : Lines) :
    texts.foldl add buffer = buffer ++ texts.flatMap ofText := by
  induction texts generalizing buffer with
  | nil => rw [List.foldl_nil, List.flatMap_nil, List.append_nil]
  | cons text rest ih => rw [List.foldl_cons, ih, add, List.append_assoc, List.flatMap_cons]

/-! ### Rendering -/

theorem length_renderFrom (offset : Nat) (before : Depth) (buffer : Lines) :
    (renderFrom offset before buffer).length = buffer.length := by
  induction buffer generalizing before with
  | nil => rfl
  | cons line rest ih =>
    unfold renderFrom
    split
    · rw [List.length_cons, List.length_cons, ih]
    · rw [List.length_cons, List.length_cons, ih]

/-- Each rendered line is a gathered line behind some spaces. -/
theorem exists_of_mem_renderFrom {offset : Nat} {before : Depth} {buffer : Lines} {rendered : Text}
    (h : rendered ∈ renderFrom offset before buffer) :
    ∃ n, ∃ line ∈ buffer, rendered = List.replicate n ' ' ++ line := by
  induction buffer generalizing before with
  | nil => exact absurd h List.not_mem_nil
  | cons line rest ih =>
    unfold renderFrom at h
    split at h
    next hl =>
      rcases List.mem_cons.mp h with rfl | h
      · exact ⟨0, line, List.mem_cons_self, hl.symm⟩
      · obtain ⟨n, l, hm, hr⟩ := ih h
        exact ⟨n, l, List.mem_cons_of_mem _ hm, hr⟩
    next =>
      rcases List.mem_cons.mp h with rfl | h
      · exact ⟨_, line, List.mem_cons_self, rfl⟩
      · obtain ⟨n, l, hm, hr⟩ := ih h
        exact ⟨n, l, List.mem_cons_of_mem _ hm, hr⟩

theorem exists_mem_renderFrom (offset : Nat) (before : Depth) {buffer : Lines} {line : Text}
    (h : line ∈ buffer) : ∃ n, List.replicate n ' ' ++ line ∈ renderFrom offset before buffer := by
  induction buffer generalizing before with
  | nil => exact absurd h List.not_mem_nil
  | cons first rest ih =>
    unfold renderFrom
    split
    next hl =>
      rcases List.mem_cons.mp h with rfl | h
      · exact ⟨0, by simp [hl]⟩
      · obtain ⟨n, hn⟩ := ih before h
        exact ⟨n, List.mem_cons_of_mem _ hn⟩
    next =>
      rcases List.mem_cons.mp h with rfl | h
      · exact ⟨_, List.mem_cons_self⟩
      · obtain ⟨n, hn⟩ := ih (before.after first) h
        exact ⟨n, List.mem_cons_of_mem _ hn⟩

def leave (before : Depth) (buffer : Lines) : Depth :=
  buffer.foldl (fun depth line => if line = [] then depth else depth.after line) before

theorem renderFrom_append (offset : Nat) (before : Depth) (first second : Lines) :
    renderFrom offset before (first ++ second) =
      renderFrom offset before first ++ renderFrom offset (leave before first) second := by
  induction first generalizing before with
  | nil => rfl
  | cons line rest ih =>
    simp only [List.cons_append, renderFrom, leave, List.foldl_cons]
    split
    · rw [ih, List.cons_append]
      rfl
    · rw [ih, List.cons_append]
      rfl

theorem map_trim_renderFrom (offset : Nat) (before : Depth) {buffer : Lines} (h : Trimmed buffer) :
    (renderFrom offset before buffer).map Text.trim = buffer := by
  induction buffer generalizing before with
  | nil => rfl
  | cons line rest ih =>
    have hrest : Trimmed rest := fun l hl => h l (List.mem_cons_of_mem _ hl)
    unfold renderFrom
    split
    next hl => rw [List.map_cons, ih before hrest, hl, Text.trim_nil]
    next =>
      rw [List.map_cons, ih _ hrest, Text.trim_replicate_append, (h line List.mem_cons_self).2]

theorem feed_not_mem_renderFrom {offset : Nat} {before : Depth} {buffer : Lines}
    (h : Trimmed buffer) : ∀ rendered ∈ renderFrom offset before buffer, '\n' ∉ rendered := by
  intro rendered hr
  obtain ⟨n, line, hl, rfl⟩ := exists_of_mem_renderFrom hr
  rw [List.mem_append, not_or]
  refine ⟨fun hm => ?_, (h line hl).1⟩
  exact absurd (List.eq_of_mem_replicate hm) (by decide)

theorem lines_render (offset : Nat) {buffer : Lines} (hne : buffer ≠ []) (h : Trimmed buffer) :
    Text.lines (render offset buffer) = renderFrom offset {} buffer := by
  apply Text.lines_unlines _ (feed_not_mem_renderFrom h)
  rw [← List.length_pos_iff, length_renderFrom]
  exact List.length_pos_iff.mpr hne

/-- The trimmed lines of the rendered text are the lines that were gathered. -/
theorem map_trim_lines_render (offset : Nat) {buffer : Lines} (hne : buffer ≠ [])
    (h : Trimmed buffer) : (Text.lines (render offset buffer)).map Text.trim = buffer := by
  rw [lines_render offset hne h, map_trim_renderFrom offset {} h]

theorem mem_of_mem_render {c : Char} {offset : Nat} {buffer : Lines} (h : c ∈ render offset buffer) :
    c = '\n' ∨ c = ' ' ∨ ∃ line ∈ buffer, c ∈ line := by
  rcases Text.mem_unlines h with hfeed | ⟨rendered, hr, hc⟩
  · exact .inl hfeed
  · obtain ⟨n, line, hl, rfl⟩ := exists_of_mem_renderFrom hr
    rcases List.mem_append.mp hc with hc | hc
    · exact .inr (.inl (List.eq_of_mem_replicate hc))
    · exact .inr (.inr ⟨line, hl, hc⟩)

theorem mem_render_of_mem {c : Char} {line : Text} {buffer : Lines} (offset : Nat)
    (hl : line ∈ buffer) (hc : c ∈ line) : c ∈ render offset buffer := by
  obtain ⟨n, hn⟩ := exists_mem_renderFrom offset {} hl
  exact Text.mem_unlines_of_mem hn (List.mem_append_right _ hc)

end SessionReplay.Program.Lines
