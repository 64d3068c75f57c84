import SessionReplay.Text.Blank

/-!
# Lines and trimming

A text without line feeds is one line, and pieces without line feeds come back from the text they
were joined to. Trimming takes away nothing but blanks at the two ends, so a text that begins and
ends with something else stays as it is.
-/

namespace SessionReplay.Text

/-- Characters of a text are tried one by one, not all that there are. -/
instance decidableForallMem (p : Char → Prop) [DecidablePred p] (text : Text) :
    Decidable (∀ c ∈ text, p c) :=
  List.decidableBAll p text

/-! ### Lines -/

@[simp] theorem unlines_singleton (piece : Text) : unlines [piece] = piece := by
  simp [unlines, List.intercalate]

theorem unlines_cons_cons (piece next : Text) (rest : List Text) :
    unlines (piece :: next :: rest) = piece ++ '\n' :: unlines (next :: rest) := by
  simp [unlines, List.intercalate, List.intersperse]

theorem unlines_append {first second : List Text} (hf : first ≠ []) (hs : second ≠ []) :
    unlines (first ++ second) = unlines first ++ '\n' :: unlines second := by
  induction first with
  | nil => exact absurd rfl hf
  | cons piece rest ih =>
    obtain ⟨next, others, rfl⟩ := List.exists_cons_of_ne_nil hs
    cases rest with
    | nil => rw [List.singleton_append, unlines_cons_cons, unlines_singleton]
    | cons following rest =>
      rw [List.cons_append, List.cons_append, unlines_cons_cons, ← List.cons_append,
        ih (List.cons_ne_nil _ _), unlines_cons_cons, List.append_assoc, List.cons_append]

theorem append_unlines (a b : Text) (rest : List Text) :
    a ++ unlines (b :: rest) = unlines ((a ++ b) :: rest) := by
  cases rest with
  | nil => rw [unlines_singleton, unlines_singleton]
  | cons next rest => rw [unlines_cons_cons, unlines_cons_cons, List.append_assoc]

/-- Where two texts meet within a line, their pieces there are one. -/
theorem unlines_append_unlines (first : List Text) (a b : Text) (second : List Text) :
    unlines (first ++ [a]) ++ unlines (b :: second) = unlines (first ++ (a ++ b) :: second) := by
  cases first with
  | nil => rw [List.nil_append, unlines_singleton, append_unlines, List.nil_append]
  | cons piece rest =>
    rw [unlines_append (List.cons_ne_nil _ _) (List.cons_ne_nil _ _), unlines_singleton,
      List.append_assoc, List.cons_append, append_unlines,
      unlines_append (List.cons_ne_nil _ _) (List.cons_ne_nil _ _)]

theorem lines_unlines {pieces : List Text} (hne : pieces ≠ [])
    (h : ∀ piece ∈ pieces, '\n' ∉ piece) : lines (unlines pieces) = pieces :=
  List.splitOn_intercalate '\n' h hne

theorem lines_of_not_mem {text : Text} (h : '\n' ∉ text) : lines text = [text] :=
  List.splitOn_eq_singleton h

theorem lines_ne_nil (text : Text) : lines text ≠ [] := List.splitOn_ne_nil '\n' text

theorem unlines_lines (text : Text) : unlines (lines text) = text := List.intercalate_splitOn '\n'

/-- A piece holds characters of the text, but none that the text is cut at. -/
theorem of_mem_splitOnP {p : Char → Bool} {text piece : Text} (h : piece ∈ text.splitOnP p) :
    ∀ c ∈ piece, c ∈ text ∧ p c = false := by
  induction text generalizing piece with
  | nil =>
    have hp : piece = [] := by simpa using h
    simp [hp]
  | cons c rest ih =>
    have hrest : ∀ {piece : Text}, piece ∈ rest.splitOnP p →
        ∀ d ∈ piece, d ∈ c :: rest ∧ p d = false := fun hp d hd =>
      ⟨List.mem_cons_of_mem c (ih hp d hd).1, (ih hp d hd).2⟩
    rw [List.splitOnP_cons_eq_if_modifyHead] at h
    split at h
    next =>
      rcases List.mem_cons.mp h with rfl | h
      · exact fun d hd => absurd hd List.not_mem_nil
      · exact hrest h
    next hc =>
      obtain ⟨first, others, hs⟩ := List.exists_cons_of_ne_nil (List.splitOnP_ne_nil p rest)
      rw [hs, List.modifyHead_cons] at h
      rcases List.mem_cons.mp h with rfl | h
      · intro d hd
        rcases List.mem_cons.mp hd with rfl | hd
        · exact ⟨List.mem_cons_self, (Bool.not_eq_true _).mp hc⟩
        · exact hrest (by simp [hs]) d hd
      · exact hrest (by simp [hs, h])

theorem not_mem_of_mem_lines {text line : Text} (h : line ∈ lines text) : '\n' ∉ line := by
  intro hm
  rw [lines, List.splitOn_eq_splitOnP] at h
  exact absurd (of_mem_splitOnP h '\n' hm).2 (by decide)

theorem flatMap_lines_ne_nil {texts : List Text} (hne : texts ≠ []) : texts.flatMap lines ≠ [] := by
  obtain ⟨text, rest, rfl⟩ := List.exists_cons_of_ne_nil hne
  rw [List.flatMap_cons]
  exact List.append_ne_nil_of_left_ne_nil (lines_ne_nil text) _

theorem unlines_flatMap_lines (texts : List Text) : unlines (texts.flatMap lines) = unlines texts := by
  induction texts with
  | nil => rfl
  | cons text rest ih =>
    cases rest with
    | nil => rw [List.flatMap_singleton, unlines_lines, unlines_singleton]
    | cons next rest =>
      have hrest := flatMap_lines_ne_nil (List.cons_ne_nil next rest)
      rw [List.flatMap_cons, unlines_append (lines_ne_nil text) hrest, ih, unlines_lines,
        unlines_cons_cons]

theorem lines_unlines_flatMap {texts : List Text} (hne : texts ≠ []) :
    lines (unlines texts) = texts.flatMap lines := by
  rw [← unlines_flatMap_lines, lines_unlines (flatMap_lines_ne_nil hne)]
  intro line hl
  obtain ⟨text, -, htext⟩ := List.mem_flatMap.mp hl
  exact not_mem_of_mem_lines htext

theorem mem_join {c : Char} {separator : Text} {pieces : List Text} (h : c ∈ join separator pieces) :
    c ∈ separator ∨ ∃ piece ∈ pieces, c ∈ piece := by
  induction pieces with
  | nil => exact absurd h List.not_mem_nil
  | cons piece rest ih =>
    cases rest with
    | nil => exact .inr ⟨piece, List.mem_cons_self, by simpa using h⟩
    | cons next rest =>
      rw [join_cons_cons, List.mem_append, List.mem_append] at h
      rcases h with (h | h) | h
      · exact .inr ⟨piece, List.mem_cons_self, h⟩
      · exact .inl h
      · obtain h | ⟨p, hp, hc⟩ := ih h
        · exact .inl h
        · exact .inr ⟨p, List.mem_cons_of_mem _ hp, hc⟩

theorem infix_join {separator piece : Text} {pieces : List Text} (h : piece ∈ pieces) :
    piece <:+: join separator pieces := by
  induction pieces with
  | nil => exact absurd h List.not_mem_nil
  | cons first rest ih =>
    cases rest with
    | nil =>
      have hpiece : piece = first := List.mem_singleton.mp h
      have hjoin : join separator [first] = first := join_singleton separator first
      exact ⟨[], [], by rw [hpiece, hjoin, List.nil_append, List.append_nil]⟩
    | cons next rest =>
      rw [join_cons_cons, List.append_assoc]
      rcases List.mem_cons.mp h with rfl | h
      · exact (List.prefix_append _ _).isInfix
      · exact (ih h).trans ((List.suffix_append separator _).isInfix.trans
          (List.suffix_append first _).isInfix)

theorem mem_unlines {c : Char} {pieces : List Text} (h : c ∈ unlines pieces) :
    c = '\n' ∨ ∃ piece ∈ pieces, c ∈ piece := by
  have hj : c ∈ join ['\n'] pieces := h
  exact (mem_join hj).imp_left List.mem_singleton.mp

theorem mem_unlines_of_mem {c : Char} {piece : Text} {pieces : List Text} (hp : piece ∈ pieces)
    (hc : c ∈ piece) : c ∈ unlines pieces := by
  have hinfix : piece <:+: unlines pieces := infix_join hp
  exact hinfix.subset hc

theorem head?_unlines {first : Text} (h : first ≠ []) (rest : List Text) :
    (unlines (first :: rest)).head? = first.head? := by
  cases rest with
  | nil => rw [unlines_singleton]
  | cons next rest =>
    obtain ⟨c, cs, rfl⟩ := List.exists_cons_of_ne_nil h
    rw [unlines_cons_cons]
    rfl

theorem getLast?_unlines {last : Text} (h : last ≠ []) (before : List Text) :
    (unlines (before ++ [last])).getLast? = last.getLast? := by
  induction before with
  | nil => rw [List.nil_append, unlines_singleton]
  | cons piece rest ih =>
    obtain ⟨next, others, hs⟩ := List.exists_cons_of_ne_nil
      (List.append_ne_nil_of_right_ne_nil rest (List.cons_ne_nil last []))
    rw [hs] at ih
    have hlast : ('\n' :: unlines (next :: others)).getLast? = last.getLast? := by
      rw [List.getLast?_cons, ih, List.getLast?_eq_some_getLast h, Option.getD_some]
    rw [List.cons_append, hs, unlines_cons_cons, List.getLast?_append, hlast,
      List.getLast?_eq_some_getLast h, Option.some_or]

/-! ### Trimming -/

variable {text : Text}

theorem trim_prefix_dropWhile (text : Text) : trim text <+: text.dropWhile isBlank := by
  rw [trim, stripWhere, ← List.reverse_suffix, List.reverse_reverse]
  exact List.dropWhile_suffix _

theorem trim_sublist (text : Text) : (trim text).Sublist text :=
  (trim_prefix_dropWhile text).sublist.trans (List.dropWhile_sublist _)

theorem mem_of_mem_trim {c : Char} (h : c ∈ trim text) : c ∈ text := (trim_sublist text).subset h

theorem of_mem_takeWhile {p : Char → Bool} {c : Char} (h : c ∈ text.takeWhile p) : p c = true := by
  induction text with
  | nil => exact absurd h List.not_mem_nil
  | cons d rest ih =>
    rw [List.takeWhile_cons] at h
    split at h
    next hd =>
      rcases List.mem_cons.mp h with rfl | h
      · exact hd
      · exact ih h
    next => exact absurd h List.not_mem_nil

theorem exists_trim (text : Text) : ∃ front back : Text, text = front ++ trim text ++ back ∧
    (∀ c ∈ front, isBlank c = true) ∧ ∀ c ∈ back, isBlank c = true := by
  refine ⟨text.takeWhile isBlank, ((text.dropWhile isBlank).reverse.takeWhile isBlank).reverse,
    ?_, fun c hc => of_mem_takeWhile hc, fun c hc => of_mem_takeWhile (List.mem_reverse.mp hc)⟩
  rw [List.append_assoc, trim, stripWhere, ← List.reverse_append, List.takeWhile_append_dropWhile,
    List.reverse_reverse, List.takeWhile_append_dropWhile]

theorem trim_eq_self (first : ∀ c ∈ text.head?, isBlank c = false)
    (last : ∀ c ∈ text.getLast?, isBlank c = false) : trim text = text := by
  have hfirst : text.dropWhile isBlank = text := by
    cases text with
    | nil => rfl
    | cons c rest => exact List.dropWhile_cons_of_neg (by simp [first c rfl])
  have hlast : text.reverse.dropWhile isBlank = text.reverse := by
    cases hr : text.reverse with
    | nil => rfl
    | cons c rest =>
      have hc : c ∈ text.getLast? := by
        rw [← List.head?_reverse, hr]
        rfl
      exact List.dropWhile_cons_of_neg (by simp [last c hc])
  rw [trim, stripWhere, hfirst, hlast, List.reverse_reverse]

theorem trim_eq_of_ends {first last : Char} (hhead : text.head? = some first)
    (hlast : text.getLast? = some last) (hf : isBlank first = false) (hl : isBlank last = false) :
    trim text = text := by
  apply trim_eq_self
  · intro c hc
    rw [hhead] at hc
    exact Option.some.inj hc ▸ hf
  · intro c hc
    rw [hlast] at hc
    exact Option.some.inj hc ▸ hl

theorem isBlank_head?_trim {c : Char} (h : c ∈ (trim text).head?) : isBlank c = false := by
  obtain ⟨tail, ht⟩ := trim_prefix_dropWhile text
  have hd : (text.dropWhile isBlank).head? = some c := by
    rw [← ht, List.head?_append, Option.mem_def.mp h]
    rfl
  have hn := List.head?_dropWhile_not isBlank text
  rw [hd] at hn
  simpa using hn

theorem isBlank_getLast?_trim {c : Char} (h : c ∈ (trim text).getLast?) : isBlank c = false := by
  rw [trim, stripWhere, List.getLast?_reverse] at h
  have hn := List.head?_dropWhile_not isBlank (text.dropWhile isBlank).reverse
  rw [Option.mem_def.mp h] at hn
  simpa using hn

@[simp] theorem trim_trim (text : Text) : trim (trim text) = trim text :=
  trim_eq_self (fun _ h => isBlank_head?_trim h) (fun _ h => isBlank_getLast?_trim h)

theorem trim_append_of_blank {front : Text} (h : ∀ c ∈ front, isBlank c = true) (text : Text) :
    trim (front ++ text) = trim text := by
  have hd : (front ++ text).dropWhile isBlank = text.dropWhile isBlank := by
    induction front with
    | nil => rfl
    | cons c rest ih =>
      rw [List.cons_append, List.dropWhile_cons_of_pos (h c (by simp))]
      exact ih fun d hd => h d (by simp [hd])
  rw [trim, stripWhere, hd]
  rfl

theorem trim_replicate_append (n : Nat) (text : Text) :
    trim (List.replicate n ' ' ++ text) = trim text :=
  trim_append_of_blank (fun c h => by rw [List.eq_of_mem_replicate h]; rfl) text

/-! ### Pieces that stay whole -/

theorem prefix_lines {part text : Text} (h : part <+: text) (hp : '\n' ∉ part) :
    ∃ first rest, lines text = first :: rest ∧ part <+: first := by
  induction part generalizing text with
  | nil =>
    obtain ⟨first, rest, hs⟩ := List.exists_cons_of_ne_nil (lines_ne_nil text)
    exact ⟨first, rest, hs, List.nil_prefix⟩
  | cons c part ih =>
    obtain ⟨tail, rfl⟩ := h
    rw [List.mem_cons, not_or] at hp
    obtain ⟨first, rest, hs, hfirst⟩ := ih (List.prefix_append part tail) hp.2
    refine ⟨c :: first, rest, ?_, (List.prefix_cons_inj c).mpr hfirst⟩
    rw [lines, List.splitOn_eq_splitOnP] at hs ⊢
    have hc : ¬ (c == '\n') = true := by simpa using Ne.symm hp.1
    rw [List.cons_append, List.splitOnP_cons_eq_if_modifyHead, if_neg hc, hs, List.modifyHead_cons]

/-- A piece without line feeds stands on one line. -/
theorem infix_lines {part text : Text} (h : part <:+: text) (hp : '\n' ∉ part) :
    ∃ line ∈ lines text, part <:+: line := by
  induction text with
  | nil =>
    obtain ⟨first, rest, hs, hfirst⟩ := prefix_lines (List.infix_nil.mp h ▸ List.nil_prefix) hp
    exact ⟨first, hs ▸ List.mem_cons_self, hfirst.isInfix⟩
  | cons c text ih =>
    rcases List.infix_cons_iff.mp h with h | h
    · obtain ⟨first, rest, hs, hfirst⟩ := prefix_lines h hp
      exact ⟨first, hs ▸ List.mem_cons_self, hfirst.isInfix⟩
    · obtain ⟨line, hl, hline⟩ := ih h
      rw [lines, List.splitOn_eq_splitOnP] at hl ⊢
      rw [List.splitOnP_cons_eq_if_modifyHead]
      split
      next => exact ⟨line, List.mem_cons_of_mem _ hl, hline⟩
      next =>
        obtain ⟨first, rest, hs⟩ := List.exists_cons_of_ne_nil (List.splitOnP_ne_nil (· == '\n') text)
        rw [hs] at hl ⊢
        rw [List.modifyHead_cons]
        rcases List.mem_cons.mp hl with rfl | hl
        · exact ⟨c :: line, List.mem_cons_self, List.infix_cons hline⟩
        · exact ⟨line, List.mem_cons_of_mem _ hl, hline⟩

theorem infix_dropWhile {p : Char → Bool} {part text : Text} (h : part <:+: text)
    (hp : part.head?.map p = some false) : part <:+: text.dropWhile p := by
  obtain ⟨front, back, rfl⟩ := h
  have hstop : (part ++ back).dropWhile p = part ++ back := by
    cases part with
    | nil => exact absurd hp (by simp)
    | cons c rest =>
      have hc : p c = false := Option.some.inj hp
      exact List.dropWhile_cons_of_neg (by simp [hc])
  rw [List.append_assoc, List.dropWhile_append, hstop]
  split
  · exact List.infix_append [] part back
  · rw [← List.append_assoc]
    exact List.infix_append _ part back

/-- A piece that begins and ends with something else than a blank is not cut by trimming. -/
theorem infix_trim {part text : Text} (h : part <:+: text)
    (hf : part.head?.map isBlank = some false) (hl : part.getLast?.map isBlank = some false) :
    part <:+: trim text := by
  rw [trim, stripWhere, ← List.reverse_infix, List.reverse_reverse]
  apply infix_dropWhile
  · rw [List.reverse_infix]
    exact infix_dropWhile h hf
  · rw [List.head?_reverse]
    exact hl

/-! ### Words -/

/-- A text without blanks, as every identifier is. -/
def IsWord (text : Text) : Prop := ∀ c ∈ text, isBlank c = false

instance (text : Text) : Decidable (IsWord text) := decidableForallMem _ text

theorem IsWord.append {a b : Text} (ha : IsWord a) (hb : IsWord b) : IsWord (a ++ b) := by
  intro c hc
  exact (List.mem_append.mp hc).elim (ha c) (hb c)

theorem IsWord.not_mem {c : Char} (h : IsWord text) (hc : isBlank c = true) : c ∉ text := by
  intro hm
  rw [h c hm] at hc
  exact Bool.noConfusion hc

end SessionReplay.Text
