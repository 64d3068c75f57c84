import Mathlib.Data.List.Basic
import SessionReplay.Proofs.Text.Line

/-!
# Blank lines at the ends of a text

Trimming a whole text takes blank lines off its ends. `map_trim_lines_trim` says that it does nothing
else to its trimmed lines: they are those of the text without the empty ones at the two ends, where at
least one is left.
-/

namespace SessionReplay.Text

/-! ### Characters at the ends -/

section Strip

variable {drop : Char → Bool} {front text back : Text}

theorem dropWhile_append_of_head? (hfront : ∀ c ∈ front, drop c = true)
    (first : ∀ c ∈ text.head?, drop c = false) : (front ++ text).dropWhile drop = text := by
  rw [List.dropWhile_append_of_pos hfront]
  cases text with
  | nil => rfl
  | cons c rest => exact List.dropWhile_cons_of_neg (by simp [first c rfl])

/-- Stripping ends where the text itself begins and ends. -/
theorem stripWhere_surrounded (hfront : ∀ c ∈ front, drop c = true)
    (hback : ∀ c ∈ back, drop c = true) (first : ∀ c ∈ text.head?, drop c = false)
    (last : ∀ c ∈ text.getLast?, drop c = false) : stripWhere drop (front ++ text ++ back) = text := by
  cases text with
  | nil =>
    have hall : (front ++ [] ++ back ++ []).dropWhile drop = [] :=
      dropWhile_append_of_head? (by simpa using List.forall_mem_append.mpr ⟨hfront, hback⟩)
        (by simp)
    rw [List.append_nil] at hall
    rw [stripWhere, hall]
    rfl
  | cons c rest =>
    have hleft : (front ++ (c :: rest ++ back)).dropWhile drop = c :: rest ++ back :=
      dropWhile_append_of_head? hfront first
    have hright : (back.reverse ++ (c :: rest).reverse).dropWhile drop = (c :: rest).reverse := by
      refine dropWhile_append_of_head? (fun d hd => hback d (List.mem_reverse.mp hd)) ?_
      rw [List.head?_reverse]
      exact last
    rw [stripWhere, List.append_assoc, hleft, List.reverse_append, hright, List.reverse_reverse]

end Strip

theorem trim_append_of_blank_right {back : Text} (h : ∀ c ∈ back, isBlank c = true) (text : Text) :
    trim (text ++ back) = trim text := by
  obtain ⟨front, behind, htext, hfront, hbehind⟩ := exists_trim text
  have hall : text ++ back = front ++ trim text ++ (behind ++ back) := by
    rw [← List.append_assoc, ← htext]
  rw [hall]
  exact stripWhere_surrounded hfront (List.forall_mem_append.mpr ⟨hbehind, h⟩)
    (fun _ hc => isBlank_head?_trim hc) fun _ hc => isBlank_getLast?_trim hc

theorem trim_eq_nil_iff {text : Text} : trim text = [] ↔ ∀ c ∈ text, isBlank c = true := by
  constructor
  · intro h
    obtain ⟨front, back, htext, hfront, hback⟩ := exists_trim text
    rw [htext, h, List.append_nil]
    exact List.forall_mem_append.mpr ⟨hfront, hback⟩
  · intro h
    have hfront := trim_append_of_blank h []
    rwa [List.append_nil, trim_nil] at hfront

/-! ### The lines of two texts -/

/-- Where two texts meet, the last line of the one and the first line of the other are one. -/
theorem exists_lines_append (a b : Text) : ∃ front x y back,
    lines a = front ++ [x] ∧ lines b = y :: back ∧ lines (a ++ b) = front ++ (x ++ y) :: back := by
  obtain ⟨front, x, hfront⟩ := List.eq_nil_or_concat' _ |>.resolve_left (lines_ne_nil a)
  obtain ⟨y, back, hback⟩ := List.exists_cons_of_ne_nil (lines_ne_nil b)
  refine ⟨front, x, y, back, hfront, hback, ?_⟩
  have hall : a ++ b = unlines (front ++ (x ++ y) :: back) := by
    rw [← unlines_append_unlines, ← hfront, ← hback, unlines_lines, unlines_lines]
  have ha : ∀ piece ∈ front ++ [x], '\n' ∉ piece := fun piece hp =>
    not_mem_of_mem_lines (hfront ▸ hp)
  have hb : ∀ piece ∈ y :: back, '\n' ∉ piece := fun piece hp => not_mem_of_mem_lines (hback ▸ hp)
  obtain ⟨hfronts, hx⟩ := List.forall_mem_append.mp ha
  obtain ⟨hy, hbacks⟩ := List.forall_mem_cons.mp hb
  rw [hall, lines_unlines (List.append_ne_nil_of_right_ne_nil _ (List.cons_ne_nil _ _))]
  refine List.forall_mem_append.mpr ⟨hfronts, List.forall_mem_cons.mpr ⟨?_, hbacks⟩⟩
  rw [List.mem_append, not_or]
  exact ⟨hx x List.mem_cons_self, hy⟩

theorem lines_feed_cons (text : Text) : lines ('\n' :: text) = [] :: lines text := by
  rw [lines, lines, List.splitOn_eq_splitOnP, List.splitOnP_cons_eq_if_modifyHead,
    if_pos (beq_self_eq_true '\n'), List.splitOn_eq_splitOnP]

theorem lines_append_of_not_mem {front text piece : Text} {rest : List Text} (h : '\n' ∉ front)
    (hlines : lines text = piece :: rest) : lines (front ++ text) = (front ++ piece) :: rest := by
  obtain ⟨before, x, y, back, hfront, htext, hall⟩ := exists_lines_append front text
  rw [lines_of_not_mem h] at hfront
  have hends : [] ++ [front] = before ++ [x] := hfront
  obtain ⟨rfl, hx⟩ := List.append_inj' hends rfl
  obtain rfl := List.singleton_inj.mp hx
  rw [hlines] at htext
  obtain ⟨rfl, rfl⟩ := List.cons.inj htext
  exact hall

/-! ### Blank lines -/

theorem map_trim_lines_of_blank {text : Text} (h : ∀ c ∈ text, isBlank c = true) :
    (lines text).map trim = List.replicate (lines text).length [] := by
  rw [List.map_eq_replicate_iff]
  intro piece hp
  refine trim_eq_nil_iff.mpr fun c hc => h c ?_
  rw [← unlines_lines text]
  exact mem_unlines_of_mem hp hc

theorem exists_map_trim_blank_append {front : Text} (h : ∀ c ∈ front, isBlank c = true)
    (text : Text) :
    ∃ n, (lines (front ++ text)).map trim = List.replicate n [] ++ (lines text).map trim := by
  obtain ⟨before, x, y, back, hfront, htext, hall⟩ := exists_lines_append front text
  have hblank := map_trim_lines_of_blank h
  rw [hfront, List.map_append, List.length_append, ← List.replicate_append_replicate] at hblank
  obtain ⟨hbefore, -⟩ := List.append_inj hblank (by simp)
  have hx : ∀ c ∈ x, isBlank c = true := by
    intro c hc
    refine h c ?_
    rw [← unlines_lines front, hfront]
    exact mem_unlines_of_mem (List.mem_append_right _ List.mem_cons_self) hc
  refine ⟨before.length, ?_⟩
  rw [hall, htext, List.map_append, hbefore, List.map_cons, trim_append_of_blank hx, List.map_cons]

theorem exists_map_trim_append_blank {back : Text} (h : ∀ c ∈ back, isBlank c = true)
    (text : Text) :
    ∃ n, (lines (text ++ back)).map trim = (lines text).map trim ++ List.replicate n [] := by
  obtain ⟨front, x, y, behind, htext, hback, hall⟩ := exists_lines_append text back
  have hblank := map_trim_lines_of_blank h
  rw [hback, List.map_cons, List.length_cons, List.replicate_succ] at hblank
  obtain ⟨hy, hbehind⟩ := List.cons.inj hblank
  refine ⟨behind.length, ?_⟩
  rw [hall, htext, List.map_append, List.map_append, List.map_cons, hbehind,
    trim_append_of_blank_right (trim_eq_nil_iff.mp hy), List.append_assoc]
  rfl

/-- Lines that neither begin nor end with an empty one, or a single empty line. -/
inductive Tight : List Text → Prop
  | blank : Tight [[]]
  | ends {pieces : List Text} : pieces ≠ [] → (∀ piece ∈ pieces.head?, piece ≠ []) →
      (∀ piece ∈ pieces.getLast?, piece ≠ []) → Tight pieces

theorem Tight.ne_nil {pieces : List Text} (h : Tight pieces) : pieces ≠ [] := by
  cases h with
  | blank => exact List.cons_ne_nil _ _
  | ends hne _ _ => exact hne

theorem trim_ne_nil_of_mem {piece : Text} {c : Char} (h : c ∈ piece) (hc : isBlank c = false) :
    trim piece ≠ [] := by
  intro htrim
  exact Bool.noConfusion (hc.symm.trans (trim_eq_nil_iff.mp htrim c h))

theorem mem_first_line {text piece : Text} {rest : List Text} {c : Char}
    (hlines : lines text = piece :: rest) (h : text.head? = some c) (hc : c ≠ '\n') : c ∈ piece := by
  have htext : unlines (piece :: rest) = text := by rw [← hlines, unlines_lines]
  cases piece with
  | nil =>
    -- behind an empty first line the text would begin with a line feed
    rw [← htext] at h
    cases rest with
    | nil => exact absurd h (by simp)
    | cons next rest =>
      rw [unlines_cons_cons] at h
      exact absurd (Option.some.inj h).symm hc
  | cons d others =>
    rw [← htext, head?_unlines (List.cons_ne_nil d others)] at h
    exact List.mem_of_head? h

theorem mem_last_line {text piece : Text} {front : List Text} {c : Char}
    (hlines : lines text = front ++ [piece]) (h : text.getLast? = some c) (hc : c ≠ '\n') :
    c ∈ piece := by
  have htext : unlines (front ++ [piece]) = text := by rw [← hlines, unlines_lines]
  cases piece with
  | nil =>
    rw [← htext] at h
    cases front with
    | nil => exact absurd h (by simp)
    | cons first others =>
      rw [unlines_append (List.cons_ne_nil _ _) (List.cons_ne_nil _ _), unlines_singleton,
        List.getLast?_append] at h
      exact absurd (Option.some.inj h).symm hc
  | cons d others =>
    rw [← htext, getLast?_unlines (List.cons_ne_nil d others)] at h
    exact List.mem_of_getLast? h

/-- The lines of a trimmed text begin and end with what it begins and ends with. -/
theorem tight_lines_trim (text : Text) : Tight ((lines (trim text)).map trim) := by
  have hfeed : ∀ {c : Char}, isBlank c = false → c ≠ '\n' := by
    rintro c hc rfl
    exact absurd hc (by decide)
  by_cases hnil : trim text = []
  · rw [hnil]
    exact .blank
  · refine .ends (by simp [lines_ne_nil]) ?_ ?_
    · obtain ⟨first, hfirst⟩ := Option.isSome_iff_exists.mp (List.isSome_head?.mpr hnil)
      have hblank := isBlank_head?_trim hfirst
      obtain ⟨y, rest, hlines⟩ := List.exists_cons_of_ne_nil (lines_ne_nil (trim text))
      rw [hlines, List.map_cons, List.head?_cons]
      rintro piece ⟨⟩
      exact trim_ne_nil_of_mem (mem_first_line hlines hfirst (hfeed hblank)) hblank
    · obtain ⟨last, hlast⟩ := Option.isSome_iff_exists.mp (List.getLast?_isSome.mpr hnil)
      have hblank := isBlank_getLast?_trim hlast
      obtain ⟨front, x, hlines⟩ :=
        List.eq_nil_or_concat' _ |>.resolve_left (lines_ne_nil (trim text))
      rw [hlines, List.map_append, List.map_singleton, List.getLast?_concat]
      rintro piece ⟨⟩
      exact trim_ne_nil_of_mem (mem_last_line hlines hlast (hfeed hblank)) hblank

/-- The trimmed lines of a text are those of the trimmed text between blank ones. -/
theorem exists_map_trim_lines (text : Text) : ∃ n m, (lines text).map trim =
    List.replicate n [] ++ (lines (trim text)).map trim ++ List.replicate m [] := by
  obtain ⟨front, back, htext, hfront, hback⟩ := exists_trim text
  obtain ⟨n, hn⟩ := exists_map_trim_blank_append hfront (trim text)
  obtain ⟨m, hm⟩ := exists_map_trim_append_blank hback (front ++ trim text)
  rw [← htext] at hm
  exact ⟨n, m, hm.trans (congrArg (· ++ List.replicate m []) hn)⟩

/-! ### Empty lines around others -/

theorem unlines_replicate_append (n : Nat) {pieces : List Text} (h : pieces ≠ []) :
    unlines (List.replicate n [] ++ pieces) = List.replicate n '\n' ++ unlines pieces := by
  induction n with
  | zero => rfl
  | succ n ih =>
    obtain ⟨next, rest, hnext⟩ := List.exists_cons_of_ne_nil
      (List.append_ne_nil_of_right_ne_nil (List.replicate n []) h)
    rw [List.replicate_succ, List.cons_append, hnext, unlines_cons_cons, ← hnext, ih]
    rfl

theorem unlines_append_replicate (n : Nat) {pieces : List Text} (h : pieces ≠ []) :
    unlines (pieces ++ List.replicate n []) = unlines pieces ++ List.replicate n '\n' := by
  induction n with
  | zero => simp
  | succ n ih =>
    rw [List.replicate_succ', ← List.append_assoc,
      unlines_append (List.append_ne_nil_of_left_ne_nil h _) (List.cons_ne_nil _ _), ih,
      unlines_singleton, List.append_assoc, List.replicate_succ']

/-- Line feeds come off around lines that begin and end with one that is not empty. -/
theorem stripWhere_unlines_surrounded (n m : Nat) {pieces : List Text} (h : Tight pieces)
    (hfeed : ∀ piece ∈ pieces, '\n' ∉ piece) :
    stripWhere (· == '\n') (unlines (List.replicate n [] ++ pieces ++ List.replicate m [])) =
      unlines pieces := by
  have hfeeds : ∀ n, ∀ c ∈ List.replicate n '\n', (c == '\n') = true := by
    intro n c hc
    exact beq_iff_eq.mpr (List.eq_of_mem_replicate hc)
  have hpiece : ∀ piece ∈ pieces, ∀ c ∈ piece, (c == '\n') = false := by
    intro piece hp c hc
    rw [beq_eq_false_iff_ne]
    rintro rfl
    exact hfeed piece hp hc
  rw [List.append_assoc, unlines_replicate_append n (by simp [h.ne_nil]),
    unlines_append_replicate m h.ne_nil, ← List.append_assoc]
  refine stripWhere_surrounded (hfeeds n) (hfeeds m) ?_ ?_
  · intro c hc
    cases h with
    | blank => exact absurd hc (by simp)
    | ends hne hfirst _ =>
      obtain ⟨first, rest, rfl⟩ := List.exists_cons_of_ne_nil hne
      rw [head?_unlines (hfirst first rfl)] at hc
      exact hpiece first List.mem_cons_self c (List.mem_of_head? hc)
  · intro c hc
    cases h with
    | blank => exact absurd hc (by simp)
    | ends hne _ hlast =>
      obtain ⟨front, last, rfl⟩ := List.eq_nil_or_concat' pieces |>.resolve_left hne
      rw [getLast?_unlines (hlast last (by simp))] at hc
      exact hpiece last (by simp) c (List.mem_of_getLast? hc)

/-- Trimming a text takes the empty ones off the ends of its trimmed lines, and does nothing else to
them. -/
theorem map_trim_lines_trim (text : Text) : (lines (trim text)).map trim =
    lines (stripWhere (· == '\n') (unlines ((lines text).map trim))) := by
  have hfeed : ∀ piece ∈ (lines (trim text)).map trim, '\n' ∉ piece := by
    intro piece hp hm
    obtain ⟨line, hl, rfl⟩ := List.mem_map.mp hp
    exact not_mem_of_mem_lines hl (mem_of_mem_trim hm)
  have htight := tight_lines_trim text
  obtain ⟨n, m, hall⟩ := exists_map_trim_lines text
  rw [hall, stripWhere_unlines_surrounded n m htight hfeed, lines_unlines htight.ne_nil hfeed]

end SessionReplay.Text
