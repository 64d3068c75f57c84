import SessionReplay.Program.Literal
import SessionReplay.Proofs.Result
import SessionReplay.Proofs.Text.UpperCase

/-!
# Members of enumerations

A member of an enumeration is named after the words of a text. How the words are separated in the
text does not matter, as long as something separates them, and no separator gets into the name.
-/

namespace SessionReplay.Program

def IsUnbroken (word : Text) : Prop := word ≠ [] ∧ ∀ c ∈ word, isWordBreak c = false

def IsGap (gap : Text) : Prop := ∀ c ∈ gap, isWordBreak c = true

instance (word : Text) : Decidable (IsUnbroken word) :=
  haveI := Text.decidableForallMem (fun c => isWordBreak c = false) word
  inferInstanceAs (Decidable (_ ∧ _))

instance (gap : Text) : Decidable (IsGap gap) := Text.decidableForallMem _ gap

/-- Words behind each other, a gap that is not empty between neighbours. -/
inductive Separated : List Text → Text → Prop
  | single {word : Text} : IsUnbroken word → Separated [word] word
  | cons {word gap text : Text} {pieces : List Text} : IsUnbroken word → IsGap gap → gap ≠ [] →
      Separated pieces text → Separated (word :: pieces) (word ++ gap ++ text)

/-- A text that words are written in, with or without gaps before and behind them. -/
inductive Spells : List Text → Text → Prop
  | blank {gap : Text} : IsGap gap → Spells [] gap
  | written {front text back : Text} {pieces : List Text} : IsGap front → Separated pieces text →
      IsGap back → Spells pieces (front ++ text ++ back)

/-! ### The words of a text -/

theorem words_append_cons {c : Char} (hc : isWordBreak c = true) (before behind : Text) :
    words (before ++ c :: behind) = words before ++ words behind := by
  rw [words, List.splitOnP_append_cons before behind hc, List.filter_append]
  rfl

theorem words_gap_append {gap : Text} (h : IsGap gap) (text : Text) :
    words (gap ++ text) = words text := by
  induction gap with
  | nil => rfl
  | cons c rest ih =>
    obtain ⟨hc, hrest⟩ := List.forall_mem_cons.mp h
    rw [List.cons_append, ← List.nil_append (c :: (rest ++ text)), words_append_cons hc, ih hrest]
    rfl

theorem words_gap {gap : Text} (h : IsGap gap) : words gap = [] := by
  rw [← List.append_nil gap, words_gap_append h]
  rfl

theorem words_append_gap {gap : Text} (h : IsGap gap) (text : Text) :
    words (text ++ gap) = words text := by
  cases gap with
  | nil => rw [List.append_nil]
  | cons c rest =>
    obtain ⟨hc, hrest⟩ := List.forall_mem_cons.mp h
    rw [words_append_cons hc, words_gap hrest, List.append_nil]

theorem words_unbroken {word : Text} (h : IsUnbroken word) : words word = [word] := by
  rw [words, List.splitOnP_eq_singleton h.2]
  simp [h.1]

/-- A gap that is not empty parts the words before it from those behind it. -/
theorem words_append_gap_append {gap : Text} (h : IsGap gap) (hne : gap ≠ []) (before behind : Text) :
    words (before ++ gap ++ behind) = words before ++ words behind := by
  obtain ⟨c, rest, rfl⟩ := List.exists_cons_of_ne_nil hne
  obtain ⟨hc, hrest⟩ := List.forall_mem_cons.mp h
  rw [List.append_assoc, List.cons_append, words_append_cons hc, words_gap_append hrest]

theorem Separated.words_eq {pieces : List Text} {text : Text} (h : Separated pieces text) :
    words text = pieces := by
  induction h with
  | single hword => exact words_unbroken hword
  | cons hword hgap hne _ ih =>
    rw [words_append_gap_append hgap hne, words_unbroken hword, ih]
    rfl

/-- The words that are written in a text are found in it, whatever separates them. -/
theorem Spells.words_eq {pieces : List Text} {text : Text} (h : Spells pieces text) :
    words text = pieces := by
  cases h with
  | blank hgap => exact words_gap hgap
  | written hfront hsep hback =>
    rw [words_append_gap hback, words_gap_append hfront, hsep.words_eq]

/-! ### The names of members -/

theorem isWordBreak_upper {c : Char} (h : isWordBreak c = false) :
    ∀ d ∈ Text.upper c, isWordBreak d = false := by
  intro d hd
  have hc : (c ≠ '-' ∧ c ≠ '_') ∧ Text.isBlank c = false := by simpa [isWordBreak] using h
  have hdash : d ≠ '-' := by
    rintro rfl
    exact hc.1.1 (Text.eq_of_mem_upper hd (by decide) (by decide) (by decide)).symm
  have hline : d ≠ '_' := by
    rintro rfl
    exact hc.1.2 (Text.eq_of_mem_upper hd (by decide) (by decide) (by decide)).symm
  simp [isWordBreak, hdash, hline, Text.isWord_upper hc.2 d hd]

theorem isWordBreak_memberName (text : Text) : ∀ c ∈ memberName text, isWordBreak c = false := by
  intro c hc
  obtain ⟨word, hword, hc⟩ := List.mem_flatMap.mp hc
  have hletters : ∀ d ∈ word, isWordBreak d = false := fun d hd =>
    (Text.of_mem_splitOnP (List.mem_filter.mp hword).1 d hd).2
  exact Text.forall_mem_capitalize isWordBreak_upper hletters c hc

theorem literal_text_of_mem (indent : Text) {option : Text} (ho : option ∈ enumOptions)
    (text : Text) :
    literal indent option (.text text) = .ok (className option ++ "." ++ memberName text) := by
  rw [literal, textLiteral, if_pos ho]

/-- A text of words is the member that is named after the words, each with a capital, whatever
separates them; and no word break gets into the name of a member. -/
theorem literal_member (indent : Text) {option : Text} (ho : option ∈ enumOptions) :
    (∀ pieces text, Spells pieces text → literal indent option (.text text) =
      .ok (className option ++ "." ++ pieces.flatMap Text.capitalize)) ∧
    ∀ text, literal indent option (.text text) =
      .ok (className option ++ "." ++ memberName text) ∧
        ∀ c ∈ memberName text, isWordBreak c = false := by
  refine ⟨fun pieces text h => ?_, fun text => ⟨literal_text_of_mem indent ho text, ?_⟩⟩
  · rw [literal_text_of_mem indent ho, memberName, h.words_eq]
  · exact isWordBreak_memberName text

/-- Gaps of several characters, one of them a no-break space. -/
theorem spells_mixed : Spells ["clipboard", "read"] "-_clipboard \u00A0-read\t" := by
  have hfront : IsGap "-_" := by decide
  have hclipboard : IsUnbroken "clipboard" := by decide
  have hgap : IsGap " \u00A0-" := by decide
  have hread : IsUnbroken "read" := by decide
  have hback : IsGap "\t" := by decide
  exact .written hfront (.cons hclipboard hgap (by decide) (.single hread)) hback

theorem literal_member_clipboard :
    literal defaultIndent "permissions" (.text "-_clipboard \u00A0-read\t") =
      .ok "ContextPermission.ClipboardRead" :=
  ((literal_member defaultIndent (by decide)).1 _ _ spells_mixed).trans (by decide +kernel)

end SessionReplay.Program
