import Mathlib.Data.List.Forall2
import SessionReplay.Program.Literal
import SessionReplay.Proofs.Layout.Edit
import SessionReplay.Proofs.Result

/-!
# The indentation of expressions

An expression for an object is written with an indentation before its lines, and gathering it takes
that off again. Two indentations give texts that differ at the beginnings of lines and nowhere else:
`Reindented` follows both texts at once, character by character. So it does not matter for a program
which indentation its expressions are written with.
-/

namespace SessionReplay

namespace Text

/-- Two texts that are the same but for what stands behind their line feeds: there the one may have
`first` and the other `second`. -/
inductive Reindented (first second : Text) : Text → Text → Prop
  | nil : Reindented first second [] []
  | char (c : Char) {a b : Text} : Reindented first second a b →
      Reindented first second (c :: a) (c :: b)
  | feed {a b : Text} : Reindented first second a b →
      Reindented first second ('\n' :: (first ++ a)) ('\n' :: (second ++ b))

namespace Reindented

variable {first second a b c d : Text}

theorem refl (text : Text) : Reindented first second text text := by
  induction text with
  | nil => exact .nil
  | cons c rest ih => exact .char c ih

theorem append (h : Reindented first second a b) (h' : Reindented first second c d) :
    Reindented first second (a ++ c) (b ++ d) := by
  induction h with
  | nil => exact h'
  | char c _ ih => exact .char c ih
  | feed _ ih =>
    rw [List.cons_append, List.cons_append, List.append_assoc, List.append_assoc]
    exact .feed ih

theorem append_same (h : Reindented first second a b) (text : Text) :
    Reindented first second (a ++ text) (b ++ text) :=
  h.append (refl text)

theorem same_append (h : Reindented first second a b) (text : Text) :
    Reindented first second (text ++ a) (text ++ b) :=
  (refl text).append h

theorem join {pieces others : List Text} (separator : Text)
    (h : List.Forall₂ (Reindented first second) pieces others) :
    Reindented first second (Text.join separator pieces) (Text.join separator others) := by
  induction h with
  | nil => exact .nil
  | @cons piece other pieces others hpiece hrest ih =>
    cases hrest with
    | nil =>
      rw [join_singleton, join_singleton]
      exact hpiece
    | cons hnext hmore =>
      rw [join_cons_cons, join_cons_cons]
      exact (hpiece.append_same separator).append ih

theorem join_feed {pieces others : List Text}
    (h : List.Forall₂ (Reindented first second) pieces others) :
    Reindented first second (Text.join ('\n' :: first) pieces)
      (Text.join ('\n' :: second) others) := by
  induction h with
  | nil => exact .nil
  | @cons piece other pieces others hpiece hrest ih =>
    cases hrest with
    | nil =>
      rw [join_singleton, join_singleton]
      exact hpiece
    | cons hnext hmore =>
      rw [join_cons_cons, join_cons_cons, List.append_assoc, List.append_assoc]
      exact hpiece.append (.feed ih)

/-- The first lines are the same, and the others are once they are trimmed. -/
theorem exists_lines (h : Reindented first second a b)
    (hfirst : ∀ c ∈ first, isBlank c = true ∧ c ≠ '\n')
    (hsecond : ∀ c ∈ second, isBlank c = true ∧ c ≠ '\n') :
    ∃ piece rest others, lines a = piece :: rest ∧ lines b = piece :: others ∧
      rest.map trim = others.map trim := by
  induction h with
  | nil => exact ⟨[], [], [], rfl, rfl, rfl⟩
  | @char c a b _ ih =>
    obtain ⟨piece, rest, others, ha, hb, hrest⟩ := ih
    by_cases hc : c = '\n'
    · subst hc
      refine ⟨[], piece :: rest, piece :: others, ?_, ?_, congrArg (trim piece :: ·) hrest⟩
      · rw [lines_feed_cons, ha]
      · rw [lines_feed_cons, hb]
    · have hfeed : '\n' ∉ [c] := fun hm => hc (List.mem_singleton.mp hm).symm
      exact ⟨c :: piece, rest, others, lines_append_of_not_mem hfeed ha,
        lines_append_of_not_mem hfeed hb, hrest⟩
  | @feed a b _ ih =>
    obtain ⟨piece, rest, others, ha, hb, hrest⟩ := ih
    have hline : trim (first ++ piece) = trim (second ++ piece) := by
      rw [trim_append_of_blank fun c hc => (hfirst c hc).1,
        trim_append_of_blank fun c hc => (hsecond c hc).1]
    refine ⟨[], (first ++ piece) :: rest, (second ++ piece) :: others, ?_, ?_, ?_⟩
    · rw [lines_feed_cons, lines_append_of_not_mem (fun hm => (hfirst _ hm).2 rfl) ha]
    · rw [lines_feed_cons, lines_append_of_not_mem (fun hm => (hsecond _ hm).2 rfl) hb]
    · rw [List.map_cons, List.map_cons, hline, hrest]

theorem ofText_eq (h : Reindented first second a b)
    (hfirst : ∀ c ∈ first, isBlank c = true ∧ c ≠ '\n')
    (hsecond : ∀ c ∈ second, isBlank c = true ∧ c ≠ '\n') :
    Program.Lines.ofText a = Program.Lines.ofText b := by
  obtain ⟨piece, rest, others, ha, hb, hrest⟩ := h.exists_lines hfirst hsecond
  rw [Program.Lines.ofText, Program.Lines.ofText, map_trim_lines_trim, map_trim_lines_trim, ha, hb,
    List.map_cons, List.map_cons, hrest]

end Reindented
end Text

namespace Program

open Text (Reindented)

variable {first second : Text}

theorem reindented_arrayLiteral {items others : List Text}
    (h : List.Forall₂ (Reindented first second) items others) :
    Reindented first second (arrayLiteral items) (arrayLiteral others) := by
  cases h with
  | nil => exact .refl _
  | cons hitem hrest =>
    exact ((Reindented.join ", " (.cons hitem hrest)).same_append _).append_same _

/-- The indentation of an object stands behind its line feeds only. -/
theorem objectLiteral_cons_eq (indent option setting : Text) (rest : List Text) :
    objectLiteral indent option (setting :: rest) =
      (if option = [] then [] else "new ".toList ++ className option ++ "\n".toList) ++
        "\x7b".toList ++ '\n' :: (indent ++ (Text.join ('\n' :: indent) (setting :: rest) ++
          '\n' :: (indent ++ "\x7d".toList))) := by
  simp [objectLiteral]

theorem reindented_objectLiteral (option : Text) {settings others : List Text}
    (h : List.Forall₂ (Reindented first second) settings others) :
    Reindented first second (objectLiteral first option settings)
      (objectLiteral second option others) := by
  cases h with
  | nil => exact .refl _
  | cons hsetting hrest =>
    rw [objectLiteral_cons_eq, objectLiteral_cons_eq]
    have hclose : Reindented first second ('\n' :: (first ++ "\x7d".toList))
        ('\n' :: (second ++ "\x7d".toList)) := .feed (.refl _)
    exact (Reindented.feed ((Reindented.join_feed (.cons hsetting hrest)).append hclose)).same_append
      _

mutual

/-- With two indentations an expression cannot be written for one reason, or the texts differ in the
indentation alone. -/
theorem reindented_literal (option : Text) : (value : Value) →
    SameOutcome (Reindented first second) (literal first option value) (literal second option value)
  | .text _ => .ok (.refl _)
  | .bool _ => .ok (.refl _)
  | .null => .ok (.refl _)
  | .list items => (reindented_itemLiterals option items).bind fun h =>
      .ok (reindented_arrayLiteral h)
  | .tuple items => (reindented_itemLiterals option items).bind fun h =>
      .ok (reindented_arrayLiteral h)
  | .dict entries => (reindented_settingLiterals entries).bind fun h =>
      .ok (reindented_objectLiteral option h)
  | .ordered entries => (reindented_settingLiterals entries).bind fun h =>
      .ok (reindented_objectLiteral option h)
  | .float x => .refl .refl (literal second option (.float x))
  | .int n => .refl .refl (literal second option (.int n))
  | .bytes _ => .error _
  | .date _ => .error _
  | .moment _ => .error _
  | .set _ => .error _
termination_by structural value => value

theorem reindented_itemLiterals (option : Text) : (items : List Value) →
    SameOutcome (List.Forall₂ (Reindented first second)) (itemLiterals first option items)
      (itemLiterals second option items)
  | [] => .ok .nil
  | item :: rest => (reindented_literal option item).bind fun hitem =>
      (reindented_itemLiterals option rest).bind fun hrest => .ok (.cons hitem hrest)
termination_by structural items => items

theorem reindented_settingLiterals : (entries : List (Value × Value)) →
    SameOutcome (List.Forall₂ (Reindented first second)) (settingLiterals first entries)
      (settingLiterals second entries)
  | [] => .ok .nil
  | (key, value) :: rest => by
    refine (SameOutcome.refl (fun _ => rfl) (keyNames key) : SameOutcome Eq _ _).bind fun hnames => ?_
    subst hnames
    refine (reindented_literal _ value).bind fun hexpression => ?_
    refine (reindented_settingLiterals rest).bind fun hrest => .ok (.cons ?_ hrest)
    exact (hexpression.same_append _).append_same _
termination_by structural entries => entries

end

/-- Two texts of which each can stand for the other: they are gathered to the same lines, and statements
that hold them are rendered the same, whatever else is gathered. -/
structure Interchangeable (a b : Text) : Prop where
  add : ∀ buffer : Lines, Lines.add buffer a = Lines.add buffer b
  render : ∀ (before behind : List Edit) (front back : Text) (offset : Nat),
    Lines.render offset (Lines.ofEdits (before ++ .add (front ++ a ++ back) :: behind)) =
      Lines.render offset (Lines.ofEdits (before ++ .add (front ++ b ++ back) :: behind))

theorem interchangeable_of_ofText_eq {a b : Text}
    (h : ∀ front back : Text, Lines.ofText (front ++ a ++ back) = Lines.ofText (front ++ b ++ back)) :
    Interchangeable a b where
  add buffer := by
    have halone := h [] []
    rw [List.nil_append, List.append_nil, List.nil_append, List.append_nil] at halone
    rw [Lines.add, Lines.add, halone]
  render before behind front back offset := by
    rw [Lines.ofEdits, Lines.ofEdits, List.foldl_append, List.foldl_append, List.foldl_cons,
      List.foldl_cons, Lines.edit, Lines.edit, Lines.add, Lines.add, h front back]

/-- Whatever blanks the lines of an expression are indented with, it cannot be written for the same
reason, or the texts can stand for each other. -/
theorem literal_interchangeable (option : Text) (value : Value)
    (hfirst : ∀ c ∈ first, c = ' ' ∨ c = '\t') (hsecond : ∀ c ∈ second, c = ' ' ∨ c = '\t') :
    SameOutcome Interchangeable (literal first option value) (literal second option value) := by
  have hblank : ∀ c, c = ' ' ∨ c = '\t' → Text.isBlank c = true ∧ c ≠ '\n' := by
    rintro c (rfl | rfl)
    · decide
    · decide
  refine (reindented_literal option value).mono fun h => interchangeable_of_ofText_eq ?_
  intro front back
  exact ((h.same_append front).append_same back).ofText_eq (fun c hc => hblank c (hfirst c hc))
    fun c hc => hblank c (hsecond c hc)

/-- An object in a list in an object, with a line feed in a key and in a text. -/
def nestedSettings : Value :=
  .dict [(.text "a\n", .list [.dict [(.text "b", .text "c\nd")], .null])]

theorem literal_interchangeable_nested :
    (∀ c ∈ ("" : Text), c = ' ' ∨ c = '\t') ∧ (∀ c ∈ (" \t" : Text), c = ' ' ∨ c = '\t') ∧
      literal "" "proxy" nestedSettings ≠ literal " \t" "proxy" nestedSettings ∧
      SameOutcome Interchangeable (literal "" "proxy" nestedSettings)
        (literal " \t" "proxy" nestedSettings) :=
  ⟨by decide, by decide, by decide,
    literal_interchangeable "proxy" nestedSettings (by decide) (by decide)⟩

end Program
end SessionReplay
