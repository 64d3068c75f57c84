import SessionReplay.Proofs.Layout.Expression

/-!
# The properties of a value

A value that is written sets the properties of all dictionaries in it. `Value.properties` lists them in
order, each with the number of objects around it, and the expression for the value sets just these, in
as many blocks more than there are around the expression.
-/

namespace SessionReplay

open Brackets (Plain)

namespace Value

mutual

/-- Plain data whose keys are plain names, and whose texts are plain where they name the members of an
enumeration. All other texts are free. -/
def isNamed (option : Text) : Value → Bool
  | .null | .bool _ | .int _ | .float _ => true
  | .text t => decide (option ∈ Program.enumOptions → Plain t)
  | .list items => areNamed option items
  | .dict entries => entriesAreNamed entries
  | _ => false
termination_by structural value => value

def areNamed (option : Text) : List Value → Bool
  | [] => true
  | item :: rest => isNamed option item && areNamed option rest
termination_by structural items => items

def entriesAreNamed : List (Value × Value) → Bool
  | [] => true
  | (.text key, value) :: rest =>
    decide (Program.IsPlainName key) && isNamed key value && entriesAreNamed rest
  | _ :: _ => false
termination_by structural entries => entries

end

mutual

/-- The properties that a value sets when it is written, each with the number of objects around it. -/
def properties : Value → List (Nat × Text)
  | .list items => itemProperties items
  | .dict entries => Program.within 1 (entryProperties entries)
  | _ => []
termination_by structural value => value

def itemProperties : List Value → List (Nat × Text)
  | [] => []
  | item :: rest => properties item ++ itemProperties rest
termination_by structural items => items

def entryProperties : List (Value × Value) → List (Nat × Text)
  | [] => []
  | (.text key, value) :: rest =>
    (0, Program.propertyName key) :: properties value ++ entryProperties rest
  | _ :: rest => entryProperties rest
termination_by structural entries => entries

end

theorem entriesAreNamed_filter {entries : List (Value × Value)} (p : Value × Value → Bool)
    (h : entriesAreNamed entries = true) : entriesAreNamed (entries.filter p) = true := by
  induction entries with
  | nil => rfl
  | cons entry rest ih =>
    obtain ⟨key, value⟩ := entry
    cases key with
    | text key =>
      obtain ⟨hentry, hrest⟩ := (Bool.and_eq_true _ _).mp h
      rw [List.filter_cons]
      split
      · exact (Bool.and_eq_true _ _).mpr ⟨hentry, ih hrest⟩
      · exact ih hrest
    | _ => exact absurd h (by simp [entriesAreNamed])

end Value

namespace Program

open Value (properties itemProperties entryProperties)

theorem within_within (opened inner : Nat) (set : List (Nat × Text)) :
    within opened (within inner set) = within (opened + inner) set := by
  simp [within, List.map_map, Function.comp_def, Nat.add_assoc]

theorem feed_not_mem_numberSuffix (option : Text) : '\n' ∉ numberSuffix option := by
  unfold numberSuffix
  split <;> decide

theorem feed_not_mem_doubleLiteral (x : Double) : '\n' ∉ doubleLiteral x := by
  unfold doubleLiteral
  split
  · decide
  · split <;> decide
  · cases exactInt? x with
    | none => exact (plain_numeral (IsNumeral.numeral x)).feed_not_mem
    | some n => exact (plain_numeral (IsNumeral.ofInt n)).feed_not_mem

theorem feed_not_mem_textLiteral {option text : Text} (ho : NamesClass option)
    (h : option ∈ enumOptions → Plain text) : '\n' ∉ textLiteral option text := by
  unfold textLiteral
  split
  next henum => simp [ho.feed, (plain_memberName (h henum)).feed_not_mem]
  next => exact Text.not_mem_quoted text

/-- Items are written between marks, each of them in the blocks that are around all. -/
theorem Spans.join_cons {opened : Nat} {set more : List (Nat × Text)} {item : Text}
    {items : List Text} (h : Spans opened set item) (hi : Spans opened more (Text.join ", " items))
    (hnil : items = [] → more = []) : Spans opened (set ++ more) (Text.join ", " (item :: items)) := by
  cases items with
  | nil =>
    rw [hnil rfl, List.append_nil, Text.join_singleton]
    exact h
  | cons next rest =>
    have hcomma : Spans opened [] (", " : Text) := .line (by decide)
    rw [Text.join_cons_cons]
    have hfront := h.append hcomma
    rw [List.append_nil] at hfront
    exact hfront.append hi

theorem spans_arrayLiteral {opened : Nat} {set : List (Nat × Text)} {items : List Text}
    (h : Spans opened set (Text.join ", " items)) (hnil : items = [] → set = []) :
    Spans opened set (arrayLiteral items) := by
  cases items with
  | nil =>
    rw [hnil rfl]
    exact .line (by decide)
  | cons first rest =>
    have hopen : Spans opened [] ("new[] \x7b " : Text) := .line (by decide)
    have hclose : Spans opened [] (" \x7d" : Text) := .line (by decide)
    have hall := (hopen.append h).append hclose
    rw [List.nil_append, List.append_nil] at hall
    exact hall

mutual

theorem spans_literal {option text : Text} (ho : NamesClass option) : (value : Value) →
    value.isNamed option = true → (opened : Nat) → literal defaultIndent option value = .ok text →
    Spans opened (within opened value.properties) text
  | .null, _, _, h => by
    obtain rfl := Except.ok.inj h
    exact .line (by decide)
  | .bool b, _, _, h => by
    obtain rfl := Except.ok.inj h
    exact .line (by cases b <;> decide)
  | .text t, hv, _, h => by
    obtain rfl := Except.ok.inj h
    exact .line (feed_not_mem_textLiteral ho (of_decide_eq_true hv))
  | .int n, _, _, h => by
    obtain ⟨numeral, hn, h⟩ := exists_of_bind_eq_ok h
    obtain rfl := Except.ok.inj h
    have hnumeral : '\n' ∉ numeral := (plain_numeral (isNumeral_of_intLiteral hn)).feed_not_mem
    exact .line (by simp [hnumeral, feed_not_mem_numberSuffix])
  | .float x, _, _, h => by
    simp only [literal] at h
    split at h
    · exact absurd h (by simp)
    · obtain rfl := Except.ok.inj h
      exact .line (by simp [feed_not_mem_doubleLiteral, feed_not_mem_numberSuffix])
  | .list items, hv, opened, h => by
    obtain ⟨texts, ht, h⟩ := exists_of_bind_eq_ok h
    obtain rfl := Except.ok.inj h
    obtain ⟨hspans, hnil⟩ := spans_itemLiterals ho items hv opened ht
    exact spans_arrayLiteral hspans hnil
  | .dict entries, hv, opened, h => by
    obtain ⟨texts, ht, h⟩ := exists_of_bind_eq_ok h
    obtain rfl := Except.ok.inj h
    obtain ⟨lines, hlines⟩ := exists_lines_settingLiterals entries hv opened ht
    rw [properties, within_within]
    exact spans_objectLiteral ho hlines
termination_by structural value => value

theorem spans_itemLiterals {option : Text} {texts : List Text} (ho : NamesClass option) :
    (items : List Value) → Value.areNamed option items = true → (opened : Nat) →
    itemLiterals defaultIndent option items = .ok texts →
    Spans opened (within opened (itemProperties items)) (Text.join ", " texts) ∧
      (texts = [] → within opened (itemProperties items) = [])
  | [], _, _, h => by
    obtain rfl := Except.ok.inj h
    exact ⟨.line (by decide), fun _ => rfl⟩
  | item :: rest, hv, opened, h => by
    obtain ⟨first, hfirst, h⟩ := exists_of_bind_eq_ok h
    obtain ⟨others, hothers, h⟩ := exists_of_bind_eq_ok h
    obtain rfl := Except.ok.inj h
    obtain ⟨hitem, hrest⟩ := (Bool.and_eq_true _ _).mp hv
    obtain ⟨hspans, hnil⟩ := spans_itemLiterals ho rest hrest opened hothers
    refine ⟨?_, fun he => absurd he (List.cons_ne_nil _ _)⟩
    rw [itemProperties, within_append]
    exact (spans_literal ho item hitem opened hfirst).join_cons hspans hnil
termination_by structural items => items

theorem exists_lines_settingLiterals {texts : List Text} : (entries : List (Value × Value)) →
    Value.entriesAreNamed entries = true → (opened : Nat) →
    settingLiterals defaultIndent entries = .ok texts →
    ∃ lines, SettingLines (opened + 1) (within (opened + 1) (entryProperties entries)) texts lines
  | [], _, _, h => by
    obtain rfl := Except.ok.inj h
    exact ⟨[], .nil⟩
  | (key, value) :: rest, hv, opened, h => by
    cases key with
    | text key =>
      obtain ⟨names, hnames, h⟩ := exists_of_bind_eq_ok h
      obtain rfl := Except.ok.inj hnames
      obtain ⟨first, hfirst, h⟩ := exists_of_bind_eq_ok h
      obtain ⟨others, hothers, h⟩ := exists_of_bind_eq_ok h
      obtain rfl := Except.ok.inj h
      simp only [Value.entriesAreNamed, Bool.and_eq_true, decide_eq_true_eq] at hv
      obtain ⟨⟨hkey, hvalue⟩, hrest⟩ := hv
      have hspans := spans_literal (namesClass_of_isPlainName hkey) value hvalue (opened + 1) hfirst
      obtain ⟨lines, hlines⟩ :=
        exists_settingLines (Nat.succ_pos opened) (isPlainName_propertyName hkey) hspans
      obtain ⟨more, hmore⟩ := exists_lines_settingLiterals rest hrest opened hothers
      refine ⟨lines ++ more, ?_⟩
      rw [entryProperties, within_append]
      exact hlines.append hmore
    | _ => exact absurd hv (by simp [Value.entriesAreNamed])
termination_by structural entries => entries

end

end Program
end SessionReplay
