import SessionReplay.Proofs.Program.Name
import SessionReplay.Proofs.Program.Number

/-!
# What an expression says

The form of a value is what is left of it in an expression: keys are properties, dictionaries have
classes, texts may be members of enumerations, and numbers have values. How an expression begins tells
which kind of form it is.
-/

namespace SessionReplay

inductive Form where
  | null
  | truth (b : Bool)
  | text (t : Text)
  /-- A member of an enumeration. -/
  | member (enumeration name : Text)
  | number (isDecimal : Bool) (amount : Amount)
  | list (items : List Form)
  /-- An object with the properties that are set; without a class it has the type that is expected. -/
  | object (ofClass : Option Text) (settings : List (Text × Form))

namespace Value

open Program (className propertyName memberName enumOptions decimalOptions)

mutual

/-- What is left of a value that an option is set to. -/
def form (option : Text) : Value → Form
  | .bool b => .truth b
  | .text t => if option ∈ enumOptions then .member (className option) (memberName t) else .text t
  | .int n => .number (decide (option ∈ decimalOptions)) (.ofInt n)
  | .float x => .number (decide (option ∈ decimalOptions)) x.amount
  | .list items | .tuple items => .list (itemForms option items)
  | .dict entries | .ordered entries =>
    .object (if option = [] then none else some (className option)) (settingForms entries)
  | .null | .bytes _ | .date _ | .moment _ | .set _ => .null
termination_by structural value => value

def itemForms (option : Text) : List Value → List Form
  | [] => []
  | item :: rest => form option item :: itemForms option rest
termination_by structural items => items

def settingForms : List (Value × Value) → List (Text × Form)
  | [] => []
  | (.text key, value) :: rest => (propertyName key, form key value) :: settingForms rest
  | _ :: rest => settingForms rest
termination_by structural entries => entries

end

mutual

/-- Plain data whose integers are written as integers, whose keys are identifiers, and whose texts are
words where they name the members of an enumeration. -/
def isRegular (option : Text) : Value → Bool
  | .null | .bool _ | .float _ => true
  | .int n => decide (n.natAbs ≤ Program.maxLong)
  | .text t => decide (option ∈ enumOptions → Program.IsMemberWords t)
  | .list items => areRegular option items
  | .dict entries => entriesAreRegular entries
  | _ => false
termination_by structural value => value

def areRegular (option : Text) : List Value → Bool
  | [] => true
  | item :: rest => isRegular option item && areRegular option rest
termination_by structural items => items

def entriesAreRegular : List (Value × Value) → Bool
  | [] => true
  | (.text key, value) :: rest =>
    decide (Program.IsName key ∧ key ≠ []) && isRegular key value && entriesAreRegular rest
  | _ :: _ => false
termination_by structural entries => entries

end

end Value

/-! ### Beginnings -/

/-- The kinds of forms that their beginnings tell apart. -/
inductive Lead where
  | null
  | truth
  | text
  | member
  | number
  | list
  | object
deriving DecidableEq

def Form.lead : Form → Lead
  | .null => .null
  | .truth _ => .truth
  | .text _ => .text
  | .member _ _ => .member
  | .number _ _ => .number
  | .list _ => .list
  | .object _ _ => .object

namespace Program

def leadOf : Text → Lead
  | '"' :: _ => .text
  | 'n' :: 'u' :: _ => .null
  | 'n' :: 'e' :: 'w' :: '[' :: _ => .list
  | 'n' :: 'e' :: 'w' :: ' ' :: 's' :: _ => .list
  | 't' :: _ => .truth
  | 'f' :: _ => .truth
  | c :: _ =>
    if c.isDigit ∨ c = '-' ∨ c = 'd' then .number else if c ∈ ("CKM" : Text) then .member else .object
  | [] => .object

/-- What can stand behind an expression: its end, a comma or a space. -/
def IsEnd (rest : Text) : Prop := ∀ c ∈ rest.head?, c ∈ (", " : Text)

theorem leadOf_number {c : Char} (hc : c.isDigit = true ∨ c = '-' ∨ c = 'd') (rest : Text) :
    leadOf (c :: rest) = .number := by
  have hno : ∀ d ∈ ("\"ntf" : Text), ∀ others, c :: rest ≠ d :: others := by
    intro d hd others h
    have hall : ∀ d ∈ ("\"ntf" : Text), ¬ (d.isDigit = true ∨ d = '-' ∨ d = 'd') := by decide
    exact hall d hd ((List.cons.inj h).1 ▸ hc)
  unfold leadOf
  split
  next h => exact absurd h (hno '"' (by decide) _)
  next h => exact absurd h (hno 'n' (by decide) _)
  next h => exact absurd h (hno 'n' (by decide) _)
  next h => exact absurd h (hno 'n' (by decide) _)
  next h => exact absurd h (hno 't' (by decide) _)
  next h => exact absurd h (hno 'f' (by decide) _)
  next h =>
    obtain ⟨rfl, -⟩ := List.cons.inj h
    exact if_pos hc
  next h => exact absurd h (List.cons_ne_nil _ _)

theorem leadOf_member {c : Char} (hc : c ∈ ("CKM" : Text)) (rest : Text) :
    leadOf (c :: rest) = .member := by
  rcases List.mem_cons.mp hc with rfl | hc
  · rfl
  rcases List.mem_cons.mp hc with rfl | hc
  · rfl
  rw [List.mem_singleton.mp hc]
  rfl

theorem leadOf_new {c : Char} (hc : c ∈ capitalChars) (rest : Text) :
    leadOf ("new ".toList ++ c :: rest) = .object := by
  have hs : c ≠ 's' := by
    rintro rfl
    exact absurd hc (by decide)
  simp [leadOf, hs]

theorem leadOf_end {rest : Text} (h : IsEnd rest) : leadOf rest = .object := by
  cases rest with
  | nil => rfl
  | cons c rest =>
    rcases List.mem_cons.mp (h c rfl) with rfl | hc
    · rfl
    · rw [List.mem_singleton.mp hc]
      rfl

theorem beginsIn_className_enum : ∀ option ∈ enumOptions, BeginsIn "CKM" (className option) := by
  decide +kernel

theorem leadOf_objectLiteral {indent option : Text} (ho : IsHint option) (settings : List Text)
    {rest : Text} (hr : IsEnd rest) :
    leadOf (objectLiteral indent option settings ++ rest) = .object := by
  by_cases hne : option = []
  · subst hne
    cases settings with
    | nil => exact leadOf_end hr
    | cons first others => rfl
  · obtain ⟨base, arguments, hclass, ⟨-, c, hc, hhead⟩, -⟩ := exists_className ho hne
    obtain ⟨others, hbase⟩ : ∃ others, base = c :: others :=
      List.head?_eq_some_iff.mp hhead
    have hnew : ∃ behind, objectLiteral indent option settings ++ rest =
        "new ".toList ++ c :: behind := by
      cases settings with
      | nil =>
        simp only [objectLiteral, emptyObject, if_neg hne, hclass, hbase]
        split
        · exact ⟨_, by rw [List.append_assoc]; rfl⟩
        · exact ⟨_, by rw [List.append_assoc, List.append_assoc]; rfl⟩
      | cons first more =>
        simp only [objectLiteral, if_neg hne, hclass, hbase, List.append_assoc]
        exact ⟨_, rfl⟩
    obtain ⟨behind, htext⟩ := hnew
    rw [htext, leadOf_new hc]

theorem leadOf_writesNumber {text rest : Text} {amount : Amount} (h : WritesNumber text amount) :
    leadOf (text ++ rest) = .number := by
  obtain ⟨c, others, rfl, hc⟩ := h.exists_cons
  exact leadOf_number hc _

/-! ### How values are written -/

inductive WrittenAs (indent option : Text) : Value → Text → Prop
  | null : WrittenAs indent option .null "null"
  | bool (b : Bool) : WrittenAs indent option (.bool b) (if b then "true".toList else "false".toList)
  | quoted {t : Text} : option ∉ enumOptions → WrittenAs indent option (.text t) t.quoted
  | member {t : Text} : option ∈ enumOptions → IsMemberWords t →
      WrittenAs indent option (.text t) (className option ++ "." ++ memberName t)
  | number {value : Value} {numeral : Text} {amount : Amount} : WritesNumber numeral amount →
      value.form option = .number (decide (option ∈ decimalOptions)) amount →
      WrittenAs indent option value (numeral ++ numberSuffix option)
  | list {items : List Value} {texts : List Text} : Value.areRegular option items = true →
      itemLiterals indent option items = .ok texts →
      WrittenAs indent option (.list items) (arrayLiteral texts)
  | dict {entries : List (Value × Value)} {texts : List Text} :
      Value.entriesAreRegular entries = true → settingLiterals indent entries = .ok texts →
      WrittenAs indent option (.dict entries) (objectLiteral indent option texts)

theorem writtenAs_of_literal {indent option text : Text} {value : Value}
    (hv : value.isRegular option = true) (h : literal indent option value = .ok text) :
    WrittenAs indent option value text := by
  cases value with
  | null =>
    obtain rfl := Except.ok.inj h
    exact .null
  | bool b =>
    obtain rfl := Except.ok.inj h
    exact .bool b
  | text t =>
    obtain rfl := Except.ok.inj h
    unfold textLiteral
    split
    next henum => exact .member henum (of_decide_eq_true hv henum)
    next henum => exact .quoted henum
  | int n =>
    obtain ⟨numeral, hn, h⟩ := exists_of_bind_eq_ok h
    obtain rfl := Except.ok.inj h
    exact .number (writesNumber_intLiteral (of_decide_eq_true hv) hn) rfl
  | float x =>
    simp only [literal] at h
    split at h
    · exact absurd h (by simp)
    · obtain rfl := Except.ok.inj h
      exact .number (writesNumber_doubleLiteral x) rfl
  | list items =>
    obtain ⟨texts, ht, h⟩ := exists_of_bind_eq_ok h
    obtain rfl := Except.ok.inj h
    exact .list hv ht
  | dict entries =>
    obtain ⟨texts, ht, h⟩ := exists_of_bind_eq_ok h
    obtain rfl := Except.ok.inj h
    exact .dict hv ht
  | _ => exact absurd hv (by simp [Value.isRegular])

/-- The beginning of an expression tells the kind of its form. -/
theorem WrittenAs.leadOf {indent option text rest : Text} {value : Value}
    (h : WrittenAs indent option value text) (ho : IsHint option) (hr : IsEnd rest) :
    leadOf (text ++ rest) = (value.form option).lead := by
  cases h with
  | null => rfl
  | bool b => cases b <;> rfl
  | quoted henum =>
    simp only [Value.form, if_neg henum]
    rfl
  | member henum _ =>
    obtain ⟨c, hc, hhead⟩ := beginsIn_className_enum option henum
    obtain ⟨others, hclass⟩ := List.head?_eq_some_iff.mp hhead
    simp only [Value.form, if_pos henum, hclass]
    exact leadOf_member hc _
  | number hnumber hform =>
    rw [hform, List.append_assoc]
    exact leadOf_writesNumber hnumber
  | @list items texts _ _ => cases texts <;> rfl
  | dict _ _ => exact leadOf_objectLiteral ho _ hr

end Program
end SessionReplay
