import SessionReplay.Program.Literal
import SessionReplay.Proofs.Bracket.Scanner
import SessionReplay.Proofs.Program.Call
import SessionReplay.Proofs.Text.UpperCase

/-!
# Brackets of expressions

The expression for a value is closed, however deep the value is nested, if the texts that are not
quoted in it are plain: names of options, and texts that name members of an enumeration. Putting a
character in upper case does not make it a bracket, a quote or a slash.
-/

namespace SessionReplay

open Brackets

/-! ### Names -/

namespace Text

theorem plain_upper {c : Char} (h : c ∉ specials) : Plain (upper c) := by
  have hall : ∀ d ∈ specials, 0 < d.toNat ∧ d.toNat ≤ 0x7D ∧ ¬ (0x41 ≤ d.toNat ∧ d.toNat ≤ 0x5A) := by
    decide
  intro d hd hm
  obtain ⟨hpos, hle, hcapital⟩ := hall d hm
  rw [eq_of_mem_upper hd hpos hle hcapital] at hm
  exact h hm

theorem plain_capitalize {text : Text} (h : Plain text) : Plain (capitalize text) :=
  forall_mem_capitalize plain_upper h

end Text

namespace Program

theorem plain_of_lookup {names : List (Text × Text)} (hall : ∀ entry ∈ names, Plain entry.2)
    {name : Text} (h : Plain name) : Plain ((names.lookup name).getD (Text.capitalize name)) := by
  cases hl : names.lookup name with
  | none => exact Text.plain_capitalize h
  | some found =>
    obtain ⟨before, behind, hentry, -⟩ := List.lookup_eq_some_iff.mp hl
    exact hall (name, found) (by simp [hentry])

theorem plain_className {option : Text} (h : Plain option) : Plain (className option) :=
  plain_of_lookup (by decide) h

theorem plain_propertyName {option : Text} (h : Plain option) : Plain (propertyName option) :=
  plain_of_lookup (by decide) h

theorem plain_memberName {name : Text} (h : Plain name) : Plain (memberName name) := by
  intro c hc
  obtain ⟨word, hw, hc⟩ := List.mem_flatMap.mp hc
  have hword : Plain word := fun d hd =>
    h d (Text.of_mem_splitOnP (List.mem_filter.mp hw).1 d hd).1
  exact Text.plain_capitalize hword c hc

theorem plain_numeral {numeral : Text} (h : IsNumeral numeral) : Plain numeral := by
  have hall : ∀ c ∈ numeralChars, c ∉ specials := by decide
  intro c hc
  exact hall c (h c hc)

/-! ### Expressions -/

theorem closed_join {separator : Text} {pieces : List Text} (hs : Closed separator)
    (h : ∀ piece ∈ pieces, Closed piece) : Closed (Text.join separator pieces) := by
  induction pieces with
  | nil => exact .nil
  | cons piece rest ih =>
    have hpiece := h piece List.mem_cons_self
    cases rest with
    | nil =>
      rw [Text.join_singleton]
      exact hpiece
    | cons next rest =>
      rw [Text.join_cons_cons]
      exact (hpiece.append hs).append (ih fun p hp => h p (List.mem_cons_of_mem _ hp))

theorem closed_arrayLiteral {items : List Text} (h : ∀ item ∈ items, Closed item) :
    Closed (arrayLiteral items) := by
  cases items with
  | nil => exact fun _ => rfl
  | cons item rest =>
    have hjoined : Closed (Text.join ", " (item :: rest)) := closed_join (.of_plain (by decide)) h
    exact hjoined.within (fun _ => rfl) fun _ => rfl

theorem closed_emptyObject {option : Text} (h : Closed (className option)) :
    Closed (emptyObject option) := by
  have hnew : Closed "new " := .of_plain (by decide)
  have hcall : Closed "()" := fun _ => rfl
  unfold emptyObject
  split
  · exact .nil
  · split
    · exact hnew.append h
    · exact (hnew.append h).append hcall

theorem closed_objectLiteral {indent option : Text} {settings : List Text} (hi : Closed indent)
    (h : Closed (className option)) (hs : ∀ setting ∈ settings, Closed setting) :
    Closed (objectLiteral indent option settings) := by
  cases settings with
  | nil => exact closed_emptyObject h
  | cons first rest =>
    have hnew : Closed "new " := .of_plain (by decide)
    have hfeed : Closed "\n" := Closed.nil.feed
    have hopening : Closed (if option = [] then [] else "new " ++ className option ++ "\n") := by
      split
      · exact .nil
      · exact (hnew.append h).append hfeed
    have hinside : Closed
        (indent ++ Text.join ('\n' :: indent) (first :: rest) ++ "\n" ++ indent) :=
      ((hi.append (closed_join hi.feed hs)).append hfeed).append hi
    have hbraces : Closed ("\x7b\n" ++
        (indent ++ Text.join ('\n' :: indent) (first :: rest) ++ "\n" ++ indent) ++ "\x7d") :=
      hinside.within (fun _ => rfl) fun _ => rfl
    have hobject : objectLiteral indent option (first :: rest) =
        (if option = [] then [] else "new ".toList ++ className option ++ "\n".toList) ++
          ("\x7b\n".toList ++ (indent ++ Text.join ('\n' :: indent) (first :: rest) ++ "\n".toList ++
            indent) ++ "\x7d".toList) := by
      change _ ++ "\x7b\n".toList ++ indent ++ Text.join ('\n' :: indent) (first :: rest) ++
        "\n".toList ++ indent ++ "\x7d".toList = _
      simp only [List.append_assoc]
    rw [hobject]
    exact hopening.append hbraces

end Program

/-! ### Values -/

namespace Value

mutual

/-- A value that plain data can hold: no tuple or other tagged data, and texts as keys. -/
def isJson : Value → Bool
  | .null | .bool _ | .int _ | .float _ | .text _ => true
  | .list items => areJson items
  | .dict entries => entriesAreJson entries
  | _ => false
termination_by structural value => value

def areJson : List Value → Bool
  | [] => true
  | item :: rest => isJson item && areJson rest
termination_by structural items => items

def entriesAreJson : List (Value × Value) → Bool
  | [] => true
  | (.text _, value) :: rest => isJson value && entriesAreJson rest
  | _ :: _ => false
termination_by structural entries => entries

end

mutual

/-- The texts of a value that are written without quotes: the keys of dictionaries, and what is set
for an option whose texts name the members of an enumeration. -/
def copied (option : Text) : Value → List Text
  | .text t => if option ∈ Program.enumOptions then [t] else []
  | .list items => copiedItems option items
  | .dict entries => copiedEntries entries
  | _ => []
termination_by structural value => value

def copiedItems (option : Text) : List Value → List Text
  | [] => []
  | item :: rest => copied option item ++ copiedItems option rest
termination_by structural items => items

def copiedEntries : List (Value × Value) → List Text
  | [] => []
  | (.text key, value) :: rest => key :: copied key value ++ copiedEntries rest
  | _ :: rest => copiedEntries rest
termination_by structural entries => entries

end

end Value

namespace Program

theorem closed_textLiteral {option text : Text} (ho : Closed (className option))
    (h : option ∈ enumOptions → Plain text) : Closed (textLiteral option text) := by
  unfold textLiteral
  split
  next henum =>
    have hdot : Closed "." := .of_plain (by decide)
    exact (ho.append hdot).append (.of_plain (plain_memberName (h henum)))
  next => exact closed_quoted text

theorem closed_numberSuffix (option : Text) : Closed (numberSuffix option) := by
  unfold numberSuffix
  split
  · exact .of_plain (by decide)
  · exact .nil

theorem closed_doubleLiteral (x : Double) : Closed (doubleLiteral x) := by
  unfold doubleLiteral
  split
  · exact .of_plain (by decide)
  · split <;> exact .of_plain (by decide)
  · cases exactInt? x with
    | none => exact .of_plain (plain_numeral (IsNumeral.numeral x))
    | some n => exact .of_plain (plain_numeral (IsNumeral.ofInt n))

mutual

theorem closed_literal {indent option text : Text} (hi : Closed indent)
    (ho : Closed (className option)) : (value : Value) → value.isJson = true →
    (∀ part ∈ value.copied option, Plain part) → literal indent option value = .ok text →
    Closed text
  | .null, _, _, h => by
    obtain rfl := Except.ok.inj h
    exact .of_plain (by decide)
  | .bool b, _, _, h => by
    obtain rfl := Except.ok.inj h
    cases b <;> exact .of_plain (by decide)
  | .text t, _, hc, h => by
    obtain rfl := Except.ok.inj h
    apply closed_textLiteral ho
    intro henum
    exact hc t (by simp [Value.copied, henum])
  | .int n, _, _, h => by
    obtain ⟨numeral, hn, h⟩ := exists_of_bind_eq_ok h
    obtain rfl := Except.ok.inj h
    exact (Closed.of_plain (plain_numeral (isNumeral_of_intLiteral hn))).append
      (closed_numberSuffix option)
  | .float x, _, _, h => by
    simp only [literal] at h
    split at h
    · exact absurd h (by simp)
    · obtain rfl := Except.ok.inj h
      exact (closed_doubleLiteral x).append (closed_numberSuffix option)
  | .list items, hj, hc, h => by
    obtain ⟨texts, ht, h⟩ := exists_of_bind_eq_ok h
    obtain rfl := Except.ok.inj h
    exact closed_arrayLiteral (closed_itemLiterals hi ho items hj hc ht)
  | .dict entries, hj, hc, h => by
    obtain ⟨texts, ht, h⟩ := exists_of_bind_eq_ok h
    obtain rfl := Except.ok.inj h
    exact closed_objectLiteral hi ho (closed_settingLiterals hi entries hj hc ht)
termination_by structural value => value

theorem closed_itemLiterals {indent option : Text} {texts : List Text} (hi : Closed indent)
    (ho : Closed (className option)) : (items : List Value) → Value.areJson items = true →
    (∀ part ∈ Value.copiedItems option items, Plain part) →
    itemLiterals indent option items = .ok texts → ∀ text ∈ texts, Closed text
  | [], _, _, h => by
    obtain rfl := Except.ok.inj h
    exact fun _ hm => absurd hm List.not_mem_nil
  | item :: rest, hj, hc, h => by
    obtain ⟨first, hfirst, h⟩ := exists_of_bind_eq_ok h
    obtain ⟨others, hothers, h⟩ := exists_of_bind_eq_ok h
    obtain rfl := Except.ok.inj h
    obtain ⟨hitem, hrest⟩ := (Bool.and_eq_true _ _).mp hj
    intro text hm
    rcases List.mem_cons.mp hm with rfl | hm
    · exact closed_literal hi ho item hitem (fun p hp => hc p (List.mem_append_left _ hp)) hfirst
    · exact closed_itemLiterals hi ho rest hrest (fun p hp => hc p (List.mem_append_right _ hp))
        hothers text hm
termination_by structural items => items

theorem closed_settingLiterals {indent : Text} {texts : List Text} (hi : Closed indent) :
    (entries : List (Value × Value)) → Value.entriesAreJson entries = true →
    (∀ part ∈ Value.copiedEntries entries, Plain part) →
    settingLiterals indent entries = .ok texts → ∀ text ∈ texts, Closed text
  | [], _, _, h => by
    obtain rfl := Except.ok.inj h
    exact fun _ hm => absurd hm List.not_mem_nil
  | (key, value) :: rest, hj, hc, h => by
    cases key with
    | text key =>
      obtain ⟨names, hnames, h⟩ := exists_of_bind_eq_ok h
      obtain rfl := Except.ok.inj hnames
      obtain ⟨first, hfirst, h⟩ := exists_of_bind_eq_ok h
      obtain ⟨others, hothers, h⟩ := exists_of_bind_eq_ok h
      obtain rfl := Except.ok.inj h
      obtain ⟨hvalue, hrest⟩ := (Bool.and_eq_true _ _).mp hj
      have hkey : Plain key := hc key List.mem_cons_self
      have hclass : Closed (className key) := .of_plain (plain_className hkey)
      have hset : Closed " = " := .of_plain (by decide)
      have hcomma : Closed "," := .of_plain (by decide)
      have hexpression : Closed first := closed_literal hi hclass value hvalue
        (fun p hp => hc p (List.mem_cons_of_mem _ (List.mem_append_left _ hp))) hfirst
      intro text hm
      rcases List.mem_cons.mp hm with rfl | hm
      · exact (((Closed.of_plain (plain_propertyName hkey)).append hset).append hexpression).append
          hcomma
      · exact closed_settingLiterals hi rest hrest
          (fun p hp => hc p (List.mem_cons_of_mem _ (List.mem_append_right _ hp))) hothers text hm
    | _ => exact absurd hj (by simp [Value.entriesAreJson])
termination_by structural entries => entries

end

end Program
end SessionReplay
