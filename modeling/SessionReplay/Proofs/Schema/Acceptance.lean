import Mathlib.Data.List.Forall2
import SessionReplay.Schema.Session
import SessionReplay.Value.Equality

/-!
# Accepted readings

A reading that is made of others is accepted exactly if all of these are, and yields what is made of
what they yield. A field is read from what its key is set to, so setting another key does not
change it.
-/

namespace SessionReplay

namespace Checked

variable {α β : Type}

theorem map_eq_accepted_iff {f : α → β} {x : Checked α} {b : β} :
    f <$> x = .accepted b ↔ ∃ a, x = .accepted a ∧ f a = b := by
  cases x <;> simp [Functor.map, map]

theorem seq_eq_accepted_iff {f : Checked (α → β)} {x : Checked α} {b : β} :
    f <*> x = .accepted b ↔ ∃ g a, f = .accepted g ∧ x = .accepted a ∧ g a = b := by
  cases f <;> cases x <;> simp [Seq.seq, both]

theorem seqLeft_eq_accepted_iff {x : Checked α} {y : Checked β} {a : α} :
    x <* y = .accepted a ↔ x = .accepted a ∧ ∃ b, y = .accepted b := by
  cases x <;> cases y <;> simp [SeqLeft.seqLeft, both, map]

theorem under_eq_accepted_iff {locus : Locus} {x : Checked α} {a : α} :
    x.under locus = .accepted a ↔ x = .accepted a := by
  cases x <;> simp [under]

theorem andThen_eq_accepted_iff {x : Checked α} {f : α → Checked β} {b : β} :
    x.andThen f = .accepted b ↔ ∃ a, x = .accepted a ∧ f a = .accepted b := by
  cases x <;> simp [andThen]

theorem exists_ofFaults_iff {faults : List Fault} :
    (∃ u, ofFaults faults = .accepted u) ↔ faults = [] := by
  cases faults <;> simp [ofFaults]

end Checked

theorem Entries.closed_eq_accepted_iff {α : Type} {entries : Entries} {known : List Text}
    {fields : Checked α} {a : α} :
    entries.closed known fields = .accepted a ↔
      fields = .accepted a ∧ entries.extraFaults known = [] := by
  rw [closed, Checked.seqLeft_eq_accepted_iff, Checked.exists_ofFaults_iff]

theorem mem_of_lookup {β : Type} {entries : List (Text × β)} {name : Text} {value : β}
    (h : entries.lookup name = some value) : (name, value) ∈ entries := by
  obtain ⟨before, behind, rfl, -⟩ := List.lookup_eq_some_iff.mp h
  exact List.mem_append_right _ List.mem_cons_self

theorem checkItems_eq_accepted_iff {α : Type} {check : Value → Checked α} {place : Nat}
    {items : List Value} {results : List α} :
    checkItems check place items = .accepted results ↔
      List.Forall₂ (fun item result => check item = .accepted result) items results := by
  induction items generalizing place results with
  | nil => cases results <;> simp [checkItems]
  | cons item rest ih =>
    rw [checkItems, Checked.seq_eq_accepted_iff]
    constructor
    · rintro ⟨_, others, hitem, hrest, rfl⟩
      obtain ⟨result, hresult, rfl⟩ := Checked.map_eq_accepted_iff.mp hitem
      exact .cons (Checked.under_eq_accepted_iff.mp hresult) (ih.mp hrest)
    · rintro (_ | ⟨hitem, hrest⟩)
      exact ⟨_, _, Checked.map_eq_accepted_iff.mpr ⟨_, Checked.under_eq_accepted_iff.mpr hitem, rfl⟩,
        ih.mpr hrest, rfl⟩

/-! ### Setting a key -/

namespace Value

theorem same_text_iff {key : Text} {value : Value} :
    same (.text key) value = true ↔ value = .text key := by
  cases value with
  | text t =>
    rw [same, sameLeaf, beq_iff_eq, Value.text.injEq]
    · exact eq_comm
    all_goals simp
  | _ => simp [same, sameLeaf, asInt?]

theorem get?_insert (entries : Entries) (key name : Text) (value : Value) :
    Entries.get? (insert (.text key) value entries) name =
      if key = name then some value else Entries.get? entries name := by
  induction entries with
  | nil => by_cases h : key = name <;> simp [insert, Entries.get?, h]
  | cons entry rest ih =>
    unfold insert
    split
    next hsame =>
      obtain ⟨other, old⟩ := entry
      obtain rfl := same_text_iff.mp hsame
      by_cases h : key = name <;> simp [Entries.get?, h]
    next hother =>
      obtain ⟨other, old⟩ := entry
      unfold Entries.get? at ih ⊢
      rw [List.findSome?_cons, List.findSome?_cons, ih]
      cases other with
      | text other =>
        have hne : other ≠ key := fun he => hother (same_text_iff.mpr (by rw [he]))
        by_cases h : other = name
        · have hkey : key ≠ name := fun he => hne (h.trans he.symm)
          simp [h, hkey]
        · simp [h]
      | _ => rfl

/-- Which keys are no fields is not a matter of what they are set to. -/
theorem extraFaults_insert (known : List Text) (entries : Entries) (key : Text) (value other : Value) :
    Entries.extraFaults known (insert (.text key) value entries) =
      Entries.extraFaults known (insert (.text key) other entries) := by
  induction entries with
  | nil => rfl
  | cons entry rest ih =>
    unfold insert
    unfold Entries.extraFaults at ih ⊢
    split
    · rw [List.filterMap_cons, List.filterMap_cons]
      obtain ⟨name, old⟩ := entry
      cases name <;> rfl
    · rw [List.filterMap_cons, List.filterMap_cons, ih]

end Value

end SessionReplay
