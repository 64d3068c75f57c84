import SessionReplay.Proofs.Schema.Acceptance

/-!
# Rejected readings

Data are never rejected without a fault that says why. This holds of a reading that is made of others
if it holds of all of these, so it goes up from the scalars to whole recordings.
-/

namespace SessionReplay

namespace Checked

variable {α β : Type}

/-- The reading is accepted, or at least one fault is found. -/
def Reasoned (x : Checked α) : Prop := x ≠ .rejected []

namespace Reasoned

theorem accepted (a : α) : Reasoned (.accepted a) := by
  intro h
  exact absurd h (by simp)

theorem fail (cause : Cause) : Reasoned (Checked.fail cause : Checked α) := by
  intro h
  exact absurd (rejected.inj h) (by simp)

theorem map {x : Checked α} (hx : x.Reasoned) (f : α → β) : (f <$> x).Reasoned := by
  cases x with
  | accepted a => exact accepted (f a)
  | rejected faults => exact fun h => hx (congrArg rejected (rejected.inj h))

theorem seq {f : Checked (α → β)} {x : Checked α} (hf : f.Reasoned) (hx : x.Reasoned) :
    (f <*> x).Reasoned := by
  cases f with
  | accepted f =>
    cases x with
    | accepted a => exact accepted (f a)
    | rejected faults => exact fun h => hx (congrArg rejected (rejected.inj h))
  | rejected first =>
    cases x with
    | accepted a => exact fun h => hf (congrArg rejected (rejected.inj h))
    | rejected second =>
      exact fun h => hf (congrArg rejected (List.append_eq_nil_iff.mp (rejected.inj h)).1)

theorem seqLeft {x : Checked α} {y : Checked β} (hx : x.Reasoned) (hy : y.Reasoned) :
    (x <* y).Reasoned :=
  (hx.map (Function.const β)).seq hy

theorem andThen {x : Checked α} {f : α → Checked β} (hx : x.Reasoned)
    (hf : ∀ a, x = .accepted a → (f a).Reasoned) : (x.andThen f).Reasoned := by
  cases x with
  | accepted a => exact hf a rfl
  | rejected faults => exact fun h => hx (congrArg rejected (rejected.inj h))

theorem under {x : Checked α} (hx : x.Reasoned) (locus : Locus) : (x.under locus).Reasoned := by
  cases x with
  | accepted a => exact accepted a
  | rejected faults =>
    exact fun h => hx (congrArg rejected (List.map_eq_nil_iff.mp (rejected.inj h)))

theorem ofFaults (faults : List Fault) : (Checked.ofFaults faults).Reasoned := by
  cases faults with
  | nil => exact accepted ()
  | cons fault rest => exact fun h => absurd (rejected.inj h) (by simp)

theorem ofExcept (x : Except Cause α) : (Checked.ofExcept x).Reasoned := by
  cases x with
  | ok a => exact accepted a
  | error cause => exact fail cause

end Reasoned
end Checked

open Checked

variable {α : Type}

/-! ### Fields and lists -/

theorem Entries.reasoned_required (entries : Entries) (name : Text) {check : Value → Checked α}
    (h : ∀ value, (check value).Reasoned) : (entries.required name check).Reasoned := by
  unfold required
  cases entries.get? name with
  | none => exact .under (.fail _) _
  | some value => exact .under (h value) _

theorem Entries.reasoned_optional (entries : Entries) (name : Text) (default : α)
    {check : Value → Checked α} (h : ∀ value, (check value).Reasoned) :
    (entries.optional name default check).Reasoned := by
  unfold optional
  cases entries.get? name with
  | none => exact .accepted _
  | some value => exact .under (h value) _

theorem Entries.reasoned_setting (entries : Entries) (name : Text) {check : Value → Checked α}
    (h : ∀ value, (check value).Reasoned) : (entries.setting name check).Reasoned :=
  entries.reasoned_optional name none fun value => (h value).map some

theorem Entries.reasoned_closed (entries : Entries) (known : List Text) {fields : Checked α}
    (h : fields.Reasoned) : (entries.closed known fields).Reasoned :=
  h.seqLeft (.ofFaults _)

theorem reasoned_checkModel (model : Text) {read : Entries → Checked α}
    (h : ∀ entries, (read entries).Reasoned) (value : Value) :
    (checkModel model read value).Reasoned := by
  unfold checkModel
  cases value.entries? with
  | none => exact .fail _
  | some entries => exact h entries

theorem reasoned_checkItems {check : Value → Checked α} (h : ∀ value, (check value).Reasoned)
    (place : Nat) (items : List Value) : (checkItems check place items).Reasoned := by
  induction items generalizing place with
  | nil => exact .accepted []
  | cons item rest ih => exact (((h item).under _).map _).seq (ih _)

theorem reasoned_checkList {check : Value → Checked α} (h : ∀ value, (check value).Reasoned)
    (value : Value) : (checkList check value).Reasoned := by
  unfold checkList
  split
  · exact reasoned_checkItems h 0 _
  · exact reasoned_checkItems h 0 _
  · exact reasoned_checkItems h 0 _
  · exact .fail _

theorem reasoned_checkEntries (done : Options) (entries : Entries) :
    (checkEntries done entries).Reasoned := by
  induction entries generalizing done with
  | nil => exact .accepted done
  | cons entry rest ih =>
    obtain ⟨key, value⟩ := entry
    have hkey : (checkKey key).Reasoned := .under (.under (.ofExcept _) _) _
    unfold checkEntries
    split
    next name _ => exact ih _
    next faults hfaults =>
      -- the key is at fault, whatever else is
      rw [hfaults] at hkey
      split
      · exact fun h => hkey (congrArg rejected (rejected.inj h))
      · exact fun h => hkey (congrArg rejected (List.append_eq_nil_iff.mp (rejected.inj h)).1)

theorem reasoned_checkOptions (value : Value) : (checkOptions value).Reasoned := by
  unfold checkOptions
  cases value.entries? with
  | none => exact .fail _
  | some entries => exact reasoned_checkEntries [] entries

theorem reasoned_checkTagged {kinds : List (Text × (Entries → Checked α))}
    (h : ∀ kind ∈ kinds, ∀ entries, (kind.2 entries).Reasoned) (value : Value) :
    (checkTagged kinds value).Reasoned := by
  unfold checkTagged
  split
  next entries _ =>
    split
    · exact .fail _
    next tag _ =>
      cases tag with
      | text name =>
        simp only
        cases hlookup : kinds.lookup name with
        | none => exact .fail _
        | some read => exact .under (h _ (mem_of_lookup hlookup) entries) _
      | _ => exact .fail _
  next => exact .fail _

/-! ### Signals, operations and steps -/

theorem reasoned_textField (value : Value) : (textField value).Reasoned := .ofExcept _

theorem reasoned_nullableField (value : Value) : (nullableField value).Reasoned := .ofExcept _

theorem reasoned_boolField (value : Value) : (boolField value).Reasoned := .ofExcept _

theorem reasoned_countField (bound : Nat) (value : Value) : (countField bound value).Reasoned :=
  .ofExcept _

theorem reasoned_checkTexts (value : Value) : (checkTexts value).Reasoned :=
  reasoned_checkList (fun _ => .ofExcept _) value

theorem reasoned_checkSignal (value : Value) : (checkSignal value).Reasoned := by
  apply reasoned_checkTagged
  intro kind hkind entries
  simp only [signalKinds, List.mem_cons, List.not_mem_nil, or_false] at hkind
  rcases hkind with rfl | rfl | rfl | rfl
  · exact entries.reasoned_closed _
      (((entries.reasoned_required _ reasoned_textField).map _).seq
        (entries.reasoned_optional _ _ reasoned_boolField))
  · exact entries.reasoned_closed _ ((entries.reasoned_required _ reasoned_textField).map _)
  · exact entries.reasoned_closed _ ((entries.reasoned_optional _ _ reasoned_textField).map _)
  · exact entries.reasoned_closed _ ((entries.reasoned_optional _ _ reasoned_textField).map _)

theorem reasoned_checkSignals (value : Value) : (checkSignals value).Reasoned := by
  apply Reasoned.andThen (reasoned_checkList reasoned_checkSignal value)
  intro signals _
  unfold distinctSignals
  split
  · exact .accepted _
  · exact .fail _

theorem reasoned_operation {kind : Text × List Text × (Entries → Checked Operation)}
    (hkind : kind ∈ operationKinds) (entries : Entries) : (kind.2.2 entries).Reasoned := by
  have htext : ∀ name, (entries.required name textField).Reasoned := fun name =>
    entries.reasoned_required name reasoned_textField
  simp only [operationKinds, List.mem_cons, List.not_mem_nil, or_false] at hkind
  rcases hkind with rfl | rfl | rfl | rfl | rfl | rfl | rfl | rfl | rfl | rfl
  · exact (entries.reasoned_optional _ _ reasoned_nullableField).map _
  · exact .accepted _
  · exact ((((htext _).map _).seq (entries.reasoned_optional _ _ fun _ => .ofExcept _)).seq
      (entries.reasoned_optional _ _ (reasoned_countField 0))).seq
      (entries.reasoned_optional _ _ (reasoned_countField 1)) |>.map _
  · exact (htext _).map _
  · exact (htext _).map _
  · exact ((htext _).map _).seq (htext _)
  · exact ((htext _).map _).seq (entries.reasoned_optional _ _ reasoned_checkTexts)
  · exact (((htext _).map _).seq (htext _)).seq
      (entries.reasoned_optional _ _ (reasoned_countField 0))
  · exact (htext _).map _
  · exact ((htext _).map _).seq (entries.reasoned_optional _ _ reasoned_checkTexts)

theorem reasoned_checkAction (value : Value) : (checkAction value).Reasoned := by
  apply reasoned_checkTagged
  intro kind hkind entries
  obtain ⟨⟨name, fields, read⟩, hmem, rfl⟩ := List.mem_map.mp hkind
  exact entries.reasoned_closed _
    (((entries.reasoned_optional _ _ reasoned_checkSignals).map _).seq
      (reasoned_operation hmem entries))

theorem reasoned_addressedStep (page : Text) (isMainFrame : Bool) (frameName frameUrl : Option Text)
    (action : Action) : (addressedStep page isMainFrame frameName frameUrl action).Reasoned := by
  unfold addressedStep
  split
  · exact .accepted _
  · exact .fail _

theorem reasoned_checkStep (value : Value) : (checkStep value).Reasoned := by
  apply reasoned_checkModel
  intro entries
  apply Reasoned.andThen
  · exact entries.reasoned_closed _
      ((((((entries.reasoned_required _ reasoned_textField).map _).seq
        (entries.reasoned_optional _ _ reasoned_boolField)).seq
        (entries.reasoned_optional _ _ reasoned_nullableField)).seq
        (entries.reasoned_optional _ _ reasoned_nullableField)).seq
        (entries.reasoned_required _ reasoned_checkAction))
  · -- the fields are read, and the step that waits for them is at fault only for its frame
    intro step hstep
    obtain ⟨hfields, -⟩ := Entries.closed_eq_accepted_iff.mp hstep
    simp only [Checked.seq_eq_accepted_iff, Checked.map_eq_accepted_iff] at hfields
    obtain ⟨_, _, ⟨_, _, ⟨_, _, ⟨_, _, ⟨_, -, rfl⟩, -, rfl⟩, -, rfl⟩, -, rfl⟩, -, rfl⟩ := hfields
    exact reasoned_addressedStep _ _ _ _ _

/-! ### Recordings -/

theorem reasoned_checkSettings (value : Value) : (checkSettings value).Reasoned := by
  apply reasoned_checkModel
  intro entries
  exact entries.reasoned_closed _
    ((((((entries.reasoned_setting _ fun _ => .ofExcept _).map _).seq
      (entries.reasoned_setting _ reasoned_checkOptions)).seq
      (entries.reasoned_setting _ reasoned_checkOptions)).seq
      (entries.reasoned_setting _ reasoned_nullableField)).seq
      (entries.reasoned_setting _ reasoned_nullableField))

/-- Data that are no recording have at least one fault. -/
theorem reasoned_checkRecording (value : Value) : (checkRecording value).Reasoned := by
  apply reasoned_checkModel
  intro entries
  apply Reasoned.andThen
  · exact entries.reasoned_closed _
      (((entries.reasoned_optional _ _ reasoned_checkSettings).map _).seq
        (entries.reasoned_optional _ _ (reasoned_checkList reasoned_checkStep)))
  · intro parts _
    unfold consistentRecording
    split
    · exact .accepted _
    · exact .fail _

end SessionReplay
