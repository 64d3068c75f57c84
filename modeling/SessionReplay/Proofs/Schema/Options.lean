import Mathlib.Data.List.Nodup
import SessionReplay.Proofs.Schema.Acceptance
import SessionReplay.Schema.Describe

/-!
# Options as dictionaries

Options are a dictionary whose keys are texts. Setting one keeps the places of those that are there,
so options with distinct keys that are laid over none, or written as data and read again, come back
as they are.
-/

namespace SessionReplay

/-! ### Looking up a name -/

theorem lookup_cons_eq {β : Type} (entry : Text × β) (rest : List (Text × β)) (name : Text) :
    (entry :: rest).lookup name = if name = entry.1 then some entry.2 else rest.lookup name := by
  rw [List.lookup_cons]
  by_cases h : name = entry.1
  · rw [if_pos h, beq_iff_eq.mpr h]
  · rw [if_neg h, beq_eq_false_iff_ne.mpr h]

theorem lookup_of_not_mem {β : Type} {entries : List (Text × β)} {name : Text}
    (h : name ∉ entries.map Prod.fst) : entries.lookup name = none := by
  induction entries with
  | nil => rfl
  | cons entry rest ih =>
    rw [List.map_cons, List.mem_cons, not_or] at h
    rw [lookup_cons_eq, if_neg h.1, ih h.2]

theorem lookup_of_mem {β : Type} {entries : List (Text × β)} (h : (entries.map Prod.fst).Nodup)
    {entry : Text × β} (hm : entry ∈ entries) : entries.lookup entry.1 = some entry.2 := by
  induction entries with
  | nil => exact absurd hm List.not_mem_nil
  | cons first rest ih =>
    obtain ⟨hnew, hrest⟩ := List.nodup_cons.mp h
    rw [lookup_cons_eq]
    rcases List.mem_cons.mp hm with rfl | hm
    · rw [if_pos rfl]
    · have hne : entry.1 ≠ first.1 := fun he => hnew (he ▸ List.mem_map_of_mem hm)
      rw [if_neg hne, ih hrest hm]

namespace Options

def Distinct (options : Options) : Prop := (options.map Prod.fst).Nodup

theorem lookup_set (options : Options) (name other : Text) (value : Value) :
    (set options name value).lookup other =
      if other = name then some value else options.lookup other := by
  induction options with
  | nil => exact lookup_cons_eq (name, value) [] other
  | cons option rest ih =>
    unfold set
    by_cases hkey : option.1 = name
    · rw [if_pos hkey, lookup_cons_eq, lookup_cons_eq, hkey]
      split <;> rfl
    · rw [if_neg hkey, lookup_cons_eq, lookup_cons_eq, ih]
      by_cases h : other = option.1
      · have hne : other ≠ name := fun he => hkey (h.symm.trans he)
        rw [if_pos h, if_neg hne, if_pos h]
      · rw [if_neg h, if_neg h]

theorem keys_set (options : Options) (name : Text) (value : Value) :
    (set options name value).map Prod.fst =
      if name ∈ options.map Prod.fst then options.map Prod.fst
      else options.map Prod.fst ++ [name] := by
  induction options with
  | nil => rfl
  | cons option rest ih =>
    unfold set
    by_cases hkey : option.1 = name
    · simp [hkey]
    · rw [if_neg hkey, List.map_cons, ih, List.map_cons]
      by_cases hrest : name ∈ rest.map Prod.fst
      · rw [if_pos hrest, if_pos (List.mem_cons_of_mem _ hrest)]
      · have hne : name ∉ option.1 :: rest.map Prod.fst := by
          rw [List.mem_cons, not_or]
          exact ⟨fun he => hkey he.symm, hrest⟩
        rw [if_neg hrest, if_neg hne]
        rfl

theorem distinct_set {options : Options} (h : options.Distinct) (name : Text) (value : Value) :
    Distinct (set options name value) := by
  unfold Distinct
  rw [keys_set]
  split
  next => exact h
  next hnew =>
    rw [List.nodup_append]
    refine ⟨h, List.nodup_singleton name, ?_⟩
    rintro key hk _ hn rfl
    exact hnew (List.mem_singleton.mp hn ▸ hk)

theorem set_of_not_mem {options : Options} {name : Text} (h : name ∉ options.map Prod.fst)
    (value : Value) : set options name value = options ++ [(name, value)] := by
  induction options with
  | nil => rfl
  | cons option rest ih =>
    rw [List.map_cons, List.mem_cons, not_or] at h
    rw [set, if_neg fun he => h.1 he.symm, ih h.2]
    rfl

/-- Options laid over others go before them. -/
theorem lookup_update {options others : Options} (h : others.Distinct) (name : Text) :
    (update options others).lookup name = (others.lookup name).or (options.lookup name) := by
  induction others generalizing options with
  | nil => rfl
  | cons option rest ih =>
    obtain ⟨hnew, hrest⟩ := List.nodup_cons.mp h
    change (update (set options option.1 option.2) rest).lookup name = _
    rw [ih hrest, lookup_set, lookup_cons_eq]
    by_cases he : name = option.1
    · -- no later option has the key
      rw [if_pos he, if_pos he, lookup_of_not_mem (he ▸ hnew)]
      rfl
    · rw [if_neg he, if_neg he]

theorem mem_keys_update {options others : Options} {name : Text}
    (h : name ∈ (update options others).map Prod.fst) :
    name ∈ options.map Prod.fst ∨ name ∈ others.map Prod.fst := by
  induction others generalizing options with
  | nil => exact .inl h
  | cons option rest ih =>
    rcases ih h with h | h
    · rw [keys_set] at h
      split at h
      · exact .inl h
      · rcases List.mem_append.mp h with h | h
        · exact .inl h
        · exact .inr (List.mem_cons.mpr (.inl (List.mem_singleton.mp h)))
    · exact .inr (List.mem_cons_of_mem _ h)

/-- Options with new keys come behind those that are there. -/
theorem update_of_distinct {options others : Options} (h : Distinct (options ++ others)) :
    update options others = options ++ others := by
  induction others generalizing options with
  | nil => exact (List.append_nil options).symm
  | cons option rest ih =>
    have hsplit : options ++ option :: rest = (options ++ [(option.1, option.2)]) ++ rest := by simp
    have hnew : option.1 ∉ options.map Prod.fst := by
      unfold Distinct at h
      rw [List.map_append, List.nodup_append] at h
      exact fun hm => h.2.2 _ hm option.1 List.mem_cons_self rfl
    change update (set options option.1 option.2) rest = _
    rw [set_of_not_mem hnew, hsplit, ih (hsplit ▸ h)]

/-! ### Options as data -/

theorem get?_toEntries (options : Options) (name : Text) :
    Entries.get? options.toEntries name = options.lookup name := by
  induction options with
  | nil => rfl
  | cons option rest ih =>
    unfold Entries.get? at ih ⊢
    rw [toEntries, List.map_cons, List.findSome?_cons, lookup_cons_eq, ← ih]
    by_cases h : option.1 = name
    · simp [h]
    · have hne : name ≠ option.1 := fun he => h he.symm
      simp [h, hne, toEntries]

theorem extraFaults_toEntries {known : List Text} {options : Options}
    (h : ∀ name ∈ options.map Prod.fst, name ∈ known) :
    Entries.extraFaults known options.toEntries = [] := by
  rw [Entries.extraFaults, List.filterMap_eq_nil_iff]
  intro entry he
  obtain ⟨option, ho, rfl⟩ := List.mem_map.mp he
  exact if_pos (h _ (List.mem_map_of_mem ho))

theorem checkEntries_toEntries (done options : Options) :
    checkEntries done options.toEntries = .accepted (update done options) := by
  induction options generalizing done with
  | nil => rfl
  | cons option rest ih => exact ih _

/-- Options that have distinct keys are read back from the data that they are written as. -/
theorem checkOptions_toValue {options : Options} (h : options.Distinct) :
    checkOptions options.toValue = .accepted options := by
  change checkEntries [] options.toEntries = _
  have hdistinct : Distinct ([] ++ options) := h
  rw [checkEntries_toEntries, update_of_distinct hdistinct, List.nil_append]

theorem distinct_of_checkEntries {done options : Options} {entries : Entries}
    (h : checkEntries done entries = .accepted options) (hd : done.Distinct) : options.Distinct := by
  induction entries generalizing done with
  | nil =>
    obtain rfl := Checked.accepted.inj h
    exact hd
  | cons entry rest ih =>
    unfold checkEntries at h
    split at h
    next name hname => exact ih h (distinct_set hd name _)
    next =>
      split at h
      · exact absurd h (by simp)
      · exact absurd h (by simp)

theorem distinct_of_checkOptions {value : Value} {options : Options}
    (h : checkOptions value = .accepted options) : options.Distinct := by
  unfold checkOptions at h
  cases hentries : value.entries? with
  | none =>
    rw [hentries] at h
    exact absurd h (by simp [Checked.fail])
  | some entries =>
    rw [hentries] at h
    exact distinct_of_checkEntries h List.nodup_nil

end Options

/-! ### Given fields -/

theorem keys_givenFields_sublist (fields : List (Text × Option Value)) :
    ((givenFields fields).map Prod.fst).Sublist (fields.map Prod.fst) := by
  induction fields with
  | nil => exact .slnil
  | cons field rest ih =>
    obtain ⟨name, value⟩ := field
    unfold givenFields at ih ⊢
    rw [List.filterMap_cons]
    cases value with
    | none => exact .cons name ih
    | some value => exact .cons_cons name ih

theorem distinct_givenFields {fields : List (Text × Option Value)}
    (h : (fields.map Prod.fst).Nodup) : Options.Distinct (givenFields fields) :=
  h.sublist (keys_givenFields_sublist fields)

theorem lookup_givenFields {fields : List (Text × Option Value)} (h : (fields.map Prod.fst).Nodup)
    (name : Text) : (givenFields fields).lookup name = (fields.lookup name).bind id := by
  induction fields with
  | nil => rfl
  | cons field rest ih =>
    obtain ⟨key, value⟩ := field
    obtain ⟨hnew, hrest⟩ := List.nodup_cons.mp h
    have ih := ih hrest
    unfold givenFields at ih ⊢
    rw [List.filterMap_cons, lookup_cons_eq]
    cases value with
    | some value =>
      rw [Option.map_some, lookup_cons_eq, ih]
      split <;> rfl
    | none =>
      rw [Option.map_none, ih]
      split
      next he =>
        rw [lookup_of_not_mem (he ▸ hnew)]
        rfl
      next => rfl

end SessionReplay
