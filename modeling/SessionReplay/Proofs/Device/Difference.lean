import SessionReplay.Program.Frame
import SessionReplay.Proofs.Bracket.Program
import SessionReplay.Proofs.Value.Equality

/-!
# What differs from a device

The options that are written beside a device are those that the device does not have already. Laid
over the device they come to the same as all options would, and none of them can be left out.
-/

namespace SessionReplay

open Value

def Options.differing (preset options : Options) : Options :=
  options.filter fun option => !agrees preset.toEntries (.text option.1, option.2)

theorem differing_toEntries (preset options : Options) :
    Value.differing preset.toEntries options.toEntries = (preset.differing options).toEntries := by
  unfold Value.differing Options.differing Options.toEntries
  rw [List.filter_map]
  rfl

namespace Options

variable {preset options : Options}

theorem lookup_toEntries (options : Options) (name : Text) :
    Value.lookup (.text name) options.toEntries = options.lookup name := by
  induction options with
  | nil => rfl
  | cons option rest ih =>
    unfold Value.lookup toEntries at ih ⊢
    rw [List.map_cons, List.find?_cons, lookup_cons_eq]
    by_cases h : name = option.1
    · rw [same_text_iff.mpr (congrArg _ h.symm), if_pos h]
      rfl
    · have hother : same (.text name) (.text option.1) = false := by
        rw [Bool.eq_false_iff, Ne, same_text_iff]
        exact fun he => h (Value.text.inj he).symm
      rw [hother, if_neg h]
      exact ih

theorem agrees_iff (hpreset : ∀ option ∈ preset, option.2.IsData) {option : Text × Value}
    (hoption : option.2.IsData) :
    agrees preset.toEntries (.text option.1, option.2) = true ↔
      ∃ held, preset.lookup option.1 = some held ∧ held.Equal option.2 := by
  unfold agrees
  rw [lookup_toEntries]
  cases hlookup : preset.lookup option.1 with
  | none => simp
  | some held => simp [same_iff_equal (hpreset _ (mem_of_lookup hlookup)) hoption]

theorem mem_differing_iff (hpreset : ∀ option ∈ preset, option.2.IsData)
    (hoptions : ∀ option ∈ options, option.2.IsData) {option : Text × Value} :
    option ∈ preset.differing options ↔ option ∈ options ∧
      ∀ held, preset.lookup option.1 = some held → ¬ held.Equal option.2 := by
  unfold differing
  rw [List.mem_filter]
  refine and_congr_right fun ho => ?_
  rw [Bool.not_eq_true', Bool.eq_false_iff, Ne, agrees_iff hpreset (hoptions _ ho)]
  simp

theorem Distinct.sublist {rest : Options} (h : options.Distinct) (hs : rest.Sublist options) :
    rest.Distinct := List.Nodup.sublist (hs.map Prod.fst) h

/-- Options that are left out change nothing about those that are not. -/
theorem lookup_of_sublist {rest : Options} (h : options.Distinct) (hs : rest.Sublist options)
    {name : Text} (hname : name ∈ rest.map Prod.fst) : rest.lookup name = options.lookup name := by
  obtain ⟨option, ho, rfl⟩ := List.mem_map.mp hname
  rw [lookup_of_mem (h.sublist hs) ho, lookup_of_mem h (hs.subset ho)]

/-! ### Laid over the preset -/

/-- Laid over a preset, `rest` shows for each of the options its value, if `rest` has that, or one that
is equal to it, and for all else what the preset has. -/
structure Shows (preset options rest : Options) : Prop where
  given : ∀ name value, options.lookup name = some value →
    ∃ shown, (preset.update rest).lookup name = some shown ∧
      (rest.lookup name = some value ∧ shown = value ∨ shown.Equal value)
  other : ∀ name, options.lookup name = none →
    (preset.update rest).lookup name = preset.lookup name

theorem shows_self (h : options.Distinct) : Shows preset options options where
  given name value hvalue := ⟨value, by rw [lookup_update h, hvalue]; rfl, .inl ⟨hvalue, rfl⟩⟩
  other name hnone := by
    rw [lookup_update h, hnone]
    rfl

theorem shows_of_sublist {rest : Options} (hpreset : ∀ option ∈ preset, option.2.IsData)
    (hoptions : ∀ option ∈ options, option.2.IsData) (h : options.Distinct)
    (hrest : rest.Sublist options) (hkept : (preset.differing options).Sublist rest) :
    Shows preset options rest := by
  have hd := h.sublist hrest
  constructor
  · intro name value hvalue
    rw [lookup_update hd]
    by_cases hname : name ∈ rest.map Prod.fst
    · have hlookup := (lookup_of_sublist h hrest hname).trans hvalue
      exact ⟨value, by rw [hlookup]; rfl, .inl ⟨hlookup, rfl⟩⟩
    · have hdropped : (name, value) ∉ preset.differing options := fun hm =>
        hname (List.mem_map_of_mem (hkept.subset hm))
      rw [mem_differing_iff hpreset hoptions, not_and] at hdropped
      have hheld := hdropped (mem_of_lookup hvalue)
      push Not at hheld
      obtain ⟨held, hlookup, hequal⟩ := hheld
      exact ⟨held, by rw [lookup_of_not_mem hname]; exact hlookup, .inr hequal⟩
  · intro name hnone
    have hname : name ∉ rest.map Prod.fst := fun hm => by
      obtain ⟨option, ho, rfl⟩ := List.mem_map.mp hm
      rw [lookup_of_mem h (hrest.subset ho)] at hnone
      exact Option.some_ne_none _ hnone
    rw [lookup_update hd, lookup_of_not_mem hname]
    rfl

theorem Shows.differing_subset {rest : Options} (hpreset : ∀ option ∈ preset, option.2.IsData)
    (hoptions : ∀ option ∈ options, option.2.IsData) (h : options.Distinct)
    (hrest : rest.Sublist options) (hshows : Shows preset options rest) :
    preset.differing options ⊆ rest := by
  intro option ho
  obtain ⟨hmem, hdiffers⟩ := (mem_differing_iff hpreset hoptions).mp ho
  obtain ⟨shown, hshown, ⟨hrest, -⟩ | hequal⟩ := hshows.given _ _ (lookup_of_mem h hmem)
  · exact mem_of_lookup hrest
  · rw [lookup_update (h.sublist hrest)] at hshown
    cases hlookup : rest.lookup option.1 with
    | none =>
      rw [hlookup] at hshown
      exact absurd hequal (hdiffers _ hshown)
    | some value =>
      have hm := mem_of_lookup hlookup
      have hvalue : value = option.2 := Option.some.inj
        ((lookup_of_mem h (hrest.subset hm)).symm.trans (lookup_of_mem h hmem))
      rw [hvalue] at hm
      exact hm

end Options

theorem sublist_of_subset {α : Type} {part other whole : List α} (hpart : part.Sublist whole)
    (hother : other.Sublist whole) (hnodup : whole.Nodup) (h : part ⊆ other) :
    part.Sublist other := by
  induction hpart generalizing other with
  | slnil => exact List.nil_sublist _
  | @cons part whole a hpart ih =>
    obtain ⟨hnew, hrest⟩ := List.nodup_cons.mp hnodup
    cases hother with
    | cons _ hother => exact ih hother hrest h
    | cons_cons _ hother =>
      refine .cons _ (ih hother hrest fun b hb => ?_)
      exact (List.mem_cons.mp (h hb)).resolve_left fun he => hnew (he ▸ hpart.subset hb)
  | @cons_cons part whole a hpart ih =>
    obtain ⟨hnew, hrest⟩ := List.nodup_cons.mp hnodup
    cases hother with
    | cons _ hother => exact absurd (hother.subset (h List.mem_cons_self)) hnew
    | cons_cons _ hother =>
      refine .cons_cons _ (ih hother hrest fun b hb => ?_)
      exact (List.mem_cons.mp (h (List.mem_cons_of_mem _ hb))).resolve_left
        fun he => hnew (he ▸ hpart.subset hb)

/-! ### Beside a device -/

namespace Device

theorem isData_settings (device : Device) : ∀ option ∈ device.settings, option.2.IsData := by
  have hviewport : (Options.toValue
      [("width", .int device.width), ("height", .int device.height)]).IsData :=
    .dict (by simp [Options.Distinct]) (by simp [IsData.int])
  have hscale : device.scaleFactor.IsData := by
    unfold scaleFactor
    split
    · exact .int _
    · exact .float _
  simp only [settings, List.forall_mem_cons, List.not_mem_nil, IsData.text, IsData.bool, hviewport,
    hscale, and_true, false_implies, implies_true]

end Device

namespace Program

theorem head?_objectLiteral {option : Text} (h : option ≠ []) (indent : Text)
    (settings : List Text) : (objectLiteral indent option settings).head? = some 'n' := by
  cases settings with
  | nil =>
    change (emptyObject option).head? = some 'n'
    rw [emptyObject, if_neg h]
    split <;> rfl
  | cons first rest =>
    unfold objectLiteral
    rw [if_neg h]
    rfl

theorem head?_expression {option text : Text} {entries : List (Value × Value)} (h : option ≠ [])
    (htext : expression option (.dict entries) = .ok text) : text.head? = some 'n' := by
  obtain ⟨texts, -, htexts⟩ := exists_of_bind_eq_ok (of_mapError_eq_ok htext)
  obtain rfl := Except.ok.inj htexts
  exact head?_objectLiteral h _ _

/-- Nothing is written beside a device if nothing differs from it. -/
theorem contextExpression_device_iff {name : Text} {device : Device}
    (hdevice : Device.find? name = some device) (options : Options) :
    contextExpression options.toEntries (some name) =
        .ok ("playwright.Devices[" ++ name.quoted ++ "]") ↔
      device.settings.differing options = [] := by
  cases name with
  | nil => exact absurd (hdevice.symm.trans (by decide : Device.find? [] = none)) (by simp)
  | cons c rest =>
    simp only [contextExpression, hdevice, differing_toEntries]
    cases hdiffering : device.settings.differing options with
    | nil => exact iff_of_true rfl rfl
    | cons option others =>
      refine iff_of_false (fun h => ?_) (List.cons_ne_nil _ _)
      exact absurd (head?_expression (List.cons_ne_nil _ _) h) (by simp)

end Program

/-- What is left of options, beside a preset, is a part of them, and laid over the preset it shows what
all of them show. No option of it can be left out: the parts of the options that show the same are those
that have all of it. Leaving out again what the preset has changes nothing. So nothing but the device
is written if and only if it has all options already, each with a value that is equal. -/
theorem differing_exact {preset options : Options} (hpreset : preset.toValue.IsData)
    (hoptions : options.toValue.IsData) :
    ∃ kept : Options,
      Value.differing preset.toEntries options.toEntries = kept.toEntries ∧
        kept.Sublist options ∧
        Options.Shows preset options options ∧ Options.Shows preset options kept ∧
        (∀ rest : Options, rest.Sublist options →
          (Options.Shows preset options rest ↔ kept.Sublist rest)) ∧
        Value.differing preset.toEntries kept.toEntries = kept.toEntries ∧
        ∀ name device, Device.find? name = some device →
          (Program.contextExpression options.toEntries (some name) =
              .ok ("playwright.Devices[" ++ name.quoted ++ "]") ↔
            ∀ option ∈ options, ∃ held,
              device.settings.lookup option.1 = some held ∧ held.Equal option.2) := by
  obtain ⟨-, hpreset⟩ := isData_toValue_iff.mp hpreset
  obtain ⟨hdistinct, hoptions⟩ := isData_toValue_iff.mp hoptions
  have hkept : (preset.differing options).Sublist options := List.filter_sublist
  refine ⟨preset.differing options, differing_toEntries preset options, hkept,
    Options.shows_self hdistinct,
    Options.shows_of_sublist hpreset hoptions hdistinct hkept (.refl _), ?_, ?_, ?_⟩
  · intro rest hrest
    constructor
    · intro hshows
      exact sublist_of_subset hkept hrest (List.Nodup.of_map _ hdistinct)
        (hshows.differing_subset hpreset hoptions hdistinct hrest)
    · exact Options.shows_of_sublist hpreset hoptions hdistinct hrest
  · rw [← differing_toEntries]
    exact differing_idem _ _
  · intro name device hdevice
    rw [Program.contextExpression_device_iff hdevice, List.eq_nil_iff_forall_not_mem]
    simp only [Options.mem_differing_iff device.isData_settings hoptions, not_and]
    push Not
    rfl

/-- A truth value as an integer, and a viewport in another order, are no difference. -/
theorem differing_exact_viewport :
    let preset : Options :=
      [("viewport", Options.toValue [("width", .int 414), ("height", .int 715)]),
        ("isMobile", .bool true)]
    let locale : Options := [("locale", .text "ja-JP")]
    let options : Options :=
      [("isMobile", .int 1), ("locale", .text "ja-JP"),
        ("viewport", Options.toValue [("height", .int 715), ("width", .int 414)])]
    preset.toValue.IsData ∧ options.toValue.IsData ∧
      Value.differing preset.toEntries options.toEntries = locale.toEntries ∧
      Options.Shows preset options locale ∧
      ∀ rest : Options, rest.Sublist options → Options.Shows preset options rest →
        locale.Sublist rest := by
  intro preset locale options
  have hviewport (first second : Text) (hne : first ≠ second) (m n : Int) :
      (Options.toValue [(first, .int m), (second, .int n)]).IsData :=
    .dict (by simp [Options.Distinct, hne]) (by simp [IsData.int])
  have hpreset : preset.toValue.IsData := by
    refine isData_toValue_iff.mpr ⟨by simp [preset, Options.Distinct], ?_⟩
    simp only [preset, List.forall_mem_cons, List.not_mem_nil, IsData.bool, and_true,
      false_implies, implies_true]
    exact hviewport _ _ (by simp) _ _
  have hoptions : options.toValue.IsData := by
    refine isData_toValue_iff.mpr ⟨by simp [options, Options.Distinct], ?_⟩
    simp only [options, List.forall_mem_cons, List.not_mem_nil, IsData.int, IsData.text, true_and,
      and_true, false_implies, implies_true]
    exact hviewport _ _ (by simp) _ _
  have hdiffering : Value.differing preset.toEntries options.toEntries = locale.toEntries := rfl
  obtain ⟨kept, hkept, -, -, hshows, hleast, -⟩ := differing_exact hpreset hoptions
  obtain rfl := toEntries_injective (hdiffering.symm.trans hkept)
  exact ⟨hpreset, hoptions, hdiffering, hshows, fun rest hrest => (hleast rest hrest).mp⟩

end SessionReplay
