import SessionReplay.Proofs.Text.Line
import SessionReplay.Recording.Action

/-!
# Signals and their slots

Where signals take distinct slots, the map by slot holds exactly the signals of the list, so the
signal of a slot can be read off either.
-/

namespace SessionReplay

namespace SignalMap

theorem get?_foldl_place {signals : List Signal} (h : Signal.Distinct signals) (map : SignalMap)
    (slot : Slot) :
    (signals.foldl place map).get? slot =
      (signals.find? (·.slot == slot)).or (map.get? slot) := by
  induction signals generalizing map with
  | nil => rfl
  | cons signal rest ih =>
    obtain ⟨hout, hrest⟩ := List.nodup_cons.mp h
    rw [List.foldl_cons, ih hrest, get?_place, List.find?_cons]
    by_cases hs : signal.slot = slot
    · -- no later signal takes the slot again
      have hnone : rest.find? (·.slot == slot) = none := by
        rw [List.find?_eq_none]
        intro later hl he
        apply hout
        rw [hs, ← eq_of_beq he]
        exact List.mem_map_of_mem hl
      rw [hnone, if_pos hs, beq_iff_eq.mpr hs]
      rfl
    · rw [if_neg hs, beq_eq_false_iff_ne.mpr hs]

theorem get?_ofList {signals : List Signal} (h : Signal.Distinct signals) (slot : Slot) :
    (ofList signals).get? slot = signals.find? (·.slot == slot) := by
  have hempty : ({} : SignalMap).get? slot = none := by cases slot <;> rfl
  rw [ofList, get?_foldl_place h, hempty, Option.or_none]

end SignalMap

namespace Signal

theorem filter_slot {signals : List Signal} (h : Distinct signals) (slot : Slot) :
    signals.filter (·.slot == slot) = (signals.find? (·.slot == slot)).toList := by
  induction signals with
  | nil => rfl
  | cons signal rest ih =>
    obtain ⟨hout, hrest⟩ := List.nodup_cons.mp h
    rw [List.filter_cons, List.find?_cons]
    by_cases hs : signal.slot = slot
    · have hnone : rest.filter (·.slot == slot) = [] := by
        rw [List.filter_eq_nil_iff]
        intro later hl he
        apply hout
        rw [hs, ← eq_of_beq he]
        exact List.mem_map_of_mem hl
      rw [hnone, beq_iff_eq.mpr hs]
      rfl
    · rw [ih hrest, beq_eq_false_iff_ne.mpr hs]
      rfl

/-- The texts of a signal that become parts of names in the program. -/
def names : Signal → List Text
  | .navigation _ _ => []
  | .popup page => [page]
  | .download suffix => [suffix]
  | .dialog suffix => [suffix]

end Signal

namespace Action

theorem filter_signals (action : Action) (slot : Slot) :
    action.signals.filter (·.slot == slot) = (action.signalMap.get? slot).toList := by
  rw [signalMap, SignalMap.get?_ofList action.distinct, Signal.filter_slot action.distinct]

theorem mem_signals_of_get? {action : Action} {slot : Slot} {signal : Signal}
    (h : action.signalMap.get? slot = some signal) : signal ∈ action.signals := by
  rw [signalMap, SignalMap.get?_ofList action.distinct] at h
  exact List.mem_of_find?_eq_some h

end Action

namespace Step

/-- The texts of a step that become parts of names in the program: the variable of the page, those
of popups, and the suffixes of downloads and dialogs. -/
def names (step : Step) : List Text := step.page :: step.action.signals.flatMap Signal.names

theorem mem_names {step : Step} {signal : Signal} {name : Text} (hs : signal ∈ step.action.signals)
    (hn : name ∈ signal.names) : name ∈ step.names :=
  List.mem_cons_of_mem _ (List.mem_flatMap.mpr ⟨signal, hs, hn⟩)

theorem names_of_get? {step : Step} {slot : Slot} {signal : Signal} {name : Text}
    (h : step.action.signalMap.get? slot = some signal) (hn : name ∈ signal.names) :
    name ∈ step.names :=
  mem_names (Action.mem_signals_of_get? h) hn

theorem popup_mem_names {step : Step} {page : Text} (h : page ∈ step.action.signalMap.popup) :
    page ∈ step.names := by
  have hget : step.action.signalMap.get? .popup = some (.popup page) := by
    rw [SignalMap.get?, Option.mem_def.mp h]
    rfl
  exact names_of_get? hget List.mem_cons_self

theorem download_mem_names {step : Step} {suffix : Text}
    (h : suffix ∈ step.action.signalMap.download) : suffix ∈ step.names := by
  have hget : step.action.signalMap.get? .download = some (.download suffix) := by
    rw [SignalMap.get?, Option.mem_def.mp h]
    rfl
  exact names_of_get? hget List.mem_cons_self

theorem dialog_mem_names {step : Step} {suffix : Text}
    (h : suffix ∈ step.action.signalMap.dialog) : suffix ∈ step.names := by
  have hget : step.action.signalMap.get? .dialog = some (.dialog suffix) := by
    rw [SignalMap.get?, Option.mem_def.mp h]
    rfl
  exact names_of_get? hget List.mem_cons_self

/-- The name or else the address of the frame, if it is not the main one. -/
def frame? (step : Step) : Option Text :=
  if step.isMainFrame then none
  else
    match step.frameName with
    | some (c :: name) => some (c :: name)
    | _ => some (step.frameUrl.getD [])

end Step
end SessionReplay
