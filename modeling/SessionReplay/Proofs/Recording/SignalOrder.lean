import Mathlib.Data.List.Perm.Basic
import SessionReplay.Program.Block
import SessionReplay.Proofs.Recording.Slot
import SessionReplay.Proofs.Schema.Acceptance
import SessionReplay.Schema.Describe

/-!
# The order of signals

An action is read with its signals in any order or in none: what is read of it besides does not
depend on them, and they are taken exactly if no two of them fall into one slot. The map by slot
holds each of them, so it is the same for all orders, and a block is written from this map alone.
-/

namespace SessionReplay

/-! ### The map by slot -/

namespace SignalMap

theorem get?_ofList_eq_some_iff {signals : List Signal} (h : Signal.Distinct signals) {slot : Slot}
    {signal : Signal} :
    (ofList signals).get? slot = some signal ↔ signal ∈ signals ∧ signal.slot = slot := by
  rw [get?_ofList h, ← Option.mem_toList, ← Signal.filter_slot h, List.mem_filter, beq_iff_eq]

theorem ext_get? {map other : SignalMap} (h : ∀ slot, map.get? slot = other.get? slot) :
    map = other := by
  have hdialog := h .dialog
  have hdownload := h .download
  have hpopup := h .popup
  have hwait := h .waitForNavigation
  have hassert := h .assertNavigation
  cases map
  cases other
  simp only [get?] at hdialog hdownload hpopup hwait hassert
  congr
  · exact Option.map_injective (fun _ _ => Signal.dialog.inj) hdialog
  · exact Option.map_injective (fun _ _ => Signal.download.inj) hdownload
  · exact Option.map_injective (fun _ _ => Signal.popup.inj) hpopup
  · exact Option.map_injective (fun _ _ he => (Signal.navigation.inj he).1) hwait
  · exact Option.map_injective (fun _ _ he => (Signal.navigation.inj he).1) hassert

theorem ofList_perm {signals others : List Signal} (h : Signal.Distinct signals)
    (hperm : signals.Perm others) : ofList signals = ofList others := by
  have hothers : Signal.Distinct others := (hperm.map Signal.slot).nodup_iff.mp h
  apply ext_get?
  intro slot
  apply Option.ext
  intro signal
  rw [get?_ofList_eq_some_iff h, get?_ofList_eq_some_iff hothers, hperm.mem_iff]

end SignalMap

/-! ### Reading an action -/

def withSignals (entries : Entries) (items : List Value) : Entries :=
  Value.insert (.text "signals") (.list items) entries

def describedSignals (items : List Value) : List Signal :=
  items.filterMap fun item => (checkSignal item).toOption

theorem read_congr {kind : Text × List Text × (Entries → Checked Operation)}
    (hkind : kind ∈ operationKinds) {entries other : Entries}
    (hfields : ∀ name ∈ kind.2.1, entries.get? name = other.get? name) :
    kind.2.2 entries = kind.2.2 other := by
  simp only [operationKinds, List.mem_cons, List.not_mem_nil, or_false] at hkind
  rcases hkind with rfl | rfl | rfl | rfl | rfl | rfl | rfl | rfl | rfl | rfl <;>
    simp only [List.mem_cons, List.not_mem_nil, or_false, forall_eq_or_imp, forall_eq] at hfields <;>
    simp only [Entries.required, Entries.optional, hfields]

theorem signals_not_mem_fields :
    ∀ kind ∈ operationKinds, ("signals".toList : Text) ∉ kind.2.1 := by
  decide

theorem distinctSignals_eq_accepted_iff {signals : List Signal}
    {result : { signals // Signal.Distinct signals }} :
    distinctSignals signals = .accepted result ↔ signals = result.1 := by
  unfold distinctSignals
  split
  next h => simp [Subtype.ext_iff]
  next slot h =>
    -- the loop finds nothing in signals whose slots are distinct
    have hne : signals ≠ result.1 := by
      rintro rfl
      rw [(Signal.repeatedSlot?_eq_none_iff [] _).mpr ⟨result.2, by simp⟩] at h
      exact absurd h (by simp)
    simp [Checked.fail, hne]

/-- Signals that can be read one by one are taken together exactly if their slots are distinct. -/
theorem checkSignals_eq_accepted_iff {items : List Value}
    (hitems : ∀ item ∈ items, ∃ signal, checkSignal item = .accepted signal)
    {result : { signals // Signal.Distinct signals }} :
    checkSignals (.list items) = .accepted result ↔ describedSignals items = result.1 := by
  have hread : checkItems checkSignal 0 items = .accepted (describedSignals items) := by
    rw [checkItems_eq_accepted_iff]
    induction items with
    | nil => exact .nil
    | cons item rest ih =>
      obtain ⟨signal, hsignal⟩ := hitems item List.mem_cons_self
      have hcons : describedSignals (item :: rest) = signal :: describedSignals rest := by
        simp [describedSignals, hsignal, Checked.toOption]
      rw [hcons]
      exact .cons hsignal (ih fun other ho => hitems other (List.mem_cons_of_mem _ ho))
  change (checkItems checkSignal 0 items).andThen distinctSignals = .accepted result ↔ _
  rw [hread]
  exact distinctSignals_eq_accepted_iff

theorem readAction_eq_accepted_iff {fields : List Text} {read : Entries → Checked Operation}
    {entries : Entries} {action : Action} {items : List Value}
    (hsignals : entries.get? "signals" = some (.list items)) :
    readAction fields read entries = .accepted action ↔
      checkSignals (.list items) = .accepted ⟨action.signals, action.distinct⟩ ∧
        read entries = .accepted action.operation ∧
        entries.extraFaults ("signals" :: tagField :: fields) = [] := by
  have hoptional : entries.optional "signals" ⟨[], by decide⟩ checkSignals =
      (checkSignals (.list items)).under (.key "signals") := by
    rw [Entries.optional, hsignals]
    rfl
  rw [readAction, Entries.closed_eq_accepted_iff, hoptional, Checked.seq_eq_accepted_iff]
  constructor
  · rintro ⟨⟨_, operation, hleft, hread, rfl⟩, hextra⟩
    obtain ⟨signals, hchecked, rfl⟩ := Checked.map_eq_accepted_iff.mp hleft
    exact ⟨Checked.under_eq_accepted_iff.mp hchecked, hread, hextra⟩
  · rintro ⟨hchecked, hread, hextra⟩
    exact ⟨⟨_, _, Checked.map_eq_accepted_iff.mpr ⟨_, Checked.under_eq_accepted_iff.mpr hchecked, rfl⟩,
      hread, rfl⟩, hextra⟩

theorem get?_withSignals (entries : Entries) (items : List Value) {name : Text}
    (h : name ≠ "signals") :
    (withSignals entries items).get? name = entries.get? name := by
  rw [withSignals, Value.get?_insert, if_neg h.symm]

/-- An action that can be read without signals is read in one way, whatever its signals are. -/
theorem exists_readAction {entries : Entries}
    (h : ∃ action, checkAction (.dict (withSignals entries [])) = .accepted action) :
    ∃ name fields read, (name, fields, read) ∈ operationKinds ∧ ∀ items,
      checkAction (.dict (withSignals entries items)) =
        (readAction fields read (withSignals entries items)).under (.key name) := by
  have htagged : ∀ items, (withSignals entries items).get? tagField = entries.get? tagField :=
    fun items => get?_withSignals entries items (by decide)
  simp only [checkAction, checkTagged, Value.entries?, htagged] at h ⊢
  split at h
  next => exact absurd h (by simp [Checked.fail])
  next tag htag =>
    cases tag with
    | text name =>
      cases hlookup : (operationKinds.map fun kind =>
          (kind.1, readAction kind.2.1 kind.2.2)).lookup name with
      | none =>
        simp only [hlookup, Option.elim_none] at h
        exact absurd h (by simp [Checked.fail])
      | some reader =>
        obtain ⟨⟨kind, fields, read⟩, hkind, he⟩ := List.mem_map.mp (mem_of_lookup hlookup)
        obtain ⟨rfl, rfl⟩ := Prod.mk.inj he
        refine ⟨kind, fields, read, hkind, fun items => ?_⟩
        simp only [hlookup, Option.elim_some]
    | _ => exact absurd h (by simp [Checked.fail])

/-- Such an action has one operation, and can be read with signals exactly if these can be read. -/
theorem exists_operation {entries : Entries}
    (h : ∃ action, checkAction (.dict (withSignals entries [])) = .accepted action) :
    ∃ operation, ∀ items action,
      checkAction (.dict (withSignals entries items)) = .accepted action ↔
        checkSignals (.list items) = .accepted ⟨action.signals, action.distinct⟩ ∧
          action.operation = operation := by
  obtain ⟨name, fields, read, hkind, heq⟩ := exists_readAction h
  obtain ⟨bare, hbare⟩ := h
  have hsignals : ∀ items, (withSignals entries items).get? "signals" = some (.list items) := by
    intro items
    rw [withSignals, Value.get?_insert, if_pos rfl]
  have haccepted : ∀ items action, checkAction (.dict (withSignals entries items)) = .accepted action ↔
      checkSignals (.list items) = .accepted ⟨action.signals, action.distinct⟩ ∧
        read (withSignals entries items) = .accepted action.operation ∧
        (withSignals entries items).extraFaults ("signals" :: tagField :: fields) = [] := by
    intro items action
    rw [heq, Checked.under_eq_accepted_iff, readAction_eq_accepted_iff (hsignals items)]
  obtain ⟨-, hread, hextra⟩ := (haccepted [] bare).mp hbare
  refine ⟨bare.operation, fun items action => ?_⟩
  have hsame : read (withSignals entries items) = read (withSignals entries []) := by
    apply read_congr hkind
    intro field hfield
    have hne : field ≠ "signals" := fun he => signals_not_mem_fields _ hkind (he ▸ hfield)
    rw [get?_withSignals entries items hne, get?_withSignals entries [] hne]
  have hkeys := Value.extraFaults_insert ("signals" :: tagField :: fields) entries "signals"
    (.list items) (.list [])
  rw [haccepted, hsame, hread, withSignals, hkeys]
  have hoperation : (Checked.accepted bare.operation = .accepted action.operation) ↔
      action.operation = bare.operation := by
    rw [Checked.accepted.injEq, eq_comm]
  rw [hoperation, ← withSignals, hextra]
  simp

/-! ### Writing a block -/

/-- Of its action, the block of a step takes the operation and the map of the signals by slot. -/
theorem Program.block_congr {action other : Action} (hoperation : action.operation = other.operation)
    (hmap : action.signalMap = other.signalMap) (page : Text) (isMainFrame : Bool)
    (frameName frameUrl : Option Text)
    (addressed : (isMainFrame || isGiven frameName || isGiven frameUrl) = true) :
    block ⟨page, isMainFrame, frameName, frameUrl, action, addressed⟩ =
      block ⟨page, isMainFrame, frameName, frameUrl, other, addressed⟩ := by
  simp only [block, blockLines, blockStatements, dialogLines, statementLines, assertionLines, subject,
    hoperation, hmap]
  rfl

/-! ### All orders -/

/-- An action that can be read without signals can be read with signals, in any order, exactly if no
two of them fall into one slot. Then the map by slot holds them and nothing else, and the block of a
step is the same for all orders. -/
theorem block_perm_signals {entries : Entries} {items others : List Value}
    (hentries : ∃ action, checkAction (.dict (withSignals entries [])) = .accepted action)
    (hitems : ∀ item ∈ items, ∃ signal, checkSignal item = .accepted signal)
    (hperm : items.Perm others) :
    ((∃ action, checkAction (.dict (withSignals entries items)) = .accepted action) ↔
        Signal.Distinct (describedSignals items)) ∧
      ((∃ action, checkAction (.dict (withSignals entries others)) = .accepted action) ↔
        Signal.Distinct (describedSignals items)) ∧
      ∀ action other, checkAction (.dict (withSignals entries items)) = .accepted action →
        checkAction (.dict (withSignals entries others)) = .accepted other →
        (∀ signal ∈ describedSignals items, action.signalMap.get? signal.slot = some signal) ∧
        (∀ slot signal, action.signalMap.get? slot = some signal →
          signal ∈ describedSignals items ∧ signal.slot = slot) ∧
        ∀ page isMainFrame frameName frameUrl addressed,
          Program.block ⟨page, isMainFrame, frameName, frameUrl, action, addressed⟩ =
            Program.block ⟨page, isMainFrame, frameName, frameUrl, other, addressed⟩ := by
  obtain ⟨operation, hread⟩ := exists_operation hentries
  have hothers : ∀ item ∈ others, ∃ signal, checkSignal item = .accepted signal :=
    fun item hi => hitems item (hperm.mem_iff.mpr hi)
  have hsignals : (describedSignals items).Perm (describedSignals others) := hperm.filterMap _
  have haccepted : ∀ list : List Value,
      (∀ item ∈ list, ∃ signal, checkSignal item = .accepted signal) →
      ((∃ action, checkAction (.dict (withSignals entries list)) = .accepted action) ↔
        Signal.Distinct (describedSignals list)) := by
    intro list hlist
    constructor
    · rintro ⟨action, ha⟩
      rw [(checkSignals_eq_accepted_iff hlist).mp ((hread list action).mp ha).1]
      exact action.distinct
    · intro hdistinct
      refine ⟨⟨describedSignals list, operation, hdistinct⟩, (hread list _).mpr ⟨?_, rfl⟩⟩
      exact (checkSignals_eq_accepted_iff hlist).mpr rfl
  refine ⟨haccepted items hitems, ?_, ?_⟩
  · rw [haccepted others hothers]
    exact (hsignals.map Signal.slot).nodup_iff.symm
  · intro action other ha ho
    obtain ⟨hchecked, hop⟩ := (hread items action).mp ha
    obtain ⟨hchecked', hop'⟩ := (hread others other).mp ho
    have hs := (checkSignals_eq_accepted_iff hitems).mp hchecked
    have hs' := (checkSignals_eq_accepted_iff hothers).mp hchecked'
    have hget : ∀ {slot signal}, action.signalMap.get? slot = some signal ↔
        signal ∈ describedSignals items ∧ signal.slot = slot := by
      intro slot signal
      rw [hs]
      exact SignalMap.get?_ofList_eq_some_iff action.distinct
    refine ⟨fun signal hm => hget.mpr ⟨hm, rfl⟩, fun slot signal => hget.mp, ?_⟩
    intro page isMainFrame frameName frameUrl addressed
    rw [hs, hs'] at hsignals
    have hmap : action.signalMap = other.signalMap :=
      SignalMap.ofList_perm action.distinct hsignals
    exact Program.block_congr (hop.trans hop'.symm) hmap page isMainFrame frameName frameUrl addressed

/-- A click that waits for a navigation and opens a page, its signals given in either order. -/
theorem block_perm_signals_click :
    let entries : Entries := [(.text "name", .text "click"), (.text "selector", .text "#a")]
    let wait : Signal := .navigation "/next" true
    let popup : Signal := .popup "page1"
    let click : Operation := .click ⟨"#a", .left, 0, 1, by decide⟩
    checkAction (.dict (withSignals entries [wait.describe, popup.describe])) =
        .accepted ⟨[wait, popup], click, by decide⟩ ∧
      checkAction (.dict (withSignals entries [popup.describe, wait.describe])) =
        .accepted ⟨[popup, wait], click, by decide⟩ ∧
      Program.block ⟨"page", true, none, none, ⟨[wait, popup], click, by decide⟩, rfl⟩ =
        Program.block ⟨"page", true, none, none, ⟨[popup, wait], click, by decide⟩, rfl⟩ := by
  intro entries wait popup click
  have hitems : ∀ item ∈ [wait.describe, popup.describe],
      ∃ signal, checkSignal item = .accepted signal := by
    intro item hi
    rcases List.mem_pair.mp hi with rfl | rfl
    · exact ⟨wait, rfl⟩
    · exact ⟨popup, rfl⟩
  have hentries : ∃ action, checkAction (.dict (withSignals entries [])) = .accepted action :=
    ⟨⟨[], click, by decide⟩, rfl⟩
  have horders := block_perm_signals hentries hitems (.swap popup.describe wait.describe [])
  exact ⟨rfl, rfl, (horders.2.2 _ _ rfl rfl).2.2 "page" true none none rfl⟩

end SessionReplay
