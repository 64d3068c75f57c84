import Mathlib.Data.List.Flatten
import Mathlib.Data.List.Nodup
import Mathlib.Data.List.Perm.Basic
import SessionReplay.Proofs.Program.Block
import SessionReplay.Recording.Basic

/-!
# The variables of a program

Pages that are opened, popups and downloads are bound to variables of one scope. Validation compares
popups with popups and with opened pages, and downloads with downloads; it does not compare opened
pages with each other, nor downloads with pages and popups.
-/

namespace SessionReplay

/-! ### What validation compares -/

namespace AliasConflict

theorem among?_eq_none_iff (pages : List Text) (bound names : List BoundName) :
    among? pages bound names = none ↔
      names.Nodup ∧ ∀ name ∈ names, name ∉ bound ∧ clashesWithPage pages name = false := by
  induction names generalizing bound with
  | nil => simp [among?]
  | cons name rest ih =>
    unfold among?
    split
    next hclash => simp [hclash]
    next hclash =>
      split
      next hbound => simp [hbound]
      next hbound =>
        rw [ih, List.nodup_cons]
        have hfree : clashesWithPage pages name = false := (Bool.not_eq_true _).mp hclash
        constructor
        · rintro ⟨hnodup, hrest⟩
          refine ⟨⟨fun hm => (hrest name hm).1 List.mem_cons_self, hnodup⟩, ?_⟩
          intro other ho
          rcases List.mem_cons.mp ho with rfl | ho
          · exact ⟨hbound, hfree⟩
          · exact ⟨fun hm => (hrest other ho).1 (List.mem_cons_of_mem _ hm), (hrest other ho).2⟩
        · rintro ⟨⟨hname, hnodup⟩, hall⟩
          refine ⟨hnodup, fun other ho => ⟨?_, (hall other (List.mem_cons_of_mem _ ho)).2⟩⟩
          intro hm
          rcases List.mem_cons.mp hm with rfl | hm
          · exact hname ho
          · exact (hall other (List.mem_cons_of_mem _ ho)).1 hm

end AliasConflict

namespace Recording

theorem nodup_boundNames (recording : Recording) : (BoundName.ofSteps recording.steps).Nodup :=
  ((AliasConflict.among?_eq_none_iff ..).mp recording.consistent).1

theorem popup_not_mem_openedPages (recording : Recording) {page : Text}
    (h : .popup page ∈ BoundName.ofSteps recording.steps) : page ∉ openedPages recording.steps := by
  have hclash := (((AliasConflict.among?_eq_none_iff ..).mp recording.consistent).2 _ h).2
  simpa [AliasConflict.clashesWithPage] using hclash

end Recording

/-! ### Declared variables -/

namespace Step

def openedPage (step : Step) : List Text := if step.action.opensPage then [step.page] else []

def popupVariable (step : Step) : List Text :=
  if step.action.opensPage then [] else step.action.signalMap.popup.toList

/-- The suffix of the download that a step waits for. -/
def downloadSuffix (step : Step) : List Text :=
  if step.action.opensPage then [] else step.action.signalMap.download.toList

def downloadVariable (step : Step) : List Text :=
  step.downloadSuffix.map ("download".toList ++ ·)

/-- The variables that the block of a step declares, in order. -/
def declared (step : Step) : List Text :=
  step.openedPage ++ step.popupVariable ++ step.downloadVariable

end Step

def popupVariables (steps : List Step) : List Text := steps.flatMap Step.popupVariable

def downloadVariables (steps : List Step) : List Text := steps.flatMap Step.downloadVariable

def declaredVariables (steps : List Step) : List Text := steps.flatMap Step.declared

theorem openedPages_eq (steps : List Step) : openedPages steps = steps.flatMap Step.openedPage := by
  induction steps with
  | nil => rfl
  | cons step rest ih =>
    rw [List.flatMap_cons, ← ih, openedPages, List.filter_cons, Step.openedPage]
    split <;> rfl

theorem perm_declaredVariables (steps : List Step) :
    (declaredVariables steps).Perm
      (openedPages steps ++ popupVariables steps ++ downloadVariables steps) := by
  rw [openedPages_eq, popupVariables, downloadVariables, declaredVariables]
  have hinner := List.flatMap_append_perm steps Step.openedPage Step.popupVariable
  have houter := List.flatMap_append_perm steps
    (fun step => step.openedPage ++ step.popupVariable) Step.downloadVariable
  exact houter.symm.trans (hinner.symm.append_right _)

/-! ### Declarations in a block -/

namespace Program

variable {step : Step}

/-- A statement that declares a variable. -/
def isDeclaration (statement : Text) : Bool := "var ".toList.isPrefixOf statement

def Declares (statement name : Text) : Prop :=
  ("var ".toList ++ name ++ " = await ".toList) <+: statement

/-- Of the lines that signals contribute, those of a kind. -/
theorem filter_fromSlots (keep : Text → Bool) (contribution : Signal → List Text)
    (slots : List Slot) :
    (fromSlots step contribution slots).filter keep =
      fromSlots step (fun signal => (contribution signal).filter keep) slots := by
  simp only [fromSlots, List.filter_flatMap]

theorem head?_of_isDeclaration {statement : Text} (h : isDeclaration statement = true) :
    statement.head? = some 'v' := by
  obtain ⟨rest, rfl⟩ := List.isPrefixOf_iff_prefix.mp h
  rfl

def Declaring (keep : Text → Bool) : Prop := ∀ line, keep line = true → line.head? = some 'v'

theorem Declaring.eq_false {keep : Text → Bool} (hkeep : Declaring keep) {line : Text} {c : Char}
    (hhead : line.head? = some c) (hc : c ≠ 'v') : keep line = false := by
  rw [Bool.eq_false_iff]
  intro hk
  rw [hkeep line hk] at hhead
  exact hc (Option.some.inj hhead).symm

theorem filter_linesBehind {keep : Text → Bool} (hkeep : Declaring keep) (step : Step)
    (signal : Signal) : (linesBehind step signal).filter keep = [] := by
  rw [List.filter_eq_nil_iff]
  intro line hl
  rw [Bool.not_eq_true]
  rcases signal with ⟨url, _ | _⟩ | _ | _ | _
  · obtain rfl := List.mem_singleton.mp hl
    exact hkeep.eq_false (c := '/') rfl (by decide)
  · change line ∈ navigationClosing step.isMainFrame url at hl
    simp only [navigationClosing, List.mem_cons, List.not_mem_nil, or_false] at hl
    rcases hl with rfl | rfl | rfl | rfl
    · exact hkeep.eq_false (c := '\x7d') rfl (by decide)
    · exact hkeep.eq_false (c := '\x7b') rfl (by decide)
    · exact hkeep.eq_false (c := 'U') rfl (by decide)
    · exact hkeep.eq_false (c := '\x7d') rfl (by decide)
  · obtain rfl := List.mem_singleton.mp hl
    exact hkeep.eq_false (c := '\x7d') rfl (by decide)
  · obtain rfl := List.mem_singleton.mp hl
    exact hkeep.eq_false (c := '\x7d') rfl (by decide)
  · exact absurd hl List.not_mem_nil

theorem filter_openingLines (page : Text) (url : Option Text) :
    (openingLines page url).filter isDeclaration =
      ["var " ++ page ++ " = await context.NewPageAsync();"] := by
  unfold openingLines
  split
  · split <;> rfl
  · rfl

/-- Only waiting for a popup or a download declares something. -/
theorem filter_statementLines {keep : Text → Bool} (hkeep : Declaring keep) (step : Step)
    (callText : Text) :
    (statementLines step callText).filter keep =
      fromSlots step (fun signal => (linesBefore step.page signal).filter keep)
        [.popup, .download] := by
  have hawaited : [awaited step callText].filter keep = [] := by
    rw [List.filter_singleton, hkeep.eq_false (c := 'a') rfl (by decide)]
    rfl
  have hbehind : ∀ slots, (fromSlots step (linesBehind step) slots).filter keep = [] := by
    intro slots
    rw [filter_fromSlots, fromSlots, List.flatMap_eq_nil_iff]
    intro slot _
    exact List.flatMap_eq_nil_iff.mpr fun signal _ => filter_linesBehind hkeep step signal
  have hopening : (navigationOpening step.page).filter keep = [] := by
    rw [navigationOpening, List.filter_cons, List.filter_singleton,
      hkeep.eq_false (c := 'a') rfl (by decide), hkeep.eq_false (c := '\x7b') rfl (by decide)]
    rfl
  have hnavigation : step.action.signalMap.waitForNavigation.elim [] (fun _ =>
      (navigationOpening step.page).filter keep) = [] := by
    cases step.action.signalMap.waitForNavigation with
    | none => rfl
    | some url => exact hopening
  rw [statementLines_eq, List.filter_append, List.filter_append, hbehind, hawaited, filter_fromSlots]
  simp only [fromSlots_cons, fromSlots_nil, SignalMap.get?, Option.elim_map, List.append_nil]
  exact congrArg (_ ++ ·) ((congrArg (_ ++ ·) hnavigation).trans (List.append_nil _))

theorem declares_opening (page : Text) :
    Declares ("var " ++ page ++ " = await context.NewPageAsync();") page :=
  ⟨"context.NewPageAsync();", List.append_assoc ..⟩

theorem declares_wait (name page method : Text) :
    Declares ("var " ++ name ++ " = await " ++ page ++ "." ++ method ++ "(async () =>") name := by
  refine ⟨page ++ "." ++ method ++ "(async () =>", ?_⟩
  simp only [List.append_assoc]

theorem declares_blockStatements {statements : List Text}
    (h : blockStatements step = .ok statements) :
    List.Forall₂ Declares (statements.filter isDeclaration) step.declared := by
  unfold Step.declared Step.openedPage Step.popupVariable Step.downloadVariable Step.downloadSuffix
  rcases blockStatements_ok h with ⟨url, hurl, rfl⟩ | ⟨hop, callText, hc, rfl⟩
  · have hopens : step.action.opensPage = true := by
      unfold Action.opensPage
      rw [hurl]
    rw [if_pos hopens, if_pos hopens, if_pos hopens, filter_openingLines]
    exact .cons (declares_opening step.page) .nil
  · have hdialog : (dialogLines step).filter isDeclaration = [] := by
      unfold dialogLines
      split <;> rfl
    have hassertion : (assertionLines step).filter isDeclaration = [] := by
      unfold assertionLines
      split <;> rfl
    rw [opensPage_eq_false hop, List.filter_append, List.filter_append, hdialog, hassertion,
      filter_statementLines fun _ => head?_of_isDeclaration, List.append_nil, fromSlots_cons,
      fromSlots_cons, SignalMap.get?, SignalMap.get?]
    cases step.action.signalMap.popup <;> cases step.action.signalMap.download
    · exact .nil
    · exact .cons (declares_wait _ _ _) .nil
    · exact .cons (declares_wait _ _ _) .nil
    · exact .cons (declares_wait _ _ _) (.cons (declares_wait _ _ _) .nil)

end Program

namespace Step

theorem singleton_sublist_boundNames {step : Step} {slot : Slot} {signal : Signal} {name : BoundName}
    (h : step.action.signalMap.get? slot = some signal)
    (hn : BoundName.ofSignal? step.page signal = some name) :
    [name].Sublist (step.action.signals.filterMap (BoundName.ofSignal? step.page)) :=
  List.singleton_sublist.mpr
    (List.mem_filterMap.mpr ⟨signal, Action.mem_signals_of_get? h, hn⟩)

theorem popupVariable_sublist (step : Step) :
    (step.popupVariable.map BoundName.popup).Sublist
      (step.action.signals.filterMap (BoundName.ofSignal? step.page)) := by
  unfold popupVariable
  split
  · exact List.nil_sublist _
  · cases hp : step.action.signalMap.popup with
    | none => exact List.nil_sublist _
    | some page =>
      have hget : step.action.signalMap.get? .popup = some (.popup page) := by
        rw [SignalMap.get?, hp]
        rfl
      exact singleton_sublist_boundNames hget rfl

theorem downloadSuffix_sublist (step : Step) :
    (step.downloadSuffix.map BoundName.download).Sublist
      (step.action.signals.filterMap (BoundName.ofSignal? step.page)) := by
  unfold downloadSuffix
  split
  · exact List.nil_sublist _
  · cases hd : step.action.signalMap.download with
    | none => exact List.nil_sublist _
    | some suffix =>
      have hget : step.action.signalMap.get? .download = some (.download suffix) := by
        rw [SignalMap.get?, hd]
        rfl
      exact singleton_sublist_boundNames hget rfl

end Step

namespace Recording

theorem popupVariables_sublist (steps : List Step) :
    ((popupVariables steps).map BoundName.popup).Sublist (BoundName.ofSteps steps) := by
  rw [popupVariables, List.map_flatMap]
  exact List.Sublist.flatMap_right steps fun step _ => step.popupVariable_sublist

theorem nodup_popupVariables (recording : Recording) : (popupVariables recording.steps).Nodup :=
  .of_map _ (recording.nodup_boundNames.sublist (popupVariables_sublist _))

theorem popupVariables_not_mem_openedPages (recording : Recording) {page : Text}
    (h : page ∈ popupVariables recording.steps) : page ∉ openedPages recording.steps :=
  recording.popup_not_mem_openedPages
    ((popupVariables_sublist _).subset (List.mem_map_of_mem h))

theorem nodup_downloadVariables (recording : Recording) :
    (downloadVariables recording.steps).Nodup := by
  have hsublist : ((recording.steps.flatMap Step.downloadSuffix).map BoundName.download).Sublist
      (BoundName.ofSteps recording.steps) := by
    rw [List.map_flatMap]
    exact List.Sublist.flatMap_right _ fun step _ => step.downloadSuffix_sublist
  have hsuffixes := List.Nodup.of_map _ (recording.nodup_boundNames.sublist hsublist)
  have hvariables : downloadVariables recording.steps =
      (recording.steps.flatMap Step.downloadSuffix).map ("download".toList ++ ·) := by
    rw [List.map_flatMap]
    rfl
  rw [hvariables]
  exact hsuffixes.map fun _ _ he => List.append_cancel_left he

/-- The variables that the blocks of a recording declare are distinct exactly if those of opened
pages are and no download has the variable of an opened page or of a popup. -/
theorem nodup_declaredVariables_iff (recording : Recording) :
    (∀ step ∈ recording.steps, ∀ statements, Program.blockStatements step = .ok statements →
        List.Forall₂ Program.Declares (statements.filter Program.isDeclaration) step.declared) ∧
      ((declaredVariables recording.steps).Nodup ↔
        (openedPages recording.steps).Nodup ∧
          ∀ name ∈ downloadVariables recording.steps,
            name ∉ openedPages recording.steps ∧ name ∉ popupVariables recording.steps) := by
  refine ⟨fun _ _ _ h => Program.declares_blockStatements h, ?_⟩
  rw [(perm_declaredVariables recording.steps).nodup_iff, List.nodup_append, List.nodup_append]
  constructor
  · rintro ⟨⟨hpages, -, -⟩, -, hdownloads⟩
    refine ⟨hpages, fun name hd => ⟨fun hm => ?_, fun hm => ?_⟩⟩
    · exact hdownloads name (List.mem_append_left _ hm) name hd rfl
    · exact hdownloads name (List.mem_append_right _ hm) name hd rfl
  · rintro ⟨hpages, hdownloads⟩
    refine ⟨⟨hpages, recording.nodup_popupVariables, ?_⟩, recording.nodup_downloadVariables, ?_⟩
    · rintro page hp _ hq rfl
      exact recording.popupVariables_not_mem_openedPages hq hp
    · rintro name hm _ hd rfl
      rcases List.mem_append.mp hm with hm | hm
      · exact (hdownloads name hd).1 hm
      · exact (hdownloads name hd).2 hm

/-- A popup can be bound to the variable that a download has. -/
theorem not_forall_nodup_declaredVariables :
    ¬ ∀ recording : Recording, (declaredVariables recording.steps).Nodup := by
  intro h
  have hnodup := h ⟨{}, [
      ⟨"page", true, none, none, ⟨[], .openPage none, by decide⟩, rfl⟩,
      ⟨"page", true, none, none, ⟨[.popup "download1"], .check "a", by decide⟩, rfl⟩,
      ⟨"page", true, none, none, ⟨[.download "1"], .check "b", by decide⟩, rfl⟩], by decide⟩
  exact absurd hnodup (by decide)

end Recording
end SessionReplay
