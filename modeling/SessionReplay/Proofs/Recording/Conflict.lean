import Mathlib.Data.List.Flatten
import Mathlib.Data.List.Nodup
import SessionReplay.Proofs.Recording.Variable
import SessionReplay.Schema.Session

/-!
# Conflicts between names

Validation goes through the signals of a recording once and stops at the first name that it cannot
accept. Whether there is one is told by the sets of names alone: popups, downloads and dialogs are
each distinct, and no popup is an opened page. So it does not depend on the order of steps or signals;
only which name is reported does.
-/

namespace SessionReplay

/-- The signals of all steps in the order in which they were recorded, each with the page of its
step. -/
def recordedSignals (steps : List Step) : List (Text × Signal) :=
  steps.flatMap fun step => step.action.signals.map fun signal => (step.page, signal)

namespace Signal

/-- The variable of a popup. -/
def popupName? : Text × Signal → Option Text
  | (_, .popup opened) => some opened
  | _ => none

/-- The suffix of the variable of a download. -/
def downloadName? : Text × Signal → Option Text
  | (_, .download suffix) => some suffix
  | _ => none

/-- The page of a dialog and the suffix of its handler, a colon between them. -/
def dialogName? : Text × Signal → Option Text
  | (page, .dialog suffix) => some (page ++ ":" ++ suffix)
  | _ => none

end Signal

/-- What the names of a recording have to meet, in whatever order they are bound. -/
structure DistinctNames (steps : List Step) : Prop where
  popups_not_opened : ∀ opened ∈ (recordedSignals steps).filterMap Signal.popupName?,
    opened ∉ openedPages steps
  popups : ((recordedSignals steps).filterMap Signal.popupName?).Nodup
  downloads : ((recordedSignals steps).filterMap Signal.downloadName?).Nodup
  dialogs : ((recordedSignals steps).filterMap Signal.dialogName?).Nodup

/-- What a signal violates, given the opened pages and the signals before it. -/
inductive Violates (pages : List Text) (before : List (Text × Signal)) :
    Text × Signal → AliasConflict → Prop
  | popupIsPage {page opened : Text} : opened ∈ pages →
      Violates pages before (page, .popup opened) (.popupIsPage opened)
  | popup {page opened other : Text} : opened ∉ pages → (other, .popup opened) ∈ before →
      Violates pages before (page, .popup opened) (.repeated (.popup opened))
  | download {page suffix other : Text} : (other, .download suffix) ∈ before →
      Violates pages before (page, .download suffix) (.repeated (.download suffix))
  | dialog {page suffix other otherSuffix : Text} : (other, .dialog otherSuffix) ∈ before →
      other ++ ":" ++ otherSuffix = page ++ ":" ++ suffix →
      Violates pages before (page, .dialog suffix) (.repeated (.dialog (page ++ ":" ++ suffix)))

/-- No signal violates anything with respect to those before it. -/
def FreeOfConflicts (pages : List Text) (signals : List (Text × Signal)) : Prop :=
  ∀ before signal behind, signals = before ++ signal :: behind →
    ∀ conflict, ¬ Violates pages before signal conflict

/-- The same step, except that its signals may have another order. -/
def Step.SameButOrder (step other : Step) : Prop :=
  step.page = other.page ∧ step.action.operation = other.action.operation ∧
    step.action.signals.Perm other.action.signals

/-- The same steps in any order, each with its signals in any order. -/
def Reordered (steps others : List Step) : Prop :=
  ∃ between, steps.Perm between ∧ List.Forall₂ Step.SameButOrder between others

/-! ### The names in order -/

namespace BoundName

theorem ofSteps_eq (steps : List Step) :
    ofSteps steps = (recordedSignals steps).filterMap fun signal => ofSignal? signal.1 signal.2 := by
  simp only [ofSteps, recordedSignals, List.filterMap_flatMap, List.filterMap_map]
  rfl

end BoundName

namespace AliasConflict

theorem among?_append {pages : List Text} {bound before : List BoundName} (names : List BoundName)
    (h : among? pages bound before = none) :
    among? pages bound (before ++ names) = among? pages (before.reverse ++ bound) names := by
  induction before generalizing bound with
  | nil => rfl
  | cons name rest ih =>
    unfold among? at h
    split at h
    next => exact absurd h (by simp)
    next hclash =>
      split at h
      next => exact absurd h (by simp)
      next hbound =>
        rw [List.cons_append, among?, if_neg hclash, if_neg hbound, ih h, List.reverse_cons,
          List.append_assoc, List.singleton_append]

def Rejects (pages : List Text) (bound : List BoundName) (name : BoundName)
    (conflict : AliasConflict) : Prop :=
  clashesWithPage pages name = true ∧ conflict = .popupIsPage name.name ∨
    clashesWithPage pages name = false ∧ name ∈ bound ∧ conflict = .repeated name

theorem among?_cons_of_rejects {pages : List Text} {bound : List BoundName} {name : BoundName}
    {conflict : AliasConflict} (h : Rejects pages bound name conflict) (rest : List BoundName) :
    among? pages bound (name :: rest) = some conflict := by
  rcases h with ⟨hclash, rfl⟩ | ⟨hfree, hbound, rfl⟩
  · rw [among?, if_pos hclash]
  · rw [among?, hfree, if_neg Bool.false_ne_true, if_pos hbound]

/-- The conflict that is reported is that of the first name that cannot be accepted. -/
theorem among?_eq_some_iff {pages : List Text} {bound names : List BoundName}
    {conflict : AliasConflict} :
    among? pages bound names = some conflict ↔
      ∃ before name behind, names = before ++ name :: behind ∧
        among? pages bound before = none ∧ Rejects pages (before.reverse ++ bound) name conflict := by
  constructor
  · intro h
    induction names generalizing bound with
    | nil => exact absurd h (by simp [among?])
    | cons name rest ih =>
      unfold among? at h
      split at h
      next hclash => exact ⟨[], name, rest, rfl, rfl, .inl ⟨hclash, (Option.some.inj h).symm⟩⟩
      next hclash =>
        have hfree : clashesWithPage pages name = false := (Bool.not_eq_true _).mp hclash
        split at h
        next hbound =>
          exact ⟨[], name, rest, rfl, rfl, .inr ⟨hfree, hbound, (Option.some.inj h).symm⟩⟩
        next hbound =>
          obtain ⟨before, other, behind, rfl, hnone, hrejects⟩ := ih h
          refine ⟨name :: before, other, behind, rfl, ?_, ?_⟩
          · rw [among?, if_neg hclash, if_neg hbound, hnone]
          · rwa [List.reverse_cons, List.append_assoc, List.singleton_append]
  · rintro ⟨before, name, behind, rfl, hnone, hrejects⟩
    rw [among?_append _ hnone, among?_cons_of_rejects hrejects]

theorem violates_iff {pages : List Text} {before : List (Text × Signal)} {signal : Text × Signal}
    {conflict : AliasConflict} :
    Violates pages before signal conflict ↔
      ∃ name, BoundName.ofSignal? signal.1 signal.2 = some name ∧
        Rejects pages (before.filterMap fun earlier => BoundName.ofSignal? earlier.1 earlier.2) name
          conflict := by
  constructor
  · rintro (hpage | ⟨hpage, hbefore⟩ | hbefore | ⟨hbefore, hsame⟩)
    · exact ⟨_, rfl, .inl ⟨List.contains_iff_mem.mpr hpage, rfl⟩⟩
    · refine ⟨_, rfl, .inr ⟨?_, List.mem_filterMap.mpr ⟨_, hbefore, rfl⟩, rfl⟩⟩
      rw [clashesWithPage, Bool.eq_false_iff]
      exact fun h => hpage (List.contains_iff_mem.mp h)
    · exact ⟨_, rfl, .inr ⟨rfl, List.mem_filterMap.mpr ⟨_, hbefore, rfl⟩, rfl⟩⟩
    · refine ⟨_, rfl, .inr ⟨rfl, List.mem_filterMap.mpr ⟨_, hbefore, ?_⟩, rfl⟩⟩
      exact congrArg (fun name => some (BoundName.dialog name)) hsame
  · obtain ⟨page, signal⟩ := signal
    rintro ⟨name, hname, ⟨hclash, rfl⟩ | ⟨hfree, hbound, rfl⟩⟩
    · cases signal with
      | popup opened =>
        obtain rfl := Option.some.inj hname
        exact .popupIsPage (List.contains_iff_mem.mp hclash)
      | download | dialog =>
        obtain rfl := Option.some.inj hname
        exact Bool.noConfusion hclash
      | navigation => exact absurd hname (by simp [BoundName.ofSignal?])
    · obtain ⟨⟨other, earlier⟩, hbefore, hsame⟩ := List.mem_filterMap.mp hbound
      cases signal with
      | popup opened =>
        obtain rfl := Option.some.inj hname
        cases earlier with
        | popup named =>
          obtain rfl := BoundName.popup.inj (Option.some.inj hsame)
          refine .popup (fun hpage => ?_) hbefore
          rw [clashesWithPage, List.contains_iff_mem.mpr hpage] at hfree
          exact Bool.noConfusion hfree
        | _ => exact absurd hsame (by simp [BoundName.ofSignal?])
      | download suffix =>
        obtain rfl := Option.some.inj hname
        cases earlier with
        | download named =>
          obtain rfl := BoundName.download.inj (Option.some.inj hsame)
          exact .download hbefore
        | _ => exact absurd hsame (by simp [BoundName.ofSignal?])
      | dialog suffix =>
        obtain rfl := Option.some.inj hname
        cases earlier with
        | dialog named => exact .dialog hbefore (BoundName.dialog.inj (Option.some.inj hsame))
        | _ => exact absurd hsame (by simp [BoundName.ofSignal?])
      | navigation => exact absurd hname (by simp [BoundName.ofSignal?])

/-! ### The signals in order -/

def boundBy (signals : List (Text × Signal)) : List BoundName :=
  signals.filterMap fun signal => BoundName.ofSignal? signal.1 signal.2

theorem rejects_reverse {pages : List Text} {bound : List BoundName} {name : BoundName}
    {conflict : AliasConflict} :
    Rejects pages (bound.reverse ++ []) name conflict ↔ Rejects pages bound name conflict := by
  simp [Rejects]

theorem among?_boundBy_eq_some_iff {pages : List Text} {signals : List (Text × Signal)}
    {conflict : AliasConflict} :
    among? pages [] (boundBy signals) = some conflict ↔
      ∃ before signal behind, signals = before ++ signal :: behind ∧
        among? pages [] (boundBy before) = none ∧ Violates pages before signal conflict := by
  rw [among?_eq_some_iff]
  constructor
  · rintro ⟨names, name, others, hnames, hnone, hrejects⟩
    obtain ⟨before, rest, rfl, rfl, hrest⟩ := List.filterMap_eq_append_iff.mp hnames
    obtain ⟨skipped, signal, behind, rfl, hskipped, hname, -⟩ := List.filterMap_eq_cons_iff.mp hrest
    -- signals that bind no name stand between those before and the one that is reported
    have hbefore : boundBy (before ++ skipped) = boundBy before := by
      unfold boundBy
      rw [List.filterMap_append, List.filterMap_eq_nil_iff.mpr hskipped, List.append_nil]
    refine ⟨before ++ skipped, signal, behind, by rw [List.append_assoc], ?_, ?_⟩
    · rw [hbefore]
      exact hnone
    · rw [violates_iff]
      refine ⟨name, hname, ?_⟩
      change Rejects pages (boundBy (before ++ skipped)) name conflict
      rw [hbefore]
      exact rejects_reverse.mp hrejects
  · rintro ⟨before, signal, behind, rfl, hnone, hviolates⟩
    obtain ⟨name, hname, hrejects⟩ := violates_iff.mp hviolates
    refine ⟨boundBy before, name, boundBy behind, ?_, hnone, rejects_reverse.mpr hrejects⟩
    simp only [boundBy, List.filterMap_append, List.filterMap_cons, hname]

theorem among?_boundBy_eq_none_iff {pages : List Text} {signals : List (Text × Signal)} :
    among? pages [] (boundBy signals) = none ↔ FreeOfConflicts pages signals := by
  constructor
  · rintro hnone before signal behind rfl conflict hviolates
    cases hbefore : among? pages [] (boundBy before) with
    | none =>
      rw [among?_boundBy_eq_some_iff.mpr ⟨before, signal, behind, rfl, hbefore, hviolates⟩] at hnone
      exact absurd hnone (by simp)
    | some earlier =>
      obtain ⟨first, other, rest, rfl, hfirst, hearlier⟩ := among?_boundBy_eq_some_iff.mp hbefore
      have hsplit : first ++ other :: rest ++ signal :: behind =
          first ++ other :: (rest ++ signal :: behind) := by simp
      rw [hsplit, among?_boundBy_eq_some_iff.mpr ⟨first, other, _, rfl, hfirst, hearlier⟩] at hnone
      exact absurd hnone (by simp)
  · intro hfree
    rw [← Option.not_isSome_iff_eq_none, Option.isSome_iff_exists]
    rintro ⟨conflict, hsome⟩
    obtain ⟨before, signal, behind, hsplit, -, hviolates⟩ := among?_boundBy_eq_some_iff.mp hsome
    exact hfree before signal behind hsplit conflict hviolates

theorem first?_eq (steps : List Step) :
    first? steps = among? (openedPages steps) [] (boundBy (recordedSignals steps)) := by
  rw [first?, BoundName.ofSteps_eq]
  rfl

/-! ### Conditions without an order -/

def nameLike? : BoundName → Text × Signal → Option Text
  | .popup _ => Signal.popupName?
  | .download _ => Signal.downloadName?
  | .dialog _ => Signal.dialogName?

theorem mem_boundBy_iff {name : BoundName} {signals : List (Text × Signal)} :
    name ∈ boundBy signals ↔ name.name ∈ signals.filterMap (nameLike? name) := by
  simp only [boundBy, List.mem_filterMap]
  refine exists_congr fun ⟨page, signal⟩ => and_congr_right fun _ => ?_
  cases name <;> cases signal <;> simp [BoundName.ofSignal?, nameLike?, BoundName.name,
    Signal.popupName?, Signal.downloadName?, Signal.dialogName?]

/-- Names of all kinds are distinct exactly if the names of each kind are. -/
theorem nodup_boundBy_iff (signals : List (Text × Signal)) :
    (boundBy signals).Nodup ↔
      (signals.filterMap Signal.popupName?).Nodup ∧ (signals.filterMap Signal.downloadName?).Nodup ∧
        (signals.filterMap Signal.dialogName?).Nodup := by
  induction signals with
  | nil => simp [boundBy]
  | cons signal rest ih =>
    obtain ⟨page, signal⟩ := signal
    -- a signal puts its name in front of the names of its own kind alone
    cases signal with
    | navigation => exact ih
    | popup opened =>
      change (BoundName.popup opened :: boundBy rest).Nodup ↔ (opened :: _).Nodup ∧ _
      rw [List.nodup_cons, List.nodup_cons, ih, mem_boundBy_iff, and_assoc]
      rfl
    | download suffix =>
      change (BoundName.download suffix :: boundBy rest).Nodup ↔ _ ∧ (suffix :: _).Nodup ∧ _
      rw [List.nodup_cons, List.nodup_cons, ih, mem_boundBy_iff, and_assoc, and_left_comm]
      rfl
    | dialog suffix =>
      change (BoundName.dialog (page ++ ":" ++ suffix) :: boundBy rest).Nodup ↔
        _ ∧ _ ∧ ((page ++ ":" ++ suffix) :: _).Nodup
      rw [List.nodup_cons, List.nodup_cons, ih, mem_boundBy_iff, and_left_comm,
        and_left_comm (a := _ ∉ _)]
      rfl

/-- The loop over the names finds nothing exactly if the names meet the conditions. -/
theorem first?_eq_none_iff (steps : List Step) : first? steps = none ↔ DistinctNames steps := by
  rw [first?_eq, among?_eq_none_iff, nodup_boundBy_iff]
  constructor
  · rintro ⟨⟨hpopups, hdownloads, hdialogs⟩, hfree⟩
    refine ⟨fun opened ho hpage => ?_, hpopups, hdownloads, hdialogs⟩
    have hname : .popup opened ∈ boundBy (recordedSignals steps) := mem_boundBy_iff.mpr ho
    have hclash := (hfree _ hname).2
    rw [clashesWithPage, List.contains_iff_mem.mpr hpage] at hclash
    exact Bool.noConfusion hclash
  · rintro ⟨hopened, hpopups, hdownloads, hdialogs⟩
    refine ⟨⟨hpopups, hdownloads, hdialogs⟩, fun name hname => ⟨List.not_mem_nil, ?_⟩⟩
    cases name with
    | popup opened =>
      rw [clashesWithPage, Bool.eq_false_iff]
      exact fun h => hopened opened (mem_boundBy_iff.mp hname) (List.contains_iff_mem.mp h)
    | download | dialog => rfl

end AliasConflict

/-! ### Recordings in another order -/

theorem recordedSignals_perm {steps others : List Step} (h : Reordered steps others) :
    (recordedSignals steps).Perm (recordedSignals others) := by
  obtain ⟨between, hperm, hsame⟩ := h
  refine (hperm.flatMap_right _).trans ?_
  unfold recordedSignals
  clear hperm
  induction hsame with
  | nil => exact .refl _
  | @cons step other _ _ hstep _ ih =>
    obtain ⟨hpage, -, hsignals⟩ := hstep
    rw [List.flatMap_cons, List.flatMap_cons, hpage]
    exact (hsignals.map _).append ih

theorem openedPages_perm {steps others : List Step} (h : Reordered steps others) :
    (openedPages steps).Perm (openedPages others) := by
  obtain ⟨between, hperm, hsame⟩ := h
  refine ((hperm.filter _).map _).trans ?_
  unfold openedPages
  clear hperm
  induction hsame with
  | nil => exact .refl _
  | @cons step other _ _ hstep _ ih =>
    obtain ⟨hpage, hoperation, -⟩ := hstep
    have hopens : step.action.opensPage = other.action.opensPage := by
      unfold Action.opensPage
      rw [hoperation]
    rw [List.filter_cons, List.filter_cons, hopens]
    split
    · rw [List.map_cons, List.map_cons, hpage]
      exact ih.cons _
    · exact ih

theorem DistinctNames.of_perm {steps others : List Step} (h : DistinctNames steps)
    (hsignals : (recordedSignals steps).Perm (recordedSignals others))
    (hpages : (openedPages steps).Perm (openedPages others)) : DistinctNames others where
  popups_not_opened opened ho hp :=
    h.popups_not_opened opened ((hsignals.filterMap _).mem_iff.mpr ho) (hpages.mem_iff.mpr hp)
  popups := (hsignals.filterMap _).nodup_iff.mp h.popups
  downloads := (hsignals.filterMap _).nodup_iff.mp h.downloads
  dialogs := (hsignals.filterMap _).nodup_iff.mp h.dialogs

theorem distinctNames_reordered_iff {steps others : List Step} (h : Reordered steps others) :
    DistinctNames steps ↔ DistinctNames others :=
  ⟨fun hs => hs.of_perm (recordedSignals_perm h) (openedPages_perm h),
    fun ho => ho.of_perm (recordedSignals_perm h).symm (openedPages_perm h).symm⟩

/-! ### What validation answers -/

namespace AliasConflict

/-- The name that a conflict is about. -/
def named : AliasConflict → BoundName
  | .popupIsPage page => .popup page
  | .repeated name => name

def subjectText (name : BoundName) : Text := name.kind ++ " の変数名 '" ++ name.name ++ "' "

theorem message_popupIsPage (page : Text) :
    message (.popupIsPage page) = subjectText (.popup page) ++ "がページ変数と衝突しています" := by
  have hfront : ("popup の変数名 '" : Text) = "popup" ++ " の変数名 '" := by decide +kernel
  have hback : ("' がページ変数と衝突しています" : Text) = "' " ++ "がページ変数と衝突しています" := by
    decide +kernel
  unfold message subjectText
  exact (congrArg₂ (fun front back => front ++ page ++ back) hfront hback).trans
    (List.append_assoc _ _ _).symm

theorem message_repeated (name : BoundName) :
    message (.repeated name) = subjectText name ++ "が重複しています" := by
  have hback : ("' が重複しています" : Text) = "' " ++ "が重複しています" := by decide +kernel
  unfold message subjectText
  exact (congrArg _ hback).trans (List.append_assoc _ _ _).symm

theorem subjectText_prefix_message (conflict : AliasConflict) :
    subjectText conflict.named <+: conflict.message := by
  cases conflict with
  | popupIsPage page => exact ⟨_, (message_popupIsPage page).symm⟩
  | repeated name => exact ⟨_, (message_repeated name).symm⟩

end AliasConflict

theorem Violates.named {pages : List Text} {before : List (Text × Signal)}
    {signal : Text × Signal} {conflict : AliasConflict} (h : Violates pages before signal conflict) :
    BoundName.ofSignal? signal.1 signal.2 = some conflict.named := by
  cases h <;> rfl

theorem consistentRecording_accepted_iff (options : OptionSettings) (steps : List Step) :
    (∃ recording, consistentRecording options steps = .accepted recording) ↔
      AliasConflict.first? steps = none := by
  unfold consistentRecording
  split
  next h => simp [h]
  next conflict h => simp [h, Checked.fail]

theorem consistentRecording_rejected_iff (options : OptionSettings) (steps : List Step)
    (faults : List Fault) :
    consistentRecording options steps = .rejected faults ↔
      ∃ conflict, AliasConflict.first? steps = some conflict ∧
        faults = [⟨[], .rule conflict.message⟩] := by
  unfold consistentRecording
  split
  next h => simp [h]
  next conflict h => simp [h, Checked.fail, eq_comm]

/-- Steps are accepted as a recording exactly if their names meet the conditions, and so do the same
steps in any other order. If they are not, one fault is reported, which names the first signal that
violates a condition with respect to the opened pages or the signals before it. -/
theorem consistentRecording_iff_distinctNames (options : OptionSettings) (steps : List Step) :
    ((∃ recording, consistentRecording options steps = .accepted recording) ↔
        DistinctNames steps) ∧
      (∀ others, Reordered steps others →
        ((∃ recording, consistentRecording options steps = .accepted recording) ↔
          ∃ recording, consistentRecording options others = .accepted recording)) ∧
      ∀ faults, consistentRecording options steps = .rejected faults ↔
        ∃ before signal behind conflict,
          recordedSignals steps = before ++ signal :: behind ∧
            FreeOfConflicts (openedPages steps) before ∧
            Violates (openedPages steps) before signal conflict ∧
            BoundName.ofSignal? signal.1 signal.2 = some conflict.named ∧
            AliasConflict.subjectText conflict.named <+: conflict.message ∧
            faults = [⟨[], .rule conflict.message⟩] := by
  have haccepted : ∀ steps,
      (∃ recording, consistentRecording options steps = .accepted recording) ↔
        DistinctNames steps := fun steps =>
    (consistentRecording_accepted_iff options steps).trans (AliasConflict.first?_eq_none_iff steps)
  refine ⟨haccepted steps, ?_, ?_⟩
  · intro others hreordered
    rw [haccepted, haccepted]
    exact distinctNames_reordered_iff hreordered
  · intro faults
    rw [consistentRecording_rejected_iff]
    simp only [AliasConflict.first?_eq, AliasConflict.among?_boundBy_eq_some_iff,
      AliasConflict.among?_boundBy_eq_none_iff]
    constructor
    · rintro ⟨conflict, ⟨before, signal, behind, hsplit, hfree, hviolates⟩, hfaults⟩
      exact ⟨before, signal, behind, conflict, hsplit, hfree, hviolates, hviolates.named,
        conflict.subjectText_prefix_message, hfaults⟩
    · rintro ⟨before, signal, behind, conflict, hsplit, hfree, hviolates, -, -, hfaults⟩
      exact ⟨conflict, ⟨before, signal, behind, hsplit, hfree, hviolates⟩, hfaults⟩

end SessionReplay
