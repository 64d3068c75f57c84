import SessionReplay.Proofs.Recording.SignalOrder
import SessionReplay.Proofs.Recording.Variable
import SessionReplay.Proofs.Text.Joined

/-!
# The handlers of dialogs

Validation and the program each make one name of the page and the suffix of a dialog: validation puts
a colon between the two, the program a word. As long as neither of these stands within a page or a
suffix, both ways tell the same dialogs apart; else two dialogs can have one handler that validation
takes for different ones, or the other way round.
-/

namespace SessionReplay

def Step.handlers (step : Step) : List Text :=
  if step.action.opensPage then []
  else step.action.signalMap.dialog.toList.map (Program.handlerName step.page)

namespace Program

open Text

/-- A statement that declares a function, as only handlers of dialogs are. -/
def isHandlerDeclaration (statement : Text) : Bool := "void ".toList.isPrefixOf statement

def DeclaresHandler (statement name : Text) : Prop :=
  ("void ".toList ++ name ++ "(object sender, IDialog dialog)\n".toList) <+: statement

variable {step : Step}

theorem declaresHandler_handlerLines (page suffix : Text) :
    DeclaresHandler (unlines (handlerLines page suffix)) (handlerName page suffix) := by
  have hline : ("void ".toList ++ handlerName page suffix ++
      "(object sender, IDialog dialog)\n".toList) =
      ("void " ++ handlerName page suffix ++ "(object sender, IDialog dialog)") ++ ['\n'] := by
    simp only [List.append_assoc]
    rfl
  unfold DeclaresHandler handlerLines
  rw [hline, unlines_cons_cons]
  exact ⟨_, by rw [List.append_assoc]; rfl⟩

theorem head?_of_isHandlerDeclaration {statement : Text}
    (h : isHandlerDeclaration statement = true) : statement.head? = some 'v' := by
  obtain ⟨rest, rfl⟩ := List.isPrefixOf_iff_prefix.mp h
  rfl

/-- What is waited for is waited for without handlers. -/
theorem filter_handler_statementLines (step : Step) (callText : Text) :
    (statementLines step callText).filter isHandlerDeclaration = [] := by
  rw [filter_statementLines fun _ => head?_of_isHandlerDeclaration]
  simp only [fromSlots_cons, fromSlots_nil, SignalMap.get?, Option.elim_map, List.append_nil]
  cases step.action.signalMap.popup <;> cases step.action.signalMap.download <;> rfl

theorem filter_handler_openingLines (page : Text) (url : Option Text) :
    (openingLines page url).filter isHandlerDeclaration = [] := by
  unfold openingLines
  split
  · split <;> rfl
  · rfl

theorem declaresHandler_blockStatements {statements : List Text}
    (h : blockStatements step = .ok statements) :
    List.Forall₂ DeclaresHandler (statements.filter isHandlerDeclaration) step.handlers := by
  unfold Step.handlers
  rcases blockStatements_ok h with ⟨url, hurl, rfl⟩ | ⟨hop, callText, -, rfl⟩
  · have hopens : step.action.opensPage = true := by
      unfold Action.opensPage
      rw [hurl]
    rw [if_pos hopens, filter_handler_openingLines]
    exact .nil
  · have hassertion : (assertionLines step).filter isHandlerDeclaration = [] := by
      unfold assertionLines
      split <;> rfl
    rw [opensPage_eq_false hop, List.filter_append, List.filter_append, hassertion,
      filter_handler_statementLines, List.append_nil, List.append_nil, dialogLines]
    cases step.action.signalMap.dialog with
    | none => exact .nil
    | some suffix => exact .cons (declaresHandler_handlerLines step.page suffix) .nil

end Program

theorem Step.handlers_eq {step : Step} {suffix : Text} (hopens : step.action.opensPage = false)
    (h : .dialog suffix ∈ step.action.signals) :
    step.handlers = [Program.handlerName step.page suffix] := by
  have hget : step.action.signalMap.get? .dialog = some (.dialog suffix) :=
    (SignalMap.get?_ofList_eq_some_iff step.action.distinct).mpr ⟨h, rfl⟩
  rw [SignalMap.get?, Option.map_eq_some_iff] at hget
  obtain ⟨other, hdialog, he⟩ := hget
  rw [Step.handlers, hopens, hdialog, Signal.dialog.inj he]
  rfl

/-! ### Two names of a dialog -/

namespace BoundName

/-- What validation puts between the page and the suffix. -/
def colon : Text := ":"

theorem ofSignal?_dialog_eq_iff (page suffix other otherSuffix : Text) :
    ofSignal? page (.dialog suffix) = ofSignal? other (.dialog otherSuffix) ↔
      Text.joined colon (page, suffix) = Text.joined colon (other, otherSuffix) := by
  constructor
  · intro h
    exact dialog.inj (Option.some.inj h)
  · intro h
    exact congrArg (fun name => some (dialog name)) h

end BoundName

namespace Program

/-- What the program puts between the page and the suffix. -/
def handlerWord : Text := "_Dialog"

theorem handlerName_eq_iff (page suffix other otherSuffix : Text) :
    handlerName page suffix = handlerName other otherSuffix ↔
      Text.joined handlerWord (page, suffix) = Text.joined handlerWord (other, otherSuffix) := by
  constructor
  · intro h
    exact List.append_cancel_right h
  · intro h
    exact congrArg (· ++ "_EventHandler".toList) h

end Program

/-- The block of a step declares one handler for its dialog. Validation and the program agree on
whether two dialogs have one name exactly if neither of them is the other one, cut at another colon
or at another word of the program. -/
theorem dialogs_agree_iff {first second : Step} {suffix otherSuffix : Text}
    (hfirst : first.action.opensPage = false) (hsecond : second.action.opensPage = false)
    (hd : .dialog suffix ∈ first.action.signals)
    (he : .dialog otherSuffix ∈ second.action.signals) :
    let pair := (first.page, suffix)
    let other := (second.page, otherSuffix)
    (∀ statements, Program.blockStatements first = .ok statements →
        List.Forall₂ Program.DeclaresHandler (statements.filter Program.isHandlerDeclaration)
          [Program.handlerName first.page suffix]) ∧
      (∀ statements, Program.blockStatements second = .ok statements →
        List.Forall₂ Program.DeclaresHandler (statements.filter Program.isHandlerDeclaration)
          [Program.handlerName second.page otherSuffix]) ∧
      ((BoundName.ofSignal? first.page (.dialog suffix) =
            BoundName.ofSignal? second.page (.dialog otherSuffix) ↔
          Program.handlerName first.page suffix = Program.handlerName second.page otherSuffix) ↔
        ¬ Text.CutElsewhere BoundName.colon pair other ∧
          ¬ Text.CutElsewhere Program.handlerWord pair other) := by
  intro pair other
  refine ⟨?_, ?_, ?_⟩
  · intro statements h
    rw [← Step.handlers_eq hfirst hd]
    exact Program.declaresHandler_blockStatements h
  · intro statements h
    rw [← Step.handlers_eq hsecond he]
    exact Program.declaresHandler_blockStatements h
  · rw [BoundName.ofSignal?_dialog_eq_iff, Program.handlerName_eq_iff]
    exact Text.joined_agree_iff (by decide) (by decide) (by decide) pair other

def checkWithDialog (page suffix : Text) : Step :=
  ⟨page, true, none, none, ⟨[.dialog suffix], .check "a", List.nodup_singleton _⟩, Eq.refl true⟩

/-- The page of the second dialog is that of the first one with the word behind it. -/
theorem dialogs_agree_iff_word :
    let first := checkWithDialog "page" "_Dialog1"
    let second := checkWithDialog "page_Dialog" "1"
    (∀ statements, Program.blockStatements first = .ok statements →
        List.Forall₂ Program.DeclaresHandler (statements.filter Program.isHandlerDeclaration)
          ["page_Dialog_Dialog1_EventHandler".toList]) ∧
      (∀ statements, Program.blockStatements second = .ok statements →
        List.Forall₂ Program.DeclaresHandler (statements.filter Program.isHandlerDeclaration)
          ["page_Dialog_Dialog1_EventHandler".toList]) ∧
      Text.CutElsewhere Program.handlerWord ("page", "_Dialog1") ("page_Dialog", "1") ∧
      ¬ (BoundName.ofSignal? "page" (.dialog "_Dialog1") =
            BoundName.ofSignal? "page_Dialog" (.dialog "1") ↔
          Program.handlerName "page" "_Dialog1" = Program.handlerName "page_Dialog" "1") := by
  intro first second
  have hcut : Text.CutElsewhere Program.handlerWord ("page", "_Dialog1") ("page_Dialog", "1") :=
    .inl ⟨[], rfl, rfl⟩
  obtain ⟨hfirst, hsecond, hagree⟩ := @dialogs_agree_iff first second "_Dialog1" "1" rfl rfl
    List.mem_cons_self List.mem_cons_self
  exact ⟨hfirst, hsecond, hcut, fun h => (hagree.mp h).2 hcut⟩

/-- In a recording that validation accepts, two dialogs can have one handler. -/
theorem not_forall_dialogs_agree :
    ¬ ∀ (recording : Recording) (first second : Step) (suffix otherSuffix : Text),
      first ∈ recording.steps → second ∈ recording.steps →
      first.action.opensPage = false → second.action.opensPage = false →
      .dialog suffix ∈ first.action.signals → .dialog otherSuffix ∈ second.action.signals →
      (BoundName.ofSignal? first.page (.dialog suffix) =
          BoundName.ofSignal? second.page (.dialog otherSuffix) ↔
        Program.handlerName first.page suffix = Program.handlerName second.page otherSuffix) := by
  intro h
  let first := checkWithDialog "page" "_Dialog1"
  let second := checkWithDialog "page_Dialog" "1"
  have hsame := h ⟨{}, [first, second], by decide⟩ first second "_Dialog1" "1"
    List.mem_cons_self (List.mem_cons_of_mem _ List.mem_cons_self) rfl rfl
    List.mem_cons_self List.mem_cons_self
  exact absurd (hsame.mpr (by decide)) (by decide)

end SessionReplay
