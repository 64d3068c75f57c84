import SessionReplay.Proofs.Bracket.Literal
import SessionReplay.Proofs.Program.Block

/-!
# Brackets of blocks

A wait opens a bracket and a brace and closes both behind the statements within it, a handler does
the same with its braces, and the call itself is closed. So a block leaves the brackets open that
were open before it, if the names it declares and uses are plain.
-/

namespace SessionReplay.Program

open Brackets

variable {step : Step}

/-! ### Calls -/

theorem closed_methodCall {method : Text} {arguments : List Text} (hm : Closed method)
    (h : ∀ argument ∈ arguments, Closed argument) : Closed (methodCall method arguments) := by
  have hjoined : Closed (Text.join ", " arguments) := closed_join (.of_plain (by decide)) h
  unfold methodCall
  apply hjoined.within
  · intro opened
    rw [scan_append_of_eq (hm opened)]
    rfl
  · exact fun _ => rfl

theorem closed_textArray (texts : List Text) : Closed (textArray texts) := by
  apply closed_arrayLiteral
  intro item hi
  obtain ⟨text, -, rfl⟩ := List.mem_map.mp hi
  exact closed_quoted text

theorem closed_clickAssignments (clicks : Click) {numeral : Text} (h : IsNumeral numeral) :
    ∀ assignment ∈ clickAssignments clicks numeral, Closed assignment := by
  have hcomma : Closed "," := .of_plain (by decide)
  have hmember : ∀ member ∈ (Modifier.heldNames clicks.modifiers).map
      ("KeyboardModifier.".toList ++ ·), Closed member := by
    intro member hm
    obtain ⟨modifier, rfl⟩ := exists_of_mem_heldNames hm
    cases modifier <;> exact .of_plain (by decide)
  intro assignment ha
  rcases mem_clickAssignments ha with rfl | rfl | rfl
  · cases clicks.button <;> exact .of_plain (by decide)
  · have hset : Closed "Modifiers = " := .of_plain (by decide)
    exact (hset.append (closed_arrayLiteral hmember)).append hcomma
  · have hset : Closed "ClickCount = " := .of_plain (by decide)
    exact (hset.append (.of_plain (plain_numeral h))).append hcomma

/-- The call of an operation is closed, whatever its literals hold. -/
theorem closed_call {onPage : Bool} {operation : Operation} {text : Text}
    (h : call onPage operation = .ok text) : Closed text := by
  have hmethod : ∀ method ∈ methods, Plain method := by decide
  cases written_of_call h with
  | @literals method hm _ =>
    apply closed_methodCall (.of_plain (hmethod method hm))
    intro argument ha
    obtain ⟨text, -, rfl⟩ := List.mem_map.mp ha
    exact closed_quoted text
  | @array method first rest hm _ _ =>
    apply closed_methodCall (.of_plain (hmethod method hm))
    intro argument ha
    rcases List.mem_cons.mp ha with rfl | ha
    · exact closed_quoted first
    · rw [List.mem_singleton.mp ha]
      exact closed_textArray rest
  | @options clicks numeral _ _ hn =>
    have hclass : Plain (optionsClass onPage (clickMethod clicks)) := by
      unfold clickMethod
      split <;> cases onPage <;> decide
    apply closed_methodCall (.of_plain (hmethod _ (clickMethod_mem clicks)))
    intro argument ha
    rcases List.mem_cons.mp ha with rfl | ha
    · exact closed_quoted clicks.selector
    · rw [List.mem_singleton.mp ha]
      exact closed_objectLiteral (.of_plain (by decide)) (.of_plain (plain_className hclass))
        (closed_clickAssignments clicks hn)

theorem closed_subject (h : Plain step.page) : Closed (subject step) := by
  have hpage : Closed step.page := .of_plain h
  have hclose : ∀ opened, scan ⟨.code, '(' :: opened⟩ ")" = some ⟨.code, opened⟩ := fun _ => rfl
  rcases subject_cases step with ⟨-, hsubject⟩ | ⟨method, hm, frame, -, hsubject⟩
  · rw [hsubject]
    exact hpage
  · rw [hsubject]
    apply (closed_quoted _).within _ hclose
    intro opened
    rw [scan_append_of_eq (hpage opened)]
    rcases List.mem_cons.mp hm with rfl | hm
    · rfl
    · rw [List.mem_singleton.mp hm]
      rfl

theorem closed_awaited {callText : Text} (h : Plain step.page)
    (hc : call step.isMainFrame step.action.operation = .ok callText) :
    Closed (awaited step callText) := by
  have hawait : Closed "await " := .of_plain (by decide)
  have hdot : Closed "." := .of_plain (by decide)
  have hend : Closed ";" := .of_plain (by decide)
  exact (((hawait.append (closed_subject h)).append hdot).append (closed_call hc)).append hend

/-! ### Statements -/

theorem afterLines_waitOpening {page variableName method : Text} (hp : Plain page)
    (hv : Plain variableName) (hm : Plain method) (opened : Text) :
    afterLines opened (waitOpening page variableName method) = some ('{' :: '(' :: opened) := by
  have hvar : Closed "var " := .of_plain (by decide)
  have hawait : Closed " = await " := .of_plain (by decide)
  have hdot : Closed "." := .of_plain (by decide)
  have hfront : Closed ("var " ++ variableName ++ " = await " ++ page ++ "." ++ method) :=
    ((((hvar.append (.of_plain hv)).append hawait).append (.of_plain hp)).append hdot).append
      (.of_plain hm)
  have hline : after opened
      ("var " ++ variableName ++ " = await " ++ page ++ "." ++ method ++ "(async () =>") =
        some ('(' :: opened) := by
    apply after_of_scan
    rw [scan_append_of_eq (hfront opened)]
    rfl
  unfold waitOpening
  rw [afterLines_cons hline]
  rfl

theorem afterLines_waitClosing (opened : Text) :
    afterLines ('{' :: '(' :: opened) waitClosing = some opened :=
  rfl

theorem afterLines_navigationOpening {page : Text} (hp : Plain page) (opened : Text) :
    afterLines opened (navigationOpening page) = some ('{' :: '(' :: opened) := by
  have hawait : Closed "await " := .of_plain (by decide)
  have hline : after opened ("await " ++ page ++ ".RunAndWaitForNavigationAsync(async () =>") =
      some ('(' :: opened) := by
    apply after_of_scan
    rw [scan_append_of_eq ((hawait.append (.of_plain hp)) opened)]
    rfl
  unfold navigationOpening
  rw [afterLines_cons hline]
  rfl

/-- The end of a wait for a navigation closes a brace, opens and closes one in a comment, and closes
the bracket. -/
theorem afterLines_navigationClosing (isMainFrame : Bool) (url opened : Text) :
    afterLines ('{' :: '(' :: opened) (navigationClosing isMainFrame url) = some opened := by
  have hclass : after ('{' :: '(' :: opened)
      ("\x7d/*, new " ++ (if isMainFrame then "Page".toList else "Frame".toList) ++
        "WaitForNavigationOptions") = some ('(' :: opened) := by
    cases isMainFrame <;> rfl
  have hbrace : after ('(' :: opened) "\x7b" = some ('{' :: '(' :: opened) := rfl
  have hset : Closed "UrlString = " := .of_plain (by decide)
  have haddress := after_of_closed (hset.append (closed_quoted url)) ('{' :: '(' :: opened)
  unfold navigationClosing
  rw [afterLines_cons hclass, afterLines_cons hbrace, afterLines_cons haddress]
  rfl

theorem afterLines_handlerLines {page suffix : Text} (hp : Plain page) (hs : Plain suffix)
    (opened : Text) : afterLines opened (handlerLines page suffix) = some opened := by
  have hname : Closed (handlerName page suffix) := by
    have hdialog : Closed "_Dialog" := .of_plain (by decide)
    exact (((Closed.of_plain hp).append hdialog).append (.of_plain hs)).append
      (.of_plain (by decide))
  have hsignature : after opened
      ("void " ++ handlerName page suffix ++ "(object sender, IDialog dialog)") = some opened := by
    have hvoid : Closed "void " := .of_plain (by decide)
    have harguments : Closed "(object sender, IDialog dialog)" := fun _ => rfl
    exact after_of_closed ((hvoid.append hname).append harguments) opened
  have hbrace : after opened "\x7b" = some ('{' :: opened) := rfl
  have hmessage : after ('{' :: opened)
      "Console.WriteLine($\"Dialog message: \x7bdialog.Message\x7d\");" = some ('{' :: opened) := rfl
  have hdismiss : after ('{' :: opened) "dialog.DismissAsync();" = some ('{' :: opened) := rfl
  have hend : Closed ";" := .of_plain (by decide)
  have hoff : after ('{' :: opened) (page ++ ".Dialog -= " ++ handlerName page suffix ++ ";") =
      some ('{' :: opened) := by
    have hminus : Closed ".Dialog -= " := .of_plain (by decide)
    exact after_of_closed ((((Closed.of_plain hp).append hminus).append hname).append hend) _
  have hclose : after ('{' :: opened) "\x7d" = some opened := rfl
  have hon : after opened (page ++ ".Dialog += " ++ handlerName page suffix ++ ";") =
      some opened := by
    have hplus : Closed ".Dialog += " := .of_plain (by decide)
    exact after_of_closed ((((Closed.of_plain hp).append hplus).append hname).append hend) _
  unfold handlerLines
  rw [afterLines_cons hsignature, afterLines_cons hbrace, afterLines_cons hmessage,
    afterLines_cons hdismiss, afterLines_cons hoff, afterLines_cons hclose, afterLines_cons hon]
  rfl

theorem afterLines_wrap {wait : Text → List Text → List Text} {opening closing : Text → List Text}
    {name : Option Text} {inner : List Text} {within : Text → Text}
    (hw : ∀ n, wait n inner = opening n ++ inner ++ closing n)
    (ho : ∀ n ∈ name, ∀ opened, afterLines opened (opening n) = some (within opened))
    (hc : ∀ n ∈ name, ∀ opened, afterLines (within opened) (closing n) = some opened)
    (hi : ∀ opened, afterLines opened inner = some opened) (opened : Text) :
    afterLines opened (wrap wait name inner) = some opened := by
  cases name with
  | none => exact hi opened
  | some n =>
    rw [wrap, hw, List.append_assoc, afterLines_append_of_eq (ho n rfl opened),
      afterLines_append_of_eq (hi _), hc n rfl]

theorem afterLines_statementLines {callText : Text} (hnames : ∀ name ∈ step.names, Plain name)
    (hc : call step.isMainFrame step.action.operation = .ok callText) (opened : Text) :
    afterLines opened (statementLines step callText) = some opened := by
  have hpage : Plain step.page := hnames step.page List.mem_cons_self
  have hstatement : ∀ opened, afterLines opened [awaited step callText] = some opened := by
    intro opened
    rw [afterLines_cons (after_of_closed (closed_awaited hpage hc) opened)]
    rfl
  unfold statementLines
  apply afterLines_wrap (fun page => boundWait_eq step.page page _ _) _
    fun _ _ => afterLines_waitClosing
  · apply afterLines_wrap (fun suffix => boundWait_eq step.page ("download" ++ suffix) _ _) _
      fun _ _ => afterLines_waitClosing
    · exact afterLines_wrap (fun url => navigationWait_eq step url _)
        (fun _ _ => afterLines_navigationOpening hpage)
        (fun url _ => afterLines_navigationClosing _ url) hstatement
    · intro suffix hs
      exact afterLines_waitOpening hpage
        (.append (by decide) (hnames suffix (Step.download_mem_names hs))) (by decide)
  · intro page hp
    exact afterLines_waitOpening hpage (hnames page (Step.popup_mem_names hp)) (by decide)

theorem after_dialogLines (hnames : ∀ name ∈ step.names, Plain name) (opened : Text) :
    ∀ statement ∈ dialogLines step, after opened statement = some opened := by
  intro statement hs
  unfold dialogLines at hs
  split at hs
  next suffix hd =>
    rw [List.mem_singleton.mp hs]
    exact (after_unlines opened _ _).trans (afterLines_handlerLines
      (hnames step.page List.mem_cons_self) (hnames suffix (Step.dialog_mem_names hd)) opened)
  next => exact absurd hs List.not_mem_nil

theorem after_assertionLines (hpage : Plain step.page) (opened : Text) :
    ∀ statement ∈ assertionLines step, after opened statement = some opened := by
  intro statement hs
  unfold assertionLines at hs
  split at hs
  next url _ =>
    have hfeed : '\n' ∉ " Assert.Equal(" ++ url.quoted ++ ", " ++ step.page ++ ".Url);" := by
      simp [Text.not_mem_quoted, hpage.feed_not_mem]
    rw [List.mem_singleton.mp hs]
    exact after_comment opened hfeed
  next => exact absurd hs List.not_mem_nil

theorem after_openingLines {page : Text} {url : Option Text} (hp : Plain page) (opened : Text) :
    ∀ statement ∈ openingLines page url, after opened statement = some opened := by
  have hvar : Closed "var " := .of_plain (by decide)
  have hnew : Closed " = await context.NewPageAsync();" := fun _ => rfl
  have hopening := (hvar.append (.of_plain hp)).append hnew
  intro statement hs
  unfold openingLines at hs
  split at hs
  next address =>
    split at hs
    next =>
      rw [List.mem_singleton.mp hs]
      exact after_of_closed hopening opened
    next =>
      rcases List.mem_cons.mp hs with rfl | hs
      · exact after_of_closed hopening opened
      · have hawait : Closed "await " := .of_plain (by decide)
        have hfront : ∀ opened, scan ⟨.code, opened⟩ ("await " ++ page ++ ".GotoAsync(") =
            some ⟨.code, '(' :: opened⟩ := by
          intro opened
          rw [scan_append_of_eq ((hawait.append (.of_plain hp)) opened)]
          rfl
        rw [List.mem_singleton.mp hs]
        exact after_of_closed ((closed_quoted address).within hfront fun _ => rfl) opened
  next =>
    rw [List.mem_singleton.mp hs]
    exact after_of_closed hopening opened

theorem after_titleComment (operation : Operation) (opened : Text) :
    after opened (titleComment operation) = some opened := by
  have hfeed : '\n' ∉ ' ' :: singleLine operation.title := by
    intro hm
    exact not_mem_titleComment operation (List.mem_cons_of_mem _ (List.mem_cons_of_mem _ hm))
  exact after_comment opened hfeed

theorem afterLines_blockStatements {statements : List Text}
    (hnames : ∀ name ∈ step.names, Plain name) (h : blockStatements step = .ok statements)
    (opened : Text) : afterLines opened statements = some opened := by
  have hpage : Plain step.page := hnames step.page List.mem_cons_self
  rcases blockStatements_ok h with ⟨url, -, rfl⟩ | ⟨-, callText, hc, rfl⟩
  · exact afterLines_eq_self (after_openingLines hpage opened)
  · rw [List.append_assoc,
      afterLines_append_of_eq (afterLines_eq_self (after_dialogLines hnames opened)),
      afterLines_append_of_eq (afterLines_statementLines hnames hc opened)]
    exact afterLines_eq_self (after_assertionLines hpage opened)

/-- A block leaves the brackets open that were open before it. -/
theorem after_block {text : Text} (hnames : ∀ name ∈ step.names, Plain name)
    (h : block step = .ok text) (opened : Text) : after opened text = some opened := by
  obtain ⟨statements, hs, rfl⟩ := block_ok h
  have hempty : afterLines opened (Lines.newLine []) = some opened := rfl
  rw [after_render opened bodyOffset (by simp [Lines.newLine]) (Lines.trimmed_newLine_append _),
    afterLines_append_of_eq hempty, afterLines_flatMap_ofText,
    afterLines_cons (after_titleComment _ opened)]
  exact afterLines_blockStatements hnames hs opened

end SessionReplay.Program
