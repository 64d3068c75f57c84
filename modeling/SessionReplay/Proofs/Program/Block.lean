import SessionReplay.Program.Block
import SessionReplay.Proofs.Program.Call
import SessionReplay.Proofs.Program.Layout
import SessionReplay.Proofs.Recording.Slot

/-!
# The lines of a block

Which lines a block has is told by its signals alone: each of them puts fixed lines at its place, and
the one call stands in the middle. Titles, addresses and all other recorded texts stay within the
line they are written to, so none of them adds a line or splits one.
-/

namespace SessionReplay

namespace Program

open Text

variable {step : Step}

/-! ### Lines that stay as they are -/

/-- A text that begins and ends with something else than a blank is not trimmed. -/
theorem trim_append_eq {front back : Text} (hf : front.head?.map isBlank = some false)
    (hb : back.getLast?.map isBlank = some false) : trim (front ++ back) = front ++ back := by
  apply trim_eq_self
  · intro c hc
    cases front with
    | nil => exact absurd hf (by simp)
    | cons first rest =>
      have h : first = c := Option.some.inj hc
      simpa [h] using hf
  · intro c hc
    cases hl : back.getLast? with
    | none =>
      rw [hl] at hb
      exact absurd hb (by simp)
    | some last =>
      rw [List.getLast?_append, hl] at hc
      have h : last = c := Option.some.inj hc
      rw [hl] at hb
      simpa [h] using hb

theorem flatMap_ofText {buffer : Lines} (h : Lines.Trimmed buffer) :
    buffer.flatMap Lines.ofText = buffer := by
  induction buffer with
  | nil => rfl
  | cons line rest ih =>
    obtain ⟨hfeed, htrim⟩ := h line List.mem_cons_self
    rw [List.flatMap_cons, ih fun l hl => h l (List.mem_cons_of_mem _ hl),
      Lines.ofText_of_not_mem hfeed, htrim]
    rfl

theorem lineEnds_escapeLineEnd (c : Char) :
    lineEnds (escapeLineEnd c) = if c = '\x85' then ['\x85'] else [] := by
  by_cases hc : c = '\x85'
  · rw [hc]
    decide
  · rw [if_neg hc]
    unfold escapeLineEnd
    split_ifs with hreturn hfeed hline hparagraph
    · decide
    · decide
    · decide
    · decide
    · rw [lineEnds, List.filter_eq_nil_iff]
      intro d hd
      rw [List.mem_singleton.mp hd]
      simp [isLineEnd, hc, hreturn, hfeed, hline, hparagraph]

/-- The only line ends in a title are the U+0085 of its text. -/
theorem lineEnds_singleLine (text : Text) :
    lineEnds (singleLine text) = text.filter (· == '\x85') := by
  unfold singleLine
  induction text with
  | nil => rfl
  | cons c rest ih =>
    rw [List.flatMap_cons, lineEnds_append, ih, lineEnds_escapeLineEnd, List.filter_cons]
    by_cases hc : c = '\x85' <;> simp [hc]

theorem lineEnds_titleComment (operation : Operation) :
    lineEnds (titleComment operation) = operation.title.filter (· == '\x85') := by
  have hmark : lineEnds "// " = [] := by decide
  rw [titleComment, lineEnds_append, hmark, List.nil_append, lineEnds_singleLine]

theorem not_mem_titleComment (operation : Operation) : '\n' ∉ titleComment operation := by
  intro hm
  have h : '\n' ∈ lineEnds (titleComment operation) := mem_lineEnds.mpr ⟨hm, rfl⟩
  rw [lineEnds_titleComment] at h
  exact absurd (List.mem_filter.mp h).2 (by decide)

/-! ### What signals put into a block -/

def waitOpening (page variableName method : Text) : List Text :=
  ["var " ++ variableName ++ " = await " ++ page ++ "." ++ method ++ "(async () =>", "\x7b"]

def waitClosing : List Text := ["\x7d);"]

def navigationOpening (page : Text) : List Text :=
  ["await " ++ page ++ ".RunAndWaitForNavigationAsync(async () =>", "\x7b"]

def navigationClosing (isMainFrame : Bool) (url : Text) : List Text :=
  ["\x7d/*, new " ++ (if isMainFrame then "Page".toList else "Frame".toList) ++
      "WaitForNavigationOptions", "\x7b", "UrlString = " ++ url.quoted, "\x7d*/);"]

/-- The comment that checks an address. -/
def assertion (page url : Text) : Text := "// Assert.Equal(" ++ url.quoted ++ ", " ++ page ++ ".Url);"

theorem trimmed_navigationClosing (isMainFrame : Bool) (url : Text) :
    Lines.Trimmed (navigationClosing isMainFrame url) := by
  have hurl : '\n' ∉ url.quoted := not_mem_quoted url
  intro line hl
  simp only [navigationClosing, List.mem_cons, List.not_mem_nil, or_false] at hl
  rcases hl with rfl | rfl | rfl | rfl
  · cases isMainFrame <;> decide
  · decide
  · exact ⟨by simp [hurl], trim_append_eq rfl (by rw [getLast?_quoted]; decide)⟩
  · decide

def awaited (step : Step) (callText : Text) : Text :=
  "await " ++ subject step ++ "." ++ callText ++ ";"

def linesBefore (page : Text) : Signal → List Text
  | .dialog suffix => handlerLines page suffix
  | .popup opened => waitOpening page opened "RunAndWaitForPopupAsync"
  | .download suffix => waitOpening page ("download" ++ suffix) "RunAndWaitForDownloadAsync"
  | .navigation _ true => navigationOpening page
  | .navigation _ false => []

def linesBehind (step : Step) : Signal → List Text
  | .dialog _ => []
  | .popup _ | .download _ => waitClosing
  | .navigation url true => navigationClosing step.isMainFrame url
  | .navigation url false => [assertion step.page url]

def fromSlots (step : Step) (contribution : Signal → List Text) (slots : List Slot) : List Text :=
  slots.flatMap fun slot =>
    (step.action.signals.filter (·.slot == slot)).flatMap contribution

theorem fromSlots_nil (contribution : Signal → List Text) : fromSlots step contribution [] = [] :=
  rfl

theorem fromSlots_cons (contribution : Signal → List Text) (slot : Slot) (rest : List Slot) :
    fromSlots step contribution (slot :: rest) =
      (step.action.signalMap.get? slot).elim [] contribution ++ fromSlots step contribution rest := by
  rw [fromSlots, List.flatMap_cons, Action.filter_signals]
  cases step.action.signalMap.get? slot with
  | none => rfl
  | some signal => rw [Option.toList_some, List.flatMap_singleton]; rfl

theorem exists_of_mem_fromSlots {contribution : Signal → List Text} {slots : List Slot} {line : Text}
    (h : line ∈ fromSlots step contribution slots) :
    ∃ signal ∈ step.action.signals, line ∈ contribution signal := by
  obtain ⟨slot, -, hl⟩ := List.mem_flatMap.mp h
  obtain ⟨signal, hs, hl⟩ := List.mem_flatMap.mp hl
  exact ⟨signal, (List.mem_filter.mp hs).1, hl⟩

theorem mem_fromSlots {contribution : Signal → List Text} {slots : List Slot} {signal : Signal}
    {line : Text} (hs : signal ∈ step.action.signals) (hslot : signal.slot ∈ slots)
    (hl : line ∈ contribution signal) : line ∈ fromSlots step contribution slots := by
  have hm : signal ∈ step.action.signals.filter (·.slot == signal.slot) :=
    List.mem_filter.mpr ⟨hs, beq_self_eq_true _⟩
  exact List.mem_flatMap.mpr ⟨signal.slot, hslot, List.mem_flatMap.mpr ⟨signal, hm, hl⟩⟩

theorem boundWait_eq (page variableName method : Text) (inner : List Text) :
    boundWait page variableName method inner =
      waitOpening page variableName method ++ inner ++ waitClosing :=
  rfl

theorem navigationWait_eq (step : Step) (url : Text) (inner : List Text) :
    navigationWait step url inner =
      navigationOpening step.page ++ inner ++ navigationClosing step.isMainFrame url := by
  unfold navigationWait navigationClosing
  cases step.isMainFrame <;> rfl

theorem wrap_eq {wait : Text → List Text → List Text} {opening closing : Text → List Text}
    {inner : List Text} (name : Option Text)
    (hw : ∀ n, wait n inner = opening n ++ inner ++ closing n) :
    wrap wait name inner = name.elim [] opening ++ inner ++ name.elim [] closing := by
  cases name with
  | none => exact (List.append_nil inner).symm
  | some n => exact hw n

/-- A wait puts its opening before the lines within it and its end behind them. -/
theorem statementLines_eq (step : Step) (callText : Text) :
    statementLines step callText =
      fromSlots step (linesBefore step.page) [.popup, .download, .waitForNavigation] ++
        [awaited step callText] ++
        fromSlots step (linesBehind step) [.waitForNavigation, .download, .popup] := by
  change wrap _ _ (wrap _ _ (wrap _ _ [awaited step callText])) = _
  rw [wrap_eq _ fun page => boundWait_eq step.page page _ _,
    wrap_eq _ fun suffix => boundWait_eq step.page ("download" ++ suffix) _ _,
    wrap_eq _ fun url => navigationWait_eq step url _]
  simp only [fromSlots_cons, fromSlots_nil, SignalMap.get?, Option.elim_map, List.append_assoc,
    List.append_nil]
  rfl

theorem assertionLines_eq (step : Step) :
    assertionLines step = fromSlots step (linesBehind step) [.assertNavigation] := by
  rw [fromSlots_cons, SignalMap.get?, assertionLines]
  cases step.action.signalMap.assertNavigation <;> rfl

theorem opensPage_eq_false (hop : ∀ url, step.action.operation ≠ .openPage url) :
    step.action.opensPage = false := by
  unfold Action.opensPage
  split
  next url he => exact absurd he (hop url)
  next => rfl

theorem blockStatements_eq (hop : ∀ url, step.action.operation ≠ .openPage url) :
    blockStatements step =
      (call step.isMainFrame step.action.operation).map fun callText =>
        dialogLines step ++ statementLines step callText ++ assertionLines step := by
  unfold blockStatements
  split
  next url he => exact absurd he (hop url)
  next => rfl

/-- A step either opens a page, or has a call in the middle of its statements. -/
theorem blockStatements_ok {statements : List Text} (h : blockStatements step = .ok statements) :
    (∃ url, step.action.operation = .openPage url ∧ statements = openingLines step.page url) ∨
      (∀ url, step.action.operation ≠ .openPage url) ∧
        ∃ callText, call step.isMainFrame step.action.operation = .ok callText ∧
          statements = dialogLines step ++ statementLines step callText ++ assertionLines step := by
  by_cases hopens : ∃ url, step.action.operation = .openPage url
  · obtain ⟨url, hurl⟩ := hopens
    refine .inl ⟨url, hurl, ?_⟩
    unfold blockStatements at h
    rw [hurl] at h
    exact (Except.ok.inj h).symm
  · have hop : ∀ url, step.action.operation ≠ .openPage url := fun url he => hopens ⟨url, he⟩
    refine .inr ⟨hop, ?_⟩
    rw [blockStatements_eq hop] at h
    cases hc : call step.isMainFrame step.action.operation with
    | error =>
      rw [hc] at h
      exact absurd h (by simp [Except.map])
    | ok callText =>
      rw [hc] at h
      exact ⟨callText, rfl, (Except.ok.inj h).symm⟩

theorem block_ok {text : Text} (h : block step = .ok text) :
    ∃ statements, blockStatements step = .ok statements ∧
      text = Lines.render bodyOffset (Lines.newLine [] ++
        (titleComment step.action.operation :: statements).flatMap Lines.ofText) := by
  obtain ⟨buffer, hb, ht⟩ := exists_of_bind_eq_ok h
  obtain ⟨statements, hs, hbuffer⟩ := exists_of_bind_eq_ok hb
  obtain rfl := Except.ok.inj ht
  obtain rfl := Except.ok.inj hbuffer
  exact ⟨statements, hs, by rw [Lines.foldl_add]⟩

theorem block_error_iff (hop : ∀ url, step.action.operation ≠ .openPage url) (fault : ProgramFault) :
    block step = .error fault ↔ call step.isMainFrame step.action.operation = .error fault := by
  unfold block blockLines
  rw [blockStatements_eq hop]
  cases call step.isMainFrame step.action.operation <;>
    simp [Except.map, bind, Except.bind]

/-! ### The lines of the call -/

/-- A statement speaks to the page itself, or to a frame of it that a literal tells. -/
theorem subject_cases (step : Step) :
    step.frame? = none ∧ subject step = step.page ∨
      ∃ method : Text, method ∈ [".Frame(".toList, ".FrameByUrl(".toList] ∧
        ∃ frame, step.frame? = some frame ∧
          subject step = step.page ++ method ++ frame.quoted ++ ")" := by
  unfold subject Step.frame?
  cases hmain : step.isMainFrame with
  | true => exact .inl ⟨rfl, rfl⟩
  | false =>
    right
    cases hname : step.frameName with
    | none => exact ⟨_, List.mem_cons_of_mem _ List.mem_cons_self, _, rfl, rfl⟩
    | some name =>
      cases name with
      | nil => exact ⟨_, List.mem_cons_of_mem _ List.mem_cons_self, _, rfl, rfl⟩
      | cons c rest => exact ⟨_, List.mem_cons_self, _, rfl, rfl⟩

theorem lineEnds_subject (h : IsWord step.page) :
    lineEnds (subject step) = step.frame?.elim [] fun frame => lineEnds frame.quoted := by
  have hpage : lineEnds step.page = [] := h.lineEnds
  have hclose : lineEnds ")" = [] := by decide
  rcases subject_cases step with ⟨hframe, hsubject⟩ | ⟨method, hm, frame, hframe, hsubject⟩
  · rw [hframe, hsubject]
    exact hpage
  · have hmethod : lineEnds method = [] := by
      have hmethods : ∀ m ∈ [".Frame(".toList, ".FrameByUrl(".toList], lineEnds m = [] := by decide
      exact hmethods method hm
    rw [hframe, hsubject, lineEnds_append, lineEnds_append, lineEnds_append, hpage, hmethod, hclose,
      List.nil_append, List.nil_append, List.append_nil]
    rfl

/-- The line ends of a statement: those of its literals, and those between the options of a click. -/
theorem lineEnds_awaited {callText : Text} (h : IsWord step.page)
    (hc : call step.isMainFrame step.action.operation = .ok callText) :
    lineEnds (awaited step callText) =
      (step.frame?.toList ++ step.action.operation.literals).flatMap
          (fun text => lineEnds text.quoted) ++
        List.replicate step.action.operation.feeds '\n' := by
  have hawait : lineEnds "await " = [] := by decide
  have hdot : lineEnds "." = [] := by decide
  have hend : lineEnds ";" = [] := by decide
  have hframe : step.frame?.toList.flatMap (fun text => lineEnds text.quoted) =
      step.frame?.elim [] fun frame => lineEnds frame.quoted := by
    cases step.frame? with
    | none => rfl
    | some frame => exact List.flatMap_singleton ..
  unfold awaited
  rw [lineEnds_append, lineEnds_append, lineEnds_append, lineEnds_append,
    lineEnds_subject h, lineEnds_call hc, hawait, hdot, hend, List.flatMap_append, hframe,
    List.nil_append, List.append_nil, List.append_nil, List.append_assoc]

end Program
end SessionReplay
