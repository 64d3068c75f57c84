import SessionReplay.Proofs.Program.Block

/-!
# Recorded texts and source lines

Source code ends its lines at five characters. Literals and titles escape all of them but U+0085, so
a block has other lines as source code than between its line feeds exactly if a recorded text that
is written in it has U+0085.
-/

namespace SessionReplay

/-! ### Recorded texts -/

namespace Operation

def recorded : Operation → List Text
  | .openPage url => url.toList
  | .closePage => []
  | .click clicks => [clicks.selector]
  | .check selector | .uncheck selector => [selector]
  | .fill selector text => [selector, text]
  | .setInputFiles selector files => selector :: files
  | .press selector key _ => [selector, key]
  | .navigate url => [url]
  | .select selector options => selector :: options

end Operation

namespace Signal

def address : Signal → List Text
  | .navigation url _ => [url]
  | _ => []

end Signal

namespace Step

/-- The recorded texts that are written in the block of a step. A step that opens a page has no frame
and waits for nothing. -/
def recorded (step : Step) : List Text :=
  if step.action.opensPage then step.action.operation.recorded
  else
    step.frame?.toList ++ step.action.operation.recorded ++ step.action.signals.flatMap Signal.address

end Step

namespace Program

open Text

variable {step : Step} {recorded : List Text}

theorem recorded_eq (hop : ∀ url, step.action.operation ≠ .openPage url) :
    step.recorded = step.frame?.toList ++ step.action.operation.recorded ++
      step.action.signals.flatMap Signal.address := by
  rw [Step.recorded, opensPage_eq_false hop]
  rfl

/-! ### Where line ends come from -/

/-- Every line end is a line feed, or a U+0085 that stands in a recorded text. -/
def EndsFrom (recorded : List Text) (text : Text) : Prop :=
  ∀ c ∈ lineEnds text, c = '\n' ∨ c = '\x85' ∧ ∃ written ∈ recorded, '\x85' ∈ written

namespace EndsFrom

theorem of_plain {text : Text} (h : lineEnds text = []) : EndsFrom recorded text := by
  intro c hc
  rw [h] at hc
  exact absurd hc List.not_mem_nil

theorem append_iff {a b : Text} :
    EndsFrom recorded (a ++ b) ↔ EndsFrom recorded a ∧ EndsFrom recorded b := by
  simp only [EndsFrom, lineEnds_append, List.mem_append, or_imp, forall_and]

theorem of_filter {text source : Text} (h : lineEnds text = source.filter (· == '\x85'))
    (hs : '\x85' ∈ source → ∃ written ∈ recorded, '\x85' ∈ written) : EndsFrom recorded text := by
  intro c hc
  rw [h] at hc
  obtain ⟨hm, he⟩ := List.mem_filter.mp hc
  rw [eq_of_beq he] at hm
  exact .inr ⟨eq_of_beq he, hs hm⟩

theorem quoted {text : Text} (h : text ∈ recorded) : EndsFrom recorded text.quoted :=
  of_filter (lineEnds_quoted text) fun hm => ⟨text, h, hm⟩

theorem unlines {pieces : List Text} (h : ∀ piece ∈ pieces, EndsFrom recorded piece) :
    EndsFrom recorded (Text.unlines pieces) := by
  intro c hc
  obtain ⟨hm, he⟩ := mem_lineEnds.mp hc
  rcases mem_unlines hm with hfeed | ⟨piece, hp, hc⟩
  · exact .inl hfeed
  · exact h piece hp c (mem_lineEnds.mpr ⟨hc, he⟩)

end EndsFrom

theorem endsFrom_handlerLines {page suffix : Text} (hp : IsWord page) (hs : IsWord suffix) :
    ∀ line ∈ handlerLines page suffix, EndsFrom recorded line := by
  have hpage : EndsFrom recorded page := .of_plain hp.lineEnds
  have hsuffix : EndsFrom recorded suffix := .of_plain hs.lineEnds
  intro line hl
  simp only [handlerLines, handlerName, List.mem_cons, List.not_mem_nil, or_false] at hl
  rcases hl with rfl | rfl | rfl | rfl | rfl | rfl | rfl
  · simp only [EndsFrom.append_iff, hpage, hsuffix, and_true, true_and]
    and_intros <;> exact .of_plain (by decide)
  · exact .of_plain (by decide)
  · exact .of_plain (by decide)
  · exact .of_plain (by decide)
  · simp only [EndsFrom.append_iff, hpage, hsuffix, and_true, true_and]
    and_intros <;> exact .of_plain (by decide)
  · exact .of_plain (by decide)
  · simp only [EndsFrom.append_iff, hpage, hsuffix, and_true, true_and]
    and_intros <;> exact .of_plain (by decide)

theorem endsFrom_waitOpening {page variableName method : Text} (hp : IsWord page)
    (hv : IsWord variableName) (hm : IsWord method) :
    ∀ line ∈ waitOpening page variableName method, EndsFrom recorded line := by
  have hpage : EndsFrom recorded page := .of_plain hp.lineEnds
  have hvariable : EndsFrom recorded variableName := .of_plain hv.lineEnds
  have hmethod : EndsFrom recorded method := .of_plain hm.lineEnds
  intro line hl
  simp only [waitOpening, List.mem_cons, List.not_mem_nil, or_false] at hl
  rcases hl with rfl | rfl
  · simp only [EndsFrom.append_iff, hpage, hvariable, hmethod, and_true]
    and_intros <;> exact .of_plain (by decide)
  · exact .of_plain (by decide)

theorem endsFrom_navigationOpening {page : Text} (hp : IsWord page) :
    ∀ line ∈ navigationOpening page, EndsFrom recorded line := by
  have hpage : EndsFrom recorded page := .of_plain hp.lineEnds
  intro line hl
  simp only [navigationOpening, List.mem_cons, List.not_mem_nil, or_false] at hl
  rcases hl with rfl | rfl
  · simp only [EndsFrom.append_iff, hpage, and_true]
    and_intros <;> exact .of_plain (by decide)
  · exact .of_plain (by decide)

theorem endsFrom_navigationClosing (isMainFrame : Bool) {url : Text} (hu : url ∈ recorded) :
    ∀ line ∈ navigationClosing isMainFrame url, EndsFrom recorded line := by
  intro line hl
  simp only [navigationClosing, List.mem_cons, List.not_mem_nil, or_false] at hl
  rcases hl with rfl | rfl | rfl | rfl
  · cases isMainFrame <;> exact .of_plain (by decide)
  · exact .of_plain (by decide)
  · exact EndsFrom.append_iff.mpr ⟨.of_plain (by decide), .quoted hu⟩
  · exact .of_plain (by decide)

theorem endsFrom_assertion {page url : Text} (hp : IsWord page) (hu : url ∈ recorded) :
    EndsFrom recorded (assertion page url) := by
  have hpage : EndsFrom recorded page := .of_plain hp.lineEnds
  have hurl : EndsFrom recorded url.quoted := .quoted hu
  unfold assertion
  simp only [EndsFrom.append_iff, hpage, hurl, and_true]
  and_intros <;> exact .of_plain (by decide)

theorem endsFrom_openingLines {page : Text} {url : Option Text} (hp : IsWord page)
    (hu : ∀ address ∈ url, address ∈ recorded) :
    ∀ line ∈ openingLines page url, EndsFrom recorded line := by
  have hpage : EndsFrom recorded page := .of_plain hp.lineEnds
  have hopening : EndsFrom recorded ("var " ++ page ++ " = await context.NewPageAsync();") := by
    simp only [EndsFrom.append_iff, hpage, and_true]
    and_intros <;> exact .of_plain (by decide)
  intro line hl
  unfold openingLines at hl
  split at hl
  next address =>
    split at hl
    next =>
      rw [List.mem_singleton.mp hl]
      exact hopening
    next =>
      have hgoing : EndsFrom recorded address.quoted := .quoted (hu address rfl)
      simp only [List.mem_cons, List.not_mem_nil, or_false] at hl
      rcases hl with rfl | rfl
      · exact hopening
      · simp only [EndsFrom.append_iff, hpage, hgoing, and_true]
        and_intros <;> exact .of_plain (by decide)
  next =>
    rw [List.mem_singleton.mp hl]
    exact hopening

/-! ### Titles and literals -/

theorem mem_shortcut (mask : Int) (key : Text) :
    '\x85' ∈ Modifier.shortcut mask key ↔ '\x85' ∈ key := by
  have hname : ∀ modifier : Modifier, '\x85' ∉ modifier.name := by
    intro modifier
    cases modifier <;> decide
  unfold Modifier.shortcut
  constructor
  · intro h
    rcases mem_join h with h | ⟨piece, hp, hc⟩
    · exact absurd h (by decide)
    · rcases List.mem_append.mp hp with hp | hp
      · obtain ⟨modifier, -, rfl⟩ := List.mem_map.mp hp
        exact absurd hc (hname modifier)
      · rwa [← List.mem_singleton.mp hp]
  · intro h
    exact (infix_join (List.mem_append_right _ List.mem_cons_self)).subset h

theorem mem_ofNat (n : Nat) : '\x85' ∉ ofNat n := by
  intro h
  exact absurd (IsNumeral.ofNat n _ h) (by decide)

theorem exists_of_mem_title {operation : Operation} (h : '\x85' ∈ operation.title) :
    ∃ written ∈ operation.recorded, '\x85' ∈ written := by
  have hlist : ∀ texts : List Text, '\x85' ∈ join ", " texts → ∃ text ∈ texts, '\x85' ∈ text := by
    intro texts hm
    exact (mem_join hm).resolve_left (by decide)
  cases operation with
  | openPage url => exact absurd h (by decide : '\x85' ∉ "Open new page".toList)
  | closePage => exact absurd h (by decide : '\x85' ∉ "Close page".toList)
  | click clicks =>
    refine ⟨clicks.selector, List.mem_cons_self, ?_⟩
    change '\x85' ∈ Operation.clickTitle clicks at h
    unfold Operation.clickTitle at h
    split at h
    · exact (List.mem_append.mp h).resolve_left (by decide)
    · exact (List.mem_append.mp h).resolve_left (by decide)
    · exact (List.mem_append.mp h).resolve_left (by decide)
    · rcases List.mem_append.mp h with h | h
      · exact absurd h (mem_ofNat _)
      · exact absurd h (by decide)
  | check selector =>
    exact ⟨selector, List.mem_cons_self, (List.mem_append.mp h).resolve_left (by decide)⟩
  | uncheck selector =>
    exact ⟨selector, List.mem_cons_self, (List.mem_append.mp h).resolve_left (by decide)⟩
  | fill selector text =>
    exact ⟨selector, List.mem_cons_self, (List.mem_append.mp h).resolve_left (by decide)⟩
  | setInputFiles selector files =>
    cases files with
    | nil => exact absurd h (by decide : '\x85' ∉ "Clear selected files".toList)
    | cons file rest =>
      obtain ⟨text, ht, hm⟩ := hlist _ ((List.mem_append.mp h).resolve_left (by decide))
      exact ⟨text, List.mem_cons_of_mem _ ht, hm⟩
  | press selector key modifiers =>
    have hm := (List.mem_append.mp h).resolve_left (by decide)
    exact ⟨key, List.mem_cons_of_mem _ List.mem_cons_self, (mem_shortcut _ _).mp hm⟩
  | navigate url =>
    exact ⟨url, List.mem_cons_self, (List.mem_append.mp h).resolve_left (by decide)⟩
  | select selector options =>
    obtain ⟨text, ht, hm⟩ := hlist _ ((List.mem_append.mp h).resolve_left (by decide))
    exact ⟨text, List.mem_cons_of_mem _ ht, hm⟩

theorem exists_mem_literals_iff {operation : Operation} (hop : ∀ url, operation ≠ .openPage url) :
    (∃ literal ∈ operation.literals, '\x85' ∈ literal) ↔
      ∃ written ∈ operation.recorded, '\x85' ∈ written := by
  cases operation with
  | openPage url => exact absurd rfl (hop url)
  | press selector key modifiers =>
    simp [Operation.literals, Operation.recorded, mem_shortcut]
  | _ => exact Iff.rfl

/-! ### Where literals stand -/

theorem infix_methodCall {method argument : Text} {arguments : List Text} (h : argument ∈ arguments) :
    argument <:+: methodCall method arguments := by
  unfold methodCall
  exact (infix_join h).trans (List.infix_append _ _ _)

theorem infix_textArray {text : Text} {texts : List Text} (h : text ∈ texts) :
    text.quoted <:+: textArray texts := by
  have hm : text.quoted ∈ texts.map quoted := List.mem_map_of_mem h
  unfold textArray
  cases hs : texts.map quoted with
  | nil =>
    rw [hs] at hm
    exact absurd hm List.not_mem_nil
  | cons first rest =>
    rw [hs] at hm
    exact (infix_join hm).trans (List.infix_append "new[] \x7b ".toList _ " \x7d".toList)

theorem infix_call {onPage : Bool} {operation : Operation} {text literal : Text}
    (h : call onPage operation = .ok text) (hl : literal ∈ operation.literals) :
    literal.quoted <:+: text := by
  cases written_of_call h with
  | literals => exact infix_methodCall (List.mem_map_of_mem hl)
  | array _ _ hliterals =>
    rw [hliterals] at hl
    rcases List.mem_cons.mp hl with rfl | hl
    · exact infix_methodCall List.mem_cons_self
    · exact (infix_textArray hl).trans (infix_methodCall (List.mem_cons_of_mem _ List.mem_cons_self))
  | options hop =>
    rw [hop] at hl
    rw [List.mem_singleton.mp hl]
    exact infix_methodCall List.mem_cons_self

theorem infix_subject {frame : Text} (h : frame ∈ step.frame?) :
    frame.quoted <:+: subject step := by
  rcases subject_cases step with ⟨hnone, -⟩ | ⟨method, -, named, hframe, hsubject⟩
  · rw [hnone] at h
    exact absurd h (by simp)
  · rw [hframe] at h
    obtain rfl := Option.some.inj h
    rw [hsubject]
    exact List.infix_append _ _ _

/-! ### The statements of a block -/

theorem address_mem_recorded {signal : Signal} {url : Text}
    (hop : ∀ url, step.action.operation ≠ .openPage url) (hs : signal ∈ step.action.signals)
    (hu : url ∈ signal.address) : url ∈ step.recorded := by
  rw [recorded_eq hop]
  exact List.mem_append_right _ (List.mem_flatMap.mpr ⟨signal, hs, hu⟩)

theorem endsFrom_linesBefore (hnames : ∀ name ∈ step.names, IsWord name) {signal : Signal}
    (hs : signal ∈ step.action.signals) :
    ∀ line ∈ linesBefore step.page signal, EndsFrom recorded line := by
  have hpage : IsWord step.page := hnames step.page List.mem_cons_self
  have hname : ∀ name ∈ signal.names, IsWord name := fun name hn =>
    hnames name (Step.mem_names hs hn)
  cases signal with
  | navigation url wait =>
    cases wait with
    | true => exact endsFrom_navigationOpening hpage
    | false => exact fun _ hl => absurd hl List.not_mem_nil
  | popup page => exact endsFrom_waitOpening hpage (hname page List.mem_cons_self) (by decide)
  | download suffix =>
    have hsuffix : IsWord suffix := hname suffix List.mem_cons_self
    exact endsFrom_waitOpening hpage (.append (by decide) hsuffix) (by decide)
  | dialog suffix => exact endsFrom_handlerLines hpage (hname suffix List.mem_cons_self)

theorem endsFrom_linesBehind (hpage : IsWord step.page) {signal : Signal}
    (hu : ∀ url ∈ signal.address, url ∈ recorded) :
    ∀ line ∈ linesBehind step signal, EndsFrom recorded line := by
  have hclosing : ∀ line ∈ waitClosing, EndsFrom recorded line := by
    intro line hl
    obtain rfl := List.mem_singleton.mp hl
    exact .of_plain (by decide)
  cases signal with
  | navigation url wait =>
    have hurl : url ∈ recorded := hu url List.mem_cons_self
    cases wait with
    | true => exact endsFrom_navigationClosing _ hurl
    | false =>
      intro line hl
      rw [List.mem_singleton.mp hl]
      exact endsFrom_assertion hpage hurl
  | popup page => exact hclosing
  | download suffix => exact hclosing
  | dialog suffix => exact fun _ hl => absurd hl List.not_mem_nil

theorem endsFrom_awaited {callText : Text} (hop : ∀ url, step.action.operation ≠ .openPage url)
    (h : IsWord step.page) (hc : call step.isMainFrame step.action.operation = .ok callText) :
    EndsFrom step.recorded (awaited step callText) := by
  intro c hm
  rw [lineEnds_awaited h hc, List.mem_append, List.mem_flatMap] at hm
  rcases hm with ⟨literal, hl, hm⟩ | hm
  · rw [lineEnds_quoted, List.mem_filter] at hm
    obtain ⟨hm, he⟩ := hm
    obtain rfl := eq_of_beq he
    refine .inr ⟨rfl, ?_⟩
    rw [recorded_eq hop]
    rcases List.mem_append.mp hl with hl | hl
    · exact ⟨literal, by simp [hl], hm⟩
    · obtain ⟨written, hw, hm⟩ := (exists_mem_literals_iff hop).mp ⟨literal, hl, hm⟩
      exact ⟨written, by simp [hw], hm⟩
  · exact .inl (List.eq_of_mem_replicate hm)

theorem endsFrom_dialogLines (hnames : ∀ name ∈ step.names, IsWord name) :
    ∀ statement ∈ dialogLines step, EndsFrom recorded statement := by
  have hpage : IsWord step.page := hnames step.page List.mem_cons_self
  intro statement hs
  unfold dialogLines at hs
  split at hs
  next suffix hd =>
    rw [List.mem_singleton.mp hs]
    exact .unlines (endsFrom_handlerLines hpage (hnames suffix (Step.dialog_mem_names hd)))
  next => exact absurd hs List.not_mem_nil

theorem endsFrom_titleComment (step : Step) :
    EndsFrom step.recorded (titleComment step.action.operation) := by
  apply EndsFrom.of_filter (lineEnds_titleComment _)
  intro hm
  obtain ⟨written, hw, hm⟩ := exists_of_mem_title hm
  refine ⟨written, ?_, hm⟩
  unfold Step.recorded
  split
  · exact hw
  · simp [hw]

theorem recorded_openPage {url : Option Text} (h : step.action.operation = .openPage url) :
    step.recorded = url.toList := by
  unfold Step.recorded Action.opensPage
  rw [h]
  rfl

/-- Every line end of a statement is a line feed, or a U+0085 of a recorded text. -/
theorem endsFrom_blockStatements {statements : List Text}
    (hnames : ∀ name ∈ step.names, IsWord name) (h : blockStatements step = .ok statements) :
    ∀ statement ∈ statements, EndsFrom step.recorded statement := by
  have hpage : IsWord step.page := hnames step.page List.mem_cons_self
  rcases blockStatements_ok h with ⟨url, hurl, rfl⟩ | ⟨hop, callText, hc, rfl⟩
  · apply endsFrom_openingLines hpage
    intro address ha
    rw [recorded_openPage hurl, Option.mem_def.mp ha]
    exact List.mem_cons_self
  · have hbehind : ∀ {slots statement}, statement ∈ fromSlots step (linesBehind step) slots →
        EndsFrom step.recorded statement := by
      intro slots statement hs
      obtain ⟨signal, hsignal, hs⟩ := exists_of_mem_fromSlots hs
      exact endsFrom_linesBehind hpage (fun _ => address_mem_recorded hop hsignal) statement hs
    intro statement hs
    rw [statementLines_eq, assertionLines_eq] at hs
    simp only [List.mem_append, List.mem_singleton] at hs
    rcases hs with (hs | (hs | rfl) | hs) | hs
    · exact endsFrom_dialogLines hnames statement hs
    · obtain ⟨signal, hsignal, hs⟩ := exists_of_mem_fromSlots hs
      exact endsFrom_linesBefore hnames hsignal statement hs
    · exact endsFrom_awaited hop hpage hc
    · exact hbehind hs
    · exact hbehind hs

theorem exists_infix_of_address (callText : Text) {signal : Signal} {url : Text}
    (hs : signal ∈ step.action.signals) (hu : url ∈ signal.address) :
    ∃ statement ∈ dialogLines step ++ statementLines step callText ++ assertionLines step,
      url.quoted <:+: statement := by
  rw [statementLines_eq, assertionLines_eq]
  rcases signal with ⟨address, _ | _⟩ | _ | _ | _
  · -- the address to check is in the comment at the end
    obtain rfl := List.mem_singleton.mp hu
    refine ⟨assertion step.page url, ?_, ?_⟩
    · exact List.mem_append_right _ (mem_fromSlots hs List.mem_cons_self List.mem_cons_self)
    · unfold assertion
      rw [List.append_assoc, List.append_assoc]
      exact List.infix_append _ _ _
  · -- the address to wait for is in the end of the wait
    obtain rfl := List.mem_singleton.mp hu
    have hclosing : "UrlString = " ++ url.quoted ∈ linesBehind step (.navigation url true) := by
      simp [linesBehind, navigationClosing]
    refine ⟨"UrlString = " ++ url.quoted, ?_, (List.suffix_append _ _).isInfix⟩
    apply List.mem_append_left
    apply List.mem_append_right
    exact List.mem_append_right _ (mem_fromSlots hs List.mem_cons_self hclosing)
  · exact absurd hu List.not_mem_nil
  · exact absurd hu List.not_mem_nil
  · exact absurd hu List.not_mem_nil

theorem exists_infix_of_awaited {callText literal : Text} (step : Step)
    (hl : literal.quoted <:+: awaited step callText) :
    ∃ statement ∈ dialogLines step ++ statementLines step callText ++ assertionLines step,
      literal.quoted <:+: statement := by
  refine ⟨awaited step callText, ?_, hl⟩
  rw [statementLines_eq]
  simp

/-- A recorded text with a U+0085 stands in a statement, in a literal that has it too. -/
theorem exists_infix_of_recorded {statements : List Text} {written : Text}
    (h : blockStatements step = .ok statements) (hw : written ∈ step.recorded)
    (hm : '\x85' ∈ written) :
    ∃ statement ∈ statements, ∃ literal : Text, '\x85' ∈ literal ∧ literal.quoted <:+: statement := by
  rcases blockStatements_ok h with ⟨url, hurl, rfl⟩ | ⟨hop, callText, hc, rfl⟩
  · rw [recorded_openPage hurl, Option.mem_toList] at hw
    obtain rfl := hw
    have hshown : ¬ (written = [] ∨ written ∈ blankUrls) := by
      rintro (rfl | hblank)
      · exact absurd hm List.not_mem_nil
      · have hnone : ∀ blank ∈ blankUrls, '\x85' ∉ blank := by decide
        exact hnone written hblank hm
    have hlines : openingLines step.page (some written) =
        ["var " ++ step.page ++ " = await context.NewPageAsync();",
          "await " ++ step.page ++ ".GotoAsync(" ++ written.quoted ++ ");"] := if_neg hshown
    rw [hlines]
    exact ⟨_, List.mem_cons_of_mem _ List.mem_cons_self, written, hm, List.infix_append _ _ _⟩
  · have hawaited : ∀ literal : Text, '\x85' ∈ literal → literal.quoted <:+: awaited step callText →
        ∃ statement ∈ dialogLines step ++ statementLines step callText ++ assertionLines step,
          ∃ literal : Text, '\x85' ∈ literal ∧ literal.quoted <:+: statement := by
      intro literal hm hi
      obtain ⟨statement, hs, hi⟩ := exists_infix_of_awaited step hi
      exact ⟨statement, hs, literal, hm, hi⟩
    rw [recorded_eq hop, List.mem_append, List.mem_append] at hw
    rcases hw with (hw | hw) | hw
    · apply hawaited written hm
      have hsubject := infix_subject (Option.mem_toList.mp hw)
      unfold awaited
      rw [List.append_assoc, List.append_assoc]
      exact hsubject.trans (List.infix_append _ _ _)
    · obtain ⟨literal, hl, hm⟩ := (exists_mem_literals_iff hop).mpr ⟨written, hw, hm⟩
      exact hawaited literal hm ((infix_call hc hl).trans (List.infix_append _ _ _))
    · obtain ⟨signal, hs, hu⟩ := List.mem_flatMap.mp hw
      obtain ⟨statement, hs, hi⟩ := exists_infix_of_address callText hs hu
      exact ⟨statement, hs, written, hm, hi⟩

/-- All line ends of source code cut a block into the same lines as the line feed alone exactly if no
recorded text that is written in it has a U+0085. -/
theorem sourceLines_block_iff {text : Text} (hnames : ∀ name ∈ step.names, IsWord name)
    (h : block step = .ok text) :
    sourceLines text = lines text ↔ ∀ written ∈ step.recorded, '\x85' ∉ written := by
  obtain ⟨statements, hs, rfl⟩ := block_ok h
  rw [sourceLines_eq_lines_iff]
  constructor
  · intro hends written hw hm
    obtain ⟨statement, hst, literal, hm, hi⟩ := exists_infix_of_recorded hs hw hm
    obtain ⟨line, hl, hi⟩ := Lines.infix_ofText hi (not_mem_quoted literal) rfl
      (by rw [getLast?_quoted]; decide)
    have hbuffer : line ∈ Lines.newLine [] ++
        (titleComment step.action.operation :: statements).flatMap Lines.ofText :=
      List.mem_append_right _ (List.mem_flatMap.mpr ⟨statement, List.mem_cons_of_mem _ hst, hl⟩)
    have hrendered := Lines.mem_render_of_mem bodyOffset hbuffer (hi.subset (mem_quoted hm))
    exact absurd (hends _ (mem_lineEnds.mpr ⟨hrendered, rfl⟩)) (by decide)
  · intro hnone c hc
    obtain ⟨hmem, hend⟩ := mem_lineEnds.mp hc
    rcases Lines.mem_of_mem_render hmem with hfeed | hspace | ⟨line, hl, hm⟩
    · exact hfeed
    · rw [hspace] at hend
      exact absurd hend (by decide)
    · rcases List.mem_append.mp hl with hl | hl
      · rw [List.mem_singleton.mp hl] at hm
        exact absurd hm List.not_mem_nil
      · obtain ⟨statement, hst, hl⟩ := List.mem_flatMap.mp hl
        have hends : EndsFrom step.recorded statement := by
          rcases List.mem_cons.mp hst with rfl | hst
          · exact endsFrom_titleComment step
          · exact endsFrom_blockStatements hnames hs statement hst
        rcases hends c (mem_lineEnds.mpr ⟨Lines.mem_of_mem_ofText hl hm, hend⟩) with
          hfeed | ⟨-, written, hw, hm⟩
        · exact hfeed
        · exact absurd hm (hnone written hw)

def visit (url : Text) : Step :=
  ⟨"page", true, none, none, ⟨[], .navigate url, List.nodup_nil⟩, rfl⟩

/-- The other separators are escaped, in the title as in the literal. -/
theorem sourceLines_block_visit :
    ∃ text, block (visit "a\u2028b") = .ok text ∧ sourceLines text = lines text := by
  have hnames : ∀ name ∈ (visit "a\u2028b").names, IsWord name := by decide
  exact ⟨_, rfl, (sourceLines_block_iff hnames rfl).mpr (by decide)⟩

/-- U+0085 is not: it ends a source line in the title and in the literal. -/
theorem sourceLines_block_visit_ne :
    ¬ ∀ (step : Step) (text : Text), (∀ name ∈ step.names, IsWord name) → block step = .ok text →
      sourceLines text = lines text := by
  intro h
  exact absurd (h (visit "a\x85b") _ (by decide) rfl) (by decide)

end Program
end SessionReplay
