import SessionReplay.Proofs.Program.Unambiguous

/-!
# Calls are faithful

The call for an operation tells the operation: its kind, its literals and arrays of literals, and of a
click also the button, the held modifiers and the count, although defaults are left out. Of a mask of
modifiers the four lowest bits count, and of a key press the shortcut that it makes.
-/

namespace SessionReplay

namespace Modifier

theorem mem_held (mask : Int) (modifier : Modifier) :
    modifier ∈ held mask ↔ mask / modifier.bit % 2 = 1 := by
  have hall : modifier ∈ all := by cases modifier <;> decide
  simp [held, hall, isHeld]

/-- The held modifiers tell the four lowest bits of a mask. -/
theorem held_eq_iff (mask other : Int) : held mask = held other ↔ mask % 16 = other % 16 := by
  constructor
  · intro h
    have hbit : ∀ modifier : Modifier, mask / modifier.bit % 2 = other / modifier.bit % 2 := by
      intro modifier
      have hiff : mask / modifier.bit % 2 = 1 ↔ other / modifier.bit % 2 = 1 := by
        rw [← mem_held, ← mem_held, h]
      have hmask := Int.emod_two_eq (mask / modifier.bit)
      have hother := Int.emod_two_eq (other / modifier.bit)
      omega
    have halt : mask / 1 % 2 = other / 1 % 2 := hbit .alt
    have hcontrol : mask / 2 % 2 = other / 2 % 2 := hbit .control
    have hmeta : mask / 4 % 2 = other / 4 % 2 := hbit .metaKey
    have hshift : mask / 8 % 2 = other / 8 % 2 := hbit .shift
    omega
  · intro h
    rw [← held_emod mask, h, held_emod]

end Modifier

/-- Operations that are the same but for what calls do not tell. -/
def Operation.SameCall : Operation → Operation → Prop
  | .closePage, .closePage => True
  | .click clicks, .click other =>
    clicks.selector = other.selector ∧ clicks.button = other.button ∧
      clicks.modifiers % 16 = other.modifiers % 16 ∧ clicks.count = other.count
  | .check selector, .check other | .uncheck selector, .uncheck other => selector = other
  | .fill selector text, .fill other text' => selector = other ∧ text = text'
  | .setInputFiles selector files, .setInputFiles other files' => selector = other ∧ files = files'
  | .press selector key modifiers, .press other key' modifiers' =>
    selector = other ∧ Modifier.shortcut modifiers key = Modifier.shortcut modifiers' key'
  | .navigate url, .navigate other => url = other
  | .select selector options, .select other options' => selector = other ∧ options = options'
  | _, _ => False

/-- An operation that a call repeats: any but the opening of a page, and clicks up to a count that can
be written. -/
def Operation.HasCall : Operation → Prop
  | .openPage _ => False
  | .click clicks => clicks.count ≤ Program.maxLong
  | _ => True

namespace Program

/-! ### Methods and arguments -/

def methodOf : Operation → Text
  | .openPage _ => []
  | .closePage => "Close"
  | .click clicks => clickMethod clicks
  | .check _ => "Check"
  | .uncheck _ => "Uncheck"
  | .fill _ _ => "Fill"
  | .setInputFiles _ _ => "SetInputFiles"
  | .press _ _ _ => "Press"
  | .navigate _ => "Goto"
  | .select _ _ => "SelectOption"

theorem isName_methods : ∀ method ∈ methods, IsName (method ++ "Async".toList) := by
  decide +kernel

theorem methodCall_inj {method method' : Text} {arguments arguments' : List Text}
    (hm : method ∈ methods) (hm' : method' ∈ methods)
    (h : methodCall method arguments = methodCall method' arguments') :
    method = method' ∧ Text.join ", " arguments = Text.join ", " arguments' := by
  have hopen : ∀ tail : Text, ∀ c ∈ ('(' :: tail).head?, c ∉ nameChars :=
    Text.forall_head?_cons (by decide)
  have hsplit : ∀ (method : Text) (arguments : List Text), methodCall method arguments =
      (method ++ "Async".toList) ++ '(' :: (Text.join ", " arguments ++ ")".toList) := by
    intro method arguments
    simp [methodCall]
  rw [hsplit, hsplit] at h
  obtain ⟨hname, htail⟩ := Text.run_append_inj (isName_methods method hm) (isName_methods method' hm')
    (hopen _) (hopen _) h
  exact ⟨List.append_cancel_right hname, List.append_cancel_right (List.cons.inj htail).2⟩

theorem textArray_append_inj {texts texts' : List Text} {rest rest' : Text}
    (h : textArray texts ++ rest = textArray texts' ++ rest') : texts = texts' ∧ rest = rest' := by
  have hregular : ∀ texts : List Text, Value.areRegular [] (texts.map Value.text) = true := by
    intro texts
    induction texts with
    | nil => rfl
    | cons text rest ih => exact (Bool.and_eq_true _ _).mpr ⟨rfl, ih⟩
  have hforms : ∀ texts : List Text,
      Value.itemForms [] (texts.map Value.text) = texts.map Form.text := by
    intro texts
    induction texts with
    | nil => rfl
    | cons text rest ih =>
      rw [List.map_cons, Value.itemForms, ih]
      rfl
  have hitems : ∀ texts : List Text,
      itemLiterals [] [] (texts.map Value.text) = .ok (texts.map Text.quoted) :=
    itemLiterals_texts [] []
  obtain ⟨hsame, hrest⟩ := array_append_inj (determinedItems [] (texts.map Value.text))
    (.inl (by decide)) (.inl (by decide)) (hregular texts) (hregular texts') (hitems texts)
    (hitems texts') h
  rw [hforms, hforms] at hsame
  exact ⟨(List.map_inj_right fun _ _ h => Form.text.inj h).mp hsame, hrest⟩

theorem join_quoted_inj {text text' : Text} {rest rest' : List Text}
    (h : Text.join ", " (text.quoted :: rest) = Text.join ", " (text'.quoted :: rest')) :
    text = text' ∧ (rest = [] ↔ rest' = []) ∧ Text.join ", " rest = Text.join ", " rest' := by
  have hsplit : ∀ (piece : Text) (rest : List Text), Text.join ", " (piece :: rest) =
      piece ++ if rest = [] then [] else ", ".toList ++ Text.join ", " rest := by
    intro piece rest
    cases rest with
    | nil => rw [Text.join_singleton, if_pos rfl, List.append_nil]
    | cons next rest => rw [Text.join_cons_cons, if_neg (List.cons_ne_nil _ _), List.append_assoc]
  rw [hsplit, hsplit] at h
  obtain ⟨rfl, htail⟩ := Text.quoted_append_inj h
  refine ⟨rfl, ?_⟩
  split at htail
  next hnil =>
    split at htail
    next hnil' => simp [hnil, hnil']
    next => exact absurd htail (by simp)
  next hne =>
    split at htail
    next => exact absurd htail (by simp)
    next hne' =>
      exact ⟨by simp [hne, hne'], List.append_cancel_left htail⟩

/-! ### Clicks -/

theorem settingForms_append (first second : List (Value × Value)) :
    Value.settingForms (first ++ second) =
      Value.settingForms first ++ Value.settingForms second := by
  induction first with
  | nil => rfl
  | cons entry rest ih =>
    obtain ⟨key, value⟩ := entry
    cases key with
    | text key => exact congrArg ((propertyName key, value.form key) :: ·) ih
    | _ => exact ih

theorem itemForms_modifiers (names : List Text) :
    Value.itemForms "modifiers" (names.map Value.text) =
      names.map fun name => Form.member "KeyboardModifier" (memberName name) := by
  induction names with
  | nil => rfl
  | cons name rest ih =>
    rw [List.map_cons, Value.itemForms, ih]
    rfl

theorem settingForms_clickOptions (clicks : Click) :
    Value.settingForms (clickOptions clicks).toEntries =
      (if clicks.button = .left then []
        else [("Button".toList, Form.member "MouseButton" (memberName clicks.button.name))]) ++
      (if (Modifier.heldNames clicks.modifiers).isEmpty then []
        else [("Modifiers".toList, Form.list ((Modifier.heldNames clicks.modifiers).map
          fun name => Form.member "KeyboardModifier" (memberName name)))]) ++
      (if 2 < clicks.count then
        [("ClickCount".toList, Form.number false (.ofInt clicks.count))] else []) := by
  have hbutton : propertyName "button" = "Button" := by decide +kernel
  have hmodifiers : propertyName "modifiers" = "Modifiers" := by decide +kernel
  have hcount : propertyName "clickCount" = "ClickCount" := by decide +kernel
  simp only [clickOptions, toEntries_append, settingForms_append]
  congr 1
  · congr 1
    · split
      · rfl
      · exact congrArg (fun property => [(property, _)]) hbutton
    · split
      · rfl
      · rw [← itemForms_modifiers]
        exact congrArg (fun property => [(property, _)]) hmodifiers
  · split
    · exact congrArg (fun property => [(property, _)]) hcount
    · rfl

theorem lookup_button (clicks : Click) :
    (Value.settingForms (clickOptions clicks).toEntries).lookup "Button".toList =
      if clicks.button = .left then none
      else some (Form.member "MouseButton" (memberName clicks.button.name)) := by
  rw [settingForms_clickOptions]
  split <;> split <;> split <;> rfl

theorem lookup_modifiers (clicks : Click) :
    (Value.settingForms (clickOptions clicks).toEntries).lookup "Modifiers".toList =
      if (Modifier.heldNames clicks.modifiers).isEmpty then none
      else some (Form.list ((Modifier.heldNames clicks.modifiers).map
        fun name => Form.member "KeyboardModifier" (memberName name))) := by
  rw [settingForms_clickOptions]
  split <;> split <;> split <;> rfl

theorem lookup_clickCount (clicks : Click) :
    (Value.settingForms (clickOptions clicks).toEntries).lookup "ClickCount".toList =
      if 2 < clicks.count then some (Form.number false (.ofInt clicks.count)) else none := by
  rw [settingForms_clickOptions]
  split <;> split <;> split <;> rfl

theorem button_inj {button other : Button}
    (h : (if button = .left then none
      else some (Form.member "MouseButton" (memberName button.name))) =
        if other = .left then none
        else some (Form.member "MouseButton" (memberName other.name))) : button = other := by
  have hne : memberName Button.middle.name ≠ memberName Button.right.name := by decide +kernel
  cases button <;> cases other <;> simp_all

theorem memberName_name_inj : ∀ modifier ∈ Modifier.all, ∀ other ∈ Modifier.all,
    memberName modifier.name = memberName other.name → modifier = other := by
  decide +kernel

theorem modifiers_inj {mask other : Int}
    (h : (if (Modifier.heldNames mask).isEmpty then none
      else some (Form.list ((Modifier.heldNames mask).map
        fun name => Form.member "KeyboardModifier" (memberName name)))) =
      if (Modifier.heldNames other).isEmpty then none
      else some (Form.list ((Modifier.heldNames other).map
        fun name => Form.member "KeyboardModifier" (memberName name)))) :
    mask % 16 = other % 16 := by
  rw [← Modifier.held_eq_iff]
  have hinj : ∀ modifier other : Modifier,
      Form.member "KeyboardModifier" (memberName modifier.name) =
        Form.member "KeyboardModifier" (memberName other.name) → modifier = other := by
    intro modifier other hsame
    have hall : ∀ modifier : Modifier, modifier ∈ Modifier.all := by
      intro modifier
      cases modifier <;> decide
    exact memberName_name_inj modifier (hall _) other (hall _) (Form.member.inj hsame).2
  simp only [Modifier.heldNames, List.isEmpty_iff, List.map_eq_nil_iff, List.map_map] at h
  split at h
  next hnil =>
    split at h
    next hnil' => rw [hnil, hnil']
    next => exact absurd h (by simp)
  next =>
    split at h
    next => exact absurd h (by simp)
    next => exact (List.map_inj_right hinj).mp (Form.list.inj (Option.some.inj h))

theorem ofInt_inj {m n : Int} (h : Amount.ofInt m = .ofInt n) : m = n := by
  have hpos := Double.unitsPerOne_pos
  exact Int.eq_of_mul_eq_mul_right (by omega) (Amount.steps.inj h)

theorem count_inj {count other : Nat}
    (h : (if 2 < count then some (Form.number false (.ofInt count)) else none) =
      if 2 < other then some (Form.number false (.ofInt other)) else none) :
    count = other ∨ count ≤ 2 ∧ other ≤ 2 := by
  split at h
  next =>
    split at h
    next =>
      have hsame := ofInt_inj (Form.number.inj (Option.some.inj h)).2
      omega
    next => exact absurd h (by simp)
  next =>
    split at h
    next => exact absurd h (by simp)
    next => omega

theorem entriesAreRegular_append {first second : List (Value × Value)}
    (hf : Value.entriesAreRegular first = true) (hs : Value.entriesAreRegular second = true) :
    Value.entriesAreRegular (first ++ second) = true := by
  induction first with
  | nil => exact hs
  | cons entry rest ih =>
    obtain ⟨key, value⟩ := entry
    cases key with
    | text key =>
      obtain ⟨hentry, hrest⟩ := (Bool.and_eq_true _ _).mp hf
      exact (Bool.and_eq_true _ _).mpr ⟨hentry, ih hrest⟩
    | _ => exact absurd hf (by simp [Value.entriesAreRegular])

/-- The options of a click can be told from their expression. -/
theorem isRegular_clickOptions {clicks : Click} (hcount : clicks.count ≤ maxLong) (option : Text) :
    (clickOptions clicks).toValue.isRegular option = true := by
  have hheld : ∀ names : List Modifier,
      Value.areRegular "modifiers" ((names.map Modifier.name).map Value.text) = true := by
    intro names
    induction names with
    | nil => rfl
    | cons modifier rest ih =>
      refine (Bool.and_eq_true _ _).mpr ⟨?_, ih⟩
      cases modifier <;> decide
  have hmodifiers : decide (IsName "modifiers".toList ∧ "modifiers".toList ≠ []) = true := by decide
  have hclickCount : decide (IsName "clickCount".toList ∧ "clickCount".toList ≠ []) = true := by
    decide
  change Value.entriesAreRegular (clickOptions clicks).toEntries = true
  simp only [clickOptions, toEntries_append]
  refine entriesAreRegular_append (entriesAreRegular_append ?_ ?_) ?_
  · cases clicks.button <;> decide
  · split
    · rfl
    · exact (Bool.and_eq_true _ _).mpr
        ⟨(Bool.and_eq_true _ _).mpr ⟨hmodifiers, hheld (Modifier.held clicks.modifiers)⟩, rfl⟩
  · split
    · exact (Bool.and_eq_true _ _).mpr
        ⟨(Bool.and_eq_true _ _).mpr ⟨hclickCount, decide_eq_true hcount⟩, rfl⟩
    · rfl

/-- A click is written with its selector, and with its options if there are any. -/
theorem clickCall_cases (onPage : Bool) {clicks : Click} (hcount : clicks.count ≤ maxLong) :
    clickOptions clicks = [] ∧ clickCall onPage clicks =
        .ok (methodCall (clickMethod clicks) [clicks.selector.quoted]) ∨
      clickOptions clicks ≠ [] ∧ ∃ settings,
        literal defaultIndent (optionsClass onPage (clickMethod clicks))
          (clickOptions clicks).toValue = .ok settings ∧
        clickCall onPage clicks =
          .ok (methodCall (clickMethod clicks) [clicks.selector.quoted, settings]) := by
  by_cases hoptions : clickOptions clicks = []
  · exact .inl ⟨hoptions, by rw [clickCall_eq, if_pos hoptions]⟩
  · refine .inr ⟨hoptions, ?_⟩
    cases hs : settingLiterals defaultIndent (clickOptions clicks).toEntries with
    | ok assignments =>
      refine ⟨objectLiteral defaultIndent (optionsClass onPage (clickMethod clicks)) assignments,
        ?_, ?_⟩
      · simp only [Options.toValue, literal, hs, bind, Except.bind]
      · rw [clickCall_eq, if_neg hoptions, hs]
        rfl
    | error reason =>
      have hfault : clickCall onPage clicks = .error (.literal reason) := by
        rw [clickCall_eq, if_neg hoptions, hs]
        rfl
      have hlarge := ((clickCall_error_iff onPage clicks _).mp hfault).1
      have hlimit : maxLong < Double.integerLimit := maxLong_lt 970 1024 (by decide) (by decide)
      omega

theorem isName_optionsClass : ∀ onPage, ∀ method ∈ methods, IsName (optionsClass onPage method) := by
  decide +kernel

theorem settingForms_inj {onPage : Bool} {clicks other : Click} {method settings : Text}
    (hmethod : method ∈ methods) (hcount : clicks.count ≤ maxLong) (hcount' : other.count ≤ maxLong)
    (h : literal defaultIndent (optionsClass onPage method) (clickOptions clicks).toValue =
      .ok settings)
    (h' : literal defaultIndent (optionsClass onPage method) (clickOptions other).toValue =
      .ok settings) :
    Value.settingForms (clickOptions clicks).toEntries =
      Value.settingForms (clickOptions other).toEntries := by
  have hhint : IsHint (optionsClass onPage method) := .inl (isName_optionsClass onPage method hmethod)
  have hend : IsEnd [] := fun c hc => absurd hc (Option.not_mem_none c)
  have hforms := (determined defaultIndent _
    (writtenAs_of_literal (isRegular_clickOptions hcount _) h)
    (writtenAs_of_literal (isRegular_clickOptions hcount' _) h') hhint hhint hend hend rfl).1
  exact (Form.object.inj hforms).2

theorem clickCall_inj {onPage : Bool} {clicks other : Click} (hcount : clicks.count ≤ maxLong)
    (hcount' : other.count ≤ maxLong) (h : clickCall onPage clicks = clickCall onPage other) :
    clickMethod clicks = clickMethod other ∧ clicks.selector = other.selector ∧
      Value.settingForms (clickOptions clicks).toEntries =
        Value.settingForms (clickOptions other).toEntries := by
  have hone : ∀ {method method' text text' settings : Text}, method ∈ methods → method' ∈ methods →
      methodCall method [text.quoted] ≠ methodCall method' [text'.quoted, settings] := by
    intro method method' text text' settings hm hm' hsame
    exact absurd ((join_quoted_inj (methodCall_inj hm hm' hsame).2).2.1.mp rfl) (by simp)
  have hm := clickMethod_mem clicks
  have hm' := clickMethod_mem other
  rcases clickCall_cases onPage hcount with ⟨hnil, hcall⟩ | ⟨-, settings, hliteral, hcall⟩
  · rcases clickCall_cases onPage hcount' with ⟨hnil', hcall'⟩ | ⟨-, settings', -, hcall'⟩
    · rw [hcall, hcall', Except.ok.injEq] at h
      obtain ⟨hmethod, harguments⟩ := methodCall_inj hm hm' h
      exact ⟨hmethod, (join_quoted_inj harguments).1, by rw [hnil, hnil']⟩
    · rw [hcall, hcall', Except.ok.injEq] at h
      exact absurd h (hone hm hm')
  · rcases clickCall_cases onPage hcount' with ⟨-, hcall'⟩ | ⟨-, settings', hliteral', hcall'⟩
    · rw [hcall, hcall', Except.ok.injEq] at h
      exact absurd h.symm (hone hm' hm)
    · rw [hcall, hcall', Except.ok.injEq] at h
      obtain ⟨hmethod, harguments⟩ := methodCall_inj hm hm' h
      obtain ⟨hselector, -, hsettings⟩ := join_quoted_inj harguments
      rw [Text.join_singleton, Text.join_singleton] at hsettings
      rw [hmethod, hsettings] at hliteral
      exact ⟨hmethod, hselector, settingForms_inj hm' hcount hcount' hliteral hliteral'⟩

/-- One click and a double click differ in the method, all other counts in the options. -/
theorem eq_of_clickMethod_eq {clicks other : Click} (h : clickMethod clicks = clickMethod other)
    (hle : clicks.count ≤ 2) (hle' : other.count ≤ 2) : clicks.count = other.count := by
  have hpos := clicks.count_pos
  have hpos' := other.count_pos
  unfold clickMethod at h
  split at h
  · split at h
    · omega
    · exact absurd h (by decide)
  · split at h
    · exact absurd h (by decide)
    · omega

theorem click_inj {onPage : Bool} {clicks other : Click} (hcount : clicks.count ≤ maxLong)
    (hcount' : other.count ≤ maxLong) (h : clickCall onPage clicks = clickCall onPage other) :
    Operation.SameCall (.click clicks) (.click other) := by
  obtain ⟨hmethod, hselector, hforms⟩ := clickCall_inj hcount hcount' h
  have hbutton := congrArg (List.lookup "Button".toList) hforms
  have hmodifiers := congrArg (List.lookup "Modifiers".toList) hforms
  have hclickCount := congrArg (List.lookup "ClickCount".toList) hforms
  rw [lookup_button, lookup_button] at hbutton
  rw [lookup_modifiers, lookup_modifiers] at hmodifiers
  rw [lookup_clickCount, lookup_clickCount] at hclickCount
  have hmask := modifiers_inj hmodifiers
  refine ⟨hselector, button_inj hbutton, by omega, ?_⟩
  rcases count_inj hclickCount with hsame | ⟨hsmall, hsmall'⟩
  · exact hsame
  · exact eq_of_clickMethod_eq hmethod hsmall hsmall'

/-! ### Calls -/

def methodKinds : List (Text × Text) :=
  [("Close", "closePage"), ("Click", "click"), ("DblClick", "click"), ("Check", "check"),
    ("Uncheck", "uncheck"), ("Fill", "fill"), ("SetInputFiles", "setInputFiles"),
    ("Press", "press"), ("Goto", "navigate"), ("SelectOption", "select")]

theorem lookup_methodOf {operation : Operation} (h : operation.HasCall) :
    methodKinds.lookup (methodOf operation) = some operation.kind := by
  cases operation with
  | openPage url => exact h.elim
  | click clicks =>
    change methodKinds.lookup (clickMethod clicks) = _
    unfold clickMethod
    split <;> rfl
  | _ => rfl

theorem exists_arguments (onPage : Bool) {operation : Operation} (h : operation.HasCall) :
    methodOf operation ∈ methods ∧
      ∃ arguments, call onPage operation = .ok (methodCall (methodOf operation) arguments) := by
  cases operation with
  | openPage url => exact h.elim
  | click clicks =>
    refine ⟨clickMethod_mem clicks, ?_⟩
    rcases clickCall_cases onPage h with ⟨-, hcall⟩ | ⟨-, settings, -, hcall⟩
    · exact ⟨_, hcall⟩
    · exact ⟨_, hcall⟩
  | _ => exact ⟨of_decide_eq_true rfl, _, rfl⟩

/-- The method tells the kind of the operation. -/
theorem kind_eq_of_call {onPage : Bool} {a b : Operation} (ha : a.HasCall) (hb : b.HasCall)
    (h : call onPage a = call onPage b) : a.kind = b.kind := by
  obtain ⟨hmethod, arguments, hcall⟩ := exists_arguments onPage ha
  obtain ⟨hmethod', arguments', hcall'⟩ := exists_arguments onPage hb
  rw [hcall, hcall'] at h
  rw [← Option.some_inj, ← lookup_methodOf ha, ← lookup_methodOf hb,
    (methodCall_inj hmethod hmethod' (Except.ok.inj h)).1]

theorem arguments_inj {method : Text} {arguments arguments' : List Text} (hm : method ∈ methods)
    (h : (.ok (methodCall method arguments) : Except ProgramFault Text) =
      .ok (methodCall method arguments')) :
    Text.join ", " arguments = Text.join ", " arguments' :=
  (methodCall_inj hm hm (Except.ok.inj h)).2

theorem quoted_arguments_inj {method text text' : Text} {rest rest' : List Text}
    (hm : method ∈ methods)
    (h : (.ok (methodCall method (text.quoted :: rest)) : Except ProgramFault Text) =
      .ok (methodCall method (text'.quoted :: rest'))) :
    text = text' ∧ Text.join ", " rest = Text.join ", " rest' := by
  obtain ⟨htext, -, hrest⟩ := join_quoted_inj (arguments_inj hm h)
  exact ⟨htext, hrest⟩

theorem two_quoted_inj {method first first' second second' : Text} (hm : method ∈ methods)
    (h : (.ok (methodCall method [first.quoted, second.quoted]) : Except ProgramFault Text) =
      .ok (methodCall method [first'.quoted, second'.quoted])) :
    first = first' ∧ second = second' := by
  obtain ⟨hfirst, hrest⟩ := quoted_arguments_inj hm h
  exact ⟨hfirst, (join_quoted_inj hrest).1⟩

theorem quoted_textArray_inj {method first first' : Text} {texts texts' : List Text}
    (hm : method ∈ methods)
    (h : (.ok (methodCall method [first.quoted, textArray texts]) : Except ProgramFault Text) =
      .ok (methodCall method [first'.quoted, textArray texts'])) :
    first = first' ∧ texts = texts' := by
  obtain ⟨hfirst, hrest⟩ := quoted_arguments_inj hm h
  rw [Text.join_singleton, Text.join_singleton] at hrest
  exact ⟨hfirst, (textArray_append_inj (congrArg (· ++ []) hrest)).1⟩

theorem sameCall_of_call {onPage : Bool} {a b : Operation} (ha : a.HasCall) (hb : b.HasCall)
    (h : call onPage a = call onPage b) : a.SameCall b := by
  have hkind := kind_eq_of_call ha hb h
  cases a with
  | openPage url => exact ha.elim
  | closePage =>
    cases b with
    | closePage => trivial
    | _ => exact absurd hkind (of_decide_eq_false rfl)
  | click clicks =>
    cases b with
    | click other => exact click_inj ha hb h
    | _ => exact absurd hkind (of_decide_eq_false rfl)
  | check selector =>
    cases b with
    | check other => exact (quoted_arguments_inj (by decide) h).1
    | _ => exact absurd hkind (of_decide_eq_false rfl)
  | uncheck selector =>
    cases b with
    | uncheck other => exact (quoted_arguments_inj (by decide) h).1
    | _ => exact absurd hkind (of_decide_eq_false rfl)
  | fill selector text =>
    cases b with
    | fill other text' => exact two_quoted_inj (by decide) h
    | _ => exact absurd hkind (of_decide_eq_false rfl)
  | setInputFiles selector files =>
    cases b with
    | setInputFiles other files' => exact quoted_textArray_inj (by decide) h
    | _ => exact absurd hkind (of_decide_eq_false rfl)
  | press selector key modifiers =>
    cases b with
    | press other key' modifiers' => exact two_quoted_inj (by decide) h
    | _ => exact absurd hkind (of_decide_eq_false rfl)
  | navigate url =>
    cases b with
    | navigate other => exact (quoted_arguments_inj (by decide) h).1
    | _ => exact absurd hkind (of_decide_eq_false rfl)
  | select selector options =>
    cases b with
    | select other options' => exact quoted_textArray_inj (by decide) h
    | _ => exact absurd hkind (of_decide_eq_false rfl)

theorem clickCall_congr (onPage : Bool) {clicks other : Click}
    (h : (Operation.click clicks).SameCall (.click other)) :
    clickCall onPage clicks = clickCall onPage other := by
  obtain ⟨hselector, hbutton, hmodifiers, hcount⟩ := h
  have hheld : Modifier.heldNames clicks.modifiers = Modifier.heldNames other.modifiers :=
    congrArg (List.map Modifier.name) ((Modifier.held_eq_iff _ _).mpr (by omega))
  have hoptions : clickOptions clicks = clickOptions other := by
    simp only [clickOptions, hbutton, hheld, hcount]
  have hmethod : clickMethod clicks = clickMethod other := by
    simp only [clickMethod, hcount]
  simp only [clickCall, hoptions, hmethod, hselector]

theorem call_of_sameCall (onPage : Bool) {a b : Operation} (h : a.SameCall b) :
    call onPage a = call onPage b := by
  unfold Operation.SameCall at h
  split at h
  next => rfl
  next => exact clickCall_congr onPage h
  next => rw [h]
  next => rw [h]
  next => rw [h.1, h.2]
  next => rw [h.1, h.2]
  next => simp only [call, h.1, h.2]
  next => rw [h]
  next => rw [h.1, h.2]
  next => exact h.elim

/-- Two operations with calls have the same call exactly if they are the same but for what calls do
not tell. -/
theorem call_eq_iff (onPage : Bool) {a b : Operation} (ha : a.HasCall) (hb : b.HasCall) :
    ∃ text text', call onPage a = .ok text ∧ call onPage b = .ok text' ∧
      (text = text' ↔ a.SameCall b) := by
  obtain ⟨-, arguments, hcall⟩ := exists_arguments onPage ha
  obtain ⟨-, arguments', hcall'⟩ := exists_arguments onPage hb
  refine ⟨_, _, hcall, hcall', ?_⟩
  constructor
  · intro h
    exact sameCall_of_call ha hb (by rw [hcall, hcall', h])
  · intro h
    have hsame := call_of_sameCall onPage h
    rw [hcall, hcall'] at hsame
    exact Except.ok.inj hsame

/-- Masks that agree in the modifiers make one call, and quotes and commas do not move an argument. -/
theorem call_eq_iff_masks :
    call true (.click ⟨"#a", .right, 3, 4, by decide⟩) =
        call true (.click ⟨"#a", .right, 19, 4, by decide⟩) ∧
      call true (.fill "a\", \"b" "c") ≠ call true (.fill "a" "b\", \"c") := by
  constructor
  · obtain ⟨text, text', hcall, hcall', hsame⟩ := call_eq_iff true
      (a := .click ⟨"#a", .right, 3, 4, by decide⟩) (b := .click ⟨"#a", .right, 19, 4, by decide⟩)
      (show 4 ≤ maxLong by decide) (show 4 ≤ maxLong by decide)
    rw [hcall, hcall', hsame.mpr ⟨rfl, rfl, rfl, rfl⟩]
  · obtain ⟨text, text', hcall, hcall', hsame⟩ := call_eq_iff true
      (a := .fill "a\", \"b" "c") (b := .fill "a" "b\", \"c") trivial trivial
    rw [hcall, hcall']
    intro h
    exact absurd (hsame.mp (Except.ok.inj h)).1 (by decide)

end Program
end SessionReplay
