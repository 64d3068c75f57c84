import SessionReplay.Program.Call
import SessionReplay.Proofs.Number.Limit
import SessionReplay.Proofs.Number.Numeral
import SessionReplay.Proofs.Result
import SessionReplay.Proofs.Text.LineEnd

/-!
# Calls and their lines

Only the options of a click can fail to be written, and only for a count that no double is near. A
call is one line, except that options of a click take two lines more than they are; none of its
line ends comes from a recorded text but the U+0085 that literals leave as they are.
-/

namespace SessionReplay

namespace Operation

/-- The texts that the call of an operation has as literals. -/
def literals : Operation → List Text
  | .openPage _ | .closePage => []
  | .click clicks => [clicks.selector]
  | .check selector | .uncheck selector => [selector]
  | .fill selector text => [selector, text]
  | .setInputFiles selector files => selector :: files
  | .press selector key modifiers => [selector, Modifier.shortcut modifiers key]
  | .navigate url => [url]
  | .select selector options => selector :: options

/-- How many line feeds the call of an operation has. -/
def feeds : Operation → Nat
  | .click clicks =>
    if Program.clickOptions clicks = [] then 0 else (Program.clickOptions clicks).length + 2
  | _ => 0

end Operation

namespace Program

open Text (lineEnds lineEnds_append)

/-! ### The options of a click -/

theorem itemLiterals_texts (indent option : Text) (texts : List Text) :
    itemLiterals indent option (texts.map Value.text) = .ok (texts.map (textLiteral option)) := by
  induction texts with
  | nil => rfl
  | cons text rest ih =>
    rw [List.map_cons, itemLiterals, ih]
    rfl

/-- The assignments for the options of a click; `numeral` writes the count. -/
def clickAssignments (clicks : Click) (numeral : Text) : List Text :=
  let button : List Text :=
    if clicks.button = .left then []
    else ["Button = MouseButton." ++ Text.capitalize clicks.button.name ++ ","]
  let held := Modifier.heldNames clicks.modifiers
  let modifiers : List Text :=
    if held.isEmpty then []
    else ["Modifiers = " ++ arrayLiteral (held.map ("KeyboardModifier.".toList ++ ·)) ++ ","]
  let count : List Text := if 2 < clicks.count then ["ClickCount = " ++ numeral ++ ","] else []
  button ++ modifiers ++ count

theorem textLiteral_modifiers (mask : Int) :
    (Modifier.heldNames mask).map (textLiteral "modifiers") =
      (Modifier.heldNames mask).map ("KeyboardModifier.".toList ++ ·) := by
  rw [Modifier.heldNames, List.map_map, List.map_map]
  apply List.map_congr_left
  intro modifier _
  cases modifier <;> rfl

theorem settingLiterals_append (indent : Text) (first second : List (Value × Value)) :
    settingLiterals indent (first ++ second) = (do
      .ok ((← settingLiterals indent first) ++ (← settingLiterals indent second))) := by
  induction first with
  | nil =>
    rw [List.nil_append]
    cases settingLiterals indent second <;> rfl
  | cons entry rest ih =>
    obtain ⟨key, value⟩ := entry
    rw [List.cons_append, settingLiterals, settingLiterals, ih]
    cases keyNames key with
    | error => rfl
    | ok names =>
      cases hv : literal indent names.2 value with
      | error => simp only [hv, bind, Except.bind]
      | ok => cases settingLiterals indent rest <;> cases settingLiterals indent second <;>
          simp [hv, bind, Except.bind]

theorem toEntries_append (first second : Options) :
    Options.toEntries (first ++ second) = Options.toEntries first ++ Options.toEntries second :=
  List.map_append

theorem settingLiterals_button (button : Button) :
    settingLiterals defaultIndent
        (Options.toEntries (if button = .left then [] else [("button", .text button.name)])) =
      .ok (if button = .left then []
        else ["Button = MouseButton." ++ Text.capitalize button.name ++ ","]) := by
  cases button <;> rfl

theorem settingLiterals_modifiers (mask : Int) :
    settingLiterals defaultIndent (Options.toEntries
        (if (Modifier.heldNames mask).isEmpty then []
          else [("modifiers", .list ((Modifier.heldNames mask).map Value.text))])) =
      .ok (if (Modifier.heldNames mask).isEmpty then []
        else ["Modifiers = " ++
          arrayLiteral ((Modifier.heldNames mask).map ("KeyboardModifier.".toList ++ ·)) ++ ","]) := by
  split
  · rfl
  · rw [← textLiteral_modifiers]
    simp only [Options.toEntries, List.map_cons, List.map_nil, settingLiterals, keyNames, literal,
      itemLiterals_texts]
    rfl

theorem settingLiterals_clickCount (count : Nat) :
    settingLiterals defaultIndent
        (Options.toEntries (if 2 < count then [("clickCount", .int count)] else [])) =
      if 2 < count then
        (intLiteral count).map fun numeral => (["ClickCount = " ++ numeral ++ ","] : List Text)
      else .ok [] := by
  split
  · simp only [Options.toEntries, List.map_cons, List.map_nil, settingLiterals, keyNames, literal]
    cases intLiteral count with
    | error => rfl
    | ok numeral =>
      have hsuffix : numeral ++ numberSuffix "clickCount" = numeral := List.append_nil numeral
      simp only [bind, Except.bind, Except.map, hsuffix]
      rfl
  · rfl

theorem settingLiterals_clickOptions (clicks : Click) :
    settingLiterals defaultIndent (clickOptions clicks).toEntries =
      if 2 < clicks.count then (intLiteral clicks.count).map (clickAssignments clicks)
      else .ok (clickAssignments clicks []) := by
  simp only [clickOptions, toEntries_append, settingLiterals_append]
  rw [settingLiterals_button, settingLiterals_modifiers, settingLiterals_clickCount]
  unfold clickAssignments
  by_cases hcount : 2 < clicks.count
  · simp only [if_pos hcount]
    cases intLiteral clicks.count <;> rfl
  · simp only [if_neg hcount]
    rfl

/-! ### What a click can fail at -/

theorem maxLong_lt (e bound : Nat) (he : 63 ≤ e) (hbound : bound = e + 54) :
    maxLong < 2 ^ bound - 2 ^ e := by
  have hsplit : 2 ^ (e + 54) = 2 ^ 54 * 2 ^ e := by rw [Nat.add_comm, Nat.pow_add]
  have hlarge : 2 ^ 63 ≤ 2 ^ e := Nat.pow_le_pow_right (by decide) he
  rw [hbound, hsplit, maxLong]
  omega

theorem intLiteral_error_iff (n : Int) (fault : LiteralFault) :
    intLiteral n = .error fault ↔ Double.integerLimit ≤ n.natAbs ∧ fault = .tooLarge n := by
  have hmax : maxLong < Double.integerLimit := by
    unfold Double.integerLimit
    exact maxLong_lt 970 1024 (by decide) (by decide)
  rw [← Double.ofInt?_eq_none_iff, intLiteral]
  split
  next hsmall =>
    have hsome : Double.ofInt? n ≠ none := by
      rw [Ne, Double.ofInt?_eq_none_iff]
      omega
    simp [hsome]
  next => cases Double.ofInt? n <;> simp [eq_comm]

theorem isNumeral_of_intLiteral {n : Int} {numeral : Text} (h : intLiteral n = .ok numeral) :
    IsNumeral numeral := by
  unfold intLiteral at h
  split at h
  · rw [← Except.ok.inj h]
    exact IsNumeral.ofInt n
  · split at h
    · rw [← Except.ok.inj h]
      exact IsNumeral.numeral _
    · exact absurd h (by simp)

def clickText (onPage : Bool) (clicks : Click) (assignments : List Text) : Text :=
  methodCall (clickMethod clicks)
    [clicks.selector.quoted,
      objectLiteral defaultIndent (optionsClass onPage (clickMethod clicks)) assignments]

theorem clickCall_eq (onPage : Bool) (clicks : Click) :
    clickCall onPage clicks =
      if clickOptions clicks = [] then
        .ok (methodCall (clickMethod clicks) [clicks.selector.quoted])
      else
        ((settingLiterals defaultIndent (clickOptions clicks).toEntries).map
          (clickText onPage clicks)).mapError .literal := by
  unfold clickCall
  cases hoptions : clickOptions clicks with
  | nil => rfl
  | cons first rest =>
    rw [if_neg (List.cons_ne_nil first rest)]
    simp only [expression, Options.toValue, literal]
    cases settingLiterals defaultIndent (Options.toEntries (first :: rest)) <;> rfl

theorem clickCall_error (onPage : Bool) (clicks : Click) (fault : ProgramFault) :
    clickCall onPage clicks = .error fault ↔
      ∃ reason, intLiteral clicks.count = .error reason ∧ fault = .literal reason := by
  rw [clickCall_eq, settingLiterals_clickOptions]
  by_cases hcount : 2 < clicks.count
  · have hoptions : clickOptions clicks ≠ [] := by
      rw [clickOptions]
      apply List.append_ne_nil_of_right_ne_nil
      rw [if_pos hcount]
      exact List.cons_ne_nil _ _
    rw [if_neg hoptions, if_pos hcount]
    cases intLiteral clicks.count <;> simp [Except.map, Except.mapError, eq_comm]
  · have hsmall : ((clicks.count : Int).natAbs : Nat) ≤ maxLong := by
      rw [maxLong]
      omega
    have hok : intLiteral clicks.count = .ok (Text.ofInt clicks.count) := if_pos hsmall
    rw [if_neg hcount, hok]
    split <;> simp [Except.map, Except.mapError]

/-- A click is written unless no double is near its count. -/
theorem clickCall_error_iff (onPage : Bool) (clicks : Click) (fault : ProgramFault) :
    clickCall onPage clicks = .error fault ↔
      Double.integerLimit ≤ clicks.count ∧ fault = .literal (.tooLarge clicks.count) := by
  rw [clickCall_error]
  constructor
  · rintro ⟨reason, hreason, rfl⟩
    obtain ⟨hle, rfl⟩ := (intLiteral_error_iff _ _).mp hreason
    exact ⟨hle, rfl⟩
  · rintro ⟨hle, rfl⟩
    exact ⟨_, (intLiteral_error_iff _ _).mpr ⟨hle, rfl⟩, rfl⟩

theorem clickCall_ok {onPage : Bool} {clicks : Click} {text : Text}
    (h : clickCall onPage clicks = .ok text) :
    clickOptions clicks = [] ∧ text = methodCall (clickMethod clicks) [clicks.selector.quoted] ∨
      clickOptions clicks ≠ [] ∧ ∃ numeral, IsNumeral numeral ∧
        text = clickText onPage clicks (clickAssignments clicks numeral) := by
  rw [clickCall_eq, settingLiterals_clickOptions] at h
  by_cases hoptions : clickOptions clicks = []
  · rw [if_pos hoptions] at h
    exact .inl ⟨hoptions, (Except.ok.inj h).symm⟩
  · refine .inr ⟨hoptions, ?_⟩
    rw [if_neg hoptions] at h
    by_cases hcount : 2 < clicks.count
    · rw [if_pos hcount] at h
      cases hl : intLiteral clicks.count with
      | error =>
        rw [hl] at h
        exact absurd h (by simp [Except.map, Except.mapError])
      | ok numeral =>
        rw [hl] at h
        exact ⟨numeral, isNumeral_of_intLiteral hl, (Except.ok.inj h).symm⟩
    · rw [if_neg hcount] at h
      exact ⟨[], by decide, (Except.ok.inj h).symm⟩

theorem call_error_iff {onPage : Bool} {operation : Operation} {fault : ProgramFault}
    (h : ∀ url, operation ≠ .openPage url) :
    call onPage operation = .error fault ↔
      ∃ clicks, operation = .click clicks ∧ Double.integerLimit ≤ clicks.count ∧
        fault = .literal (.tooLarge clicks.count) := by
  cases operation with
  | openPage url => exact absurd rfl (h url)
  | click clicks =>
    rw [call, clickCall_error_iff]
    constructor
    · exact fun hfault => ⟨clicks, rfl, hfault⟩
    · rintro ⟨_, ⟨⟩, hfault⟩
      exact hfault
  | _ => simp [call]

/-! ### How calls are written -/

def methods : List Text :=
  ["Close", "Click", "DblClick", "Check", "Uncheck", "Fill", "SetInputFiles", "Press", "Goto",
    "SelectOption"]

theorem clickMethod_mem (clicks : Click) : clickMethod clicks ∈ methods := by
  unfold clickMethod
  split <;> decide

/-- How the call of an operation is written: with its literals as arguments, all but the first of
them in an array, or with the options of a click. -/
inductive Written (onPage : Bool) (operation : Operation) : Text → Prop
  | literals {method : Text} : method ∈ methods → operation.feeds = 0 →
      Written onPage operation (methodCall method (operation.literals.map Text.quoted))
  | array {method first : Text} {rest : List Text} : method ∈ methods → operation.feeds = 0 →
      operation.literals = first :: rest →
      Written onPage operation (methodCall method [first.quoted, textArray rest])
  | options {clicks : Click} {numeral : Text} : operation = .click clicks →
      clickOptions clicks ≠ [] → IsNumeral numeral →
      Written onPage operation (clickText onPage clicks (clickAssignments clicks numeral))

theorem written_of_call {onPage : Bool} {operation : Operation} {text : Text}
    (h : call onPage operation = .ok text) : Written onPage operation text := by
  cases operation with
  | openPage => exact absurd h (by simp [call])
  | click clicks =>
    rcases clickCall_ok h with ⟨hoptions, rfl⟩ | ⟨hoptions, numeral, hn, rfl⟩
    · exact .literals (clickMethod_mem clicks) (if_pos hoptions)
    · exact .options rfl hoptions hn
  | setInputFiles selector files =>
    rw [← Except.ok.inj h]
    exact .array (by decide) rfl rfl
  | select selector options =>
    rw [← Except.ok.inj h]
    exact .array (by decide) rfl rfl
  | _ =>
    rw [← Except.ok.inj h]
    exact .literals (by decide) rfl

theorem mem_clickAssignments {clicks : Click} {numeral assignment : Text}
    (h : assignment ∈ clickAssignments clicks numeral) :
    assignment = "Button = MouseButton." ++ Text.capitalize clicks.button.name ++ "," ∨
      assignment = "Modifiers = " ++ arrayLiteral ((Modifier.heldNames clicks.modifiers).map
        ("KeyboardModifier.".toList ++ ·)) ++ "," ∨
      assignment = "ClickCount = " ++ numeral ++ "," := by
  simp only [clickAssignments, List.mem_append] at h
  rcases h with (h | h) | h
  · split at h
    · exact absurd h List.not_mem_nil
    · exact .inl (List.mem_singleton.mp h)
  · split at h
    · exact absurd h List.not_mem_nil
    · exact .inr (.inl (List.mem_singleton.mp h))
  · split at h
    · exact .inr (.inr (List.mem_singleton.mp h))
    · exact absurd h List.not_mem_nil

theorem exists_of_mem_heldNames {mask : Int} {member : Text}
    (h : member ∈ (Modifier.heldNames mask).map ("KeyboardModifier.".toList ++ ·)) :
    ∃ modifier : Modifier, member = "KeyboardModifier." ++ modifier.name := by
  rw [Modifier.heldNames, List.map_map] at h
  obtain ⟨modifier, -, rfl⟩ := List.mem_map.mp h
  exact ⟨modifier, rfl⟩

/-! ### The lines of a call -/

theorem lineEnds_join (separator : Text) (pieces : List Text) :
    lineEnds (Text.join separator pieces) =
      Text.join (lineEnds separator) (pieces.map lineEnds) := by
  induction pieces with
  | nil => rfl
  | cons piece rest ih =>
    cases rest with
    | nil => rw [Text.join_singleton, List.map_singleton, Text.join_singleton]
    | cons next rest =>
      rw [Text.join_cons_cons, lineEnds_append, lineEnds_append, ih]
      exact (Text.join_cons_cons ..).symm

theorem join_empty (pieces : List Text) : Text.join [] pieces = pieces.flatten := by
  induction pieces with
  | nil => rfl
  | cons piece rest ih =>
    cases rest with
    | nil => rw [Text.join_singleton, List.flatten_singleton]
    | cons next rest => rw [Text.join_cons_cons, ih, List.append_nil, List.flatten_cons (l := piece)]

/-- Pieces without line ends, joined by a line feed and blanks, have one line end fewer than they
are. -/
theorem lineEnds_join_feed {indent : Text} {pieces : List Text} (hi : lineEnds indent = [])
    (h : ∀ piece ∈ pieces, lineEnds piece = []) :
    lineEnds (Text.join ('\n' :: indent) pieces) = List.replicate (pieces.length - 1) '\n' := by
  have hfeed : lineEnds ('\n' :: indent) = ['\n'] := by
    rw [← List.singleton_append, lineEnds_append, hi]
    rfl
  induction pieces with
  | nil => rfl
  | cons piece rest ih =>
    have hpiece : lineEnds piece = [] := h piece List.mem_cons_self
    have hrest := ih fun p hp => h p (List.mem_cons_of_mem _ hp)
    cases rest with
    | nil => rw [Text.join_singleton, hpiece]; rfl
    | cons next rest =>
      rw [Text.join_cons_cons, lineEnds_append, lineEnds_append, hpiece, hfeed, hrest]
      rfl

theorem lineEnds_method : ∀ method ∈ methods, lineEnds method = [] := by decide

theorem lineEnds_methodCall (method : Text) (arguments : List Text) :
    lineEnds (methodCall method arguments) = lineEnds method ++ arguments.flatMap lineEnds := by
  have hcall : lineEnds "Async(" = [] := by decide
  have hend : lineEnds ")" = [] := by decide
  have hcomma : lineEnds ", " = [] := by decide
  rw [methodCall, lineEnds_append, lineEnds_append, lineEnds_append, lineEnds_join, hcall, hend,
    hcomma, join_empty, List.append_nil, List.append_nil, List.flatMap_def]

theorem lineEnds_arrayLiteral (items : List Text) :
    lineEnds (arrayLiteral items) = items.flatMap lineEnds := by
  have hopen : lineEnds "new[] \x7b " = [] := by decide
  have hclose : lineEnds " \x7d" = [] := by decide
  have hcomma : lineEnds ", " = [] := by decide
  cases items with
  | nil => rfl
  | cons item rest =>
    have hitems : arrayLiteral (item :: rest) =
        "new[] \x7b ".toList ++ Text.join ", " (item :: rest) ++ " \x7d".toList := rfl
    rw [hitems, lineEnds_append, lineEnds_append, lineEnds_join, hopen, hclose, hcomma,
      join_empty, List.append_nil, List.nil_append, List.flatMap_def]

theorem lineEnds_clickAssignments (clicks : Click) {numeral : Text} (h : IsNumeral numeral) :
    ∀ assignment ∈ clickAssignments clicks numeral, lineEnds assignment = [] := by
  have hchars : ∀ c ∈ numeralChars, Text.isLineEnd c = false := by decide
  have hnumeral : lineEnds numeral = [] := by
    rw [Text.lineEnds, List.filter_eq_nil_iff]
    intro c hc he
    rw [hchars c (h c hc)] at he
    exact Bool.noConfusion he
  have hmember : ∀ member ∈ (Modifier.heldNames clicks.modifiers).map
      ("KeyboardModifier.".toList ++ ·), lineEnds member = [] := by
    intro member hm
    obtain ⟨modifier, rfl⟩ := exists_of_mem_heldNames hm
    cases modifier <;> decide
  have hcomma : lineEnds "," = [] := by decide
  intro assignment ha
  rcases mem_clickAssignments ha with rfl | rfl | rfl
  · cases clicks.button <;> decide
  · have hset : lineEnds "Modifiers = " = [] := by decide
    rw [lineEnds_append, lineEnds_append, lineEnds_arrayLiteral,
      List.flatMap_eq_nil_iff.mpr hmember, hset, hcomma]
    rfl
  · have hset : lineEnds "ClickCount = " = [] := by decide
    rw [lineEnds_append, lineEnds_append, hnumeral, hset, hcomma]
    rfl

theorem length_clickAssignments (clicks : Click) (numeral : Text) :
    (clickAssignments clicks numeral).length = (clickOptions clicks).length := by
  simp only [clickAssignments, clickOptions, List.length_append]
  congr 1
  · congr 1 <;> split <;> rfl
  · split <;> rfl

theorem lineEnds_objectLiteral {indent option first : Text} {rest : List Text}
    (ho : lineEnds (className option) = []) (hi : lineEnds indent = []) (hne : option ≠ [])
    (h : ∀ setting ∈ first :: rest, lineEnds setting = []) :
    lineEnds (objectLiteral indent option (first :: rest)) =
      List.replicate ((first :: rest).length + 2) '\n' := by
  have hobject : objectLiteral indent option (first :: rest) =
      "new ".toList ++ className option ++ "\n".toList ++ "\x7b\n".toList ++ indent ++
        Text.join ('\n' :: indent) (first :: rest) ++ "\n".toList ++ indent ++ "\x7d".toList := by
    simp [objectLiteral, hne]
  have hnew : lineEnds "new " = [] := by decide
  have hopen : lineEnds "\x7b\n" = ['\n'] := by decide
  have hfeed : lineEnds "\n" = ['\n'] := by decide
  have hclose : lineEnds "\x7d" = [] := by decide
  rw [hobject]
  simp only [lineEnds_append, hnew, hopen, hfeed, hclose, ho, hi, lineEnds_join_feed hi h,
    List.length_cons, Nat.add_sub_cancel, List.append_nil, List.nil_append, List.append_assoc]
  rw [← List.replicate_succ']
  rfl

theorem lineEnds_clickText (onPage : Bool) (clicks : Click) {numeral : Text}
    (h : IsNumeral numeral) (hne : clickOptions clicks ≠ []) :
    lineEnds (clickText onPage clicks (clickAssignments clicks numeral)) =
      lineEnds clicks.selector.quoted ++
        List.replicate ((clickOptions clicks).length + 2) '\n' := by
  have hmethod : lineEnds (clickMethod clicks) = [] := lineEnds_method _ (clickMethod_mem clicks)
  have hclass : lineEnds (className (optionsClass onPage (clickMethod clicks))) = [] := by
    unfold clickMethod
    split <;> cases onPage <;> decide
  have hoption : optionsClass onPage (clickMethod clicks) ≠ [] := by
    unfold clickMethod
    split <;> cases onPage <;> decide
  have hlength := length_clickAssignments clicks numeral
  have hassignments := lineEnds_clickAssignments clicks h
  cases hall : clickAssignments clicks numeral with
  | nil =>
    rw [hall] at hlength
    exact absurd (List.eq_nil_of_length_eq_zero hlength.symm) hne
  | cons first rest =>
    rw [hall] at hlength hassignments
    rw [clickText, lineEnds_methodCall, hmethod, List.nil_append, List.flatMap_cons,
      List.flatMap_singleton,
      lineEnds_objectLiteral hclass (by decide) hoption hassignments, hlength]

theorem lineEnds_textArray (texts : List Text) :
    lineEnds (textArray texts) = texts.flatMap fun text => lineEnds text.quoted := by
  rw [textArray, lineEnds_arrayLiteral, List.flatMap_map]

/-- The line ends of a call: those of its literals, and those between the options of a click. -/
theorem lineEnds_call {onPage : Bool} {operation : Operation} {text : Text}
    (h : call onPage operation = .ok text) :
    lineEnds text = operation.literals.flatMap (fun text => lineEnds text.quoted) ++
      List.replicate operation.feeds '\n' := by
  cases written_of_call h with
  | @literals method hm hfeeds =>
    rw [lineEnds_methodCall, lineEnds_method method hm, hfeeds, List.nil_append, List.flatMap_map,
      List.replicate_zero, List.append_nil]
  | @array method first rest hm hfeeds hl =>
    rw [lineEnds_methodCall, lineEnds_method method hm, hfeeds, hl, List.nil_append,
      List.flatMap_cons, List.flatMap_singleton, lineEnds_textArray, List.flatMap_cons,
      List.replicate_zero, List.append_nil]
  | @options clicks numeral hop hoptions hn =>
    rw [lineEnds_clickText onPage clicks hn hoptions, hop, Operation.feeds, if_neg hoptions,
      Operation.literals, List.flatMap_singleton]

end Program
end SessionReplay
