import SessionReplay.Program.Basic
import SessionReplay.Proofs.Recording.SignalOrder
import SessionReplay.Proofs.Settings.Precedence

/-!
# Reading descriptions

The data that describe a signal, an action, a step, options or a recording are read as just these: all
fields are given, each in the form that it is read in, and in no other. So reading, describing and
reading again come to the same, whatever was read first.
-/

namespace SessionReplay

/-! ### Fields that are given -/

section Fields

variable {α : Type} {entries : Entries} {name : Text} {value : Value} {check : Value → Checked α} {a : α}

theorem Entries.required_of_get? (hget : entries.get? name = some value)
    (hcheck : check value = .accepted a) : entries.required name check = .accepted a := by
  rw [required, hget, Option.elim_some, hcheck]
  rfl

theorem Entries.optional_of_get? {default : α} (hget : entries.get? name = some value)
    (hcheck : check value = .accepted a) : entries.optional name default check = .accepted a := by
  rw [optional, hget, Option.elim_some, hcheck]
  rfl

theorem checkTagged_of_get? {kinds : List (Text × (Entries → Checked α))} {kind : Text}
    {read : Entries → Checked α} (hentries : value.entries? = some entries)
    (htag : entries.get? tagField = some (.text kind)) (hkind : kinds.lookup kind = some read)
    (hread : read entries = .accepted a) : checkTagged kinds value = .accepted a := by
  simp only [checkTagged, hentries, htag, hkind, Option.elim_some, hread]
  rfl

/-- A list of descriptions is read as the list of what they describe. -/
theorem checkList_map {describe : α → Value} (h : ∀ a, check (describe a) = .accepted a)
    (results : List α) : checkList check (.list (results.map describe)) = .accepted results := by
  change checkItems check 0 (results.map describe) = _
  rw [checkItems_eq_accepted_iff, List.forall₂_map_left_iff]
  exact List.forall₂_same.mpr fun a _ => h a

end Fields

theorem lookup_map {β γ : Type} (f : β → γ) (entries : List (Text × β)) (name : Text) :
    (entries.map fun entry => (entry.1, f entry.2)).lookup name = (entries.lookup name).map f := by
  induction entries with
  | nil => rfl
  | cons entry rest ih =>
    rw [List.map_cons, lookup_cons_eq, lookup_cons_eq, ih]
    split <;> rfl

theorem get?_record {fields : List (Text × Value)} (h : (fields.map Prod.fst).Nodup)
    {field : Text × Value} (hm : field ∈ fields) :
    Entries.get? (Options.toEntries fields) field.1 = some field.2 := by
  rw [Options.get?_toEntries, lookup_of_mem h hm]

/-! ### Scalars -/

theorem textField_text (text : Text) : textField (.text text) = .accepted text := rfl

theorem countField_int {bound n : Nat} (h : bound ≤ n) :
    countField bound (.int n) = .accepted ⟨n, h⟩ := by
  have hbound : bound ≤ (n : Int).toNat ∧ 0 ≤ (n : Int) := ⟨h, Int.natCast_nonneg n⟩
  simp only [countField, checkAtLeast, checkInt, Except.bind, dif_pos hbound]
  rfl

theorem checkTexts_textList (texts : List Text) : checkTexts (textList texts) = .accepted texts := by
  have htext : ∀ text : Text, Checked.ofExcept (checkText (.text text)) = .accepted text :=
    fun _ => rfl
  exact checkList_map htext texts

/-! ### Signals and operations -/

theorem checkSignal_describe (signal : Signal) : checkSignal signal.describe = .accepted signal := by
  cases signal with
  | navigation url isAsync => rfl
  | popup page => rfl
  | download suffix => rfl
  | dialog suffix => rfl

def buttonField (value : Value) : Checked Button :=
  .ofExcept (checkOneOf (Button.all.map fun button => (button.name, button)) value)

theorem buttonField_name (button : Button) : buttonField (.text button.name) = .accepted button := by
  cases button <;> rfl

/-- An operation is read from data that give its fields, whatever else they give. -/
theorem exists_read (operation : Operation) : ∃ read,
    operationKinds.lookup operation.kind = some (operation.fields.map Prod.fst, read) ∧
      ∀ entries : Entries, (∀ field ∈ operation.fields, entries.get? field.1 = some field.2) →
        read entries = .accepted operation := by
  have htext : ∀ {entries : Entries} {name text}, entries.get? name = some (.text text) →
      entries.required name textField = .accepted text :=
    fun hget => Entries.required_of_get? hget (textField_text _)
  cases operation <;> refine ⟨_, rfl, fun entries h => ?_⟩ <;>
    simp only [Operation.fields, List.forall_mem_cons, List.not_mem_nil, false_imp_iff, implies_true,
      and_true] at h
  case openPage url =>
    simp only [Entries.optional_of_get? h (Settings.nullableField_nullable url)]
    rfl
  case closePage => rfl
  case click clicks =>
    obtain ⟨hselector, hbutton, hmodifiers, hcount⟩ := h
    have hbuttonField : entries.optional "button" .left buttonField = .accepted clicks.button :=
      Entries.optional_of_get? hbutton (buttonField_name _)
    unfold buttonField at hbuttonField
    simp only [htext hselector, hbuttonField,
      Entries.optional_of_get? hmodifiers (countField_int (Nat.zero_le _)),
      Entries.optional_of_get? hcount (countField_int clicks.count_pos)]
    rfl
  case check selector =>
    simp only [htext h]
    rfl
  case uncheck selector =>
    simp only [htext h]
    rfl
  case fill selector text =>
    simp only [htext h.1, htext h.2]
    rfl
  case setInputFiles selector files =>
    simp only [htext h.1, Entries.optional_of_get? h.2 (checkTexts_textList files)]
    rfl
  case press selector key modifiers =>
    obtain ⟨hselector, hkey, hmodifiers⟩ := h
    simp only [htext hselector, htext hkey,
      Entries.optional_of_get? hmodifiers (countField_int (Nat.zero_le _))]
    rfl
  case navigate url =>
    simp only [htext h]
    rfl
  case select selector options =>
    simp only [htext h.1, Entries.optional_of_get? h.2 (checkTexts_textList options)]
    rfl

theorem nodup_actionFields :
    ∀ kind ∈ operationKinds, ("signals".toList :: tagField :: kind.2.1).Nodup := by
  decide

theorem checkSignals_describe (action : Action) :
    checkSignals (.list (action.signals.map Signal.describe)) =
      .accepted ⟨action.signals, action.distinct⟩ := by
  rw [checkSignals, checkList_map checkSignal_describe]
  exact distinctSignals_eq_accepted_iff.mpr rfl

theorem checkAction_describe (action : Action) : checkAction action.describe = .accepted action := by
  obtain ⟨read, hkind, hread⟩ := exists_read action.operation
  let fields := ("signals".toList, Value.list (action.signals.map Signal.describe)) ::
    (tagField, .text action.operation.kind) :: action.operation.fields
  have hnodup : (fields.map Prod.fst).Nodup := nodup_actionFields _ (mem_of_lookup hkind)
  have hget : ∀ field ∈ fields, Entries.get? (Options.toEntries fields) field.1 = some field.2 :=
    fun field hm => get?_record hnodup hm
  have hlookup := lookup_map (fun kind => readAction kind.1 kind.2) operationKinds
    action.operation.kind
  rw [hkind] at hlookup
  have haction : readAction (action.operation.fields.map Prod.fst) read (Options.toEntries fields) =
      .accepted action := by
    rw [readAction_eq_accepted_iff (hget _ (.head _))]
    refine ⟨checkSignals_describe action, hread _ fun field hm => ?_, ?_⟩
    · exact hget _ (.tail _ (.tail _ hm))
    · exact Options.extraFaults_toEntries fun name hm => hm
  exact checkTagged_of_get? rfl (hget _ (.tail _ (.head _))) hlookup haction

/-! ### Steps -/

theorem checkStep_describe (step : Step) : checkStep step.describe = .accepted step := by
  let fields := [("pageAlias".toList, Value.text step.page),
    ("isMainFrame".toList, .bool step.isMainFrame), ("frameName".toList, nullable step.frameName),
    ("frameUrl".toList, nullable step.frameUrl), ("action".toList, step.action.describe)]
  have hget : ∀ field ∈ fields, Entries.get? (Options.toEntries fields) field.1 = some field.2 := by
    intro field hm
    refine get?_record ?_ hm
    change List.Nodup ["pageAlias".toList, "isMainFrame".toList, "frameName".toList,
      "frameUrl".toList, "action".toList]
    decide
  simp only [fields, List.forall_mem_cons, List.not_mem_nil, false_imp_iff, implies_true,
    and_true] at hget
  obtain ⟨hpage, hmain, hname, hurl, haction⟩ := hget
  have hextra : Entries.extraFaults ["pageAlias", "isMainFrame", "frameName", "frameUrl", "action"]
      (Options.toEntries fields) = [] :=
    Options.extraFaults_toEntries fun name hm => hm
  change readStep (Options.toEntries fields) = _
  rw [readStep, Entries.closed, hextra]
  simp only [fields, Entries.required_of_get? hpage (textField_text _),
    Entries.optional_of_get? hmain (show boolField (.bool step.isMainFrame) = .accepted _ from rfl),
    Entries.optional_of_get? hname (Settings.nullableField_nullable _),
    Entries.optional_of_get? hurl (Settings.nullableField_nullable _),
    Entries.required_of_get? haction (checkAction_describe _)]
  change addressedStep _ _ _ _ _ = _
  exact dif_pos step.addressed

/-! ### Options -/

/-- Options as settings that leave nothing out. -/
def SessionOptions.settings (options : SessionOptions) : OptionSettings :=
  ⟨some options.browser, some options.launch, some options.context, some options.device,
    some options.storage⟩

theorem checkSettings_describe {options : SessionOptions} (hlaunch : options.launch.Distinct)
    (hcontext : options.context.Distinct) :
    checkSettings options.describe = .accepted options.settings := by
  let fields := [("browserName".toList, Value.text options.browser.name),
    ("launchOptions".toList, options.launch.toValue),
    ("contextOptions".toList, options.context.toValue),
    ("deviceName".toList, nullable options.device), ("saveStorage".toList, nullable options.storage)]
  have hget : ∀ field ∈ fields, Entries.get? (Options.toEntries fields) field.1 = some field.2 := by
    intro field hm
    refine get?_record ?_ hm
    change settingFields.Nodup
    decide
  simp only [fields, List.forall_mem_cons, List.not_mem_nil, false_imp_iff, implies_true,
    and_true] at hget
  obtain ⟨hbrowser, hlaunchField, hcontextField, hdevice, hstorage⟩ := hget
  change readSettings (Options.toEntries fields) = _
  rw [readSettings_eq_accepted_iff]
  refine ⟨?_, ?_, ?_, ?_, ?_, ?_⟩
  · rw [hbrowser, Option.map_some, browserField_name]
    rfl
  · rw [hlaunchField, Option.map_some, Options.checkOptions_toValue hlaunch]
    rfl
  · rw [hcontextField, Option.map_some, Options.checkOptions_toValue hcontext]
    rfl
  · rw [hdevice, Option.map_some, Settings.nullableField_nullable]
    rfl
  · rw [hstorage, Option.map_some, Settings.nullableField_nullable]
    rfl
  · exact Options.extraFaults_toEntries fun name hm => hm

/-! ### Recordings -/

theorem consistentRecording_eq_accepted_iff {options : OptionSettings} {steps : List Step}
    {recording : Recording} :
    consistentRecording options steps = .accepted recording ↔
      recording.options = options ∧ recording.steps = steps := by
  unfold consistentRecording
  split
  next h =>
    constructor
    · intro he
      obtain rfl := Checked.accepted.inj he
      exact ⟨rfl, rfl⟩
    · intro he
      cases recording
      obtain ⟨rfl, rfl⟩ := he
      rfl
  next conflict h =>
    constructor
    · intro he
      exact absurd he (by simp [Checked.fail])
    · intro he
      rw [← he.2, recording.consistent] at h
      exact absurd h (by simp)

theorem optional_options_eq_accepted_iff {entries : Entries} {settings : OptionSettings} :
    entries.optional "options" {} checkSettings = .accepted settings ↔
      recordedSettings (entries.get? "options") = .accepted settings := by
  rw [Entries.optional, recordedSettings]
  cases entries.get? "options" with
  | none => rfl
  | some value => exact Checked.under_eq_accepted_iff

theorem readRecording_eq_accepted_iff {entries : Entries} {recording : Recording} :
    readRecording entries = .accepted recording ↔
      recordedSettings (entries.get? "options") = .accepted recording.options ∧
        entries.optional "actions" [] (checkList checkStep) = .accepted recording.steps ∧
        entries.extraFaults ["options", "actions"] = [] := by
  rw [readRecording, Checked.andThen_eq_accepted_iff]
  simp only [Entries.closed_eq_accepted_iff, Checked.seq_eq_accepted_iff,
    Checked.map_eq_accepted_iff, optional_options_eq_accepted_iff,
    consistentRecording_eq_accepted_iff]
  constructor
  · rintro ⟨_, ⟨⟨_, steps, ⟨options, hoptions, rfl⟩, hsteps, rfl⟩, hextra⟩, rfl, rfl⟩
    exact ⟨hoptions, hsteps, hextra⟩
  · rintro ⟨hoptions, hsteps, hextra⟩
    exact ⟨_, ⟨⟨_, _, ⟨_, hoptions, rfl⟩, hsteps, rfl⟩, hextra⟩, rfl, rfl⟩

theorem distinct_of_checkRecording {value : Value} {recording : Recording}
    (h : checkRecording value = .accepted recording) :
    recording.options.resolve.launch.Distinct ∧ recording.options.resolve.context.Distinct := by
  unfold checkRecording checkModel at h
  cases hentries : value.entries? with
  | none =>
    rw [hentries] at h
    exact absurd h (by simp [Checked.fail])
  | some entries =>
    rw [hentries] at h
    obtain ⟨-, hlaunch, hcontext, -, -⟩ :=
      recordedSettings_fields (readRecording_eq_accepted_iff.mp h).1
    have hdistinct : ∀ {set : Option Options}, (∀ options ∈ set, Options.Distinct options) →
        Options.Distinct (set.getD []) := by
      intro set hset
      cases set with
      | none => exact List.nodup_nil
      | some options => exact hset options rfl
    exact ⟨hdistinct (distinct_of_field hlaunch), hdistinct (distinct_of_field hcontext)⟩

/-- The recording with all options set, those that were left out to their defaults. -/
def Recording.settled (recording : Recording) : Recording :=
  { recording with options := recording.options.resolve.settings }

theorem checkRecording_describe {recording : Recording}
    (hlaunch : recording.options.resolve.launch.Distinct)
    (hcontext : recording.options.resolve.context.Distinct) :
    checkRecording recording.describe = .accepted recording.settled := by
  let fields := [("options".toList, recording.options.resolve.describe),
    ("actions".toList, Value.list (recording.steps.map Step.describe))]
  have hoptions : Entries.get? (Options.toEntries fields) "options" =
    some recording.options.resolve.describe := rfl
  have hactions : Entries.get? (Options.toEntries fields) "actions" =
    some (.list (recording.steps.map Step.describe)) := rfl
  change readRecording (Options.toEntries fields) = _
  rw [readRecording_eq_accepted_iff, hoptions]
  refine ⟨checkSettings_describe hlaunch hcontext, ?_, ?_⟩
  · exact Entries.optional_of_get? hactions (checkList_map checkStep_describe recording.steps)
  · exact Options.extraFaults_toEntries fun name hm => hm

/-- What describes a recording that was read is read as a recording again. It has the same steps and
options, so it is described in the same way, and its program is the same or cannot be written for the
same reason. -/
theorem exists_checkRecording_describe {value : Value} {recording : Recording}
    (h : checkRecording value = .accepted recording) :
    ∃ again, checkRecording recording.describe = .accepted again ∧
      again.describe = recording.describe ∧
      again.steps = recording.steps ∧ again.options.resolve = recording.options.resolve ∧
      Program.generate again.options.resolve again.steps =
        Program.generate recording.options.resolve recording.steps := by
  obtain ⟨hlaunch, hcontext⟩ := distinct_of_checkRecording h
  exact ⟨recording.settled, checkRecording_describe hlaunch hcontext, rfl, rfl, rfl, rfl⟩

/-- A recording with numbers and truth values as texts, and with fields that are left out. -/
def looseRecording : Value :=
  record
    [("actions", .list [record
      [("isMainFrame", .text "Yes"), ("pageAlias", .text "page"),
        ("action", record
          [("clickCount", .text " 2.0 "), ("name", .text "click"), ("modifiers", .bool true),
            ("selector", .bytes [0x61]), ("signals", .list [record [("name", .text "dialog")]])])]]),
      ("options", record [("contextOptions", record [("offline", .null), ("locale", .text "de")])])]

theorem exists_checkRecording_describe_loose :
    ∃ recording again, checkRecording looseRecording = .accepted recording ∧
      checkRecording recording.describe = .accepted again ∧
      again.describe = recording.describe ∧
      again.describe = record
        [("options", record
          [("browserName", .text "chromium"), ("launchOptions", .dict []),
            ("contextOptions", record [("offline", .null), ("locale", .text "de")]),
            ("deviceName", .null), ("saveStorage", .null)]),
          ("actions", .list [record
            [("pageAlias", .text "page"), ("isMainFrame", .bool true), ("frameName", .null),
              ("frameUrl", .null),
              ("action", record
                [("signals", .list [record [("name", .text "dialog"), ("dialogAlias", .text [])]]),
                  ("name", .text "click"), ("selector", .text "a"), ("button", .text "left"),
                  ("modifiers", .int 1), ("clickCount", .int 2)])]])] := by
  let click : Operation := .click ⟨"a", .left, 1, 2, by decide⟩
  let step : Step := ⟨"page", true, none, none, ⟨[.dialog []], click, by decide⟩, rfl⟩
  let settings : OptionSettings := { context := some [("offline", .null), ("locale", .text "de")] }
  have h : checkRecording looseRecording = .accepted ⟨settings, [step], by decide⟩ := rfl
  obtain ⟨again, hagain, hdescribe, -⟩ := exists_checkRecording_describe h
  exact ⟨_, again, h, hagain, hdescribe, hdescribe.trans rfl⟩

end SessionReplay
