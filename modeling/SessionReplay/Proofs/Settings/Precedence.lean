import SessionReplay.Proofs.Schema.Options
import SessionReplay.Settings

/-!
# Which source settles an option

The options of a program come from the command line, the recording, the environment and the
defaults. All sources are laid over each other as data and read as options are read from a
recording; what comes of it is, for each option, what the first source that says something about it
says. The reading fails only where the command line names a browser that there is not.
-/

namespace SessionReplay

/-! ### Reading settings -/

theorem Entries.setting_of_none {α : Type} {entries : Entries} {name : Text}
    (h : entries.get? name = none) (check : Value → Checked α) :
    entries.setting name check = .accepted none := by
  rw [setting, optional, h]
  rfl

theorem Entries.setting_of_some {α : Type} {entries : Entries} {name : Text} {value : Value}
    (h : entries.get? name = some value) (check : Value → Checked α) :
    entries.setting name check = (some <$> check value).under (.key name) := by
  rw [setting, optional, h]
  rfl

theorem Entries.setting_eq_accepted_iff {α : Type} {entries : Entries} {name : Text}
    {check : Value → Checked α} {result : Option α} :
    entries.setting name check = .accepted result ↔
      (entries.get? name).map check = result.map .accepted := by
  cases h : entries.get? name with
  | none =>
    rw [setting_of_none h]
    cases result <;> simp
  | some value =>
    rw [setting_of_some h, Checked.under_eq_accepted_iff, Checked.map_eq_accepted_iff]
    cases result with
    | none => simp
    | some result => simp

theorem readSettings_eq_accepted_iff {entries : Entries} {settings : OptionSettings} :
    readSettings entries = .accepted settings ↔
      (entries.get? "browserName").map browserField = settings.browser.map .accepted ∧
      (entries.get? "launchOptions").map checkOptions = settings.launch.map .accepted ∧
      (entries.get? "contextOptions").map checkOptions = settings.context.map .accepted ∧
      (entries.get? "deviceName").map nullableField = settings.device.map .accepted ∧
      (entries.get? "saveStorage").map nullableField = settings.storage.map .accepted ∧
      entries.extraFaults settingFields = [] := by
  rw [readSettings, Entries.closed_eq_accepted_iff]
  simp only [← Entries.setting_eq_accepted_iff, Checked.seq_eq_accepted_iff,
    Checked.map_eq_accepted_iff]
  constructor
  · rintro ⟨⟨_, storage, ⟨_, device, ⟨_, context, ⟨_, launch, ⟨browser, hbrowser, rfl⟩, hlaunch, rfl⟩,
      hcontext, rfl⟩, hdevice, rfl⟩, hstorage, rfl⟩, hextra⟩
    exact ⟨hbrowser, hlaunch, hcontext, hdevice, hstorage, hextra⟩
  · rintro ⟨hbrowser, hlaunch, hcontext, hdevice, hstorage, hextra⟩
    exact ⟨⟨_, _, ⟨_, _, ⟨_, _, ⟨_, _, ⟨_, hbrowser, rfl⟩, hlaunch, rfl⟩, hcontext, rfl⟩, hdevice, rfl⟩,
      hstorage, rfl⟩, hextra⟩

def fieldOf? (data : Option Value) (name : Text) : Option Value :=
  (data.bind Value.entries?).bind (Entries.get? · name)

/-- The settings that are recorded: none, if there are no data for them. -/
def recordedSettings (data : Option Value) : Checked OptionSettings :=
  data.elim (.accepted {}) checkSettings

theorem recordedSettings_fields {data : Option Value} {settings : OptionSettings}
    (h : recordedSettings data = .accepted settings) :
    (fieldOf? data "browserName").map browserField = settings.browser.map .accepted ∧
      (fieldOf? data "launchOptions").map checkOptions = settings.launch.map .accepted ∧
      (fieldOf? data "contextOptions").map checkOptions = settings.context.map .accepted ∧
      (fieldOf? data "deviceName").map nullableField = settings.device.map .accepted ∧
      (fieldOf? data "saveStorage").map nullableField = settings.storage.map .accepted := by
  cases data with
  | none =>
    obtain rfl := Checked.accepted.inj h
    exact ⟨rfl, rfl, rfl, rfl, rfl⟩
  | some value =>
    change checkModel _ readSettings value = _ at h
    unfold checkModel at h
    cases hentries : value.entries? with
    | none =>
      rw [hentries] at h
      exact absurd h (by simp [Checked.fail])
    | some entries =>
      rw [hentries] at h
      have hfield : ∀ name, fieldOf? (some value) name = Entries.get? entries name := by
        intro name
        simp [fieldOf?, hentries]
      obtain ⟨hbrowser, hlaunch, hcontext, hdevice, hstorage, -⟩ :=
        readSettings_eq_accepted_iff.mp h
      simp only [hfield]
      exact ⟨hbrowser, hlaunch, hcontext, hdevice, hstorage⟩

theorem distinct_of_field {field : Option Value} {options : Option Options}
    (h : field.map checkOptions = options.map .accepted) : ∀ o ∈ options, Options.Distinct o := by
  rintro o rfl
  obtain ⟨value, -, hvalue⟩ := Option.map_eq_some_iff.mp h
  exact Options.distinct_of_checkOptions hvalue

/-! ### Browsers -/

theorem browserField_name (browser : Browser) :
    browserField (.text browser.name) = .accepted browser := by
  cases browser <;> rfl

theorem browserField_of_not_mem {name : Text} (h : name ∉ Browser.all.map Browser.name) :
    ∃ faults, browserField (.text name) = .rejected faults := by
  have hnone : (Browser.all.map fun browser => (browser.name, browser)).lookup name = none :=
    lookup_of_not_mem h
  rw [browserField, checkOneOf, hnone]
  exact ⟨_, rfl⟩

/-! ### Laying sources over each other -/

namespace Settings

theorem distinct_recordedFields (recorded : OptionSettings) : recorded.fields.Distinct := by
  apply distinct_givenFields
  change List.Nodup settingFields
  decide

theorem distinct_choices (choices : Choices) : choices.fields.Distinct := by
  apply distinct_givenFields
  change List.Nodup ["browserName".toList, "deviceName".toList, "saveStorage".toList]
  decide

theorem lookup_recordedFields (recorded : OptionSettings) (name : Text) :
    recorded.fields.lookup name =
      (List.lookup name
        [("browserName".toList, recorded.browser.map fun browser => .text browser.name),
          ("launchOptions".toList, recorded.launch.map Options.toValue),
          ("contextOptions".toList, recorded.context.map Options.toValue),
          ("deviceName".toList, recorded.device.map nullable),
          ("saveStorage".toList, recorded.storage.map nullable)]).bind id := by
  apply lookup_givenFields
  change List.Nodup settingFields
  decide

theorem lookup_choices (choices : Choices) (name : Text) :
    choices.fields.lookup name =
      (List.lookup name
        [("browserName".toList, choices.browser.map Value.text),
          ("deviceName".toList, choices.device.map Value.text),
          ("saveStorage".toList, choices.storage.map Value.text)]).bind id := by
  apply lookup_givenFields
  change List.Nodup ["browserName".toList, "deviceName".toList, "saveStorage".toList]
  decide

variable (settings : Settings) (recorded : OptionSettings) (choices : Choices)

theorem lookup_mergedFields (name : Text) :
    (settings.mergedFields recorded choices).lookup name =
      (choices.fields.lookup name).or
        ((recorded.fields.lookup name).or (settings.fields.lookup name)) := by
  rw [mergedFields, Options.lookup_update (distinct_choices choices),
    Options.lookup_update (distinct_recordedFields recorded)]

theorem extraFaults_mergedFields :
    Entries.extraFaults settingFields (settings.mergedFields recorded choices).toEntries = [] := by
  have hsettings : settings.fields.map Prod.fst ⊆ settingFields := by
    change ["browserName".toList, "deviceName".toList, "saveStorage".toList] ⊆ settingFields
    decide
  have hrecorded : recorded.fields.map Prod.fst ⊆ settingFields :=
    (keys_givenFields_sublist _).subset
  have hchoices : choices.fields.map Prod.fst ⊆ settingFields := by
    have h : ["browserName".toList, "deviceName".toList, "saveStorage".toList] ⊆ settingFields := by
      decide
    exact fun name hn => h ((keys_givenFields_sublist _).subset hn)
  apply Options.extraFaults_toEntries
  intro name hn
  rcases Options.mem_keys_update hn with hn | hn
  · rcases Options.mem_keys_update hn with hn | hn
    · exact hsettings hn
    · exact hrecorded hn
  · exact hchoices hn

theorem get?_mergedFields (name : Text) :
    Entries.get? (settings.mergedFields recorded choices).toEntries name =
      (choices.fields.lookup name).or
        ((recorded.fields.lookup name).or (settings.fields.lookup name)) := by
  rw [Options.get?_toEntries, lookup_mergedFields]

/-- The name of the browser that all sources together give. -/
def browserName : Text :=
  choices.browser.getD ((recorded.browser.map Browser.name).getD settings.browser)

theorem setting_browserName :
    Entries.setting (settings.mergedFields recorded choices).toEntries "browserName" browserField =
      (some <$> browserField (.text (settings.browserName recorded choices))).under
        (.key "browserName") := by
  apply Entries.setting_of_some
  rw [get?_mergedFields, lookup_choices, lookup_recordedFields, browserName]
  cases choices.browser <;> cases recorded.browser <;> rfl

/-- Only a recording sets options for the launch or the context. -/
theorem map_checkOptions_toValue {recorded : Option Options}
    (h : ∀ options ∈ recorded, Options.Distinct options) :
    ((recorded.map Options.toValue).or none).map checkOptions = recorded.map .accepted := by
  cases recorded with
  | none => rfl
  | some options => exact congrArg some (Options.checkOptions_toValue (h options rfl))

theorem setting_launchOptions (h : ∀ options ∈ recorded.launch, Options.Distinct options) :
    Entries.setting (settings.mergedFields recorded choices).toEntries "launchOptions" optionsField =
      .accepted recorded.launch := by
  rw [Entries.setting_eq_accepted_iff, get?_mergedFields, lookup_choices, lookup_recordedFields]
  exact map_checkOptions_toValue h

theorem setting_contextOptions (h : ∀ options ∈ recorded.context, Options.Distinct options) :
    Entries.setting (settings.mergedFields recorded choices).toEntries "contextOptions"
        optionsField = .accepted recorded.context := by
  rw [Entries.setting_eq_accepted_iff, get?_mergedFields, lookup_choices, lookup_recordedFields]
  exact map_checkOptions_toValue h

theorem nullableField_nullable (text : Option Text) :
    nullableField (nullable text) = .accepted text := by
  cases text <;> rfl

/-- A text that all sources can give is that of the first that gives it. -/
theorem map_nullableField_or (chosen : Option Text) (recorded : Option (Option Text))
    (settled : Option Text) :
    ((chosen.map Value.text).or ((recorded.map nullable).or (some (nullable settled)))).map
        nullableField = some (.accepted (chosen.or (recorded.getD settled))) := by
  cases chosen with
  | some text => rfl
  | none =>
    cases recorded with
    | some text => exact congrArg some (nullableField_nullable text)
    | none => exact congrArg some (nullableField_nullable settled)

theorem setting_deviceName :
    Entries.setting (settings.mergedFields recorded choices).toEntries "deviceName" nullableField =
      .accepted (some (choices.device.or (recorded.device.getD settings.device))) := by
  rw [Entries.setting_eq_accepted_iff, get?_mergedFields, lookup_choices, lookup_recordedFields]
  exact map_nullableField_or choices.device recorded.device settings.device

theorem setting_saveStorage :
    Entries.setting (settings.mergedFields recorded choices).toEntries "saveStorage" nullableField =
      .accepted (some (choices.storage.or (recorded.storage.getD settings.storage))) := by
  rw [Entries.setting_eq_accepted_iff, get?_mergedFields, lookup_choices, lookup_recordedFields]
  exact map_nullableField_or choices.storage recorded.storage settings.storage

variable {recorded}

/-- What is read of all sources together: everything but the browser is taken as it is. -/
theorem merge_eq (hlaunch : ∀ options ∈ recorded.launch, Options.Distinct options)
    (hcontext : ∀ options ∈ recorded.context, Options.Distinct options) :
    settings.merge recorded choices =
      ((browserField (.text (settings.browserName recorded choices))).under (.key "browserName")).map
        fun browser =>
          { browser
            launch := recorded.launch.getD []
            context := recorded.context.getD []
            device := choices.device.or (recorded.device.getD settings.device)
            storage := choices.storage.or (recorded.storage.getD settings.storage) } := by
  change (readSettings (settings.mergedFields recorded choices).toEntries).map
    OptionSettings.resolve = _
  rw [readSettings, Entries.closed, extraFaults_mergedFields, setting_browserName,
    setting_launchOptions settings recorded choices hlaunch,
    setting_contextOptions settings recorded choices hcontext, setting_deviceName,
    setting_saveStorage]
  cases browserField (.text (settings.browserName recorded choices)) <;> rfl

end Settings

/-! ### The environment -/

theorem Browser.map_name_ofName? (name : Text) :
    (ofName? name).map Browser.name = (some name).filter (· ∈ all.map Browser.name) := by
  by_cases h : name ∈ all.map Browser.name
  · obtain ⟨browser, -, rfl⟩ := List.mem_map.mp h
    rw [ofName?_name, Option.map_some, Option.filter_some, if_pos (decide_eq_true h)]
  · have hnone : ofName? name = none := by
      rw [ofName?, List.find?_eq_none]
      intro browser hb he
      exact h (eq_of_beq he ▸ List.mem_map_of_mem hb)
    rw [hnone, Option.map_none, Option.filter_some, if_neg fun hd => h (of_decide_eq_true hd)]

namespace Settings

/-- What the first source that says something says, or else the default. -/
def firstSaid {α : Type} (sources : List (Option α)) (default : α) : α :=
  (sources.findSome? id).getD default

theorem getD_eq_firstSaid {α : Type} (first second third : Option α) (default : α) :
    first.getD (second.getD (third.getD default)) = firstSaid [first, second, third] default := by
  cases first <;> cases second <;> cases third <;> rfl

theorem or_getD_eq_firstSaid {α : Type} (first : Option α) (second : Option (Option α))
    (third : Option α) :
    first.or (second.getD third) = firstSaid [first.map some, second, third.map some] none := by
  cases first <;> cases second <;> cases third <;> rfl

theorem browser_ofEnvironment (environment : Environment) :
    (ofEnvironment environment).browser =
      (((environment.lookup browserVariable).map Text.lower).filter
        (· ∈ Browser.all.map Browser.name)).getD "chromium" := by
  cases hname : environment.lookup browserVariable with
  | none =>
    rw [ofEnvironment, hname]
    rfl
  | some name =>
    rw [ofEnvironment, hname, Option.map_some, ← Browser.map_name_ofName?]
    change ((Browser.ofName? name.lower).getD .chromium).name = _
    cases Browser.ofName? name.lower <;> rfl

theorem given?_eq (environment : Environment) (name : Text) :
    given? environment name = (environment.lookup name).filter (· ≠ []) := by
  unfold given?
  congr
  funext text
  cases text <;> rfl

/-- Only the command line can name a browser that there is not. -/
theorem browserName_mem_iff (environment : Environment) (recorded : OptionSettings)
    (choices : Choices) :
    (ofEnvironment environment).browserName recorded choices ∈ Browser.all.map Browser.name ↔
      ∀ name ∈ choices.browser, name ∈ Browser.all.map Browser.name := by
  have hname : ∀ browser : Browser, browser.name ∈ Browser.all.map Browser.name := by
    intro browser
    cases browser <;> decide
  unfold browserName
  cases choices.browser with
  | some name => simp
  | none =>
    cases recorded.browser with
    | some browser => simpa using hname browser
    | none => simpa [ofEnvironment] using hname _

/-- Each option is what the first of the command line, the recording and the environment says about
it, or else its default, and none has an influence on another. The recording says something exactly
where its data have the field, be it null; an empty variable of the environment says nothing. What
is merged is rejected only if the command line names a browser that there is not. -/
theorem merge_ofEnvironment {data : Option Value} {recorded : OptionSettings}
    (hdata : recordedSettings data = .accepted recorded) (environment : Environment)
    (choices : Choices) :
    ((∃ faults, (ofEnvironment environment).merge recorded choices = .rejected faults) ↔
        ∃ name ∈ choices.browser, name ∉ Browser.all.map Browser.name) ∧
      (∀ options, (ofEnvironment environment).merge recorded choices = .accepted options →
        options.browser.name = firstSaid
          [choices.browser, recorded.browser.map Browser.name,
            ((environment.lookup browserVariable).map Text.lower).filter
              (· ∈ Browser.all.map Browser.name)] "chromium" ∧
        options.device = firstSaid
          [choices.device.map some, recorded.device,
            ((environment.lookup deviceVariable).filter (· ≠ [])).map some] none ∧
        options.storage = firstSaid
          [choices.storage.map some, recorded.storage,
            ((environment.lookup storageVariable).filter (· ≠ [])).map some] none ∧
        options.launch = recorded.launch.getD [] ∧ options.context = recorded.context.getD []) ∧
      (fieldOf? data "browserName").map browserField = recorded.browser.map .accepted ∧
      (fieldOf? data "launchOptions").map checkOptions = recorded.launch.map .accepted ∧
      (fieldOf? data "contextOptions").map checkOptions = recorded.context.map .accepted ∧
      (fieldOf? data "deviceName").map nullableField = recorded.device.map .accepted ∧
      (fieldOf? data "saveStorage").map nullableField = recorded.storage.map .accepted := by
  have hfields := recordedSettings_fields hdata
  have hmerge := merge_eq (ofEnvironment environment) choices (distinct_of_field hfields.2.1)
    (distinct_of_field hfields.2.2.1)
  by_cases hname : (ofEnvironment environment).browserName recorded choices ∈
      Browser.all.map Browser.name
  · obtain ⟨browser, -, hb⟩ := List.mem_map.mp hname
    rw [← hb, browserField_name] at hmerge
    refine ⟨?_, fun options ho => ?_, hfields⟩
    · constructor
      · rintro ⟨faults, hf⟩
        exact absurd (hmerge.symm.trans hf) (by simp [Checked.under, Checked.map])
      · rintro ⟨name, hn, hnot⟩
        exact absurd ((browserName_mem_iff ..).mp hname name hn) hnot
    · obtain rfl := Checked.accepted.inj (hmerge.symm.trans ho)
      refine ⟨?_, ?_, ?_, rfl, rfl⟩
      · rw [← getD_eq_firstSaid, ← browser_ofEnvironment]
        exact hb
      · rw [← or_getD_eq_firstSaid, ← given?_eq]
        rfl
      · rw [← or_getD_eq_firstSaid, ← given?_eq]
        rfl
  · obtain ⟨faults, hf⟩ := browserField_of_not_mem hname
    rw [hf] at hmerge
    refine ⟨iff_of_true ⟨_, hmerge⟩ ?_, fun options ho => ?_, hfields⟩
    · rw [browserName_mem_iff] at hname
      push Not at hname
      exact hname
    · exact absurd (hmerge.symm.trans ho) (by simp [Checked.under, Checked.map])

/-- A device that is recorded as null goes before that of the environment, and an empty name on the
command line before everything. -/
theorem merge_ofEnvironment_null :
    let launch : Options := [("headless", .bool false)]
    let data := record [("launchOptions", launch.toValue), ("deviceName", .null)]
    let environment : Environment := [(browserVariable, "FireFox"), (deviceVariable, "Pixel 5")]
    ∃ recorded options, recordedSettings (some data) = .accepted recorded ∧
      (ofEnvironment environment).merge recorded { storage := some [] } = .accepted options ∧
      options.browser.name = "firefox" ∧ options.device = none ∧ options.storage = some [] ∧
      options.launch = launch := by
  intro launch data environment
  let recorded : OptionSettings := { launch := some launch, device := some none }
  have hdata : recordedSettings (some data) = .accepted recorded := rfl
  obtain ⟨hrejected, haccepted, -⟩ := merge_ofEnvironment hdata environment { storage := some [] }
  cases hmerge : (ofEnvironment environment).merge recorded { storage := some [] } with
  | rejected faults =>
    obtain ⟨name, hn, -⟩ := hrejected.mp ⟨faults, hmerge⟩
    exact absurd hn (by simp)
  | accepted options =>
    obtain ⟨hbrowser, hdevice, hstorage, hlaunch, -⟩ := haccepted options hmerge
    have hfirefox : firstSaid [none, none,
        ((environment.lookup browserVariable).map Text.lower).filter
          (· ∈ Browser.all.map Browser.name)] "chromium" = "firefox" := by
      decide +kernel
    exact ⟨recorded, options, hdata, hmerge, hbrowser.trans hfirefox, hdevice, hstorage, hlaunch⟩

end Settings

end SessionReplay
