import SessionReplay.Proofs.Bracket.Program

/-!
# Which programs cannot be written

For options that are plain data, generating a program fails exactly if there is a fault among these,
and with the first of them: the numbers that have no literal in the settings of the launch, a device
that is not known, the numbers that have no literal in the settings of the context that are written,
and counts of clicks that no double is near. A step that opens a page is never asked for its call.
-/

namespace SessionReplay

/-! ### The first of several faults -/

/-- A computation that fails with the first of some faults, if there is any. -/
def Fails {ε α : Type} (x : Except ε α) (faults : List ε) : Prop :=
  ∀ fault, x = .error fault ↔ faults.head? = some fault

namespace Fails

variable {ε ε' α β : Type} {x : Except ε α} {faults others : List ε}

theorem ok (a : α) : Fails (.ok a : Except ε α) [] := by
  intro fault
  simp

theorem error (fault : ε) (others : List ε) :
    Fails (.error fault : Except ε α) (fault :: others) := by
  intro other
  simp

/-- What comes later matters only where nothing has failed. -/
theorem bind {f : α → Except ε β} (hx : Fails x faults)
    (hf : ∀ a, x = .ok a → Fails (f a) others) : Fails (x >>= f) (faults ++ others) := by
  cases x with
  | error fault =>
    obtain ⟨rest, rfl⟩ := List.head?_eq_some_iff.mp ((hx fault).mp rfl)
    exact .error fault (rest ++ others)
  | ok a =>
    have hnone : faults = [] := by
      cases faults with
      | nil => rfl
      | cons fault rest => exact absurd ((hx fault).mpr rfl) (by simp)
    rw [hnone]
    exact hf a rfl

theorem bind_ok {f : α → β} (hx : Fails x faults) : Fails (x >>= fun a => .ok (f a)) faults := by
  rw [← List.append_nil faults]
  exact hx.bind fun a _ => Fails.ok (f a)

theorem mapError (g : ε → ε') (hx : Fails x faults) : Fails (x.mapError g) (faults.map g) := by
  cases x with
  | error fault =>
    obtain ⟨rest, rfl⟩ := List.head?_eq_some_iff.mp ((hx fault).mp rfl)
    exact .error (g fault) (rest.map g)
  | ok a =>
    cases faults with
    | nil => exact .ok a
    | cons fault rest => exact absurd ((hx fault).mpr rfl) (by simp)

theorem exists_error_iff (hx : Fails x faults) : (∃ fault, x = .error fault) ↔ faults ≠ [] := by
  simp only [hx _]
  cases faults <;> simp

end Fails

/-! ### Numbers without a literal -/

namespace Value

mutual

/-- The values without parts within a value, in order, each with the option that it is set to. -/
def leaves (option : Text) : Value → List (Text × Value)
  | .list items | .tuple items => itemLeaves option items
  | .dict entries | .ordered entries => entryLeaves entries
  | .null => [(option, .null)]
  | .bool b => [(option, .bool b)]
  | .int n => [(option, .int n)]
  | .float x => [(option, .float x)]
  | .text t => [(option, .text t)]
  | .bytes data => [(option, .bytes data)]
  | .date day => [(option, .date day)]
  | .moment time => [(option, .moment time)]
  | .set items => [(option, .set items)]
termination_by structural value => value

def itemLeaves (option : Text) : List Value → List (Text × Value)
  | [] => []
  | item :: rest => leaves option item ++ itemLeaves option rest
termination_by structural items => items

def entryLeaves : List (Value × Value) → List (Text × Value)
  | [] => []
  | (.text key, value) :: rest => leaves key value ++ entryLeaves rest
  | _ :: rest => entryLeaves rest
termination_by structural entries => entries

end

end Value

namespace Program

/-- Why a value without parts has no literal. -/
def leafFault? : Text × Value → Option LiteralFault
  | (option, .float x) =>
    if option ∈ decimalOptions ∧ x.isFinite = false then some (.notFinite option x) else none
  | (_, .int n) => if Double.integerLimit ≤ n.natAbs then some (.tooLarge n) else none
  | _ => none

theorem fails_intLiteral (n : Int) (option : Text) :
    Fails (intLiteral n) ([(option, Value.int n)].filterMap leafFault?) := by
  intro fault
  rw [intLiteral_error_iff]
  by_cases h : Double.integerLimit ≤ n.natAbs
  · have hleaf : leafFault? (option, .int n) = some (.tooLarge n) := by
      rw [leafFault?, if_pos h]
    simp [hleaf, h, eq_comm]
  · have hleaf : leafFault? (option, .int n) = none := by
      rw [leafFault?, if_neg h]
    simp [hleaf, h]

theorem settingLiterals_cons (indent key : Text) (value : Value) (rest : List (Value × Value)) :
    settingLiterals indent ((.text key, value) :: rest) =
      literal indent key value >>= fun expression => settingLiterals indent rest >>= fun others =>
        .ok ((propertyName key ++ " = " ++ expression ++ ",") :: others) := rfl

mutual

/-- A value has no literal if one of the values without parts in it has none. -/
theorem fails_literal (indent option : Text) : (value : Value) → value.isJson = true →
    Fails (literal indent option value) ((value.leaves option).filterMap leafFault?)
  | .null, _ => .ok _
  | .bool b, _ => .ok _
  | .text t, _ => .ok _
  | .int n, _ => (fails_intLiteral n option).bind_ok
  | .float x, _ => by
    simp only [literal, Value.leaves, List.filterMap_cons, List.filterMap_nil, leafFault?,
      Bool.not_eq_true]
    split
    · exact .error _ _
    · exact .ok _
  | .list items, hj => (fails_itemLiterals indent option items hj).bind_ok
  | .dict entries, hj => (fails_settingLiterals indent entries hj).bind_ok
termination_by structural value => value

theorem fails_itemLiterals (indent option : Text) : (items : List Value) →
    Value.areJson items = true →
    Fails (itemLiterals indent option items) ((Value.itemLeaves option items).filterMap leafFault?)
  | [], _ => .ok _
  | item :: rest, hj => by
    obtain ⟨hitem, hrest⟩ := (Bool.and_eq_true _ _).mp hj
    rw [Value.itemLeaves, List.filterMap_append]
    exact (fails_literal indent option item hitem).bind fun _ _ =>
      (fails_itemLiterals indent option rest hrest).bind_ok
termination_by structural items => items

theorem fails_settingLiterals (indent : Text) : (entries : List (Value × Value)) →
    Value.entriesAreJson entries = true →
    Fails (settingLiterals indent entries) ((Value.entryLeaves entries).filterMap leafFault?)
  | [], _ => .ok _
  | (key, value) :: rest, hj => by
    cases key with
    | text key =>
      obtain ⟨hvalue, hrest⟩ := (Bool.and_eq_true _ _).mp hj
      rw [Value.entryLeaves, List.filterMap_append, settingLiterals_cons]
      exact (fails_literal indent key value hvalue).bind fun _ _ =>
        (fails_settingLiterals indent rest hrest).bind_ok
    | _ => exact absurd hj (by simp [Value.entriesAreJson])
termination_by structural entries => entries

end

/-! ### The parts of a program -/

/-- The faults of settings, in the order in which the settings are written. -/
def settingFaults (entries : List (Value × Value)) : List ProgramFault :=
  ((Value.entryLeaves entries).filterMap leafFault?).map .literal

def deviceFaults : Option Text → List ProgramFault
  | none | some [] => []
  | some name => if (Device.find? name).isNone then [.unknownDevice name] else []

/-- The settings of the context that are written: without those that the device has already. -/
def writtenSettings (entries : List (Value × Value)) : Option Text → List (Value × Value)
  | none | some [] => entries
  | some name =>
    match Device.find? name with
    | none => entries
    | some preset => Value.differing preset.settings.toEntries entries

def clickFault? (step : Step) : Option ProgramFault :=
  match step.action.operation with
  | .click clicks =>
    if Double.integerLimit ≤ clicks.count then some (.literal (.tooLarge clicks.count)) else none
  | _ => none

/-- Everything that keeps a program from being written, in the order in which it is found. -/
def faults (options : SessionOptions) (steps : List Step) : List ProgramFault :=
  settingFaults options.launch.toEntries ++
    (deviceFaults options.device ++
      settingFaults (writtenSettings options.context.toEntries options.device)) ++
    steps.filterMap clickFault?

theorem fails_expression (option : Text) {entries : List (Value × Value)}
    (hj : Value.entriesAreJson entries = true) :
    Fails (expression option (.dict entries)) (settingFaults entries) :=
  (fails_literal defaultIndent option (.dict entries) hj).mapError ProgramFault.literal

theorem fails_launchExpression {settings : Options}
    (hj : Value.entriesAreJson settings.toEntries = true) :
    Fails (launchExpression settings) (settingFaults settings.toEntries) := by
  unfold launchExpression
  split
  next hempty =>
    rw [List.isEmpty_iff.mp hempty]
    exact .ok _
  next => exact fails_expression _ hj

theorem fails_contextExpression {entries : List (Value × Value)}
    (hj : Value.entriesAreJson entries = true) (device : Option Text) :
    Fails (contextExpression entries device)
      (deviceFaults device ++ settingFaults (writtenSettings entries device)) := by
  have hall : Fails (if entries.isEmpty then .ok [] else
      expression "BrowserNewContextOptions" (.dict entries)) (settingFaults entries) := by
    split
    next hempty =>
      rw [List.isEmpty_iff.mp hempty]
      exact .ok _
    next => exact fails_expression _ hj
  rcases device with - | - | ⟨c, rest⟩
  · exact hall
  · exact hall
  · simp only [contextExpression, deviceFaults, writtenSettings]
    cases Device.find? (c :: rest) with
    | none => exact .error _ _
    | some preset =>
      simp only [Option.isNone_some, Bool.false_eq_true, if_false, List.nil_append]
      split
      next hempty =>
        rw [List.isEmpty_iff.mp hempty]
        exact .ok _
      next => exact fails_expression _ (Value.entriesAreJson_filter _ hj)

theorem fails_block (step : Step) : Fails (block step) (clickFault? step).toList := by
  intro fault
  by_cases hopens : ∃ url, step.action.operation = .openPage url
  · obtain ⟨url, hurl⟩ := hopens
    simp [block, blockLines, blockStatements, clickFault?, hurl, bind, Except.bind]
  · have hop : ∀ url, step.action.operation ≠ .openPage url := fun url he => hopens ⟨url, he⟩
    rw [block_error_iff hop, call_error_iff hop]
    cases hoperation : step.action.operation with
    | click clicks =>
      by_cases hlarge : Double.integerLimit ≤ clicks.count
      · simp [clickFault?, hoperation, hlarge, eq_comm]
      · simp [clickFault?, hoperation, hlarge]
    | _ => simp [clickFault?, hoperation]

theorem fails_blocks (steps : List Step) : Fails (blocks steps) (steps.filterMap clickFault?) := by
  induction steps with
  | nil => exact .ok _
  | cons step rest ih =>
    have hsplit : (step :: rest).filterMap clickFault? =
        (clickFault? step).toList ++ rest.filterMap clickFault? := by
      rw [List.filterMap_cons]
      cases clickFault? step <;> rfl
    rw [hsplit]
    exact (fails_block step).bind fun _ _ => ih.bind_ok

theorem fails_header {options : SessionOptions} (hj : options.isJson = true) :
    Fails (header options) (settingFaults options.launch.toEntries ++ (deviceFaults options.device ++
      settingFaults (writtenSettings options.context.toEntries options.device))) := by
  obtain ⟨hlaunch, hcontext⟩ := (Bool.and_eq_true _ _).mp hj
  exact (fails_launchExpression hlaunch).bind fun _ _ =>
    (fails_contextExpression hcontext options.device).bind_ok

theorem fails_generate {options : SessionOptions} (hj : options.isJson = true) (steps : List Step) :
    Fails (generate options steps) (faults options steps) :=
  (fails_header hj).bind fun _ _ => (fails_blocks steps).bind_ok

/-! ### Which faults there are -/

/-- A number without a literal: no finite one where it is decimal, or an integer beyond all doubles. -/
def IsBadLeaf (leaf : Text × Value) : Prop :=
  (∃ x, leaf.2 = .float x ∧ leaf.1 ∈ decimalOptions ∧ x.isFinite = false) ∨
    ∃ n, leaf.2 = .int n ∧ Double.integerLimit ≤ n.natAbs

theorem leafFault?_ne_none_iff (leaf : Text × Value) : leafFault? leaf ≠ none ↔ IsBadLeaf leaf := by
  obtain ⟨option, value⟩ := leaf
  cases value with
  | float x => simp [leafFault?, IsBadLeaf]
  | int n =>
    by_cases h : Double.integerLimit ≤ n.natAbs
    · simp [leafFault?, IsBadLeaf, h]
    · simp [leafFault?, IsBadLeaf, h]
  | _ => simp [leafFault?, IsBadLeaf]

theorem filterMap_ne_nil_iff {α β : Type} {f : α → Option β} {items : List α} :
    items.filterMap f ≠ [] ↔ ∃ item ∈ items, f item ≠ none := by
  simp [List.filterMap_eq_nil_iff]

theorem settingFaults_ne_nil_iff (entries : List (Value × Value)) :
    settingFaults entries ≠ [] ↔ ∃ leaf ∈ Value.entryLeaves entries, IsBadLeaf leaf := by
  simp only [settingFaults, Ne, List.map_eq_nil_iff, ← leafFault?_ne_none_iff]
  exact filterMap_ne_nil_iff

theorem deviceFaults_ne_nil_iff (device : Option Text) :
    deviceFaults device ≠ [] ↔
      ∃ name, device = some name ∧ name ≠ [] ∧ Device.find? name = none := by
  rcases device with - | - | ⟨c, rest⟩
  · simp [deviceFaults]
  · simp [deviceFaults]
  · simp [deviceFaults]

theorem clickFaults_ne_nil_iff (steps : List Step) :
    steps.filterMap clickFault? ≠ [] ↔ ∃ step ∈ steps, ∃ clicks,
      step.action.operation = .click clicks ∧ Double.integerLimit ≤ clicks.count := by
  have hstep : ∀ step, clickFault? step ≠ none ↔ ∃ clicks,
      step.action.operation = .click clicks ∧ Double.integerLimit ≤ clicks.count := by
    intro step
    unfold clickFault?
    split
    next clicks he =>
      by_cases h : Double.integerLimit ≤ clicks.count
      · simp [he, h]
      · simp [he, h]
    next hno =>
      constructor
      · exact fun h => absurd rfl h
      · rintro ⟨clicks, he, -⟩
        exact (hno clicks he).elim
  simp only [filterMap_ne_nil_iff, hstep]

theorem openingIsNoCall_not_mem_faults (options : SessionOptions) (steps : List Step) :
    .openingIsNoCall ∉ faults options steps := by
  have hsetting : ∀ entries, .openingIsNoCall ∉ settingFaults entries := by
    simp [settingFaults]
  have hdevice : ∀ device, .openingIsNoCall ∉ deviceFaults device := by
    intro device
    rcases device with - | - | ⟨c, rest⟩ <;> simp [deviceFaults]
  have hclick : .openingIsNoCall ∉ steps.filterMap clickFault? := by
    rw [List.mem_filterMap]
    rintro ⟨step, -, h⟩
    unfold clickFault? at h
    split at h
    · split at h <;> exact absurd h (by simp)
    · exact absurd h (by simp)
  simp only [faults, List.mem_append]
  rintro ((h | h | h) | h)
  · exact hsetting _ h
  · exact hdevice _ h
  · exact hsetting _ h
  · exact hclick h

theorem faults_ne_nil_iff (options : SessionOptions) (steps : List Step) :
    faults options steps ≠ [] ↔
      settingFaults options.launch.toEntries ≠ [] ∨ deviceFaults options.device ≠ [] ∨
        settingFaults (writtenSettings options.context.toEntries options.device) ≠ [] ∨
        steps.filterMap clickFault? ≠ [] := by
  simp only [faults, Ne, List.append_eq_nil_iff]
  grind

/-- A program cannot be written exactly if a setting of the launch has no literal, the device is not
known, a setting of the context has no literal, or a count of clicks has none; the first fault of
these, in this order, is reported. -/
theorem generate_error_iff {options : SessionOptions} (hj : options.isJson = true)
    (steps : List Step) :
    ((∃ fault, generate options steps = .error fault) ↔
        (∃ leaf ∈ Value.entryLeaves options.launch.toEntries, IsBadLeaf leaf) ∨
        (∃ name, options.device = some name ∧ name ≠ [] ∧ Device.find? name = none) ∨
        (∃ leaf ∈ Value.entryLeaves (writtenSettings options.context.toEntries options.device),
          IsBadLeaf leaf) ∨
        ∃ step ∈ steps, ∃ clicks, step.action.operation = .click clicks ∧
          Double.integerLimit ≤ clicks.count) ∧
      (∀ fault, generate options steps = .error fault ↔
        (faults options steps).head? = some fault) ∧
      generate options steps ≠ .error .openingIsNoCall := by
  have hfails := fails_generate hj steps
  refine ⟨?_, hfails, ?_⟩
  · rw [hfails.exists_error_iff, faults_ne_nil_iff, settingFaults_ne_nil_iff,
      deviceFaults_ne_nil_iff, settingFaults_ne_nil_iff, clickFaults_ne_nil_iff]
  · intro h
    exact openingIsNoCall_not_mem_faults options steps (List.mem_of_head? ((hfails _).mp h))

/-- A number that is not finite comes before a device that is not known, and is no fault where it is
not decimal. -/
theorem generate_error_latitude :
    generate
        { launch := [("slowMo", .float .nan), ("latitude", .list [.null, .float (.infinite true)])]
          device := some "Pixel 6" } [] =
      .error (.literal (.notFinite "latitude" (.infinite true))) :=
  ((generate_error_iff (by decide) []).2.1 _).mpr rfl

end Program
end SessionReplay
