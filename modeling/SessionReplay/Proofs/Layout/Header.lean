import SessionReplay.Proofs.Layout.Literal
import SessionReplay.Proofs.Program.Fault
import SessionReplay.Proofs.Program.Name

/-!
# The indentation of the header

The header opens the blocks of the class and of its method, and two statements stand in them, each
with an object for the settings that are given. Everything behind the header is written for the margin
of these statements. They keep to it, and so do the properties in their objects, exactly if no line is
mistaken for the end of a block.
-/

namespace SessionReplay.Program

open Brackets (Plain)
open Text (trim isBlank lines unlines)
open Lines (Lays)

/-! ### The lines of a statement -/

def headerFront : List Text :=
  ["using Microsoft.Playwright;", "using System;", "using System.Threading.Tasks;", "",
    "class Program", "\x7b", "public static async Task Main()", "\x7b",
    "using var playwright = await Playwright.CreateAsync();"]

/-- A call that is handed an expression, or nothing. -/
def handed (front expression : Text) : Text := front ++ expression ++ ");"

def launching (browser : Browser) : Text :=
  "await using var browser = await playwright." ++ Text.capitalize browser.name ++ ".LaunchAsync("

def openingContext : Text := "var context = await browser.NewContextAsync("

theorem headerText_eq (browser : Browser) (launch context : Text) :
    headerText browser launch context =
      unlines (headerFront ++ [handed (launching browser) launch, handed openingContext context]) :=
  rfl

instance (statement line : Text) : Decidable (Begins statement line) :=
  decidable_of_iff
    ((opensBlock line = false ∧ endsCalls line = false) ∧ label? line = some statement ∧
      closesBlock line = false ∧ isComment line = false ∧ isBareHeader line = false)
    ⟨fun h => ⟨⟨h.1.1, h.1.2⟩, h.2.1, h.2.2.1, h.2.2.2.1, h.2.2.2.2⟩,
      fun h => ⟨⟨h.opens, h.calls⟩, h.label, h.closes, h.comment, h.header⟩⟩

/-- The lines of a statement: the one that begins it, and those of its object. -/
def States (opened : Nat) (statement : Text) (set : List (Nat × Text)) (lines : Lines) : Prop :=
  ∃ first others, lines = first :: others ∧ Begins statement first ∧ Lays opened others set opened

theorem States.lays {opened : Nat} {statement : Text} {set : List (Nat × Text)} {lines : Lines}
    (h : States opened statement set lines) :
    Lays opened lines ((opened, statement) :: set) opened := by
  obtain ⟨first, others, rfl, hbegins, hlays⟩ := h
  exact .statement hbegins hlays

theorem trim_handed {front : Text} {c : Char} (hhead : front.head? = some c)
    (hc : isBlank c = false) (expression : Text) :
    trim (handed front expression) = handed front expression := by
  apply trim_append_eq
  · rw [List.head?_append, hhead, Option.some_or]
    exact congrArg some hc
  · decide

theorem states_handed {opened : Nat} {statement front expression : Text} {c : Char}
    (hhead : front.head? = some c) (hc : isBlank c = false) (hfeed : '\n' ∉ handed front expression)
    (hbegins : Begins statement (handed front expression)) :
    States opened statement [] ((lines (handed front expression)).map trim) := by
  rw [Text.lines_of_not_mem hfeed, List.map_singleton, trim_handed hhead hc]
  exact ⟨_, _, rfl, hbegins, .nil⟩

theorem settings_ne_nil {entries : List (Value × Value)} {settings : List Text} (hne : entries ≠ [])
    (h : settingLiterals defaultIndent entries = .ok settings) : settings ≠ [] := by
  obtain ⟨⟨key, value⟩, rest, rfl⟩ := List.exists_cons_of_ne_nil hne
  obtain ⟨names, -, h⟩ := exists_of_bind_eq_ok h
  obtain ⟨first, -, h⟩ := exists_of_bind_eq_ok h
  obtain ⟨others, -, h⟩ := exists_of_bind_eq_ok h
  rw [← Except.ok.inj h]
  exact List.cons_ne_nil _ _

theorem states_handed_object {opened : Nat} {statement front option text : Text} {c : Char}
    {entries : List (Value × Value)} (hhead : front.head? = some c) (hc : isBlank c = false)
    (hfeed : '\n' ∉ front) (ho : NamesClass option)
    (hbegins : Begins statement (front ++ ("new " ++ className option))) (hne : entries ≠ [])
    (hv : Value.entriesAreNamed entries = true) (h : expression option (.dict entries) = .ok text) :
    States opened statement (within opened (Value.dict entries).properties)
      ((lines (handed front text)).map trim) := by
  obtain ⟨settings, hsettings, hobject⟩ := exists_of_bind_eq_ok (of_mapError_eq_ok h)
  obtain rfl := Except.ok.inj hobject
  obtain ⟨inside, hinside⟩ := exists_lines_settingLiterals entries hv opened hsettings
  have hlines : handed front (objectLiteral defaultIndent option settings) =
      unlines ((front ++ ("new " ++ className option)) ::
        (openingBrace :: inside ++ [defaultIndent ++ "\x7d);"])) := by
    have hend := Text.unlines_append_unlines
      ((front ++ ("new " ++ className option)) :: openingBrace :: inside)
      (defaultIndent ++ ['\x7d']) ");" []
    rw [Text.unlines_singleton] at hend
    rw [handed, objectLiteral_eq_unlines ho.ne_nil hinside (settings_ne_nil hne hsettings),
      List.cons_append, Text.append_unlines]
    exact hend
  have hfeeds : ∀ line ∈ (front ++ ("new " ++ className option)) ::
      (openingBrace :: inside ++ [defaultIndent ++ "\x7d);"]), '\n' ∉ line := by
    refine List.forall_mem_cons.mpr ⟨by simp [hfeed, ho.feed], List.forall_mem_append.mpr ⟨?_, ?_⟩⟩
    · exact List.forall_mem_cons.mpr ⟨by decide, hinside.feed⟩
    · exact List.forall_mem_singleton.mpr (by decide)
  have hfirst : trim (front ++ ("new " ++ className option)) =
      front ++ ("new " ++ className option) := by
    apply Text.trim_eq_self
    · intro d hd
      rw [List.head?_append, hhead, Option.some_or] at hd
      exact Option.some.inj hd ▸ hc
    · exact (ho.ends.append front).last
  have hcalm : Calm ('\x7d' :: ");".toList) := ⟨by decide, by decide⟩
  have hclose : Lays (opened + 1) ['\x7d' :: ");".toList] [] opened := .closing hcalm .nil
  have hall := hinside.lays.append hclose
  rw [List.append_nil] at hall
  rw [hlines, Text.lines_unlines (List.cons_ne_nil _ _) hfeeds, List.map_cons, hfirst,
    Value.properties, within_within, List.map_append]
  exact ⟨_, _, rfl, hbegins, .opening hall⟩

/-! ### The two statements -/

theorem begins_launching (browser : Browser) :
    (launching browser).head? = some 'a' ∧ '\n' ∉ launching browser ∧
      Begins "await using var browser" (handed (launching browser) []) ∧
      Begins "await using var browser"
        (launching browser ++ ("new " ++ className "BrowserTypeLaunchOptions")) := by
  cases browser <;> decide

theorem states_launching (browser : Browser) {opened : Nat} {settings : Options} {launch : Text}
    (hv : Value.entriesAreNamed settings.toEntries = true)
    (h : launchExpression settings = .ok launch) :
    States opened "await using var browser"
      (within opened (Value.dict settings.toEntries).properties)
      ((lines (handed (launching browser) launch)).map trim) := by
  obtain ⟨hhead, hfeed, hline, hobject⟩ := begins_launching browser
  have hclass : IsPlainName "BrowserTypeLaunchOptions" := by decide
  unfold launchExpression at h
  split at h
  next hempty =>
    obtain rfl := Except.ok.inj h
    rw [List.isEmpty_iff.mp hempty]
    exact states_handed hhead (by decide) (by simp [handed, hfeed]) hline
  next hsome =>
    have hne : settings.toEntries ≠ [] := by simpa [Options.toEntries] using hsome
    exact states_handed_object hhead (by decide) hfeed (namesClass_of_isPlainName hclass) hobject hne
      hv h

/-- The class of the settings beside a device ends a line with the bracket around the device. -/
theorem namesClass_deviceOption (name : Text) : NamesClass (deviceOption name) := by
  have hdevice : (deviceOption name).getLast? = some ')' := by
    unfold deviceOption
    rw [List.getLast?_append]
    rfl
  have hlast (before : Text) : (before ++ deviceOption name).getLast? = some ')' := by
    rw [List.getLast?_append, hdevice]
    rfl
  refine ⟨?_, ?_, ?_⟩
  · intro he
    rw [he] at hdevice
    exact absurd hdevice (by simp)
  · rw [className_deviceOption]
    unfold deviceOption
    simp [Text.not_mem_quoted]
  · rw [className_deviceOption]
    refine ⟨by simp, ?_, fun before => ?_⟩
    · intro c hc
      rw [hlast] at hc
      exact Option.some.inj hc ▸ by decide
    · rw [← List.append_assoc]
      exact calm_of_getLast? (hlast _) (by decide)

theorem begins_device {name : Text} {preset : Device} (h : Device.find? name = some preset) :
    Begins "var context" (openingContext ++ ("new " ++ className (deviceOption name))) ∧
      Begins "var context" (handed openingContext ("playwright.Devices[" ++ name.quoted ++ "]")) := by
  have hall : ∀ device ∈ Device.catalog,
      Begins "var context" (openingContext ++ ("new " ++ deviceOption device.name)) ∧
        Begins "var context"
          (handed openingContext ("playwright.Devices[" ++ device.name.quoted ++ "]")) := by
    decide
  have hfind : Device.catalog.find? (·.name == name) = some preset := h
  have hname := List.find?_some hfind
  rw [className_deviceOption, ← beq_iff_eq.mp hname]
  exact hall preset (List.mem_of_find?_eq_some hfind)

theorem states_openingContext {opened : Nat} {entries : List (Value × Value)} {device : Option Text}
    {context : Text} (hv : Value.entriesAreNamed entries = true)
    (h : contextExpression entries device = .ok context) :
    States opened "var context" (within opened (Value.dict (writtenSettings entries device)).properties)
      ((lines (handed openingContext context)).map trim) := by
  have hhead : openingContext.head? = some 'v' := rfl
  have hfeed : '\n' ∉ openingContext := by decide
  have hclass : IsPlainName "BrowserNewContextOptions" := by decide
  have hline : Begins "var context" (handed openingContext []) := by decide
  have hobject : Begins "var context"
      (openingContext ++ ("new " ++ className "BrowserNewContextOptions")) := by
    decide
  have hall {context : Text} (h : (if entries.isEmpty then .ok [] else
        expression "BrowserNewContextOptions" (.dict entries)) = .ok context) :
      States opened "var context" (within opened (Value.dict entries).properties)
        ((lines (handed openingContext context)).map trim) := by
    split at h
    next hnil =>
      obtain rfl := Except.ok.inj h
      rw [List.isEmpty_iff.mp hnil]
      exact states_handed hhead (by decide) (by simp [handed, hfeed]) hline
    next hsome =>
      exact states_handed_object hhead (by decide) hfeed (namesClass_of_isPlainName hclass) hobject
        (fun hnil => hsome (List.isEmpty_iff.mpr hnil)) hv h
  rcases device with - | - | ⟨c, rest⟩
  · exact hall h
  · exact hall h
  · simp only [contextExpression] at h
    unfold writtenSettings
    split at h
    next => exact absurd h (by simp)
    next preset hpreset =>
      obtain ⟨hobject, hline⟩ := begins_device hpreset
      simp only [hpreset]
      split at h
      next hnil =>
        obtain rfl := Except.ok.inj h
        rw [List.isEmpty_iff.mp hnil]
        refine states_handed hhead (by decide) ?_ hline
        simp [handed, hfeed, Text.not_mem_quoted]
      next hsome =>
        exact states_handed_object hhead (by decide) hfeed (namesClass_deviceOption _)
          hobject (fun hnil => hsome (List.isEmpty_iff.mpr hnil))
          (Value.entriesAreNamed_filter _ hv) h

/-! ### The header -/

/-- The statements of the header and the properties in their objects, in order, each with the number of
objects around it. -/
def headerLandmarks (options : SessionOptions) : List (Nat × Text) :=
  (0, "await using var browser".toList) :: (Value.dict options.launch.toEntries).properties ++
    (0, "var context".toList) ::
      (Value.dict (writtenSettings options.context.toEntries options.device)).properties

def atMargin (landmark : Nat × Text) : Nat × Text :=
  (bodyOffset + indentWidth * landmark.1, landmark.2)

theorem trim_headerText (browser : Browser) (launch context : Text) :
    trim (headerText browser launch context) = headerText browser launch context := by
  have hne : handed openingContext context ≠ [] := by simp [handed]
  have hlast : (headerText browser launch context).getLast? = some ';' := by
    rw [headerText_eq, List.append_cons, Text.getLast?_unlines hne, handed, List.getLast?_append]
    rfl
  have hhead : (headerText browser launch context).head? = some 'u' := by
    rw [headerText_eq, headerFront, List.cons_append, Text.head?_unlines (by decide)]
    rfl
  exact Text.trim_eq_of_ends hhead hlast (by decide) (by decide)

/-- What a header that is written is rendered from: lines that leave two blocks open, and those of its
two statements within them. -/
theorem exists_of_header_ok {options : SessionOptions} {text : Text}
    (hlaunch : Value.entriesAreNamed options.launch.toEntries = true)
    (hcontext : Value.entriesAreNamed options.context.toEntries = true)
    (h : header options = .ok text) :
    ∃ first others, text = Lines.render 0 (headerFront ++ first :: others) ∧
      Lines.Trimmed (headerFront ++ first :: others) ∧ Begins "await using var browser" first ∧
      Lays 2 (first :: others) (within 2 (headerLandmarks options)) 2 := by
  obtain ⟨launch, hl, h⟩ := exists_of_bind_eq_ok h
  obtain ⟨context, hc, h⟩ := exists_of_bind_eq_ok h
  obtain rfl := Except.ok.inj h
  have hfront : (headerFront.flatMap lines).map trim = headerFront := by decide
  have hlines : Lines.ofText (headerText options.browser launch context) = headerFront ++
      ((lines (handed (launching options.browser) launch)).map trim ++
        (lines (handed openingContext context)).map trim) := by
    rw [Lines.ofText_of_trim_eq (trim_headerText _ _ _), headerText_eq,
      Text.lines_unlines_flatMap (by simp), List.flatMap_append, List.map_append, hfront,
      List.flatMap_cons, List.flatMap_singleton, List.map_append]
  have hbrowser : States 2 _ _ _ := states_launching options.browser hlaunch hl
  have hlays := hbrowser.lays.append (states_openingContext hcontext hc).lays
  obtain ⟨first, others, hfirst, hbegins, -⟩ := hbrowser
  have hset := within_append 2 ((0, "await using var browser".toList) ::
    (Value.dict options.launch.toEntries).properties) ((0, "var context".toList) ::
      (Value.dict (writtenSettings options.context.toEntries options.device)).properties)
  rw [hfirst] at hlines hlays
  rw [Lines.add, List.nil_append, hlines, headerLandmarks, hset]
  exact ⟨first, _, rfl, hlines ▸ Lines.trimmed_ofText _, hbegins, hlays⟩

/-- The statements of the header stand at the margin of the blocks of the class and of its method, and
each property as much deeper as there are objects around it, exactly if no line of the header is
mistaken for the end of a block. The first statement stands there always. -/
theorem header_landmarks_iff (options : SessionOptions) {text : Text}
    (hlaunch : Value.entriesAreNamed options.launch.toEntries = true)
    (hcontext : Value.entriesAreNamed options.context.toEntries = true)
    (h : header options = .ok text) :
    ((lines text).filterMap landmark?).head? = some (atMargin (0, "await using var browser")) ∧
      ((lines text).filterMap landmark? = (headerLandmarks options).map atMargin ↔
        ∀ line ∈ lines text, isMistaken (trim line) = false) := by
  obtain ⟨first, others, rfl, htrimmed, hbegins, hlays⟩ := exists_of_header_ok hlaunch hcontext h
  have hne : headerFront ++ first :: others ≠ [] := by simp
  have hrest : Lines.Trimmed (first :: others) := (List.forall_mem_append.mp htrimmed).2
  have hdepth : (Lines.leave {} headerFront).Exact 2 := ⟨by decide, by decide⟩
  have hnone : (Lines.renderFrom 0 {} headerFront).filterMap landmark? = [] := by decide
  have hright : ∀ line ∈ headerFront, isMistaken line = false := by decide
  have hmargins : (within 2 (headerLandmarks options)).map
      (fun landmark => (0 + indentWidth * landmark.1, landmark.2)) =
        (headerLandmarks options).map atMargin := by
    rw [within, List.map_map]
    refine List.map_congr_left fun landmark _ => ?_
    simp [atMargin, indentWidth, bodyOffset, Nat.mul_add]
  have hlandmarks : (lines (Lines.render 0 (headerFront ++ first :: others))).filterMap landmark? =
      (Lines.renderFrom 0 (Lines.leave {} headerFront) (first :: others)).filterMap landmark? := by
    rw [Lines.lines_render 0 hne htrimmed, Lines.renderFrom_append, List.filterMap_append, hnone,
      List.nil_append]
  constructor
  · have hmargin := hdepth.landmark?_statement hbegins (hrest first List.mem_cons_self).2 0
    rw [hlandmarks, Lines.renderFrom, if_neg hbegins.ne_nil, List.filterMap_cons_some hmargin]
    rfl
  · rw [hlandmarks, ← hmargins, ← hlays.filterMap_landmark?_iff 0 hrest hdepth,
      ← List.forall_mem_map (f := trim) (P := fun line => isMistaken line = false),
      Lines.map_trim_lines_render 0 hne htrimmed, List.forall_mem_append]
    exact ⟨fun hall => ⟨hright, hall⟩, And.right⟩

/-- A text that closes no more braces than it opens moves nothing. -/
theorem header_landmarks_device :
    ∃ text, header ⟨.firefox, [("headless", .bool false)],
          [("geolocation", .dict [(.text "latitude", .int 1)]), ("locale", .text "\x7b\x7d);")],
          some "iPhone 11", none⟩ = .ok text ∧
      (lines text).filterMap landmark? =
        [(8, "await using var browser".toList), (12, "Headless".toList), (8, "var context".toList),
          (12, "Geolocation".toList), (16, "Latitude".toList), (12, "Locale".toList)] := by
  refine ⟨_, rfl, ?_⟩
  exact ((header_landmarks_iff ⟨.firefox, [("headless", .bool false)],
    [("geolocation", .dict [(.text "latitude", .int 1)]), ("locale", .text "\x7b\x7d);")],
    some "iPhone 11", none⟩ (by decide) (by decide) rfl).2.mpr (by decide +kernel)).trans
      (by decide)

/-- The end of a call in an argument of the browser takes the context out of the method. -/
theorem not_forall_header_landmarks :
    ¬ ∀ (options : SessionOptions) (text : Text),
      Value.entriesAreNamed options.launch.toEntries = true →
      Value.entriesAreNamed options.context.toEntries = true → header options = .ok text →
      (lines text).filterMap landmark? = (headerLandmarks options).map atMargin := by
  intro h
  have hargument := h ⟨.chromium, [("args", .list [.text "\x7d);"])], [], none, none⟩ _ (by decide)
    (by decide) rfl
  exact absurd hargument (by decide +kernel)

end SessionReplay.Program
