import SessionReplay.Program.Basic
import SessionReplay.Proofs.Bracket.Block

/-!
# Brackets of programs

The beginning of a program leaves two braces open, each block leaves them as they are, and the end
closes them. So the brackets of a program belong together, whatever texts were recorded, as long as
the texts that are written without quotes are plain.
-/

namespace SessionReplay

open Brackets

/-! ### Options -/

namespace Value

variable {entries : List (Value × Value)}

/-- Entries that are left out take nothing else with them. -/
theorem entriesAreJson_filter (p : Value × Value → Bool) (h : entriesAreJson entries = true) :
    entriesAreJson (entries.filter p) = true := by
  induction entries with
  | nil => rfl
  | cons entry rest ih =>
    obtain ⟨key, value⟩ := entry
    cases key with
    | text key =>
      obtain ⟨hvalue, hrest⟩ := (Bool.and_eq_true _ _).mp h
      rw [List.filter_cons]
      split
      · exact (Bool.and_eq_true _ _).mpr ⟨hvalue, ih hrest⟩
      · exact ih hrest
    | _ => exact absurd h (by simp [entriesAreJson])

theorem copiedEntries_filter (p : Value × Value → Bool) :
    copiedEntries (entries.filter p) ⊆ copiedEntries entries := by
  induction entries with
  | nil => exact fun _ h => h
  | cons entry rest ih =>
    obtain ⟨key, value⟩ := entry
    rw [List.filter_cons]
    intro part hp
    cases key with
    | text key =>
      split at hp
      · rcases List.mem_append.mp hp with hp | hp
        · exact List.mem_append_left _ hp
        · exact List.mem_append_right _ (ih hp)
      · exact List.mem_append_right _ (ih hp)
    | _ => split at hp <;> exact ih hp

end Value

namespace SessionOptions

def isJson (options : SessionOptions) : Bool :=
  Value.entriesAreJson options.launch.toEntries && Value.entriesAreJson options.context.toEntries

def copied (options : SessionOptions) : List Text :=
  Value.copiedEntries options.launch.toEntries ++ Value.copiedEntries options.context.toEntries

end SessionOptions

namespace Program

theorem closed_expression {option text : Text} {entries : List (Value × Value)}
    (ho : Closed (className option)) (hj : Value.entriesAreJson entries = true)
    (hc : ∀ part ∈ Value.copiedEntries entries, Plain part)
    (h : expression option (.dict entries) = .ok text) : Closed text :=
  closed_literal (.of_plain (by decide)) ho (.dict entries) hj hc (of_mapError_eq_ok h)

theorem closed_launchExpression {settings : Options} {text : Text}
    (hj : Value.entriesAreJson settings.toEntries = true)
    (hc : ∀ part ∈ Value.copiedEntries settings.toEntries, Plain part)
    (h : launchExpression settings = .ok text) : Closed text := by
  unfold launchExpression at h
  split at h
  · obtain rfl := Except.ok.inj h
    exact .nil
  · exact closed_expression (.of_plain (plain_className (by decide))) hj hc h

theorem className_capital (rest : Text) : className ('B' :: rest) = 'B' :: rest := by
  have hnone : classNames.lookup ('B' :: rest) = none := by
    simp [classNames, List.lookup_cons]
  have hupper : Text.upper 'B' = ['B'] := by decide +kernel
  rw [className, hnone, Option.getD_none, Text.capitalize_cons, hupper]
  rfl

theorem closed_className_device (name : Text) :
    Closed (className ("BrowserNewContextOptions(" ++
      ("playwright.Devices[" ++ name.quoted ++ "]") ++ ")")) := by
  have hdevice : Closed ("playwright.Devices[" ++ name.quoted ++ "]") :=
    (closed_quoted name).within (fun _ => rfl) fun _ => rfl
  have hclass : className ("BrowserNewContextOptions(" ++
        ("playwright.Devices[" ++ name.quoted ++ "]") ++ ")") =
      "BrowserNewContextOptions(" ++ ("playwright.Devices[" ++ name.quoted ++ "]") ++ ")" :=
    className_capital _
  rw [hclass]
  exact hdevice.within (fun _ => rfl) fun _ => rfl

theorem closed_contextExpression {entries : List (Value × Value)} {device : Option Text}
    {text : Text} (hj : Value.entriesAreJson entries = true)
    (hc : ∀ part ∈ Value.copiedEntries entries, Plain part)
    (h : contextExpression entries device = .ok text) : Closed text := by
  have hall : ∀ {text : Text},
      (if entries.isEmpty then .ok [] else expression "BrowserNewContextOptions" (.dict entries)) =
        .ok text → Closed text := by
    intro text h
    split at h
    · obtain rfl := Except.ok.inj h
      exact .nil
    · exact closed_expression (.of_plain (plain_className (by decide))) hj hc h
  unfold contextExpression at h
  split at h
  · exact hall h
  · exact hall h
  next name _ =>
    split at h
    · exact absurd h (by simp)
    next preset _ =>
      simp only at h
      split at h
      · obtain rfl := Except.ok.inj h
        exact (closed_quoted name).within (fun _ => rfl) fun _ => rfl
      · refine closed_expression (closed_className_device name) (Value.entriesAreJson_filter _ hj)
          (fun part hp => hc part (Value.copiedEntries_filter _ hp)) h

/-! ### Beginning and end -/

/-- The braces of the class and of its method. -/
def headerBraces : Text := ['{', '{']

/-- Text that is laid out by itself is read as it was before. -/
theorem after_render_add (opened : Text) (offset : Nat) (text : Text) :
    after opened (Lines.render offset (Lines.add [] text)) = after opened text := by
  have hne : Lines.ofText text ≠ [] := by
    rw [Lines.ofText, Ne, List.map_eq_nil_iff]
    exact Text.lines_ne_nil _
  rw [Lines.add, List.nil_append, after_render opened offset hne (Lines.trimmed_ofText text),
    afterLines_ofText]

theorem after_headerText {browser : Browser} {launch context : Text} (hl : Closed launch)
    (hc : Closed context) : after [] (headerText browser launch context) = some headerBraces := by
  have hfirst : afterLines []
      ["using Microsoft.Playwright;", "using System;", "using System.Threading.Tasks;", "",
        "class Program", "\x7b", "public static async Task Main()", "\x7b",
        "using var playwright = await Playwright.CreateAsync();"] = some headerBraces := by
    decide
  have hbrowser : Closed ("await using var browser = await playwright." ++
      Text.capitalize browser.name ++ ".LaunchAsync(" ++ launch ++ ");") := by
    have hname : Plain (Text.capitalize browser.name) := by
      cases browser <;> decide +kernel
    have hfront : Closed ("await using var browser = await playwright." ++
        Text.capitalize browser.name) :=
      (Closed.of_plain (by decide)).append (.of_plain hname)
    have hopening : ∀ opened, scan ⟨.code, opened⟩ ("await using var browser = await playwright." ++
        Text.capitalize browser.name ++ ".LaunchAsync(") = some ⟨.code, '(' :: opened⟩ := by
      intro opened
      rw [scan_append_of_eq (hfront opened)]
      rfl
    exact hl.within hopening fun _ => rfl
  have hnew : Closed ("var context = await browser.NewContextAsync(" ++ context ++ ");") :=
    hc.within (fun _ => rfl) fun _ => rfl
  unfold headerText
  rw [after_unlines]
  refine (afterLines_append_of_eq hfirst _).trans (afterLines_eq_self ?_)
  intro line hm
  rcases List.mem_cons.mp hm with rfl | hm
  · exact after_of_closed hbrowser headerBraces
  · rw [List.mem_singleton.mp hm]
    exact after_of_closed hnew headerBraces

theorem after_header {options : SessionOptions} {text : Text} (hj : options.isJson = true)
    (hc : ∀ part ∈ options.copied, Plain part) (h : header options = .ok text) :
    after [] text = some headerBraces := by
  obtain ⟨launch, hlaunch, h⟩ := exists_of_bind_eq_ok h
  obtain ⟨context, hcontext, h⟩ := exists_of_bind_eq_ok h
  obtain rfl := Except.ok.inj h
  obtain ⟨hjl, hjc⟩ := (Bool.and_eq_true _ _).mp hj
  rw [after_render_add]
  exact after_headerText
    (closed_launchExpression hjl (fun part hp => hc part (List.mem_append_left _ hp)) hlaunch)
    (closed_contextExpression hjc (fun part hp => hc part (List.mem_append_right _ hp)) hcontext)

theorem scan_footer (path : Option Text) :
    scan ⟨.code, headerBraces⟩ (footer path) = some ⟨.code, []⟩ := by
  have hclosing : scan ⟨.code, headerBraces⟩ closingBraces = some ⟨.code, []⟩ := by decide
  unfold footer
  split
  · exact hclosing
  · exact hclosing
  next path _ =>
    have hset : Closed "Path = " := .of_plain (by decide)
    have hstorage : after headerBraces (storageText path) = some headerBraces := by
      have hopening : afterLines headerBraces
          ["await context.StorageStateAsync(new BrowserContextStorageStateOptions", "\x7b"] =
            some ('{' :: '(' :: headerBraces) := by
        decide
      have hpath := after_of_closed (hset.append (closed_quoted path)) ('{' :: '(' :: headerBraces)
      unfold storageText
      rw [after_unlines]
      refine (afterLines_append_of_eq hopening _).trans ?_
      rw [afterLines_cons hpath]
      rfl
    rw [← after_render_add headerBraces 8, after_eq_some_iff] at hstorage
    have hfeed : scan ⟨.code, headerBraces⟩ "\n" = some ⟨.code, headerBraces⟩ := rfl
    rw [List.append_assoc, List.append_assoc, scan_append_of_eq hfeed, ← List.append_assoc]
    exact (scan_append_of_eq hstorage closingBraces).trans hclosing

/-! ### Programs -/

theorem after_blocks {steps : List Step} {texts : List Text}
    (hnames : ∀ step ∈ steps, ∀ name ∈ step.names, Plain name) (h : blocks steps = .ok texts)
    (opened : Text) : ∀ text ∈ texts, after opened text = some opened := by
  induction steps generalizing texts with
  | nil =>
    obtain rfl := Except.ok.inj h
    exact fun _ hm => absurd hm List.not_mem_nil
  | cons step rest ih =>
    obtain ⟨first, hfirst, h⟩ := exists_of_bind_eq_ok h
    obtain ⟨others, hothers, h⟩ := exists_of_bind_eq_ok h
    obtain rfl := Except.ok.inj h
    intro text hm
    rcases List.mem_cons.mp hm with rfl | hm
    · exact after_block (hnames step List.mem_cons_self) hfirst opened
    · exact ih (fun s hs => hnames s (List.mem_cons_of_mem _ hs)) hothers text hm

theorem unlines_concat (first : Text) (rest : List Text) (last : Text) :
    Text.unlines (first :: rest ++ [last]) = Text.unlines (first :: rest) ++ ['\n'] ++ last := by
  induction rest generalizing first with
  | nil => simp [Text.unlines_cons_cons]
  | cons next rest ih =>
    rw [List.cons_append, List.cons_append, Text.unlines_cons_cons, ← List.cons_append, ih,
      Text.unlines_cons_cons]
    simp

/-- The brackets of a program belong together: the scanner never fails, between blocks it is within
code with the two braces of the beginning open, and at the end no bracket is open. -/
theorem scan_generate {options : SessionOptions} {steps : List Step} {program : Text}
    (hjson : options.isJson = true) (hcopied : ∀ part ∈ options.copied, Plain part)
    (hnames : ∀ step ∈ steps, ∀ name ∈ step.names, Plain name)
    (h : generate options steps = .ok program) :
    ∃ beginning middle, header options = .ok beginning ∧ blocks steps = .ok middle ∧
      program = Text.unlines (beginning :: middle ++ [footer options.storage]) ∧
      (∀ n, scan {} (Text.unlines (beginning :: middle.take n) ++ ['\n']) =
        some ⟨.code, headerBraces⟩) ∧
      scan {} program = some ⟨.code, []⟩ := by
  obtain ⟨beginning, hbeginning, h⟩ := exists_of_bind_eq_ok h
  obtain ⟨middle, hmiddle, h⟩ := exists_of_bind_eq_ok h
  obtain rfl := Except.ok.inj h
  have hbetween : ∀ texts ⊆ middle,
      scan {} (Text.unlines (beginning :: texts) ++ ['\n']) = some ⟨.code, headerBraces⟩ := by
    intro texts ht
    rw [← after_eq_some_iff, after_unlines,
      afterLines_cons (after_header hjson hcopied hbeginning)]
    exact afterLines_eq_self fun text hm => after_blocks hnames hmiddle headerBraces text (ht hm)
  refine ⟨beginning, middle, hbeginning, hmiddle, rfl, fun n => hbetween _ (List.take_subset _ _), ?_⟩
  rw [unlines_concat, scan_append_of_eq (hbetween middle fun _ hm => hm)]
  exact scan_footer options.storage

/-- Brackets, quotes and backslashes in recorded texts and in a setting do not matter. -/
theorem scan_generate_brackets :
    ∃ program, generate
        { launch := [("args", .list [.text "])\"\\"])], context := [("colorScheme", .text "dark")] }
        [⟨"page", true, none, none, ⟨[.popup "page1"], .navigate "\x7b(\"//\\", by decide⟩, rfl⟩] =
          .ok program ∧
      scan {} program = some ⟨.code, []⟩ := by
  refine Exists.imp (fun program h => ⟨h, ?_⟩) ⟨_, rfl⟩
  obtain ⟨-, -, -, -, -, -, hscan⟩ := scan_generate (by decide) (by decide) (by decide) h
  exact hscan

end Program
end SessionReplay
