import SessionReplay.Proofs.Bracket.Program
import SessionReplay.Proofs.Text.Delimited

/-!
# Names in expressions

Where keys are identifiers, the classes, properties and members named after them are runs of letters,
digits and underscores, and classes do not begin with a small letter. A device is the one class that
brings arguments along.
-/

namespace SessionReplay.Program

/-- The characters of names that are no small letters. -/
def capitalChars : Text := "ABCDEFGHIJKLMNOPQRSTUVWXYZ0123456789_"

def nameChars : Text := capitalChars ++ "abcdefghijklmnopqrstuvwxyz"

def IsName (text : Text) : Prop := ∀ c ∈ text, c ∈ nameChars

instance (text : Text) : Decidable (IsName text) := Text.decidableForallMem _ text

def BeginsIn (chars text : Text) : Prop := ∃ c ∈ chars, text.head? = some c

-- Not left to the search for instances, which may find one that goes through all characters.
instance (chars text : Text) : Decidable (BeginsIn chars text) := List.decidableBEx _ _

def IsCapitalized (text : Text) : Prop := IsName text ∧ BeginsIn capitalChars text

instance (text : Text) : Decidable (IsCapitalized text) :=
  inferInstanceAs (Decidable (_ ∧ _))

theorem upper_name : ∀ c ∈ nameChars, IsCapitalized (Text.upper c) := by
  decide +kernel

theorem isName_capitalize {text : Text} (h : IsName text) : IsName (Text.capitalize text) :=
  Text.forall_mem_capitalize (fun hc => (upper_name _ hc).1) h

theorem isCapitalized_capitalize {text : Text} (h : IsName text) (hne : text ≠ []) :
    IsCapitalized (Text.capitalize text) := by
  refine ⟨isName_capitalize h, ?_⟩
  obtain ⟨c, rest, rfl⟩ := List.exists_cons_of_ne_nil hne
  obtain ⟨d, hd, hupper⟩ := (upper_name c (h c List.mem_cons_self)).2
  exact ⟨d, hd, by rw [Text.capitalize_cons, List.head?_append, hupper]; rfl⟩

theorem isCapitalized_of_lookup {names : List (Text × Text)}
    (hall : ∀ entry ∈ names, IsCapitalized entry.2) {name : Text} (h : IsName name)
    (hne : name ≠ []) : IsCapitalized ((names.lookup name).getD (Text.capitalize name)) := by
  cases hl : names.lookup name with
  | none => exact isCapitalized_capitalize h hne
  | some found =>
    obtain ⟨before, behind, hentry, -⟩ := List.lookup_eq_some_iff.mp hl
    exact hall (name, found) (by simp [hentry])

theorem isCapitalized_className {option : Text} (h : IsName option) (hne : option ≠ []) :
    IsCapitalized (className option) :=
  isCapitalized_of_lookup (by decide +kernel) h hne

theorem isCapitalized_propertyName {option : Text} (h : IsName option) (hne : option ≠ []) :
    IsCapitalized (propertyName option) :=
  isCapitalized_of_lookup (by decide +kernel) h hne

def IsMemberWords (text : Text) : Prop := ∀ c ∈ text, c ∈ nameChars ++ "- ".toList

instance (text : Text) : Decidable (IsMemberWords text) := Text.decidableForallMem _ text

theorem isName_memberName {text : Text} (h : IsMemberWords text) : IsName (memberName text) := by
  have hbreak : ∀ c ∈ ("- " : Text), isWordBreak c = true := by decide
  intro c hc
  obtain ⟨word, hw, hc⟩ := List.mem_flatMap.mp hc
  have hword : IsName word := by
    intro d hd
    obtain ⟨hmem, hno⟩ := Text.of_mem_splitOnP (List.mem_filter.mp hw).1 d hd
    refine (List.mem_append.mp (h d hmem)).resolve_right fun hspace => ?_
    rw [hbreak d hspace] at hno
    exact absurd hno (by decide)
  exact isName_capitalize hword c hc

/-! ### Options that name classes -/

/-- The option that the settings of a context are written under when it emulates a device. -/
def deviceOption (name : Text) : Text :=
  "BrowserNewContextOptions(" ++ ("playwright.Devices[" ++ name.quoted ++ "]") ++ ")"

def deviceArguments (name : Text) : Text := "(playwright.Devices[" ++ (name.quoted ++ "])")

theorem deviceOption_eq (name : Text) :
    deviceOption name = "BrowserNewContextOptions".toList ++ deviceArguments name := by
  have hfront : "BrowserNewContextOptions(".toList =
      "BrowserNewContextOptions".toList ++ ['('] := by decide
  have hdevice : "(playwright.Devices[".toList = ['('] ++ "playwright.Devices[".toList := by decide
  have hback : "])".toList = "]".toList ++ ")".toList := by decide
  unfold deviceOption deviceArguments
  rw [hfront, hdevice, hback]
  simp only [List.append_assoc]

/-- The name of a device is told from what follows. -/
theorem deviceArguments_append_inj {name other rest rest' : Text}
    (h : deviceArguments name ++ rest = deviceArguments other ++ rest') :
    name = other ∧ rest = rest' := by
  unfold deviceArguments at h
  simp only [List.append_assoc] at h
  obtain ⟨rfl, hrest⟩ := Text.quoted_append_inj (List.append_cancel_left h)
  exact ⟨rfl, List.append_cancel_left hrest⟩

/-- An option that an expression is written under: none, a name, or a context with a device. -/
def IsHint (option : Text) : Prop := IsName option ∨ ∃ name, option = deviceOption name

theorem className_deviceOption (name : Text) : className (deviceOption name) = deviceOption name :=
  className_capital _

/-- A class is a name, and the one with a device has arguments behind it. -/
theorem exists_className {option : Text} (h : IsHint option) (hne : option ≠ []) :
    ∃ base arguments, className option = base ++ arguments ∧ IsCapitalized base ∧
      (arguments = [] ∨ ∃ name, arguments = deviceArguments name) := by
  rcases h with h | ⟨name, rfl⟩
  · exact ⟨className option, [], (List.append_nil _).symm, isCapitalized_className h hne, .inl rfl⟩
  · exact ⟨"BrowserNewContextOptions", deviceArguments name,
      (className_deviceOption name).trans (deviceOption_eq name), by decide +kernel, .inr ⟨name, rfl⟩⟩

/-- What can stand behind a class: neither more of a name nor the arguments of a device. -/
def IsClassEnd (rest : Text) : Prop :=
  (∀ c ∈ rest.head?, c ∉ nameChars) ∧ ¬ "(p".toList <+: rest

theorem prefix_deviceArguments (name rest : Text) :
    "(p".toList <+: deviceArguments name ++ rest := by
  have hword : "(p".toList <+: "(playwright.Devices[".toList := by decide
  exact hword.trans ((List.prefix_append _ _).trans (List.prefix_append _ _))

theorem className_append_inj {option other : Text} (ho : IsHint option) (ho' : IsHint other)
    (hne : option ≠ []) (hne' : other ≠ []) {rest rest' : Text} (hr : IsClassEnd rest)
    (hr' : IsClassEnd rest') (h : className option ++ rest = className other ++ rest') :
    className option = className other ∧ rest = rest' := by
  obtain ⟨base, arguments, hclass, hbase, hargs⟩ := exists_className ho hne
  obtain ⟨base', arguments', hclass', hbase', hargs'⟩ := exists_className ho' hne'
  have hhead : ∀ {arguments rest : Text}, IsClassEnd rest →
      (arguments = [] ∨ ∃ name, arguments = deviceArguments name) →
      ∀ c ∈ (arguments ++ rest).head?, c ∉ nameChars := by
    rintro arguments rest hend (rfl | ⟨name, rfl⟩)
    · exact hend.1
    · exact Text.forall_head?_cons (d := '(') (by decide) _
  rw [hclass, hclass', List.append_assoc, List.append_assoc] at h
  obtain ⟨rfl, htail⟩ := Text.run_append_inj hbase.1 hbase'.1 (hhead hr hargs) (hhead hr' hargs') h
  rw [hclass, hclass']
  rcases hargs with rfl | ⟨name, rfl⟩
  · rcases hargs' with rfl | ⟨name, rfl⟩
    · exact ⟨rfl, htail⟩
    · rw [List.nil_append] at htail
      rw [htail] at hr
      exact absurd (prefix_deviceArguments name rest') hr.2
  · rcases hargs' with rfl | ⟨name', rfl⟩
    · rw [List.nil_append] at htail
      rw [← htail] at hr'
      exact absurd (prefix_deviceArguments name rest) hr'.2
    · obtain ⟨rfl, hrest⟩ := deviceArguments_append_inj htail
      exact ⟨rfl, hrest⟩

end SessionReplay.Program
