import SessionReplay.Proofs.Program.Form

/-!
# Expressions are unambiguous

The expression for a value, followed by its end, a comma or a space, tells the form of the value and
where it ends, under whatever option it is written. So two values have the same expression only if
they have the same form.
-/

namespace SessionReplay.Program

variable {indent option other text text' rest rest' : Text}

/-! ### Values without parts -/

theorem truth_append_inj {b b' : Bool}
    (h : (if b then "true".toList else "false".toList) ++ rest =
      (if b' then "true".toList else "false".toList) ++ rest') : b = b' ∧ rest = rest' := by
  have hlast : ∀ {rest rest' : Text}, "true".toList ++ rest ≠ "false".toList ++ rest' := by
    intro rest rest' h
    exact absurd (List.cons.inj h).1 (by decide)
  cases b
  · cases b'
    · exact ⟨rfl, List.append_cancel_left h⟩
    · exact absurd h.symm hlast
  · cases b'
    · exact absurd h hlast
    · exact ⟨rfl, List.append_cancel_left h⟩

theorem head?_not_mem {letters : Text} (hl : ∀ c ∈ letters, c ∉ (", " : Text)) (h : IsEnd rest) :
    ∀ c ∈ rest.head?, c ∉ letters :=
  fun c hc hm => hl c hm (h c hc)

theorem isName_enumOptions : ∀ option ∈ enumOptions, IsName option ∧ option ≠ [] := by
  decide

/-- A member ends where its name does. -/
theorem member_append_inj {enumeration enumeration' name name' : Text} (he : IsName enumeration)
    (he' : IsName enumeration') (hn : IsName name) (hn' : IsName name') (hr : IsEnd rest)
    (hr' : IsEnd rest')
    (h : enumeration ++ ".".toList ++ name ++ rest = enumeration' ++ ".".toList ++ name' ++ rest') :
    enumeration = enumeration' ∧ name = name' ∧ rest = rest' := by
  have hpoint : ∀ tail : Text, ∀ c ∈ (".".toList ++ tail).head?, c ∉ nameChars :=
    fun tail => Text.forall_head?_cons (d := '.') (by decide) tail
  have hend : ∀ c ∈ nameChars, c ∉ (", " : Text) := by decide
  simp only [List.append_assoc] at h
  obtain ⟨rfl, htail⟩ := Text.run_append_inj he he' (hpoint _) (hpoint _) h
  obtain ⟨rfl, hrest⟩ := Text.run_append_inj hn hn' (head?_not_mem hend hr) (head?_not_mem hend hr')
    (List.append_cancel_left htail)
  exact ⟨rfl, rfl, hrest⟩

/-- A number ends before its suffix, and the suffix tells whether it is decimal. -/
theorem number_append_inj {amount amount' : Amount} (hw : WritesNumber text amount)
    (hw' : WritesNumber text' amount') (hr : IsEnd rest) (hr' : IsEnd rest')
    (h : text ++ numberSuffix option ++ rest = text' ++ numberSuffix other ++ rest') :
    amount = amount' ∧ decide (option ∈ decimalOptions) = decide (other ∈ decimalOptions) ∧
      rest = rest' := by
  have hsuffix : ∀ (option : Text) {rest : Text}, IsEnd rest →
      ∀ c ∈ (numberSuffix option ++ rest).head?, ¬ c ∉ ("m, " : Text) := by
    intro option rest hr c hc hno
    unfold numberSuffix at hc
    split at hc
    · rw [← Option.some.inj hc] at hno
      exact hno (by decide)
    · exact hno (List.mem_cons_of_mem _ (hr c hc))
  have hmark : ∀ {rest rest' : Text}, IsEnd rest' → "m".toList ++ rest ≠ rest' := by
    rintro rest rest' hr rfl
    exact absurd (hr 'm' rfl) (by decide)
  rw [List.append_assoc, List.append_assoc] at h
  obtain ⟨rfl, htail⟩ :=
    Text.run_append_inj hw.not_mem hw'.not_mem (hsuffix option hr) (hsuffix other hr') h
  have hsame := readNumber?_of_writes hw
  rw [readNumber?_of_writes hw', Option.some_inj] at hsame
  refine ⟨hsame.symm, ?_⟩
  unfold numberSuffix at htail
  split at htail
  next ho =>
    split at htail
    next ho' => exact ⟨by rw [decide_eq_true ho, decide_eq_true ho'], List.append_cancel_left htail⟩
    next ho' => exact absurd htail (hmark hr')
  next ho =>
    split at htail
    next ho' => exact absurd htail.symm (hmark hr)
    next ho' => exact ⟨by rw [decide_eq_false ho, decide_eq_false ho'], htail⟩

theorem WrittenAs.leaf_append_inj {value value' : Value} (hw : WrittenAs indent option value text)
    (hw' : WrittenAs indent other value' text') (hlist : (value.form option).lead ≠ .list)
    (hobject : (value.form option).lead ≠ .object)
    (hlead : (value.form option).lead = (value'.form other).lead)
    (hr : IsEnd rest) (hr' : IsEnd rest') (h : text ++ rest = text' ++ rest') :
    value.form option = value'.form other ∧ rest = rest' := by
  cases hw with
  | null =>
    cases hw' with
    | null => exact ⟨rfl, List.append_cancel_left h⟩
    | _ => exact absurd hlead (by simp [Value.form, Form.lead, *])
  | bool b =>
    cases hw' with
    | bool b' =>
      obtain ⟨rfl, hrest⟩ := truth_append_inj h
      exact ⟨rfl, hrest⟩
    | _ => exact absurd hlead (by simp [Value.form, Form.lead, *])
  | quoted henum =>
    cases hw' with
    | quoted henum' =>
      obtain ⟨rfl, hrest⟩ := Text.quoted_append_inj h
      simp only [Value.form, if_neg henum, if_neg henum']
      exact ⟨trivial, hrest⟩
    | _ => exact absurd hlead (by simp [Value.form, Form.lead, *])
  | member henum hwords =>
    cases hw' with
    | member henum' hwords' =>
      have hname : ∀ option ∈ enumOptions, IsName (className option) := fun option hm =>
        (isCapitalized_className (isName_enumOptions option hm).1 (isName_enumOptions option hm).2).1
      obtain ⟨hclass, hmember, hrest⟩ := member_append_inj (hname _ henum) (hname _ henum')
        (isName_memberName hwords) (isName_memberName hwords') hr hr' h
      simp only [Value.form, if_pos henum, if_pos henum', hclass, hmember]
      exact ⟨trivial, hrest⟩
    | _ => exact absurd hlead (by simp [Value.form, Form.lead, *])
  | number hnumber hform =>
    cases hw' with
    | number hnumber' hform' =>
      obtain ⟨rfl, hdecimal, hrest⟩ := number_append_inj hnumber hnumber' hr hr' h
      rw [hform, hform', hdecimal]
      exact ⟨rfl, hrest⟩
    | _ => exact absurd hlead (by simp [Value.form, Form.lead, *])
  | list _ _ => exact absurd rfl hlist
  | dict _ _ => exact absurd rfl hobject

/-! ### Lists and objects -/

def itemsTail : List Text → Text
  | [] => " \x7d"
  | item :: rest => ", ".toList ++ (item ++ itemsTail rest)

theorem join_append_eq (item : Text) (rest : List Text) :
    Text.join ", " (item :: rest) ++ " \x7d".toList = item ++ itemsTail rest := by
  induction rest generalizing item with
  | nil =>
    rw [Text.join_singleton]
    rfl
  | cons next rest ih => rw [Text.join_cons_cons, List.append_assoc, ih, List.append_assoc, itemsTail]

theorem arrayLiteral_cons (item : Text) (rest : List Text) :
    arrayLiteral (item :: rest) = "new[] \x7b ".toList ++ (item ++ itemsTail rest) := by
  rw [← join_append_eq, ← List.append_assoc]
  rfl

theorem isEnd_itemsTail (texts : List Text) (rest : Text) : IsEnd (itemsTail texts ++ rest) := by
  intro c hc
  cases texts <;> (rw [← Option.some.inj hc]; decide)

/-- The properties of an object from the first one on, and its closing brace. -/
def settingsTail (indent : Text) : List Text → Text
  | [] => "\x7d"
  | setting :: rest => setting ++ '\n' :: (indent ++ settingsTail indent rest)

theorem join_append_settingsTail (indent setting : Text) (rest : List Text) :
    Text.join ('\n' :: indent) (setting :: rest) ++ "\n".toList ++ indent ++ "\x7d".toList =
      settingsTail indent (setting :: rest) := by
  induction rest generalizing setting with
  | nil =>
    rw [Text.join_singleton, List.append_assoc, List.append_assoc]
    rfl
  | cons next rest ih =>
    rw [Text.join_cons_cons, settingsTail, ← ih]
    simp

def objectTail (indent option : Text) : List Text → Text
  | [] => if (className option).getLast? = some ')' then [] else "()"
  | setting :: rest => "\n\x7b\n".toList ++ (indent ++ settingsTail indent (setting :: rest))

theorem objectLiteral_cons (indent setting : Text) (rest : List Text) :
    objectLiteral indent [] (setting :: rest) =
      "\x7b\n".toList ++ (indent ++ settingsTail indent (setting :: rest)) := by
  rw [← join_append_settingsTail]
  simp [objectLiteral]

theorem objectLiteral_eq (indent : Text) {option : Text} (hne : option ≠ []) (settings : List Text) :
    objectLiteral indent option settings =
      "new ".toList ++ (className option ++ objectTail indent option settings) := by
  cases settings with
  | nil =>
    simp only [objectLiteral, emptyObject, objectTail, if_neg hne]
    split
    · rw [List.append_nil]
    · rw [List.append_assoc]
  | cons setting rest =>
    rw [objectTail, ← join_append_settingsTail]
    simp [objectLiteral, hne]

theorem ne_cons_of_isEnd (hr : IsEnd rest) {c : Char} (hc : c ∉ (", " : Text)) (tail : Text) :
    rest ≠ c :: tail := by
  rintro rfl
  exact hc (hr c rfl)

theorem isClassEnd_objectTail (indent option : Text) (settings : List Text) (hr : IsEnd rest) :
    IsClassEnd (objectTail indent option settings ++ rest) := by
  have hend : ∀ c ∈ nameChars, c ∉ (", " : Text) := by decide
  cases settings with
  | nil =>
    rw [objectTail]
    split
    · refine ⟨head?_not_mem hend hr, ?_⟩
      rintro ⟨tail, htail⟩
      exact ne_cons_of_isEnd hr (by decide) _ htail.symm
    · refine ⟨Text.forall_head?_cons (d := '(') (by decide) _, ?_⟩
      · rintro ⟨tail, htail⟩
        exact absurd (List.cons.inj (List.cons.inj htail).2).1 (by decide)
  | cons setting more =>
    refine ⟨Text.forall_head?_cons (d := '\n') (by decide) _, ?_⟩
    · rintro ⟨tail, htail⟩
      exact absurd (List.cons.inj htail).1 (by decide)

theorem objectTail_append_inj {texts texts' : List Text} (hclass : className option = className other)
    (hr : IsEnd rest) (hr' : IsEnd rest')
    (h : objectTail indent option texts ++ rest = objectTail indent other texts' ++ rest') :
    settingsTail indent texts ++ rest = settingsTail indent texts' ++ rest' := by
  have hmixed : ∀ {option setting : Text} {others : List Text} {rest rest' : Text}, IsEnd rest →
      objectTail indent option [] ++ rest ≠ objectTail indent other (setting :: others) ++ rest' := by
    intro option setting others rest rest' hr h
    rw [objectTail] at h
    split at h
    · exact ne_cons_of_isEnd hr (by decide) _ h
    · exact absurd (List.cons.inj h).1 (by decide)
  cases texts with
  | nil =>
    cases texts' with
    | nil =>
      rw [objectTail, objectTail, hclass] at h
      rw [List.append_cancel_left h]
    | cons setting others => exact absurd h (hmixed hr)
  | cons setting others =>
    cases texts' with
    | nil => exact absurd h.symm (hmixed hr')
    | cons setting' others' =>
      simp only [objectTail, List.append_assoc] at h
      exact List.append_cancel_left (List.append_cancel_left h)

theorem plain_append_inj {texts texts' : List Text} (hr : IsEnd rest) (hr' : IsEnd rest')
    (h : objectLiteral indent [] texts ++ rest = objectLiteral indent [] texts' ++ rest') :
    settingsTail indent texts ++ rest = settingsTail indent texts' ++ rest' := by
  have hmixed : ∀ {setting : Text} {others : List Text} {rest rest' : Text}, IsEnd rest →
      rest ≠ objectLiteral indent [] (setting :: others) ++ rest' := by
    intro setting others rest rest' hr h
    rw [objectLiteral_cons] at h
    exact ne_cons_of_isEnd hr (by decide) _ h
  cases texts with
  | nil =>
    cases texts' with
    | nil => exact congrArg ("\x7d".toList ++ ·) h
    | cons setting others => exact absurd h (hmixed hr)
  | cons setting others =>
    cases texts' with
    | nil => exact absurd h.symm (hmixed hr')
    | cons setting' others' =>
      simp only [objectLiteral_cons, List.append_assoc] at h
      exact List.append_cancel_left (List.append_cancel_left h)

/-- An object is told from what follows by its class and its properties. -/
theorem object_append_inj {texts texts' : List Text} (ho : IsHint option) (ho' : IsHint other)
    (hr : IsEnd rest) (hr' : IsEnd rest')
    (h : objectLiteral indent option texts ++ rest = objectLiteral indent other texts' ++ rest') :
    (if option = [] then none else some (className option)) =
        (if other = [] then none else some (className other)) ∧
      settingsTail indent texts ++ rest = settingsTail indent texts' ++ rest' := by
  have hplain : ∀ {texts texts' : List Text} {rest rest' other : Text}, IsEnd rest → other ≠ [] →
      objectLiteral indent [] texts ++ rest ≠ objectLiteral indent other texts' ++ rest' := by
    intro texts texts' rest rest' other hr hne h
    rw [objectLiteral_eq indent hne] at h
    cases texts with
    | nil => exact ne_cons_of_isEnd hr (by decide) _ h
    | cons setting others =>
      rw [objectLiteral_cons] at h
      exact absurd (List.cons.inj h).1 (by decide)
  by_cases hne : option = []
  · subst hne
    by_cases hne' : other = []
    · subst hne'
      exact ⟨rfl, plain_append_inj hr hr' h⟩
    · exact absurd h (hplain hr hne')
  · by_cases hne' : other = []
    · subst hne'
      exact absurd h.symm (hplain hr' hne)
    · rw [objectLiteral_eq indent hne, objectLiteral_eq indent hne'] at h
      simp only [List.append_assoc] at h
      obtain ⟨hclass, htail⟩ := className_append_inj ho ho' hne hne'
        (isClassEnd_objectTail _ _ _ hr) (isClassEnd_objectTail _ _ _ hr')
        (List.append_cancel_left h)
      rw [if_neg hne, if_neg hne', hclass]
      exact ⟨rfl, objectTail_append_inj hclass hr hr' htail⟩

/-! ### Values -/

/-- Whatever has an expression at the front of the same text has the same form. -/
def Determined (indent : Text) (value : Value) : Prop :=
  ∀ ⦃value' : Value⦄ ⦃option other text text' rest rest' : Text⦄,
    WrittenAs indent option value text → WrittenAs indent other value' text' → IsHint option →
    IsHint other → IsEnd rest → IsEnd rest' → text ++ rest = text' ++ rest' →
    value.form option = value'.form other ∧ rest = rest'

theorem exists_item {item : Value} {more : List Value} {texts : List Text}
    (hv : Value.areRegular option (item :: more) = true)
    (ht : itemLiterals indent option (item :: more) = .ok texts) :
    ∃ first others, WrittenAs indent option item first ∧ Value.areRegular option more = true ∧
      itemLiterals indent option more = .ok others ∧ texts = first :: others := by
  obtain ⟨hitem, hmore⟩ := (Bool.and_eq_true _ _).mp hv
  obtain ⟨first, hfirst, ht⟩ := exists_of_bind_eq_ok ht
  obtain ⟨others, hothers, ht⟩ := exists_of_bind_eq_ok ht
  exact ⟨first, others, writtenAs_of_literal hitem hfirst, hmore, hothers, (Except.ok.inj ht).symm⟩

theorem itemsTail_ne (text : Text) (texts : List Text) (rest rest' : Text) :
    itemsTail [] ++ rest ≠ itemsTail (text :: texts) ++ rest' := by
  intro h
  exact absurd (List.cons.inj h).1 (by decide)

theorem itemsTail_append_inj {items items' : List Value} {texts texts' : List Text}
    (hall : ∀ item ∈ items, Determined indent item) (ho : IsHint option) (ho' : IsHint other)
    (hv : Value.areRegular option items = true) (hv' : Value.areRegular other items' = true)
    (ht : itemLiterals indent option items = .ok texts)
    (ht' : itemLiterals indent other items' = .ok texts')
    (h : itemsTail texts ++ rest = itemsTail texts' ++ rest') :
    Value.itemForms option items = Value.itemForms other items' ∧ rest = rest' := by
  induction items generalizing items' texts texts' with
  | nil =>
    obtain rfl := Except.ok.inj ht
    cases items' with
    | nil =>
      obtain rfl := Except.ok.inj ht'
      exact ⟨rfl, List.append_cancel_left h⟩
    | cons item' more' =>
      obtain ⟨first', others', -, -, -, rfl⟩ := exists_item hv' ht'
      exact absurd h (itemsTail_ne _ _ _ _)
  | cons item more ih =>
    obtain ⟨first, others, hfirst, hmore, hothers, rfl⟩ := exists_item hv ht
    cases items' with
    | nil =>
      obtain rfl := Except.ok.inj ht'
      exact absurd h.symm (itemsTail_ne _ _ _ _)
    | cons item' more' =>
      obtain ⟨first', others', hfirst', hmore', hothers', rfl⟩ := exists_item hv' ht'
      simp only [itemsTail, List.append_assoc] at h
      obtain ⟨hform, htail⟩ := hall item List.mem_cons_self hfirst hfirst' ho ho'
        (isEnd_itemsTail _ _) (isEnd_itemsTail _ _) (List.append_cancel_left h)
      obtain ⟨hforms, hrest⟩ := ih (fun i hi => hall i (List.mem_cons_of_mem _ hi)) hmore hmore'
        hothers hothers' htail
      exact ⟨by rw [Value.itemForms, Value.itemForms, hform, hforms], hrest⟩

theorem exists_setting {entry : Value × Value} {more : List (Value × Value)} {texts : List Text}
    (hv : Value.entriesAreRegular (entry :: more) = true)
    (ht : settingLiterals indent (entry :: more) = .ok texts) :
    ∃ key value first others, entry = (.text key, value) ∧ (IsName key ∧ key ≠ []) ∧
      WrittenAs indent key value first ∧ Value.entriesAreRegular more = true ∧
      settingLiterals indent more = .ok others ∧
      texts = (propertyName key ++ (" = ".toList ++ (first ++ ",".toList))) :: others := by
  obtain ⟨key, value⟩ := entry
  cases key with
  | text key =>
    obtain ⟨names, hnames, ht⟩ := exists_of_bind_eq_ok ht
    obtain rfl := Except.ok.inj hnames
    obtain ⟨first, hfirst, ht⟩ := exists_of_bind_eq_ok ht
    obtain ⟨others, hothers, ht⟩ := exists_of_bind_eq_ok ht
    simp only [Value.entriesAreRegular, Bool.and_eq_true, decide_eq_true_eq] at hv
    obtain ⟨⟨hkey, hvalue⟩, hmore⟩ := hv
    refine ⟨key, value, first, others, rfl, hkey, writtenAs_of_literal hvalue hfirst, hmore,
      hothers, ?_⟩
    rw [← Except.ok.inj ht, List.append_assoc, List.append_assoc]
  | _ => exact absurd hv (by simp [Value.entriesAreRegular])

theorem settingsTail_ne {property : Text} (hp : IsCapitalized property) (setting : Text)
    (others : List Text) (rest rest' : Text) :
    settingsTail indent [] ++ rest ≠ settingsTail indent ((property ++ setting) :: others) ++ rest' := by
  obtain ⟨-, c, hc, hhead⟩ := hp
  obtain ⟨tail, rfl⟩ := List.head?_eq_some_iff.mp hhead
  intro h
  obtain rfl : '\x7d' = c := (List.cons.inj h).1
  exact absurd hc (by decide)

theorem setting_append_inj {key key' : Text} {value value' : Value} (hd : Determined indent value)
    (hk : IsName key ∧ key ≠ []) (hk' : IsName key' ∧ key' ≠ [])
    (hw : WrittenAs indent key value text) (hw' : WrittenAs indent key' value' text')
    (h : propertyName key ++ (" = ".toList ++ (text ++ (",".toList ++ rest))) =
      propertyName key' ++ (" = ".toList ++ (text' ++ (",".toList ++ rest')))) :
    propertyName key = propertyName key' ∧ value.form key = value'.form key' ∧ rest = rest' := by
  have hassign : ∀ tail : Text, ∀ c ∈ (" = ".toList ++ tail).head?, c ∉ nameChars :=
    fun tail => Text.forall_head?_cons (d := ' ') (by decide) ("= ".toList ++ tail)
  have hcomma : ∀ tail : Text, IsEnd (",".toList ++ tail) :=
    fun tail => Text.forall_head?_cons (d := ',') (by decide) tail
  obtain ⟨hproperty, hvalue⟩ := Text.run_append_inj (isCapitalized_propertyName hk.1 hk.2).1
    (isCapitalized_propertyName hk'.1 hk'.2).1 (hassign _) (hassign _) h
  obtain ⟨hform, hrest⟩ := hd hw hw' (.inl hk.1) (.inl hk'.1) (hcomma _) (hcomma _)
    (List.append_cancel_left hvalue)
  exact ⟨hproperty, hform, List.append_cancel_left hrest⟩

theorem settingsTail_append_inj {entries entries' : List (Value × Value)} {texts texts' : List Text}
    (hall : ∀ entry ∈ entries, Determined indent entry.2)
    (hv : Value.entriesAreRegular entries = true) (hv' : Value.entriesAreRegular entries' = true)
    (ht : settingLiterals indent entries = .ok texts)
    (ht' : settingLiterals indent entries' = .ok texts')
    (h : settingsTail indent texts ++ rest = settingsTail indent texts' ++ rest') :
    Value.settingForms entries = Value.settingForms entries' ∧ rest = rest' := by
  induction entries generalizing entries' texts texts' with
  | nil =>
    obtain rfl := Except.ok.inj ht
    cases entries' with
    | nil =>
      obtain rfl := Except.ok.inj ht'
      exact ⟨rfl, List.append_cancel_left h⟩
    | cons entry' more' =>
      obtain ⟨key', value', first', others', rfl, hkey', -, -, -, rfl⟩ := exists_setting hv' ht'
      exact absurd h (settingsTail_ne (isCapitalized_propertyName hkey'.1 hkey'.2) _ _ _ _)
  | cons entry more ih =>
    obtain ⟨key, value, first, others, rfl, hkey, hfirst, hmore, hothers, rfl⟩ :=
      exists_setting hv ht
    cases entries' with
    | nil =>
      obtain rfl := Except.ok.inj ht'
      exact absurd h.symm (settingsTail_ne (isCapitalized_propertyName hkey.1 hkey.2) _ _ _ _)
    | cons entry' more' =>
      obtain ⟨key', value', first', others', rfl, hkey', hfirst', hmore', hothers', rfl⟩ :=
        exists_setting hv' ht'
      simp only [settingsTail, List.append_assoc, List.cons_append] at h
      obtain ⟨hproperty, hform, htail⟩ :=
        setting_append_inj (hall _ List.mem_cons_self) hkey hkey' hfirst hfirst' h
      obtain ⟨hforms, hrest⟩ := ih (fun e he => hall e (List.mem_cons_of_mem _ he)) hmore hmore'
        hothers hothers' (List.append_cancel_left (List.cons.inj htail).2)
      refine ⟨?_, hrest⟩
      rw [Value.settingForms, Value.settingForms, hproperty, hform, hforms]

/-! ### Lists and values -/

theorem arrayLiteral_ne (text : Text) (texts : List Text) (rest rest' : Text) :
    arrayLiteral [] ++ rest ≠ arrayLiteral (text :: texts) ++ rest' := by
  intro h
  have hfourth := (List.cons.inj (List.cons.inj (List.cons.inj h).2).2).2
  exact absurd (List.cons.inj hfourth).1 (by decide)

theorem array_append_inj {items items' : List Value} {texts texts' : List Text}
    (hall : ∀ item ∈ items, Determined indent item) (ho : IsHint option) (ho' : IsHint other)
    (hv : Value.areRegular option items = true) (hv' : Value.areRegular other items' = true)
    (ht : itemLiterals indent option items = .ok texts)
    (ht' : itemLiterals indent other items' = .ok texts')
    (h : arrayLiteral texts ++ rest = arrayLiteral texts' ++ rest') :
    Value.itemForms option items = Value.itemForms other items' ∧ rest = rest' := by
  refine itemsTail_append_inj hall ho ho' hv hv' ht ht' ?_
  cases texts with
  | nil =>
    cases texts' with
    | nil => rw [List.append_cancel_left h]
    | cons first' others' => exact absurd h (arrayLiteral_ne _ _ _ _)
  | cons first others =>
    cases texts' with
    | nil => exact absurd h.symm (arrayLiteral_ne _ _ _ _)
    | cons first' others' =>
      simp only [arrayLiteral_cons, List.append_assoc] at h
      simp only [itemsTail, List.append_assoc, List.append_cancel_left h]

theorem determined_of_parts {value : Value}
    (hitems : ∀ items, value = .list items → ∀ item ∈ items, Determined indent item)
    (hentries : ∀ entries, value = .dict entries → ∀ entry ∈ entries, Determined indent entry.2) :
    Determined indent value := by
  intro value' option other text text' rest rest' hw hw' ho ho' hr hr' h
  have hlead : (value.form option).lead = (value'.form other).lead := by
    rw [← hw.leadOf ho hr, h, hw'.leadOf ho' hr']
  have hleaf := fun hlist hobject => hw.leaf_append_inj hw' hlist hobject hlead hr hr' h
  cases hw with
  | @list items texts hv ht =>
    cases hw' with
    | list hv' ht' =>
      obtain ⟨hforms, hrest⟩ := array_append_inj (hitems items rfl) ho ho' hv hv' ht ht' h
      exact ⟨congrArg Form.list hforms, hrest⟩
    | _ => exact absurd hlead (by simp [Value.form, Form.lead, *])
  | @dict entries texts hv ht =>
    cases hw' with
    | dict hv' ht' =>
      obtain ⟨hclass, htail⟩ := object_append_inj ho ho' hr hr' h
      obtain ⟨hforms, hrest⟩ := settingsTail_append_inj (hentries entries rfl) hv hv' ht ht' htail
      exact ⟨by rw [Value.form, Value.form, hclass, hforms], hrest⟩
    | _ => exact absurd hlead (by simp [Value.form, Form.lead, *])
  | _ =>
    exact hleaf (by simp [Value.form, Form.lead, *]) (by simp [Value.form, Form.lead, *])

mutual

theorem determined (indent : Text) : (value : Value) → Determined indent value
  | .list items => determined_of_parts (fun _ h => Value.list.inj h ▸ determinedItems indent items)
      (fun _ h => Value.noConfusion h)
  | .dict entries => determined_of_parts (fun _ h => Value.noConfusion h)
      (fun _ h => Value.dict.inj h ▸ determinedEntries indent entries)
  | .null | .bool _ | .int _ | .float _ | .text _ | .bytes _ | .date _ | .moment _ | .tuple _
  | .set _ | .ordered _ =>
    determined_of_parts (fun _ h => Value.noConfusion h) (fun _ h => Value.noConfusion h)
termination_by structural value => value

theorem determinedItems (indent : Text) :
    (items : List Value) → ∀ item ∈ items, Determined indent item
  | [], _, h => absurd h List.not_mem_nil
  | item :: rest, other, h => (List.mem_cons.mp h).elim (fun he => he ▸ determined indent item)
      (determinedItems indent rest other)
termination_by structural items => items

theorem determinedEntries (indent : Text) :
    (entries : List (Value × Value)) → ∀ entry ∈ entries, Determined indent entry.2
  | [], _, h => absurd h List.not_mem_nil
  | (_, value) :: rest, other, h =>
    (List.mem_cons.mp h).elim (fun he => he ▸ determined indent value)
      (determinedEntries indent rest other)
termination_by structural entries => entries

end

/-- Two values with the same expression have the same form. -/
theorem form_eq_of_literal_eq {value value' : Value} (ho : IsHint option)
    (hv : value.isRegular option = true) (hv' : value'.isRegular option = true)
    (h : literal indent option value = .ok text) (h' : literal indent option value' = .ok text) :
    value.form option = value'.form option := by
  have hend : IsEnd [] := fun c hc => absurd hc (Option.not_mem_none c)
  exact (determined indent value (writtenAs_of_literal hv h) (writtenAs_of_literal hv' h') ho ho hend
    hend rfl).1

/-- An integer and a double of the same value, and members whose words are separated differently. -/
theorem form_eq_of_expression :
    (Value.dict [(.text "zoom", .int 1), (.text "button", .text "x-y")]).form [] =
      (Value.dict [(.text "Zoom", .float (Double.ofRatio false 1 1)),
        (.text "button", .text "x_Y")]).form [] := by
  have h : literal " " [] (.dict [(.text "zoom", .int 1), (.text "button", .text "x-y")]) =
      .ok "\x7b\n Zoom = 1,\n Button = MouseButton.XY,\n \x7d" := by
    decide +kernel
  have h' : literal " " [] (.dict [(.text "Zoom", .float (Double.ofRatio false 1 1)),
      (.text "button", .text "x_Y")]) =
        .ok "\x7b\n Zoom = 1,\n Button = MouseButton.XY,\n \x7d" := by
    decide +kernel
  exact form_eq_of_literal_eq (.inl (by decide)) (by decide +kernel) (by decide +kernel) h h'

end SessionReplay.Program
