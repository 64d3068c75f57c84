import SessionReplay.Proofs.Bracket.Literal
import SessionReplay.Proofs.Layout.Setting
import SessionReplay.Proofs.Program.Block

/-!
# The lines of expressions

The expression for a value is one line, or it is broken at the objects in it: what stands before the
first of them, lines for their properties, and what stands behind the last closing brace. Two such
texts behind each other are one, so the lines of a value are told by going through it, and so are the
properties with the objects around them.
-/

namespace SessionReplay

open Brackets (Plain)
open Text (IsWord trim isBlank unlines)

/-! ### Names -/

namespace Program

theorem isPlainName_capitalize {name : Text} (h : IsPlainName name) :
    IsPlainName (Text.capitalize name) := by
  obtain ⟨c, rest, rfl, -, hc⟩ := h.exists_cons
  exact ⟨Text.plain_capitalize h.plain,
    (Text.isWord_upper hc).append fun d hd => h.word d (List.mem_cons_of_mem _ hd),
    List.append_ne_nil_of_left_ne_nil (Text.upper_ne_nil c) rest⟩

theorem isPlainName_of_lookup {names : List (Text × Text)}
    (hall : ∀ entry ∈ names, IsPlainName entry.2) {name : Text} (h : IsPlainName name) :
    IsPlainName ((names.lookup name).getD (Text.capitalize name)) := by
  cases hl : names.lookup name with
  | none => exact isPlainName_capitalize h
  | some found =>
    obtain ⟨before, behind, hentry, -⟩ := List.lookup_eq_some_iff.mp hl
    exact hall (name, found) (by simp [hentry])

theorem isPlainName_className {option : Text} (h : IsPlainName option) :
    IsPlainName (className option) :=
  isPlainName_of_lookup (by decide) h

theorem isPlainName_propertyName {option : Text} (h : IsPlainName option) :
    IsPlainName (propertyName option) :=
  isPlainName_of_lookup (by decide) h

/-! ### Texts that are broken into lines -/

structure EndsLine (text : Text) : Prop where
  ne_nil : text ≠ []
  last : ∀ c ∈ text.getLast?, isBlank c = false
  calm : ∀ before : Text, Calm (before ++ text)

theorem EndsLine.append {text : Text} (h : EndsLine text) (before : Text) :
    EndsLine (before ++ text) where
  ne_nil := List.append_ne_nil_of_right_ne_nil before h.ne_nil
  last c hc := by
    rw [List.getLast?_append, List.getLast?_eq_some_getLast h.ne_nil, Option.some_or] at hc
    exact h.last c (by rw [List.getLast?_eq_some_getLast h.ne_nil]; exact hc)
  calm more := by
    rw [← List.append_assoc]
    exact h.calm (more ++ before)

/-- A text that sets properties in the blocks around them: it is on one line, or it begins with the end
of a line, goes on with lines that leave one more block open, and ends with what closes that. -/
inductive Spans (opened : Nat) : List (Nat × Text) → Text → Prop
  | line {text : Text} : '\n' ∉ text → Spans opened [] text
  | lines {front back : Text} {inside : List Text} {set : List (Nat × Text)} : '\n' ∉ front →
      EndsLine front → '\n' ∉ back → (∀ line ∈ inside, '\n' ∉ line) →
      Lines.Lays opened (inside.map trim) set (opened + 1) →
      Spans opened set (unlines (front :: inside ++ [defaultIndent ++ '\x7d' :: back]))

theorem trim_defaultIndent_append (text : Text) : trim (defaultIndent ++ text) = trim text :=
  Text.trim_replicate_append 4 text

theorem feed_not_mem_defaultIndent_append {text : Text} (h : '\n' ∉ text) :
    '\n' ∉ defaultIndent ++ text := by
  rw [List.mem_append, not_or]
  exact ⟨by decide, h⟩

theorem trim_closing_append {back front : Text} (h : EndsLine front) :
    trim (defaultIndent ++ '\x7d' :: back ++ front) = '\x7d' :: (back ++ front) := by
  rw [List.append_assoc, trim_defaultIndent_append]
  apply Text.trim_eq_self
  · rintro c ⟨⟩
    decide
  · exact (h.append ('\x7d' :: back)).last

namespace Spans

variable {opened : Nat} {set more : List (Nat × Text)} {a b : Text}

theorem append (ha : Spans opened set a) (hb : Spans opened more b) :
    Spans opened (set ++ more) (a ++ b) := by
  cases ha with
  | line ha =>
    cases hb with
    | line hb => exact .line (by rw [List.mem_append, not_or]; exact ⟨ha, hb⟩)
    | lines hfront hends hback hinside hlays =>
      rw [List.cons_append, Text.append_unlines]
      refine .lines ?_ (hends.append a) hback hinside hlays
      rw [List.mem_append, not_or]
      exact ⟨ha, hfront⟩
  | @lines front back inside set hfront hends hback hinside hlays =>
    cases hb with
    | line hb =>
      have hbegin := Text.unlines_append_unlines (front :: inside)
        (defaultIndent ++ '\x7d' :: back) b []
      rw [Text.unlines_singleton] at hbegin
      have hend : '\n' ∉ back ++ b := by
        rw [List.mem_append, not_or]
        exact ⟨hback, hb⟩
      rw [hbegin, List.append_assoc, List.append_nil]
      exact .lines hfront hends hend hinside hlays
    | @lines front' back' inside' more hfront' hends' hback' hinside' hlays' =>
      have hfeed : '\n' ∉ '\x7d' :: (back ++ front') := by
        simp [hback, hfront']
      have hmiddle : defaultIndent ++ '\x7d' :: back ++ front' =
          defaultIndent ++ '\x7d' :: (back ++ front') := by
        simp
      have hall : (front :: inside) ++ (defaultIndent ++ '\x7d' :: back ++ front') ::
            (inside' ++ [defaultIndent ++ '\x7d' :: back']) =
          front :: (inside ++ (defaultIndent ++ '\x7d' :: (back ++ front')) :: inside') ++
            [defaultIndent ++ '\x7d' :: back'] := by
        simp
      have hsecond : front' :: inside' ++ [defaultIndent ++ '\x7d' :: back'] =
          front' :: (inside' ++ [defaultIndent ++ '\x7d' :: back']) := rfl
      rw [hsecond, Text.unlines_append_unlines, hall]
      refine .lines hfront hends hback' ?_ ?_
      · intro line hl
        rcases List.mem_append.mp hl with hl | hl
        · exact hinside line hl
        · rcases List.mem_cons.mp hl with rfl | hl
          · exact feed_not_mem_defaultIndent_append hfeed
          · exact hinside' line hl
      · -- the object before is closed on the line that opens the one behind it
        rw [List.map_append, List.map_cons, ← hmiddle, trim_closing_append hends']
        exact hlays.append (.closing (hends'.calm ('\x7d' :: back)) hlays')

end Spans

/-! ### The lines of an object -/

theorem calm_of_getLast? {line : Text} {c : Char} (h : line.getLast? = some c)
    (hc : c ∉ ("\x7b[(;" : Text)) : Calm line where
  opens := opensBlock_eq_false h fun hm => hc (List.mem_append_left ";".toList hm)
  calls := by
    rw [Bool.eq_false_iff]
    intro hcalls
    obtain ⟨before, rfl⟩ := List.isSuffixOf_iff_suffix.mp hcalls
    rw [List.getLast?_append] at h
    exact hc (Option.some.inj h ▸ by decide)

theorem calm_append_comma (line : Text) : Calm (line ++ ",") := by
  have hlast : (line ++ ",").getLast? = some ',' := by
    rw [List.getLast?_append]
    rfl
  exact calm_of_getLast? hlast (by decide)

theorem trim_append_comma {line : Text} {c : Char} (h : line.head? = some c)
    (hc : isBlank c = false) : trim (line ++ ",") = line ++ "," := by
  apply trim_append_eq
  · rw [h]
    exact congrArg some hc
  · decide

def within (opened : Nat) (set : List (Nat × Text)) : List (Nat × Text) :=
  set.map fun setting => (opened + setting.1, setting.2)

theorem within_append (opened : Nat) (first second : List (Nat × Text)) :
    within opened (first ++ second) = within opened first ++ within opened second :=
  List.map_append

structure SettingLines (opened : Nat) (set : List (Nat × Text)) (settings lines : List Text) :
    Prop where
  nil_iff : lines = [] ↔ settings = []
  join : settings ≠ [] →
    defaultIndent ++ Text.join ('\n' :: defaultIndent) settings = unlines lines
  feed : ∀ line ∈ lines, '\n' ∉ line
  lays : Lines.Lays opened (lines.map trim) set opened

theorem exists_settingLines {opened : Nat} {set : List (Nat × Text)} {name expression : Text}
    (hpos : 0 < opened) (hname : IsPlainName name) (h : Spans opened set expression) :
    ∃ lines,
      SettingLines opened ((opened, name) :: set) [name ++ " = " ++ expression ++ ","] lines := by
  obtain ⟨c, rest, hcons, -, hblank⟩ := hname.exists_cons
  have hhead (back : Text) : (settingLine name back).head? = some c := by
    rw [settingLine, hcons]
    rfl
  have hfeed {back : Text} (hb : '\n' ∉ back) : '\n' ∉ settingLine name back := by
    simp [settingLine, hname.plain.feed_not_mem, hb]
  cases h with
  | line hline =>
    refine ⟨[defaultIndent ++ (settingLine name expression ++ ",")], by simp, ?_, ?_, ?_⟩
    · intro
      rw [Text.join_singleton, Text.unlines_singleton]
      rfl
    · intro line hl
      rw [List.mem_singleton.mp hl]
      apply feed_not_mem_defaultIndent_append
      rw [List.mem_append, not_or]
      exact ⟨hfeed hline, by decide⟩
    · have hset : settingLine name expression ++ "," = settingLine name (expression ++ ",") := by
        simp [settingLine]
      rw [List.map_singleton, trim_defaultIndent_append, trim_append_comma (hhead _) hblank, hset]
      exact .setting hpos hname (hset ▸ calm_append_comma _) .nil
  | @lines front back inside set hfront hends hback hinside hlays =>
    refine ⟨(defaultIndent ++ settingLine name front) ::
      (inside ++ [defaultIndent ++ '\x7d' :: (back ++ ",")]), by simp, ?_, ?_, ?_⟩
    · intro
      have hend := Text.unlines_append_unlines (front :: inside)
        (defaultIndent ++ '\x7d' :: back) "," []
      rw [Text.unlines_singleton] at hend
      rw [Text.join_singleton, List.append_assoc, hend, List.cons_append, ← List.append_assoc,
        Text.append_unlines]
      simp [settingLine]
    · refine List.forall_mem_cons.mpr ⟨feed_not_mem_defaultIndent_append (hfeed hfront), ?_⟩
      refine List.forall_mem_append.mpr ⟨hinside, List.forall_mem_singleton.mpr ?_⟩
      apply feed_not_mem_defaultIndent_append
      simp [hback]
    · have hclose : '\x7d' :: (back ++ ",") = ('\x7d' :: back) ++ ",".toList := rfl
      have hsetting : EndsLine (settingLine name front) := hends.append _
      have htrim : trim (settingLine name front) = settingLine name front := by
        apply Text.trim_eq_self
        · intro d hd
          rw [hhead] at hd
          exact Option.some.inj hd ▸ hblank
        · exact hsetting.last
      rw [List.map_cons, List.map_append, List.map_singleton, trim_defaultIndent_append,
        trim_defaultIndent_append, htrim, hclose, trim_append_comma rfl (by decide)]
      refine .setting hpos hname (hsetting.calm []) ?_
      have hall := hlays.append (.closing (calm_append_comma ('\x7d' :: back)) .nil)
      rw [List.append_nil] at hall
      exact hall

theorem SettingLines.nil {opened : Nat} : SettingLines opened [] [] [] :=
  ⟨by simp, fun h => absurd rfl h, by simp, .nil⟩

theorem SettingLines.append {opened : Nat} {set more : List (Nat × Text)} {setting : Text}
    {settings lines others : List Text} (h : SettingLines opened set [setting] lines)
    (ho : SettingLines opened more settings others) :
    SettingLines opened (set ++ more) (setting :: settings) (lines ++ others) where
  nil_iff := by simp [h.nil_iff]
  join _ := by
    have hfirst := h.join (List.cons_ne_nil _ _)
    rw [Text.join_singleton] at hfirst
    cases settings with
    | nil =>
      rw [ho.nil_iff.mpr rfl, List.append_nil, Text.join_singleton, hfirst]
    | cons next rest =>
      have hlines : lines ≠ [] := fun he => absurd (h.nil_iff.mp he) (List.cons_ne_nil _ _)
      have hothers : others ≠ [] := fun he => absurd (ho.nil_iff.mp he) (List.cons_ne_nil _ _)
      rw [Text.join_cons_cons, List.append_assoc, ← List.append_assoc, hfirst, List.cons_append,
        ho.join (List.cons_ne_nil _ _), Text.unlines_append hlines hothers]
  feed := List.forall_mem_append.mpr ⟨h.feed, ho.feed⟩
  lays := by
    rw [List.map_append]
    exact h.lays.append ho.lays

/-- An option that an object can be written for: its class ends the line before the object. -/
structure NamesClass (option : Text) : Prop where
  ne_nil : option ≠ []
  feed : '\n' ∉ className option
  ends : EndsLine ("new " ++ className option)

/-- A class ends a line: it has no brackets, and a blank stands before it. -/
theorem endsLine_class {name : Text} (h : IsPlainName name) : EndsLine ("new " ++ name) := by
  obtain ⟨front, c, rfl⟩ := List.eq_nil_or_concat name |>.resolve_left h.ne_nil
  rw [List.concat_eq_append] at h ⊢
  have hc : c ∈ front ++ [c] := List.mem_append_right _ List.mem_cons_self
  have hlast (before : Text) : (before ++ ("new " ++ (front ++ [c]))).getLast? = some c := by
    rw [← List.append_assoc, ← List.append_assoc, List.getLast?_concat]
  refine ⟨by simp, ?_, fun before => ⟨?_, ?_⟩⟩
  · intro d hd
    have hnew := hlast []
    rw [List.nil_append] at hnew
    rw [hnew] at hd
    exact Option.some.inj hd ▸ h.word c hc
  · exact opensBlock_eq_false (hlast before) fun hm =>
      h.plain c hc ((by decide : ("\x7b[(" : Text) ⊆ Brackets.specials) hm)
  · rw [Bool.eq_false_iff]
    intro hcalls
    obtain ⟨behind, hbehind⟩ := List.isSuffixOf_iff_suffix.mp hcalls
    have hsplit : (behind ++ "))") ++ [';'] = (before ++ "new " ++ front) ++ [c] := by
      rw [List.append_assoc, List.append_assoc, List.append_assoc]
      exact hbehind
    have hfront := congrArg List.getLast? (List.append_inj' hsplit rfl).1
    rw [List.getLast?_append, List.getLast?_append] at hfront
    -- what stands before the semicolon is a blank or belongs to the class
    cases hf : front.getLast? with
    | none =>
      rw [hf, List.getLast?_append] at hfront
      have hblank : some ')' = some ' ' := hfront
      exact absurd hblank (by decide)
    | some d =>
      rw [hf] at hfront
      have hd : d ∈ front ++ [c] := List.mem_append_left _ (List.mem_of_getLast? hf)
      exact h.plain d hd (Option.some.inj hfront ▸ by decide)

theorem namesClass_of_isPlainName {option : Text} (h : IsPlainName option) : NamesClass option :=
  ⟨h.ne_nil, (isPlainName_className h).plain.feed_not_mem, endsLine_class (isPlainName_className h)⟩

/-- The lines of an object: its class, a brace, those of its settings, and the closing brace. -/
theorem objectLiteral_eq_unlines {opened : Nat} {set : List (Nat × Text)} {option : Text}
    {settings lines : List Text} (ho : option ≠ []) (h : SettingLines opened set settings lines)
    (hne : settings ≠ []) :
    objectLiteral defaultIndent option settings =
      unlines (("new " ++ className option) :: (openingBrace :: lines) ++
        [defaultIndent ++ '\x7d' :: []]) := by
  have hlines : lines ≠ [] := fun he => hne (h.nil_iff.mp he)
  have hwritten : objectLiteral defaultIndent option settings =
      "new ".toList ++ className option ++ "\n".toList ++ "\x7b\n".toList ++
        (defaultIndent ++ Text.join ('\n' :: defaultIndent) settings) ++
        "\n".toList ++ defaultIndent ++ "\x7d".toList := by
    obtain ⟨first, rest, rfl⟩ := List.exists_cons_of_ne_nil hne
    simp [objectLiteral, ho]
  obtain ⟨line, others, rfl⟩ := List.exists_cons_of_ne_nil hlines
  have hend : unlines (line :: (others ++ [defaultIndent ++ ['\x7d']])) =
      unlines (line :: others) ++ '\n' :: unlines [defaultIndent ++ ['\x7d']] :=
    Text.unlines_append (List.cons_ne_nil _ _) (List.cons_ne_nil _ _)
  rw [hwritten, h.join hne, List.cons_append, List.cons_append, Text.unlines_cons_cons,
    List.cons_append, Text.unlines_cons_cons, hend, Text.unlines_singleton]
  simp [openingBrace]

theorem spans_objectLiteral {opened : Nat} {set : List (Nat × Text)} {option : Text}
    {settings lines : List Text} (ho : NamesClass option)
    (h : SettingLines (opened + 1) set settings lines) :
    Spans opened set (objectLiteral defaultIndent option settings) := by
  cases settings with
  | nil =>
    have hlays := h.lays
    rw [h.nil_iff.mpr rfl] at hlays
    cases hlays
    refine .line ?_
    change '\n' ∉ emptyObject option
    unfold emptyObject
    rw [if_neg ho.ne_nil]
    split <;> simp [ho.feed]
  | cons first rest =>
    rw [objectLiteral_eq_unlines ho.ne_nil h (List.cons_ne_nil _ _)]
    refine .lines ?_ ho.ends List.not_mem_nil ?_ ?_
    · simp [ho.feed]
    · exact List.forall_mem_cons.mpr ⟨by decide, h.feed⟩
    · rw [List.map_cons]
      exact .opening h.lays

end Program
end SessionReplay
