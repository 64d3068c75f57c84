import SessionReplay.Proofs.Text.Delimited

/-!
# Literals and the texts they stand for

A literal is a JSON string in which the two separators are escaped afterwards; this leaves the escapes
of the string alone. Reading a literal gives its text back and stops exactly where the literal ends,
whatever follows. Within the literal there is no end to be found.
-/

namespace SessionReplay.Text

/-! ### Escaping in two passes -/

def jsonMarks : List (Char × Char) :=
  [('"', '"'), ('\\', '\\'), ('\n', 'n'), ('\r', 'r'), ('\t', 't'), ('\x08', 'b'), ('\x0c', 'f')]

/-- A character inside a JSON string, where separators stand for themselves. -/
def jsonEscape (c : Char) : Text :=
  match jsonMarks.lookup c with
  | some mark => ['\\', mark]
  | none => if c.toNat < 0x20 then "\\u" ++ hex 4 c.toNat else [c]

def jsonQuoted (text : Text) : Text := '"' :: text.flatMap jsonEscape ++ ['"']

def replace (old : Char) (new : Text) (text : Text) : Text :=
  text.flatMap fun c => if c = old then new else [c]

def replaceSeparators (text : Text) : Text :=
  replace '\u2029' "\\u2029" (replace '\u2028' "\\u2028" text)

theorem replaceSeparators_append (first second : Text) :
    replaceSeparators (first ++ second) = replaceSeparators first ++ replaceSeparators second := by
  simp only [replaceSeparators, replace, List.flatMap_append]

theorem replaceSeparators_flatMap (f : Char → Text) (text : Text) :
    replaceSeparators (text.flatMap f) = text.flatMap fun c => replaceSeparators (f c) := by
  induction text with
  | nil => rfl
  | cons c text ih => rw [List.flatMap_cons, replaceSeparators_append, ih, List.flatMap_cons]

/-- Marks and codes hold no separators. -/
theorem replaceSeparators_escaped : ∀ c ∈ jsonMarks.map Prod.fst ++ (List.range 0x20).map Char.ofNat,
    replaceSeparators (jsonEscape c) = escape c := by
  decide

theorem replaceSeparators_jsonEscape (c : Char) : replaceSeparators (jsonEscape c) = escape c := by
  by_cases hescaped : c ∈ jsonMarks.map Prod.fst ++ (List.range 0x20).map Char.ofNat
  · exact replaceSeparators_escaped c hescaped
  · rw [List.mem_append, not_or] at hescaped
    have hlookup : jsonMarks.lookup c = none := by
      rw [List.lookup_eq_none_iff]
      intro mark hmark
      exact bne_iff_ne.mpr fun he => hescaped.1 (he ▸ List.mem_map_of_mem hmark)
    have hcode : ¬ c.toNat < 0x20 := by
      intro hlt
      exact hescaped.2 (List.mem_map.mpr ⟨c.toNat, List.mem_range.mpr hlt, Char.ofNat_toNat c⟩)
    have hmarks := hescaped.1
    simp only [jsonMarks, List.map_cons, List.map_nil, List.mem_cons, List.not_mem_nil, or_false,
      not_or] at hmarks
    simp only [jsonEscape, hlookup, escape, hmarks, if_false, hcode, false_or]
    by_cases hline : c = '\u2028'
    · rw [hline]
      decide
    · by_cases hparagraph : c = '\u2029'
      · rw [hparagraph]
        decide
      · simp only [replaceSeparators, replace, List.flatMap_singleton, hline, hparagraph, or_self,
          if_false]

/-- Escaping everything at once is writing a JSON string and then replacing the separators. -/
theorem quoted_eq_replaceSeparators (text : Text) :
    quoted text = replaceSeparators (jsonQuoted text) := by
  have hends : jsonQuoted text = ['"'] ++ text.flatMap jsonEscape ++ ['"'] := rfl
  have hquote : replaceSeparators ['"'] = ['"'] := by decide
  rw [hends, replaceSeparators_append, replaceSeparators_append, replaceSeparators_flatMap, hquote]
  simp only [replaceSeparators_jsonEscape]
  rfl

/-! ### Where reading stops -/

theorem readInside?_append {source text rest : Text} (h : readInside? source = some (text, rest))
    (more : Text) : readInside? (source ++ more) = some (text, rest ++ more) := by
  induction source using readInside?.induct generalizing text with
  | case1 source =>
    obtain ⟨rfl, rfl⟩ := Prod.mk.inj (Option.some.inj h)
    rfl
  | case2 a b c d source ih =>
    simp only [List.cons_append, readInside?, Option.bind_eq_bind, Option.bind_eq_some_iff,
      Option.some_inj] at h ⊢
    obtain ⟨code, hcode, ⟨inner, left⟩, hinner, he⟩ := h
    obtain ⟨rfl, rfl⟩ := Prod.mk.inj he
    exact ⟨code, hcode, _, ih hinner, rfl⟩
  | case3 mark source hcode ih =>
    rw [readInside?] at h
    · cases hchar : escapedChar? mark with
      | none => simp [hchar] at h
      | some char =>
        have hne : mark ≠ 'u' := by
          intro hu
          simp [hu, escapedChar?] at hchar
        simp only [hchar, Option.bind_eq_bind, Option.bind_some, Option.bind_eq_some_iff] at h
        obtain ⟨⟨inner, left⟩, hinner, he⟩ := h
        obtain ⟨rfl, rfl⟩ := Prod.mk.inj (Option.some.inj he)
        rw [List.cons_append, List.cons_append, readInside?_mark hne hchar, ih hinner]
        rfl
    · exact hcode
  | case4 source _ _ hshort =>
    -- a backslash at the end escapes nothing
    cases source with
    | nil => simp [readInside?] at h
    | cons c source => exact absurd rfl (hshort c source rfl)
  | case5 c source hquote _ _ hslash ih =>
    rw [readInside?_plain hquote hslash, Option.map_eq_some_iff] at h
    obtain ⟨⟨inner, left⟩, hinner, he⟩ := h
    obtain ⟨rfl, rfl⟩ := Prod.mk.inj he
    rw [List.cons_append, readInside?_plain hquote hslash, ih hinner]
    rfl
  | case6 => exact absurd h (by simp [readInside?])

theorem readLiteral?_append {source text rest : Text} (h : readLiteral? source = some (text, rest))
    (more : Text) : readLiteral? (source ++ more) = some (text, rest ++ more) := by
  unfold readLiteral? at h
  split at h
  next source => exact readInside?_append h more
  next => exact absurd h (by simp)

theorem readLiteral?_of_prefix {text front : Text} (h : front <+: quoted text)
    (hne : front ≠ quoted text) : readLiteral? front = none := by
  obtain ⟨behind, hbehind⟩ := h
  cases hread : readLiteral? front with
  | none => rfl
  | some read =>
    have hwhole := readLiteral?_quoted_append text []
    rw [List.append_nil, ← hbehind, readLiteral?_append hread, Option.some_inj] at hwhole
    -- nothing is left behind the literal, so its front is all of it
    have hnil : behind = [] := (List.append_eq_nil_iff.mp (Prod.mk.inj hwhole).2).2
    rw [hnil, List.append_nil] at hbehind
    exact absurd hbehind hne

/-- A literal can be read back whatever follows it, and reading stops exactly where it ends. So
different texts have different literals, and nothing in a text ends its literal early. -/
theorem quoted_delimits :
    (∀ text rest, readLiteral? (quoted text ++ rest) = some (text, rest)) ∧
      Function.Injective quoted ∧
      ∀ text front, front <+: quoted text → front ≠ quoted text → readLiteral? front = none := by
  refine ⟨readLiteral?_quoted_append, ?_, fun _ _ => readLiteral?_of_prefix⟩
  intro text other h
  have happend : quoted text ++ [] = quoted other ++ [] := congrArg (· ++ []) h
  exact (quoted_append_inj happend).1

/-- A backslash and a quote before the end of the text do not close its literal. -/
theorem quoted_delimits_slash :
    readLiteral? "\"\\\\\\\"\\u2028\"); // \"" = some ("\\\"\u2028".toList, "); // \"".toList) ∧
      readLiteral? "\"\\\\\\\"" = none := by
  obtain ⟨hread, -, hfront⟩ := quoted_delimits
  exact ⟨hread "\\\"\u2028" "); // \"", hfront "\\\"\u2028" _ (by decide) (by decide)⟩

end SessionReplay.Text
