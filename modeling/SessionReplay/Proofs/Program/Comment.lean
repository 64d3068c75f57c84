import SessionReplay.Proofs.Program.Block

/-!
# The address of a wait as a comment

A wait for a navigation ends with the options it could have, within a block comment. No literal is
read within a comment: the first closing mark ends it, wherever it stands. Literals leave the two
characters of the mark as they are, so the comment ends where it is meant to exactly if the address
does not have the mark itself.
-/

namespace SessionReplay

namespace Text

/-! ### The first place of a mark -/

/-- What stands before the first place of a mark in a text. -/
def before? (mark : Text) : Text → Option Text
  | [] => if mark = [] then some [] else none
  | c :: rest => if mark <+: c :: rest then some [] else (before? mark rest).map (c :: ·)

variable {a b : Char}

theorem pair_infix_cons (c : Char) (text : Text) :
    [a, b] <:+: c :: text ↔ a = c ∧ some b = text.head? ∨ [a, b] <:+: text := by
  rw [List.infix_cons_iff]
  cases text <;> simp [List.cons_prefix_cons]

theorem pair_infix_append {front : Text} (h : a ∉ front) (text : Text) :
    [a, b] <:+: front ++ text ↔ [a, b] <:+: text := by
  induction front with
  | nil => rfl
  | cons c rest ih =>
    rw [List.mem_cons, not_or] at h
    rw [List.cons_append, pair_infix_cons, ih h.2]
    simp [h.1]

theorem pair_infix_concat (text : Text) {c : Char} (h : b ≠ c) :
    [a, b] <:+: text ++ [c] ↔ [a, b] <:+: text := by
  induction text with
  | nil => simp [pair_infix_cons]
  | cons d rest ih =>
    rw [List.cons_append, pair_infix_cons, pair_infix_cons, ih]
    cases rest with
    | nil => simp [h]
    | cons => simp

/-- Behind a text without the mark, the mark is found where it was put. -/
theorem before?_append_iff (h : a ≠ b) (text rest : Text) :
    before? [a, b] (text ++ a :: b :: rest) = some text ↔ ¬ [a, b] <:+: text := by
  induction text with
  | nil => simp [before?]
  | cons c text ih =>
    rw [pair_infix_cons, not_or, ← ih, List.cons_append, before?]
    -- a mark at the seam would take its second character from the mark behind
    have hseam : [a, b] <+: c :: (text ++ a :: b :: rest) ↔ a = c ∧ some b = text.head? := by
      cases text <;> simp [List.cons_prefix_cons, h.symm]
    simp only [hseam]
    split
    next hc => simp [hc]
    next hc => simp [hc, Option.map_eq_some_iff]

/-! ### Marks in literals -/

/-- A character that literals leave as it is and that is no part of an escape. -/
def Unescaped (c : Char) : Prop := escape c = [c] ∧ c ∉ '\\' :: escapeChars

instance (c : Char) : Decidable (Unescaped c) := inferInstanceAs (Decidable (_ ∧ _))

theorem head?_flatMap_escape (h : Unescaped b) (text : Text) :
    some b = (text.flatMap escape).head? ↔ some b = text.head? := by
  cases text with
  | nil => rfl
  | cons c rest =>
    have hc := escape_cases c
    generalize hw : escape c = written at hc
    cases hc with
    | plain => simp [hw]
    | marked mark digits =>
      have hslash : b ≠ '\\' := fun he => h.2 (he ▸ List.mem_cons_self)
      have hne : b ≠ c := by
        rintro rfl
        simp [h.1] at hw
      simp [hw, hslash, hne]

theorem pair_infix_flatMap_escape (ha : Unescaped a) (hb : Unescaped b) (text : Text) :
    [a, b] <:+: text.flatMap escape ↔ [a, b] <:+: text := by
  induction text with
  | nil => rfl
  | cons c rest ih =>
    have hc := escape_cases c
    generalize hw : escape c = written at hc
    rw [List.flatMap_cons, hw, pair_infix_cons c rest]
    cases hc with
    | plain => rw [List.singleton_append, pair_infix_cons, ih, head?_flatMap_escape hb]
    | marked mark digits _ hmark hdigits =>
      have hout : a ∉ '\\' :: mark :: digits := by
        intro hm
        rcases List.mem_cons.mp hm with rfl | hm
        · exact ha.2 List.mem_cons_self
        · rcases List.mem_cons.mp hm with rfl | hm
          · exact ha.2 (List.mem_cons_of_mem _ hmark)
          · exact ha.2 (List.mem_cons_of_mem _ (hdigits a hm).1)
      have hne : a ≠ c := by
        rintro rfl
        simp [ha.1] at hw
      rw [pair_infix_append hout, ih]
      simp [hne]

theorem pair_infix_quoted (ha : Unescaped a) (hb : Unescaped b) (text : Text) :
    [a, b] <:+: quoted text ↔ [a, b] <:+: text := by
  have hfront : a ≠ '"' := by
    rintro rfl
    exact ha.2 (by decide)
  have hback : b ≠ '"' := by
    rintro rfl
    exact hb.2 (by decide)
  rw [quoted, List.cons_append, pair_infix_cons, pair_infix_concat _ hback,
    pair_infix_flatMap_escape ha hb]
  simp [hfront]

end Text

namespace Program

open Text

variable {step : Step}

/-- The lines of a block up to the comment of a wait, without the brace that it begins behind. -/
def linesBeforeComment (step : Step) (callText : Text) : Lines :=
  Lines.newLine [] ++ (titleComment step.action.operation :: (dialogLines step ++
    fromSlots step (linesBefore step.page) [.popup, .download, .waitForNavigation] ++
    [awaited step callText])).flatMap Lines.ofText

def linesBehindComment (step : Step) : Lines :=
  (fromSlots step (linesBehind step) [.download, .popup, .assertNavigation]).flatMap Lines.ofText

def commentLines (isMainFrame : Bool) (url : Text) : List Text :=
  [", new " ++ (if isMainFrame then "Page".toList else "Frame".toList) ++ "WaitForNavigationOptions",
    "\x7b", "UrlString = " ++ url.quoted, "\x7d"]

theorem trimmed_linesBeforeComment (step : Step) (callText : Text) :
    (linesBeforeComment step callText).Trimmed := Lines.trimmed_newLine_append _

theorem trimmed_linesBehindComment (step : Step) : (linesBehindComment step).Trimmed := by
  intro line hl
  obtain ⟨text, -, hl⟩ := List.mem_flatMap.mp hl
  exact Lines.trimmed_ofText text line hl

/-- The buffer of a block that waits for a navigation, cut at the lines that hold the comment. -/
theorem blockLines_wait {url callText : Text} (hop : ∀ url, step.action.operation ≠ .openPage url)
    (hwait : step.action.signalMap.waitForNavigation = some url)
    (hc : call step.isMainFrame step.action.operation = .ok callText) :
    blockLines step = .ok (linesBeforeComment step callText ++
      (navigationClosing step.isMainFrame url ++ linesBehindComment step)) := by
  have hclosing : ∀ slots, fromSlots step (linesBehind step) (.waitForNavigation :: slots) =
      navigationClosing step.isMainFrame url ++ fromSlots step (linesBehind step) slots := by
    intro slots
    rw [fromSlots_cons, SignalMap.get?, hwait]
    rfl
  have hlines := flatMap_ofText (trimmed_navigationClosing step.isMainFrame url)
  have hrest : fromSlots step (linesBehind step) [.download, .popup, .assertNavigation] =
      fromSlots step (linesBehind step) [.download, .popup] ++
        fromSlots step (linesBehind step) [.assertNavigation] := by
    simp only [fromSlots_cons, fromSlots_nil, List.append_nil, List.append_assoc]
  unfold blockLines
  rw [blockStatements_eq hop, hc]
  simp only [Except.map, bind, Except.bind, Lines.foldl_add, statementLines_eq, assertionLines_eq,
    hclosing, hrest, linesBeforeComment, linesBehindComment, List.flatMap_append, List.flatMap_cons,
    List.flatMap_nil, hlines, List.append_assoc, List.append_nil]

theorem renderFrom_cons (offset : Nat) (before : Depth) {line : Text} (h : line ≠ [])
    (rest : Lines) : ∃ (spaces : Nat) (after : Depth), Lines.renderFrom offset before (line :: rest) =
      (List.replicate spaces ' ' ++ line) :: Lines.renderFrom offset after rest :=
  ⟨_, _, if_neg h⟩

/-- The lines of the comment of a wait, each behind some spaces but the first. -/
def spacedComment (isMainFrame : Bool) (url : Text) (n m k : Nat) : List Text :=
  [", new " ++ (if isMainFrame then "Page".toList else "Frame".toList) ++ "WaitForNavigationOptions",
    List.replicate n ' ' ++ "\x7b", List.replicate m ' ' ++ ("UrlString = " ++ url.quoted),
    List.replicate k ' ' ++ "\x7d"]

theorem feed_not_mem_spacedComment (isMainFrame : Bool) (url : Text) (n m k : Nat) :
    ∀ line ∈ spacedComment isMainFrame url n m k, '\n' ∉ line := by
  have hspaces : ∀ n, '\n' ∉ List.replicate n ' ' := by simp
  intro line hl
  simp only [spacedComment, List.mem_cons, List.not_mem_nil, or_false] at hl
  rcases hl with rfl | rfl | rfl | rfl
  · cases isMainFrame <;> decide
  · simp
  · simp [not_mem_quoted]
  · simp

theorem lines_spacedComment (isMainFrame : Bool) (url : Text) (n m k : Nat) :
    lines (unlines (spacedComment isMainFrame url n m k)) = spacedComment isMainFrame url n m k :=
  lines_unlines (List.cons_ne_nil _ _) (feed_not_mem_spacedComment _ _ _ _ _)

theorem map_trim_spacedComment (isMainFrame : Bool) (url : Text) (n m k : Nat) :
    (spacedComment isMainFrame url n m k).map trim = commentLines isMainFrame url := by
  have hurl : trim ("UrlString = " ++ url.quoted) = "UrlString = " ++ url.quoted :=
    trim_append_eq rfl (by rw [getLast?_quoted]; decide)
  have hbraces : trim "\x7b" = "\x7b" ∧ trim "\x7d" = "\x7d" := by decide
  simp only [spacedComment, commentLines, List.map_cons, List.map_nil, trim_replicate_append, hurl,
    hbraces]
  cases isMainFrame <;> rfl

/-- The mark that ends a comment stands in the comment of a wait exactly if it stands in the
address. -/
theorem pair_infix_spacedComment (isMainFrame : Bool) (url : Text) (n m k : Nat) :
    ['*', '/'] <:+: unlines (spacedComment isMainFrame url n m k) ↔ ['*', '/'] <:+: url := by
  have hstar : Unescaped '*' := by decide
  have hslash : Unescaped '/' := by decide
  have hspaces : ∀ n, '*' ∉ List.replicate n ' ' := by simp
  have hnone : ∀ line : Text, '*' ∉ line → ¬ ['*', '/'] <:+: line := fun line hm hi =>
    hm (hi.subset List.mem_cons_self)
  constructor
  · intro h
    obtain ⟨line, hl, hi⟩ := infix_lines h (by decide)
    rw [lines_spacedComment] at hl
    simp only [spacedComment, List.mem_cons, List.not_mem_nil, or_false] at hl
    rcases hl with rfl | rfl | rfl | rfl
    · refine absurd hi (hnone _ ?_)
      cases isMainFrame <;> decide
    · exact absurd hi (hnone _ (by simp))
    · rwa [pair_infix_append (hspaces m), pair_infix_append (by decide),
        pair_infix_quoted hstar hslash] at hi
    · exact absurd hi (hnone _ (by simp))
  · intro h
    rw [← pair_infix_quoted hstar hslash] at h
    have hline : url.quoted <:+: List.replicate m ' ' ++ ("UrlString = " ++ url.quoted) :=
      (List.suffix_append _ _).isInfix.trans (List.suffix_append _ _).isInfix
    have hmem : List.replicate m ' ' ++ ("UrlString = " ++ url.quoted) ∈
        spacedComment isMainFrame url n m k :=
      List.mem_cons_of_mem _ (List.mem_cons_of_mem _ List.mem_cons_self)
    exact (h.trans hline).trans (infix_join hmem)

/-- The lines that hold the comment are rendered with the comment between its marks. -/
theorem renderFrom_navigationClosing (offset : Nat) (before : Depth) (isMainFrame : Bool)
    (url : Text) (back : Lines) : ∃ (n m k l : Nat) (after : Depth),
      Lines.renderFrom offset before (navigationClosing isMainFrame url ++ back) =
        (List.replicate l ' ' ++ "\x7d".toList ++
          ("/*".toList ++ (", new " ++ (if isMainFrame then "Page".toList else "Frame".toList) ++
            "WaitForNavigationOptions"))) ::
          (List.replicate n ' ' ++ "\x7b") ::
          (List.replicate m ' ' ++ ("UrlString = " ++ url.quoted)) ::
          (List.replicate k ' ' ++ "\x7d".toList ++ ("*/".toList ++ ");".toList)) ::
          Lines.renderFrom offset after back := by
  have hrender : ∀ first second third fourth : Text, first ≠ [] → second ≠ [] → third ≠ [] →
      fourth ≠ [] → ∃ (n m k l : Nat) (after : Depth),
        Lines.renderFrom offset before (first :: second :: third :: fourth :: back) =
          (List.replicate l ' ' ++ first) :: (List.replicate n ' ' ++ second) ::
            (List.replicate m ' ' ++ third) :: (List.replicate k ' ' ++ fourth) ::
            Lines.renderFrom offset after back := by
    intro first second third fourth hfirst hsecond hthird hfourth
    obtain ⟨l, d₁, h₁⟩ := renderFrom_cons offset before hfirst (second :: third :: fourth :: back)
    obtain ⟨n, d₂, h₂⟩ := renderFrom_cons offset d₁ hsecond (third :: fourth :: back)
    obtain ⟨m, d₃, h₃⟩ := renderFrom_cons offset d₂ hthird (fourth :: back)
    obtain ⟨k, d₄, h₄⟩ := renderFrom_cons offset d₃ hfourth back
    exact ⟨n, m, k, l, d₄, by rw [h₁, h₂, h₃, h₄]⟩
  have hfirst : ("\x7d/*, new " ++ (if isMainFrame then "Page".toList else "Frame".toList) ++
      "WaitForNavigationOptions" : Text) ≠ [] :=
    List.append_ne_nil_of_right_ne_nil _ (by decide)
  obtain ⟨n, m, k, l, after, h⟩ := hrender _ "\x7b" ("UrlString = " ++ url.quoted) "\x7d*/);" hfirst
    (by decide) (List.append_ne_nil_of_left_ne_nil (by decide) _) (by decide)
  refine ⟨n, m, k, l, after, ?_⟩
  simp only [List.append_assoc] at h ⊢
  exact h

/-- Lines cut within two of them, the first and the last but one of a piece of four lines. -/
theorem unlines_cut (front : List Text) (a b first second third last c d : Text)
    (back : List Text) :
    unlines (front ++ (a ++ (b ++ first)) :: second :: third :: (last ++ (c ++ d)) :: back) =
      unlines (front ++ [a]) ++ b ++ unlines [first, second, third, last] ++ c ++
        unlines (d :: back) := by
  have hback : unlines ([first, second, third] ++ [last]) ++ unlines ((c ++ d) :: back) =
      unlines ([first, second, third] ++ (last ++ (c ++ d)) :: back) :=
    unlines_append_unlines _ _ _ _
  rw [← unlines_append_unlines, ← append_unlines b first]
  simp only [List.append_assoc, append_unlines c d]
  simp only [List.cons_append, List.nil_append] at hback
  rw [hback]

/-- A buffer with the lines that hold a comment is rendered to a text with the comment: between its
marks are the options of the wait. -/
theorem render_comment (offset : Nat) (isMainFrame : Bool) (url : Text) {front back : Lines}
    (hf : front.Trimmed) (hb : back.Trimmed) :
    ∃ before comment behind : Text,
      Lines.render offset (front ++ (navigationClosing isMainFrame url ++ back)) =
        before ++ "/*" ++ comment ++ "*/" ++ behind ∧
      (lines before).map trim = front ++ ["\x7d".toList] ∧
      (lines comment).map trim = commentLines isMainFrame url ∧
      (lines behind).map trim = ");".toList :: back ∧
      (before? "*/" (comment ++ "*/" ++ behind) = some comment ↔ ¬ "*/".toList <:+: url) := by
  obtain ⟨n, m, k, l, after, hclosing⟩ := renderFrom_navigationClosing offset
    (Lines.leave {} front) isMainFrame url back
  refine ⟨unlines (Lines.renderFrom offset {} front ++ [List.replicate l ' ' ++ "\x7d".toList]),
    unlines (spacedComment isMainFrame url n m k),
    unlines (");".toList :: Lines.renderFrom offset after back), ?_, ?_, ?_, ?_, ?_⟩
  · rw [Lines.render, Lines.renderFrom_append, hclosing]
    exact unlines_cut _ _ "/*" _ _ _ _ "*/" ");" _
  · rw [lines_unlines (by simp), List.map_append, Lines.map_trim_renderFrom _ _ hf,
      List.map_singleton, trim_replicate_append]
    · rfl
    · intro line hl
      rcases List.mem_append.mp hl with hl | hl
      · exact Lines.feed_not_mem_renderFrom hf line hl
      · rw [List.mem_singleton.mp hl]
        simp
  · rw [lines_spacedComment, map_trim_spacedComment]
  · rw [lines_unlines (List.cons_ne_nil _ _), List.map_cons, Lines.map_trim_renderFrom _ _ hb]
    · rfl
    · intro line hl
      rcases List.mem_cons.mp hl with rfl | hl
      · decide
      · exact Lines.feed_not_mem_renderFrom hb line hl
  · rw [List.append_assoc]
    exact (before?_append_iff (by decide) _ _).trans
      (not_congr (pair_infix_spacedComment isMainFrame url n m k))

/-- A wait for a navigation puts its options into a comment. The first closing mark behind the
beginning of the comment is the one that the wait writes exactly if the address has none. -/
theorem before?_comment_iff {url text : Text} (hop : ∀ url, step.action.operation ≠ .openPage url)
    (hwait : step.action.signalMap.waitForNavigation = some url) (h : block step = .ok text) :
    ∃ callText before comment behind : Text,
      call step.isMainFrame step.action.operation = .ok callText ∧
      text = before ++ "/*" ++ comment ++ "*/" ++ behind ∧
      (lines before).map trim = linesBeforeComment step callText ++ ["\x7d".toList] ∧
      (lines comment).map trim = commentLines step.isMainFrame url ∧
      (lines behind).map trim = ");".toList :: linesBehindComment step ∧
      (before? "*/" (comment ++ "*/" ++ behind) = some comment ↔ ¬ "*/".toList <:+: url) := by
  obtain ⟨buffer, hb, ht⟩ := exists_of_bind_eq_ok h
  obtain ⟨statements, hs, -⟩ := exists_of_bind_eq_ok hb
  obtain ⟨opened, hopened, -⟩ | ⟨-, callText, hc, -⟩ := blockStatements_ok hs
  · exact absurd hopened (hop opened)
  rw [blockLines_wait hop hwait hc] at hb
  obtain rfl := Except.ok.inj hb
  obtain rfl := Except.ok.inj ht
  obtain ⟨before, comment, behind, hcomment⟩ := render_comment bodyOffset step.isMainFrame url
    (trimmed_linesBeforeComment step callText) (trimmed_linesBehindComment step)
  exact ⟨callText, before, comment, behind, hc, hcomment⟩

def waitingStep (url : Text) : Step :=
  ⟨"page", true, none, none,
    ⟨[.navigation url true], .check "#a", List.nodup_cons.mpr ⟨List.not_mem_nil, List.nodup_nil⟩⟩,
    Eq.refl true⟩

/-- The two characters of the mark do no harm in the other order, nor at the end of the address. -/
theorem before?_comment_waitingStep :
    ∃ text before comment behind : Text, block (waitingStep "//**") = .ok text ∧
      text = before ++ "/*" ++ comment ++ "*/" ++ behind ∧
      before? "*/" (comment ++ "*/" ++ behind) = some comment := by
  have hop : ∀ url, (waitingStep "//**").action.operation ≠ .openPage url := by
    simp [waitingStep]
  obtain ⟨-, before, comment, behind, -, htext, -, -, -, hiff⟩ :=
    before?_comment_iff hop (by rfl) rfl
  exact ⟨_, before, comment, behind, rfl, htext, hiff.mpr (by decide)⟩

set_option maxRecDepth 4096 in
/-- The mark in an address ends the comment early. -/
theorem not_forall_before?_comment :
    ¬ ∀ (step : Step) (url text : Text), (∀ url, step.action.operation ≠ .openPage url) →
      step.action.signalMap.waitForNavigation = some url → block step = .ok text →
      ∀ before comment behind : Text, text = before ++ "/*" ++ comment ++ "*/" ++ behind →
        (lines comment).map trim = commentLines step.isMainFrame url →
        (lines behind).map trim = ");".toList :: linesBehindComment step →
        before? "*/" (comment ++ "*/" ++ behind) = some comment := by
  intro h
  have hearly := h (waitingStep "*/") "*/" _ (by simp [waitingStep]) rfl rfl
    ("\n        // Check #a\n        await page.RunAndWaitForNavigationAsync(async () =>\n" ++
      "        \x7b\n            await page.CheckAsync(\"#a\");\n        \x7d")
    ", new PageWaitForNavigationOptions\n        \x7b\n            UrlString = \"*/\"\n        \x7d"
    ");" rfl (by decide) rfl
  rw [List.append_assoc] at hearly
  have hnone := (before?_append_iff (by decide) _ _).mp hearly
  exact hnone ⟨", new PageWaitForNavigationOptions\n        \x7b\n            UrlString = \"",
      "\"\n        \x7d", rfl⟩

end Program
end SessionReplay
