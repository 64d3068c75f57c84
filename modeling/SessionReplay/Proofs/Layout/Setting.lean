import SessionReplay.Proofs.Bracket.Scanner
import SessionReplay.Proofs.Layout.Nesting

/-!
# Lines that set properties

An object in the program has a line for each property, and objects within it have blocks of their
own. `Lines.Lays` says which lines there are and in how many blocks each statement and each property
stands. The layout keeps to that number until a line is mistaken for the end of a block, which only a
text in it can bring about, and from there on it does not.
-/

namespace SessionReplay.Program

open Brackets (Plain)
open Text (IsWord trim isBlank)

/-! ### What a line shows -/

/-- The spaces that a line begins with. -/
def margin (line : Text) : Nat := (line.takeWhile (· == ' ')).length

/-- The property that a trimmed line sets. -/
def property? (line : Text) : Option Text :=
  let name := line.takeWhile (· != ' ')
  if Plain name ∧ " = ".toList.isPrefixOf (line.dropWhile (· != ' ')) then some name else none

/-- What the statements begin with that make the browser and its context. -/
def settingUp : List Text := ["await using var browser", "var context"]

/-- What a trimmed line is known by: the statement that it begins, or the property that it sets. -/
def label? (line : Text) : Option Text :=
  (settingUp.find? (·.isPrefixOf line)).or (property? line)

/-- The margin of a line that is known by something, and what that is. -/
def landmark? (line : Text) : Option (Nat × Text) :=
  (label? (trim line)).map fun label => (margin line, label)

/-- A line that counts as the end of a block although it does not begin with a closing brace: the end
of a call with its object stands in it, and more braces are closed in it than opened. -/
def isMistaken (line : Text) : Bool :=
  Text.contains "\x7d);" line && decide (line.count '{' < line.count '\x7d') &&
    line.head? != some '\x7d'

/-- A name that the layout does not mistake for something else: not empty, and without blanks and
brackets. -/
structure IsPlainName (name : Text) : Prop where
  plain : Plain name
  word : IsWord name
  ne_nil : name ≠ []

instance (name : Text) : Decidable (IsPlainName name) :=
  decidable_of_iff (Plain name ∧ IsWord name ∧ name ≠ [])
    ⟨fun h => ⟨h.1, h.2.1, h.2.2⟩, fun h => ⟨h.plain, h.word, h.ne_nil⟩⟩

theorem IsPlainName.exists_cons {name : Text} (h : IsPlainName name) :
    ∃ c rest, name = c :: rest ∧ c ∉ Brackets.specials ∧ isBlank c = false := by
  obtain ⟨c, rest, rfl⟩ := List.exists_cons_of_ne_nil h.ne_nil
  exact ⟨c, rest, rfl, h.plain c List.mem_cons_self, h.word c List.mem_cons_self⟩

def settingLine (name expression : Text) : Text := name ++ " = " ++ expression

theorem property?_settingLine {name : Text} (h : IsPlainName name) (expression : Text) :
    property? (settingLine name expression) = some name := by
  have hspace : ∀ c ∈ name, (c != ' ') = true := by
    intro c hc
    rw [bne_iff_ne]
    rintro rfl
    exact h.word.not_mem (by decide) hc
  have hline : settingLine name expression = name ++ ' ' :: ("= " ++ expression) := by
    unfold settingLine
    rw [List.append_assoc]
    rfl
  have htake : (settingLine name expression).takeWhile (· != ' ') = name := by
    rw [hline, List.takeWhile_append_of_pos hspace]
    exact List.append_nil name
  have hdrop : (settingLine name expression).dropWhile (· != ' ') = " = " ++ expression := by
    rw [hline, List.dropWhile_append_of_pos hspace]
    rfl
  have hequals : " = ".toList.isPrefixOf (" = ".toList ++ expression) = true :=
    List.isPrefixOf_iff_prefix.mpr (List.prefix_append _ _)
  rw [property?, htake, hdrop, if_pos ⟨h.plain, hequals⟩]

/-- A line that begins a statement sets no property: it has more words before an equals sign. -/
theorem label?_settingLine {name : Text} (h : IsPlainName name) (expression : Text) :
    label? (settingLine name expression) = some name := by
  have hset := property?_settingLine h expression
  have hnone : settingUp.find? (·.isPrefixOf (settingLine name expression)) = none := by
    rw [List.find?_eq_none]
    intro head hhead hprefix
    obtain ⟨rest, hrest⟩ := List.isPrefixOf_iff_prefix.mp hprefix
    have hproperty : property? (head ++ rest) = none := by
      rcases List.mem_cons.mp hhead with rfl | hhead
      · rfl
      · rw [List.mem_singleton.mp hhead]
        rfl
    rw [hrest, hset] at hproperty
    exact absurd hproperty (by simp)
  rw [label?, hnone, hset]
  rfl

theorem label?_openingBrace : label? openingBrace = none := by decide

theorem label?_closing (back : Text) : label? ('\x7d' :: back) = none := by
  have hplain : ¬ Plain (('\x7d' :: back).takeWhile (· != ' ')) := by
    intro hplain
    exact hplain '\x7d' List.mem_cons_self (by decide)
  have hproperty : property? ('\x7d' :: back) = none := by
    rw [property?, if_neg fun hboth => hplain hboth.1]
  rw [label?, hproperty]
  rfl

theorem margin_rendered {line : Text} (n : Nat) (h : ∀ c ∈ line.head?, isBlank c = false) :
    margin (List.replicate n ' ' ++ line) = n := by
  have hline : line.takeWhile (· == ' ') = [] := by
    cases line with
    | nil => rfl
    | cons c rest =>
      refine List.takeWhile_cons_of_neg fun hc => ?_
      have hblank := h c rfl
      rw [beq_iff_eq.mp hc] at hblank
      exact absurd hblank (by decide)
  rw [margin, List.takeWhile_append_of_pos fun c hc => beq_iff_eq.mpr (List.eq_of_mem_replicate hc),
    hline, List.append_nil, List.length_replicate]

theorem landmark?_rendered {line : Text} (n : Nat) (h : trim line = line) :
    landmark? (List.replicate n ' ' ++ line) = (label? line).map fun label => (n, label) := by
  have hhead : ∀ c ∈ line.head?, isBlank c = false := by
    intro c hc
    rw [← h] at hc
    exact Text.isBlank_head?_trim hc
  rw [landmark?, Text.trim_replicate_append, h, margin_rendered n hhead]

/-! ### Lines of objects -/

/-- A line that does not end in a way that changes the depth. -/
structure Calm (line : Text) : Prop where
  opens : opensBlock line = false
  calls : endsCalls line = false

structure Begins (statement line : Text) : Prop extends Calm line where
  label : label? line = some statement
  closes : closesBlock line = false
  comment : isComment line = false
  header : isBareHeader line = false

theorem Calm.steady {line : Text} (h : Calm line) (hheader : isBareHeader line = false) :
    Steady line :=
  ⟨fun hopens => Bool.noConfusion (h.opens.symm.trans hopens), hheader⟩

namespace Begins

variable {statement line : Text} (h : Begins statement line)
include h

theorem ne_nil : line ≠ [] := by
  rintro rfl
  exact absurd h.label (by simp [label?, property?, settingUp])

theorem not_isMistaken : isMistaken line = false := by
  have hcloses := h.closes
  simp only [closesBlock, Bool.or_eq_false_iff] at hcloses
  rw [isMistaken, hcloses.2, Bool.false_and]

end Begins

section SettingLine

variable {name : Text} (h : IsPlainName name) (expression : Text)
include h

theorem exists_settingLine_cons :
    ∃ c rest, settingLine name expression = c :: rest ∧ c ∉ Brackets.specials := by
  obtain ⟨c, rest, rfl, hc, -⟩ := h.exists_cons
  exact ⟨c, rest ++ " = " ++ expression, rfl, hc⟩

theorem isComment_settingLine : isComment (settingLine name expression) = false := by
  obtain ⟨c, rest, hline, hc⟩ := exists_settingLine_cons h expression
  rw [hline, Bool.eq_false_iff]
  intro hcomment
  obtain ⟨tail, htail⟩ := List.isPrefixOf_iff_prefix.mp hcomment
  exact hc ((List.cons.inj htail).1 ▸ by decide)

/-- A line that sets a property closes a block only if it is mistaken. -/
theorem closesBlock_settingLine :
    closesBlock (settingLine name expression) = isMistaken (settingLine name expression) := by
  obtain ⟨c, rest, hline, hc⟩ := exists_settingLine_cons h expression
  have hhead : ∀ d ∈ Brackets.specials, ((c :: rest).head? == some d) = false := by
    intro d hd
    rw [beq_eq_false_iff_ne]
    exact fun he => hc (Option.some.inj he ▸ hd)
  have hcall : (c :: rest == ");".toList) = false := by
    rw [beq_eq_false_iff_ne]
    exact fun he => hc ((List.cons.inj he).1 ▸ by decide)
  rw [hline, closesBlock, isMistaken, hcall, bne, hhead '\x7d' (by decide), hhead ']' (by decide),
    Bool.false_or, Bool.false_or, Bool.false_or, Bool.not_false, Bool.and_true]

/-- The blanks around the equals sign tell the line from a header. -/
theorem isBareHeader_settingLine : isBareHeader (settingLine name expression) = false := by
  have hwords : ∀ word ∈ headerWords, '=' ∉ word := by decide
  rw [Bool.eq_false_iff]
  intro hheader
  obtain ⟨word, hword, blanks, inside, hline, hblanks, -⟩ := exists_of_isBareHeader hheader
  have hbefore : '=' ∉ word ++ blanks := by
    rw [List.mem_append, not_or]
    exact ⟨hwords word hword, fun hm => absurd (hblanks _ hm) (by decide)⟩
  have hname : '(' ∉ name ++ " = " := by
    rw [List.mem_append, not_or]
    exact ⟨fun hm => h.plain _ hm (by decide), by decide⟩
  -- the first equals sign stands before the first bracket in one line, and behind it in the other
  rcases List.append_eq_append_iff.mp hline with ⟨tail, htail, -⟩ | ⟨tail, htail, hinside⟩
  · refine hbefore (htail ▸ ?_)
    simp
  · cases tail with
    | nil =>
      rw [List.append_nil] at htail
      exact hbefore (htail ▸ by simp)
    | cons c tail =>
      obtain ⟨rfl, -⟩ := List.cons.inj hinside
      exact hname (htail ▸ by simp)

end SettingLine

namespace Lines

/-- Lines that lead from some open blocks to others, with the statements that they begin and the
properties that they set, each in the blocks that are open at its line. -/
inductive Lays : Nat → Lines → List (Nat × Text) → Nat → Prop
  | nil {opened : Nat} : Lays opened [] [] opened
  | opening {opened closed : Nat} {rest : Lines} {set : List (Nat × Text)} :
      Lays (opened + 1) rest set closed → Lays opened (openingBrace :: rest) set closed
  | closing {opened closed : Nat} {back : Text} {rest : Lines} {set : List (Nat × Text)} :
      Calm ('\x7d' :: back) → Lays opened rest set closed →
      Lays (opened + 1) (('\x7d' :: back) :: rest) set closed
  | setting {opened closed : Nat} {name expression : Text} {rest : Lines}
      {set : List (Nat × Text)} : 0 < opened → IsPlainName name →
      Calm (settingLine name expression) → Lays opened rest set closed →
      Lays opened (settingLine name expression :: rest) ((opened, name) :: set) closed
  | statement {opened closed : Nat} {statement line : Text} {rest : Lines}
      {set : List (Nat × Text)} : Begins statement line → Lays opened rest set closed →
      Lays opened (line :: rest) ((opened, statement) :: set) closed

namespace Lays

variable {opened middle closed : Nat} {lines others : Lines} {set more : List (Nat × Text)}

theorem append (h : Lays opened lines set middle) (ho : Lays middle others more closed) :
    Lays opened (lines ++ others) (set ++ more) closed := by
  induction h with
  | nil => exact ho
  | opening _ ih => exact .opening (ih ho)
  | closing hcalm _ ih => exact .closing hcalm (ih ho)
  | setting hpos hname hcalm _ ih => exact .setting hpos hname hcalm (ih ho)
  | statement hbegins _ ih => exact .statement hbegins (ih ho)

end Lays
end Lines

/-! ### Where the layout is exact -/

namespace Depth

variable {before : Depth} {line : Text} {opened : Nat}

/-- The depth is the number of open blocks, and no header stands before the next line. -/
structure Exact (opened : Nat) (before : Depth) : Prop where
  depth : before.depth = opened
  previous : isBareHeader before.previous = false

theorem after_depth_of_calm (before : Depth) (hcalm : Calm line) (h : isComment line = false) :
    (before.after line).depth = before.ofLine line := by
  simp [after, h, hcalm.opens, hcalm.calls]

theorem Exact.after_opening (h : before.Exact opened) :
    (before.after openingBrace).Exact (opened + 1) :=
  ⟨congrArg (· + 1) h.depth, steady_openingBrace.header⟩

theorem Exact.after_closing {back : Text} (h : before.Exact (opened + 1))
    (hcalm : Calm ('\x7d' :: back)) : (before.after ('\x7d' :: back)).Exact opened where
  depth := by
    rw [after_depth_of_calm before hcalm rfl, ofLine_closing, h.depth, Nat.add_sub_cancel]
  previous := not_isBareHeader_of_head? rfl (by decide)

theorem ofLine_of_not_closes (before : Depth) (h : closesBlock line = false) :
    before.ofLine line = before.depth := by
  rw [ofLine, h, Bool.and_false, if_neg Bool.false_ne_true]

theorem Exact.after_statement {statement : Text} (h : before.Exact opened)
    (hbegins : Begins statement line) : (before.after line).Exact opened where
  depth := by
    rw [after_depth_of_calm before hbegins.toCalm hbegins.comment,
      ofLine_of_not_closes before hbegins.closes, h.depth]
  previous := hbegins.header

theorem Exact.landmark?_statement {statement : Text} (h : before.Exact opened)
    (hbegins : Begins statement line) (htrim : trim line = line) (offset : Nat) :
    landmark? (List.replicate (offset + before.spaces line) ' ' ++ line) =
      some (offset + indentWidth * opened, statement) := by
  rw [landmark?_rendered _ htrim, hbegins.label, spaces_eq h.previous,
    ofLine_of_not_closes before hbegins.closes, h.depth]
  rfl

theorem ofLine_settingLine {name : Text} (before : Depth) (hname : IsPlainName name)
    (expression : Text) :
    before.ofLine (settingLine name expression) =
      if isMistaken (settingLine name expression) then before.depth - 1 else before.depth := by
  rw [ofLine, isComment_settingLine hname, closesBlock_settingLine hname]
  rfl

theorem Exact.after_setting {name expression : Text} (h : before.Exact opened)
    (hname : IsPlainName name) (hcalm : Calm (settingLine name expression))
    (hright : isMistaken (settingLine name expression) = false) :
    (before.after (settingLine name expression)).Exact opened where
  depth := by
    rw [after_depth_of_calm before hcalm (isComment_settingLine hname expression),
      ofLine_settingLine before hname, hright, if_neg Bool.false_ne_true, h.depth]
  previous := isBareHeader_settingLine hname expression

end Depth

namespace Lines.Lays

variable {opened closed : Nat} {lines : Lines} {set : List (Nat × Text)} {before : Depth}

theorem isMistaken_openingBrace : isMistaken openingBrace = false := by decide

/-- Statements and properties stand at the margins of the blocks around them exactly if no line is
mistaken: the first one that is stands too far out. -/
theorem filterMap_landmark?_iff (h : Lays opened lines set closed) (offset : Nat)
    (htrimmed : Trimmed lines) (hbefore : before.Exact opened) :
    (∀ line ∈ lines, isMistaken line = false) ↔
      (renderFrom offset before lines).filterMap landmark? =
        set.map fun setting => (offset + indentWidth * setting.1, setting.2) := by
  induction h generalizing before with
  | nil => simp [renderFrom]
  | @opening _ _ rest _ _ ih =>
    obtain ⟨hline, hrest⟩ := List.forall_mem_cons.mp htrimmed
    rw [renderFrom, if_neg (by decide), List.filterMap_cons_none
      (by rw [landmark?_rendered _ hline.2, label?_openingBrace]; rfl), List.forall_mem_cons,
      ih hrest hbefore.after_opening]
    simp [isMistaken_openingBrace]
  | @closing _ _ back rest _ hcalm _ ih =>
    obtain ⟨hline, hrest⟩ := List.forall_mem_cons.mp htrimmed
    have hright : isMistaken ('\x7d' :: back) = false := by simp [isMistaken]
    rw [renderFrom, if_neg (List.cons_ne_nil _ _), List.filterMap_cons_none
      (by rw [landmark?_rendered _ hline.2, label?_closing]; rfl), List.forall_mem_cons,
      ih hrest (hbefore.after_closing hcalm)]
    simp [hright]
  | @setting opened _ name expression rest set hpos hname hcalm _ ih =>
    obtain ⟨hline, hrest⟩ := List.forall_mem_cons.mp htrimmed
    have hne : settingLine name expression ≠ [] := by simp [settingLine]
    have hlandmark : landmark? (List.replicate
          (offset + before.spaces (settingLine name expression)) ' ' ++
            settingLine name expression) =
        some (offset + indentWidth * before.ofLine (settingLine name expression), name) := by
      rw [landmark?_rendered _ hline.2, label?_settingLine hname,
        Depth.spaces_eq hbefore.previous]
      rfl
    rw [renderFrom, if_neg hne, List.filterMap_cons_some hlandmark, List.forall_mem_cons,
      List.map_cons, List.cons.injEq, Prod.mk.injEq, Depth.ofLine_settingLine before hname,
      hbefore.depth]
    cases hmistaken : isMistaken (settingLine name expression) with
    | true =>
      refine iff_of_false (fun h => Bool.noConfusion h.1) fun h => ?_
      have hmargin := h.1.1
      rw [if_pos rfl, indentWidth] at hmargin
      omega
    | false =>
      rw [ih hrest (hbefore.after_setting hname hcalm hmistaken)]
      simp
  | @statement opened _ statement line rest _ hbegins _ ih =>
    obtain ⟨hline, hrest⟩ := List.forall_mem_cons.mp htrimmed
    rw [renderFrom, if_neg hbegins.ne_nil,
      List.filterMap_cons_some (hbefore.landmark?_statement hbegins hline.2 offset),
      List.forall_mem_cons, ih hrest (hbefore.after_statement hbegins)]
    simp [hbegins.not_isMistaken]

end Lines.Lays

end SessionReplay.Program
