import SessionReplay.Proofs.Text.Line
import SessionReplay.Text.UpperCase

/-!
# Characters in upper case

The upper case of a character is the character itself or looked up. What is looked up are ASCII
capitals and characters beyond ASCII, and no blanks among them.
-/

namespace SessionReplay.Text

def IsUpperCode (code : Nat) : Prop :=
  (∃ entry ∈ upperSequences, code ∈ entry.2) ∨
    ∃ run ∈ upperRuns, run.first + run.shift ≤ code ∧ (code : Int) ≤ run.last + run.shift

/-- Looked-up code points are those of capital letters, or beyond the brackets of ASCII. -/
theorem upperRuns_beyond : ∀ run ∈ upperRuns,
    0x7D < run.first + run.shift ∨ 0x41 ≤ run.first + run.shift ∧ run.last + run.shift ≤ 0x5A := by
  decide +kernel

theorem upperSequences_beyond : ∀ entry ∈ upperSequences,
    ∀ code ∈ entry.2, 0x7D < code ∨ 0x41 ≤ code ∧ code ≤ 0x5A := by
  decide +kernel

theorem IsUpperCode.beyond {code : Nat} (h : IsUpperCode code) :
    0x7D < code ∨ 0x41 ≤ code ∧ code ≤ 0x5A := by
  rcases h with ⟨entry, hentry, hcode⟩ | ⟨run, hrun, hfirst, hlast⟩
  · exact upperSequences_beyond entry hentry code hcode
  · have hbeyond := upperRuns_beyond run hrun
    omega

/-- A character of the upper case is the character itself or looked up. -/
theorem mem_upper {c d : Char} (h : d ∈ upper c) :
    d = c ∨ ∃ code, IsUpperCode code ∧ d = Char.ofNat code := by
  simp only [upper] at h
  split at h
  next codes hcodes =>
    obtain ⟨before, behind, hentry, -⟩ := List.lookup_eq_some_iff.mp hcodes
    obtain ⟨code, hcode, rfl⟩ := List.mem_map.mp h
    exact .inr ⟨code, .inl ⟨(c.toNat, codes), by simp [hentry], hcode⟩, rfl⟩
  next =>
    split at h
    next run hrun =>
      have hmem := List.mem_of_find?_eq_some hrun
      have hbeyond := upperRuns_beyond run hmem
      have hcovers := List.find?_some hrun
      simp only [CaseRun.covers, Bool.and_eq_true, decide_eq_true_eq] at hcovers
      exact .inr ⟨_, .inr ⟨run, hmem, by omega, by omega⟩, List.mem_singleton.mp h⟩
    next => exact .inl (List.mem_singleton.mp h)

theorem upperSequences_ne_nil : ∀ entry ∈ upperSequences, entry.2 ≠ [] := by
  decide +kernel

theorem upper_ne_nil (c : Char) : upper c ≠ [] := by
  simp only [upper]
  split
  next codes hcodes =>
    obtain ⟨before, behind, hentry, -⟩ := List.lookup_eq_some_iff.mp hcodes
    intro hnil
    exact upperSequences_ne_nil (c.toNat, codes) (by simp [hentry]) (List.map_eq_nil_iff.mp hnil)
  next => split <;> exact List.cons_ne_nil _ _

theorem toNat_charOfNat (code : Nat) :
    (Char.ofNat code).toNat = code ∨ (Char.ofNat code).toNat = 0 := by
  by_cases hv : code.isValidChar
  · have hof : Char.ofNat code = Char.ofNatAux code hv := dif_pos hv
    rw [hof]
    exact .inl rfl
  · have hof : Char.ofNat code = ⟨0, .inl (by decide)⟩ := dif_neg hv
    rw [hof]
    exact .inr rfl

/-- Of the ASCII characters only capitals are the upper case of another character. -/
theorem eq_of_mem_upper {c d : Char} (h : d ∈ upper c) (hpos : 0 < d.toNat) (hle : d.toNat ≤ 0x7D)
    (hcapital : ¬ (0x41 ≤ d.toNat ∧ d.toNat ≤ 0x5A)) : d = c := by
  refine (mem_upper h).resolve_right ?_
  rintro ⟨code, hcode, rfl⟩
  have hbeyond := hcode.beyond
  have hof := toNat_charOfNat code
  omega

/-- What upper case keeps of a character, capitalizing keeps of all characters of a text. -/
theorem forall_mem_capitalize {P : Char → Prop} (hupper : ∀ {c}, P c → ∀ d ∈ upper c, P d)
    {text : Text} (h : ∀ c ∈ text, P c) : ∀ d ∈ capitalize text, P d := by
  cases text with
  | nil => exact h
  | cons c rest =>
    intro d hd
    rcases List.mem_append.mp hd with hd | hd
    · exact hupper (h c List.mem_cons_self) d hd
    · exact h d (List.mem_cons_of_mem _ hd)

/-! ### Blanks -/

def blankCodes : List Nat :=
  [0x9, 0xA, 0xB, 0xC, 0xD, 0x1C, 0x1D, 0x1E, 0x1F, 0x20, 0x85, 0xA0, 0x1680, 0x2000, 0x2001, 0x2002,
    0x2003, 0x2004, 0x2005, 0x2006, 0x2007, 0x2008, 0x2009, 0x200A, 0x2028, 0x2029, 0x202F, 0x205F,
    0x3000]

theorem mem_blankCodes {c : Char} (h : isBlank c = true) : c.toNat ∈ blankCodes := by
  simp only [isBlank, isWhiteSpace, Bool.or_eq_true, Bool.and_eq_true, decide_eq_true_eq,
    beq_iff_eq] at h
  simp only [blankCodes, List.mem_cons, List.not_mem_nil, or_false]
  omega

/-- No character in upper case is a blank. -/
theorem upperRuns_not_blank : ∀ run ∈ upperRuns, ∀ code ∈ blankCodes,
    (code : Int) < run.first + run.shift ∨ run.last + run.shift < (code : Int) := by
  decide +kernel

theorem upperSequences_not_blank : ∀ entry ∈ upperSequences, ∀ code ∈ entry.2,
    code ∉ blankCodes := by
  decide +kernel

theorem IsUpperCode.not_blank {code : Nat} (h : IsUpperCode code) : code ∉ blankCodes := by
  rcases h with ⟨entry, hentry, hcode⟩ | ⟨run, hrun, hfirst, hlast⟩
  · exact upperSequences_not_blank entry hentry code hcode
  · intro hblank
    have hrange := upperRuns_not_blank run hrun code hblank
    omega

theorem isBlank_ofNat {code : Nat} (h : code ∉ blankCodes) : isBlank (Char.ofNat code) = false := by
  rw [Bool.eq_false_iff]
  intro hblank
  have hmem := mem_blankCodes hblank
  rcases toNat_charOfNat code with hof | hof
  · exact h (hof ▸ hmem)
  · rw [hof] at hmem
    exact absurd hmem (by decide)

theorem isWord_upper {c : Char} (h : isBlank c = false) : IsWord (upper c) := by
  intro d hd
  rcases mem_upper hd with rfl | ⟨code, hcode, rfl⟩
  · exact h
  · exact isBlank_ofNat hcode.not_blank

end SessionReplay.Text
