import SessionReplay.File.Directory
import SessionReplay.Proofs.Result

/-!
# What stands at a place

An entry that is put at a place stands there afterwards, and nothing else is another thing. A path
leads to a place along directories, so the place lies in a directory that is there, and as long as no
directory goes away the path leads to the same place.
-/

namespace SessionReplay.Directory

variable {directory before after : Directory} {path : Path} {place here : Place} {entry : FileEntry}

/-! ### Entries -/

theorem lookup_filter_ne {other : Place} (h : other ≠ place) (entries : List (Place × FileEntry)) :
    (entries.filter fun entry => entry.1 ≠ place).lookup other = entries.lookup other := by
  induction entries with
  | nil => rfl
  | cons first rest ih =>
    by_cases hfirst : first.1 = place
    · have hother : (other == first.1) = false := beq_eq_false_iff_ne.mpr (hfirst ▸ h)
      rw [List.filter_cons_of_neg (by simpa using hfirst), ih, List.lookup_cons, hother]
    · rw [List.filter_cons_of_pos (by simpa using hfirst), List.lookup_cons, List.lookup_cons, ih]

/-- A place above the working directory or the root is a directory; any other is known by its own
entry or by that of something in it. -/
theorem isDirectory_iff : directory.isDirectory place = true ↔
    (∀ name ∈ place, name = upName) ∨ place = [rootName] ∨
      ∃ known ∈ directory.entries, place <+: known.1 ∧
        (place.length < known.1.length ∨ known.2 = .directory) := by
  simp only [isDirectory, Bool.or_eq_true, Bool.and_eq_true, List.all_eq_true, List.any_eq_true,
    beq_iff_eq, List.isPrefixOf_iff_prefix, decide_eq_true_eq, or_assoc]
  refine or_congr_right (or_congr_right (exists_congr fun known => ?_))
  cases known.2 <;> simp

theorem isDirectory_of_prefix {above : Place} (h : directory.isDirectory place = true)
    (hbegins : above <+: place) : directory.isDirectory above = true := by
  rw [isDirectory_iff] at h ⊢
  obtain hup | hroot | ⟨known, hknown, hplace, hin⟩ := h
  · exact .inl fun name hname => hup name (hbegins.mem hname)
  · subst hroot
    cases List.prefix_cons_iff.mp hbegins with
    | inl hnil => exact .inl fun name hname => absurd hname (hnil ▸ List.not_mem_nil)
    | inr hcons =>
      obtain ⟨rest, rfl, hrest⟩ := hcons
      exact .inr (.inl (congrArg _ (List.prefix_nil.mp hrest)))
  · have hlength := hbegins.length_le
    exact .inr (.inr ⟨known, hknown, hbegins.trans hplace, hin.imp_left (Nat.lt_of_le_of_lt hlength)⟩)

theorem found?_eq_directory_iff :
    directory.found? place = some .directory ↔ directory.isDirectory place = true := by
  unfold found?
  constructor
  · intro h
    split at h
    · assumption
    · obtain ⟨earlier, later, hentries, -⟩ := List.lookup_eq_some_iff.mp h
      have hknown : (place, FileEntry.directory) ∈ directory.entries := by simp [hentries]
      exact isDirectory_iff.mpr (.inr (.inr ⟨_, hknown, List.prefix_rfl, .inr rfl⟩))
  · exact fun h => if_pos h

/-! ### Putting an entry -/

def Lies (directory : Directory) (place : Place) : Prop :=
  ∀ above, above <+: place → above ≠ place → directory.isDirectory above = true

theorem mem_entries_put {known : Place × FileEntry} : known ∈ (directory.put place entry).entries ↔
    known = (place, entry) ∨ known ∈ directory.entries ∧ known.1 ≠ place := by
  simp [put]

/-- Where there was no directory, an entry makes directories of what its place lies in, and of the
place if it is that of a directory. -/
theorem isDirectory_put (hfree : directory.isDirectory place = false) (other : Place) :
    (directory.put place entry).isDirectory other = true ↔
      directory.isDirectory other = true ∨ other <+: place ∧ (other ≠ place ∨ entry = .directory) := by
  have hlt (hbegins : other <+: place) : other ≠ place ↔ other.length < place.length :=
    ⟨fun hne => Nat.lt_of_le_of_ne hbegins.length_le (hne <| hbegins.eq_of_length ·),
      fun hlt heq => Nat.ne_of_lt hlt (congrArg List.length heq)⟩
  constructor
  · intro h
    obtain hup | hroot | ⟨known, hknown, hbegins, hin⟩ := isDirectory_iff.mp h
    · exact .inl (isDirectory_iff.mpr (.inl hup))
    · exact .inl (isDirectory_iff.mpr (.inr (.inl hroot)))
    · cases mem_entries_put.mp hknown with
      | inl hnew =>
        subst hnew
        exact .inr ⟨hbegins, hin.imp_left (hlt hbegins).mpr⟩
      | inr hold => exact .inl (isDirectory_iff.mpr (.inr (.inr ⟨known, hold.1, hbegins, hin⟩)))
  · rintro (h | ⟨hbegins, hin⟩)
    · rw [isDirectory_iff] at h ⊢
      refine h.imp_right (Or.imp_right ?_)
      rintro ⟨known, hknown, hbegins, hin⟩
      by_cases hplace : known.1 = place
      · -- The entry that is replaced is none of a directory, so it told of one above it.
        subst hplace
        have hnot : known.2 ≠ .directory := fun hdirectory => by
          rw [isDirectory_iff.mpr (.inr (.inr ⟨known, hknown, List.prefix_rfl, .inr hdirectory⟩))]
            at hfree
          cases hfree
        exact ⟨(known.1, entry), mem_entries_put.mpr (.inl rfl), hbegins, .inl (hin.resolve_right hnot)⟩
      · exact ⟨known, mem_entries_put.mpr (.inr ⟨hknown, hplace⟩), hbegins, hin⟩
    · refine isDirectory_iff.mpr (.inr (.inr ⟨(place, entry), mem_entries_put.mpr (.inl rfl), ?_⟩))
      exact ⟨hbegins, hin.imp_left (hlt hbegins).mp⟩

theorem found?_put_self (hfree : directory.isDirectory place = false) :
    (directory.put place entry).found? place = some entry := by
  by_cases hentry : entry = .directory
  · subst hentry
    exact found?_eq_directory_iff.mpr
      ((isDirectory_put hfree place).mpr (.inr ⟨List.prefix_rfl, .inr rfl⟩))
  · have hnot : (directory.put place entry).isDirectory place = false := by
      rw [← Bool.not_eq_true, isDirectory_put hfree]
      simp [hfree, hentry]
    rw [found?, hnot, put, List.lookup_cons_self]
    rfl

theorem found?_put_of_ne (hfree : directory.isDirectory place = false) (hlies : directory.Lies place)
    {other : Place} (hne : other ≠ place) :
    (directory.put place entry).found? other = directory.found? other := by
  have hdirectory : (directory.put place entry).isDirectory other = directory.isDirectory other := by
    rw [Bool.eq_iff_iff, isDirectory_put hfree]
    exact or_iff_left_of_imp fun h => hlies other h.1 hne
  have hlookup : (directory.put place entry).entries.lookup other = directory.entries.lookup other := by
    rw [put, List.lookup_cons, beq_eq_false_iff_ne.mpr hne, lookup_filter_ne hne]
  rw [found?, found?, hdirectory, hlookup]

/-! ### Where paths lead -/

theorem problemWith_eq_none_iff {name : Text} : directory.problemWith here name = none ↔
    directory.isDirectory here = true ∧ name.toUtf8.length ≤ nameBytes := by
  rw [← found?_eq_directory_iff, ← Nat.not_lt, problemWith]
  cases directory.found? here with
  | none => simp
  | some entry => cases entry <;> simp

theorem follow_cons_eq_ok_iff {name : Text} {rest : List Text} :
    directory.follow here (name :: rest) = .ok place ↔
      directory.isDirectory here = true ∧ name.toUtf8.length ≤ nameBytes ∧
        directory.follow (here.enter name) rest = .ok place := by
  rw [← and_assoc, ← problemWith_eq_none_iff, follow]
  cases directory.problemWith here name <;> simp

theorem follow_append {names rest : List Text} (h : directory.follow here names = .ok place) :
    directory.follow here (names ++ rest) = directory.follow place rest := by
  induction names generalizing here with
  | nil => exact Except.ok.inj h ▸ rfl
  | cons name names ih =>
    obtain ⟨hhere, hname, hfollow⟩ := follow_cons_eq_ok_iff.mp h
    rw [List.cons_append, follow, problemWith_eq_none_iff.mpr ⟨hhere, hname⟩]
    exact ih hfollow

theorem enter_of_ne {name : Text} (h : name ≠ upName) : here.enter name = here ++ [name] := if_neg h

/-- A name leads to a place that lies in the directory before it or above that. -/
theorem lies_enter (h : directory.isDirectory here = true) (name : Text) :
    directory.Lies (here.enter name) := by
  have habove : ∀ last : Text, directory.Lies (here ++ [last]) := by
    intro last above hbegins hne
    exact isDirectory_of_prefix h ((List.prefix_concat_iff.mp hbegins).resolve_left hne)
  have hthere : ∀ other, other <+: here → directory.Lies other := fun other hother above hbegins _ =>
    isDirectory_of_prefix h (hbegins.trans hother)
  unfold Place.enter
  split
  · split
    · exact hthere here List.prefix_rfl
    · split
      · exact habove upName
      · exact hthere _ (List.dropLast_prefix here)
  · exact habove name

theorem lies_of_follow {names : List Text} (hlies : directory.Lies here)
    (h : directory.follow here names = .ok place) : directory.Lies place := by
  induction names generalizing here with
  | nil => exact Except.ok.inj h ▸ hlies
  | cons name rest ih =>
    obtain ⟨hhere, -, hfollow⟩ := follow_cons_eq_ok_iff.mp h
    exact ih (lies_enter hhere name) hfollow

theorem isDirectory_start (directory : Directory) (start : PathStart) :
    directory.isDirectory start.place = true := by
  cases start <;> rfl

theorem failOn_eq_ok_iff {problem : Option PathProblem} {result : Unit} :
    failOn path problem = .ok result ↔ problem = none := by
  cases problem <;> simp [failOn]

theorem place_eq_ok_iff : directory.place path = .ok place ↔
    directory.refuses .look path = none ∧ path.text.toUtf8.length ≤ pathBytes ∧
      directory.follow path.start.place path.names = .ok place := by
  constructor
  · intro h
    obtain ⟨_, hlook, h⟩ := exists_of_bind_eq_ok h
    obtain ⟨_, hlength, h⟩ := exists_of_bind_eq_ok h
    rw [failOn_eq_ok_iff] at hlook hlength
    exact ⟨hlook, by simpa using hlength, of_mapError_eq_ok h⟩
  · rintro ⟨hlook, hlength, hfollow⟩
    rw [Directory.place, hlook, if_neg (Nat.not_lt.mpr hlength), hfollow]
    rfl

theorem lies_of_place (h : directory.place path = .ok place) : directory.Lies place :=
  lies_of_follow (fun _ hbegins _ => isDirectory_of_prefix (isDirectory_start _ _) hbegins)
    (place_eq_ok_iff.mp h).2.2

theorem see_of_place (h : directory.place path = .ok place) :
    directory.see path = .ok (directory.found? place) := by
  rw [see, h]

/-! ### Directories that are made -/

/-- Directories have been made: whatever was there is there as it was. -/
structure Extends (after before : Directory) : Prop where
  found? (place : Place) : after.found? place = before.found? place ∨
    before.found? place = none ∧ after.found? place = some .directory
  refuses : after.refuses = before.refuses

namespace Extends

theorem refl (directory : Directory) : directory.Extends directory := ⟨fun _ => .inl rfl, rfl⟩

theorem trans {middle : Directory} (hafter : after.Extends middle) (hmiddle : middle.Extends before) :
    after.Extends before := by
  refine ⟨fun place => ?_, hafter.refuses.trans hmiddle.refuses⟩
  obtain hlater | ⟨hnone, hlater⟩ := hafter.found? place
  · rw [hlater]
    exact hmiddle.found? place
  · obtain hsame | ⟨-, hdirectory⟩ := hmiddle.found? place
    · exact .inr ⟨hsame ▸ hnone, hlater⟩
    · cases hnone.symm.trans hdirectory

theorem isDirectory (h : after.Extends before) (hbefore : before.isDirectory place = true) :
    after.isDirectory place = true := by
  rw [← found?_eq_directory_iff] at hbefore ⊢
  obtain hsame | ⟨hnone, -⟩ := h.found? place
  · exact hsame.trans hbefore
  · cases hnone.symm.trans hbefore

end Extends

/-- A path leads where it led as long as no directory goes away. -/
theorem follow_of_isDirectory
    (h : ∀ place, before.isDirectory place = true → after.isDirectory place = true)
    {names : List Text} (hfollow : before.follow here names = .ok place) :
    after.follow here names = .ok place := by
  induction names generalizing here with
  | nil => exact hfollow
  | cons name rest ih =>
    obtain ⟨hhere, hname, hfollow⟩ := follow_cons_eq_ok_iff.mp hfollow
    exact follow_cons_eq_ok_iff.mpr ⟨h here hhere, hname, ih hfollow⟩

theorem place_of_isDirectory
    (h : ∀ place, before.isDirectory place = true → after.isDirectory place = true)
    (hrefuses : after.refuses = before.refuses) (hplace : before.place path = .ok place) :
    after.place path = .ok place := by
  rw [place_eq_ok_iff] at hplace ⊢
  exact ⟨hrefuses ▸ hplace.1, hplace.2.1, follow_of_isDirectory h hplace.2.2⟩

end SessionReplay.Directory
