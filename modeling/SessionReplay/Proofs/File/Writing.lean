import SessionReplay.Proofs.File.Place

/-!
# What writing a file changes

A file is written at the place that its path leads to, once the directories above it are there.
Making directories leaves everything that is there as it is, so the path still leads to the same place
afterwards, and only the file at this place is another one. Writing succeeds where nothing is in the
way: the path goes along directories that are there and then along names of nothing, and nothing is
refused.
-/

namespace SessionReplay.Directory

variable {directory before after : Directory} {path : Path} {place here : Place}

/-! ### Making directories -/

theorem makeDirectory_eq_ok_iff : before.makeDirectory path = .ok after ↔
    ∃ place, before.place path = .ok place ∧ before.found? place = none ∧
      before.refuses .makeDirectory path = none ∧ before.put place .directory = after := by
  constructor
  · intro h
    obtain ⟨place, hplace, h⟩ := exists_of_bind_eq_ok h
    obtain ⟨_, hfree, h⟩ := exists_of_bind_eq_ok h
    obtain ⟨_, hrefuses, h⟩ := exists_of_bind_eq_ok h
    rw [failOn_eq_ok_iff] at hfree hrefuses
    exact ⟨place, hplace, by simpa using hfree, hrefuses, Except.ok.inj h⟩
  · rintro ⟨place, hplace, hfree, hrefuses, rfl⟩
    rw [makeDirectory, hplace]
    simp only [bind, Except.bind, hfree, hrefuses]
    rfl

theorem isDirectory_eq_false (h : directory.found? place ≠ some .directory) :
    directory.isDirectory place = false := by
  rw [← Bool.not_eq_true, ← found?_eq_directory_iff]
  exact h

theorem extends_of_makeDirectory (h : before.makeDirectory path = .ok after) :
    after.Extends before := by
  obtain ⟨place, hplace, hfree, -, rfl⟩ := makeDirectory_eq_ok_iff.mp h
  have hnot : before.isDirectory place = false := isDirectory_eq_false (by simp [hfree])
  refine ⟨fun other => ?_, rfl⟩
  by_cases hother : other = place
  · subst hother
    exact .inr ⟨hfree, found?_put_self hnot⟩
  · exact .inl (found?_put_of_ne hnot (lies_of_place hplace) hother)

theorem extends_of_ensureDirectory (h : before.ensureDirectory path = .ok after) :
    after.Extends before := by
  rw [ensureDirectory] at h
  split at h
  · rename_i made hmade
    cases h
    exact extends_of_makeDirectory hmade
  · split at h <;> cases h
    exact .refl before

theorem extends_changed {made : Except PathFault Directory}
    (h : ∀ after, made = .ok after → after.Extends before) :
    (before.changed made).directory.Extends before := by
  cases made with
  | ok after => exact h after rfl
  | error fault => exact .refl before

theorem Changed.extends_andThen {changed : Changed} {change : Directory → Except PathFault Directory}
    (hchanged : changed.directory.Extends before)
    (hchange : ∀ middle after, change middle = .ok after → after.Extends middle) :
    (changed.andThen change).directory.Extends before := by
  rw [andThen]
  split
  · exact hchanged
  · exact (extends_changed (hchange _)).trans hchanged

theorem extends_ensureDirectories (depth : Nat) (directory : Directory) (path : Path) :
    (ensureDirectories depth directory path).directory.Extends directory := by
  induction depth generalizing path with
  | zero => exact extends_changed fun _ => extends_of_ensureDirectory
  | succ depth ih =>
    rw [ensureDirectories]
    split
    · exact Changed.extends_andThen (ih path.parent) fun _ _ => extends_of_ensureDirectory
    · exact extends_changed fun _ => extends_of_ensureDirectory

/-! ### The file that is written -/

theorem writeFile_eq_ok_iff {data : List UInt8} : before.writeFile path data = .ok after ↔
    ∃ place, before.place path = .ok place ∧
      (∀ entry, before.found? place = some entry → ∃ old, entry = .bytes old) ∧
      before.refuses .write path = none ∧ before.put place (.bytes data) = after := by
  constructor
  · intro h
    obtain ⟨place, hplace, h⟩ := exists_of_bind_eq_ok h
    split at h
    · cases h
    · rename_i hopened
      obtain ⟨_, hrefuses, h⟩ := exists_of_bind_eq_ok h
      refine ⟨place, hplace, fun entry hentry => ?_, failOn_eq_ok_iff.mp hrefuses, Except.ok.inj h⟩
      rw [hentry] at hopened
      cases entry with
      | directory => exact absurd rfl (hopened .isDirectory)
      | bytes old => exact ⟨old, rfl⟩
      | closed problem => exact absurd rfl (hopened problem)
  · rintro ⟨place, hplace, hentry, hrefuses, rfl⟩
    rw [writeFile, hplace]
    simp only [bind, Except.bind, hrefuses]
    cases hthere : before.found? place with
    | none => rfl
    | some entry =>
      obtain ⟨old, rfl⟩ := hentry entry hthere
      rfl

/-- The file at a path has been written: it holds the data, and everything else that was there is
there as it was. -/
structure Wrote (path : Path) (data : List UInt8) (before after : Directory) : Prop where
  see : after.see path = .ok (some (.bytes data))
  others : ∃ place, after.place path = .ok place ∧
    ∀ other, other ≠ place → after.found? other = before.found? other ∨
      before.found? other = none ∧ after.found? other = some .directory

theorem wrote_of_writeFile {data : List UInt8} (h : before.writeFile path data = .ok after) :
    Wrote path data before after := by
  obtain ⟨place, hplace, hentry, -, rfl⟩ := writeFile_eq_ok_iff.mp h
  have hfree : before.isDirectory place = false := isDirectory_eq_false fun hdirectory =>
    FileEntry.noConfusion (hentry _ hdirectory).choose_spec
  have hkeeps : ∀ other, before.isDirectory other = true →
      (before.put place (.bytes data)).isDirectory other = true := fun other hother =>
    (isDirectory_put hfree other).mpr (.inl hother)
  have hthere := place_of_isDirectory hkeeps rfl hplace
  constructor
  · rw [see_of_place hthere, found?_put_self hfree]
  · exact ⟨place, hthere, fun other hother =>
      .inl (found?_put_of_ne hfree (lies_of_place hplace) hother)⟩

theorem Wrote.of_extends {first : Directory} {data : List UInt8} (h : Wrote path data before after)
    (hbefore : before.Extends first) : Wrote path data first after := by
  obtain ⟨place, hplace, hothers⟩ := h.others
  refine ⟨h.see, place, hplace, fun other hother => ?_⟩
  obtain hsame | ⟨hnone, hlater⟩ := hothers other hother
  · rw [hsame]
    exact hbefore.found? other
  · obtain hfirst | ⟨-, hdirectory⟩ := hbefore.found? other
    · exact .inr ⟨hfirst ▸ hnone, hlater⟩
    · cases hnone.symm.trans hdirectory

theorem Changed.eq_ok_of_andThen {changed : Changed} {change : Directory → Except PathFault Directory}
    (h : (changed.andThen change).fault = none) :
    change changed.directory = .ok (changed.andThen change).directory := by
  rw [andThen] at h ⊢
  split at h
  · rename_i hfault
    cases hfault.symm.trans h
  · cases hchange : change changed.directory with
    | ok after => rfl
    | error fault =>
      rw [hchange] at h
      cases h

/-- Unless it fails, writing changes the file at the path and no other. -/
theorem wrote_write {data : List UInt8} (h : (before.write path data).fault = none) :
    Wrote path data before (before.write path data).directory :=
  (wrote_of_writeFile (Changed.eq_ok_of_andThen h)).of_extends (extends_ensureDirectories _ _ _)

end SessionReplay.Directory
