import Mathlib.Data.List.Induction
import SessionReplay.Proofs.File.Writing

/-!
# When writing succeeds

A file can be written where the way to it is clear: the path goes along directories that are there,
and from one of them along names behind which there is nothing yet, but perhaps a file at the end.
Then the directories on the way are made one after the other, and the file is written into the last.
-/

namespace SessionReplay

theorem Text.join_prefix (separator : Text) {pieces more : List Text} (h : pieces <+: more) :
    join separator pieces <+: join separator more := by
  induction pieces generalizing more with
  | nil => exact List.nil_prefix
  | cons piece rest ih =>
    obtain ⟨others, rfl⟩ := h
    rw [List.cons_append]
    cases hothers : rest ++ others with
    | nil =>
      obtain ⟨rfl, -⟩ := List.append_eq_nil_iff.mp hothers
      exact List.prefix_rfl
    | cons next behind =>
      rw [join_cons_cons]
      cases rest with
      | nil =>
        rw [join_singleton, List.append_assoc]
        exact List.prefix_append _ _
      | cons second rest =>
        have hrest : second :: rest <+: next :: behind := hothers ▸ List.prefix_append _ _
        rw [join_cons_cons]
        exact (List.prefix_append_right_inj _).mpr (ih hrest)

/-- If a path is not too long, neither is one to a directory on its way. -/
theorem Path.length_text_le {start : PathStart} {names more : List Text} (h : names <+: more)
    (hlength : (text ⟨start, more⟩).toUtf8.length ≤ Directory.pathBytes) :
    (text ⟨start, names⟩).toUtf8.length ≤ Directory.pathBytes := by
  by_cases hhere : start = .workingDirectory ∧ names = []
  · rw [text, if_pos hhere]
    decide
  · have hmore : ¬ (start = .workingDirectory ∧ more = []) := fun hmore =>
      hhere ⟨hmore.1, List.prefix_nil.mp (hmore.2 ▸ h)⟩
    obtain ⟨rest, hrest⟩ := Text.join_prefix "/" h
    rw [text, if_neg hmore, ← hrest, ← List.append_assoc, Text.toUtf8, List.flatMap_append,
      List.length_append] at hlength
    rw [text, if_neg hhere, Text.toUtf8]
    exact Nat.le_of_add_right_le hlength

theorem Path.parent_append_concat (start : PathStart) (front made : List Text) (name : Text) :
    parent ⟨start, front ++ (made ++ [name])⟩ = ⟨start, front ++ made⟩ := by
  rw [parent, ← List.append_assoc, List.dropLast_concat]

namespace Directory

variable {directory before after : Directory} {path : Path} {place here : Place}
  {front more made : List Text}

/-- The way to a file is clear: after `front` there is a directory, and the other names are those of
nothing, or the last that of a file. -/
structure Clear (directory : Directory) (path : Path) (front more : List Text) (here : Place) :
    Prop where
  names : path.names = front ++ more
  follow : directory.follow path.start.place front = .ok here
  isDirectory : directory.isDirectory here = true
  ne_nil : more ≠ []
  plain : ∀ name ∈ more, name ≠ upName ∧ name.toUtf8.length ≤ nameBytes
  nothing : ∀ made, made <+: more → made ≠ [] → made ≠ more →
    directory.found? (here ++ made) = none
  last : ∀ entry, directory.found? (here ++ more) = some entry → ∃ data, entry = .bytes data
  length : path.text.toUtf8.length ≤ pathBytes
  mayLook : ∀ made, made <+: more → directory.refuses .look ⟨path.start, front ++ made⟩ = none
  mayMake : ∀ made, made <+: more → made ≠ [] → made ≠ more →
    directory.refuses .makeDirectory ⟨path.start, front ++ made⟩ = none
  mayWrite : directory.refuses .write path = none

/-- The way to a file is clear from some directory on. -/
def IsClear (directory : Directory) (path : Path) : Prop :=
  ∃ front more here, directory.Clear path front more here

theorem follow_eq_append (hplain : ∀ name ∈ more, name ≠ upName ∧ name.toUtf8.length ≤ nameBytes)
    (hthere : ∀ made, made <+: more → made ≠ more → directory.isDirectory (here ++ made) = true) :
    directory.follow here more = .ok (here ++ more) := by
  induction more generalizing here with
  | nil => rw [List.append_nil]; rfl
  | cons name rest ih =>
    obtain ⟨hname, hplain⟩ := List.forall_mem_cons.mp hplain
    have hhere : directory.isDirectory here = true := by
      simpa using hthere [] List.nil_prefix (List.cons_ne_nil _ _).symm
    refine follow_cons_eq_ok_iff.mpr ⟨hhere, hname.2, ?_⟩
    rw [enter_of_ne hname.1, ih hplain, List.append_assoc, List.singleton_append]
    intro made hmade hne
    have hnext := hthere (name :: made) ((List.prefix_cons_inj name).mpr hmade) (by simpa using hne)
    rwa [List.append_assoc, List.singleton_append]

theorem follow_eq_notFound {name : Text} (hhere : directory.isDirectory here = true)
    (hname : name ≠ upName ∧ name.toUtf8.length ≤ nameBytes) (hmore : more ≠ [])
    (hnothing : directory.found? (here ++ [name]) = none) :
    directory.follow here (name :: more) = .error .notFound := by
  rw [follow, problemWith_eq_none_iff.mpr ⟨hhere, hname.2⟩, enter_of_ne hname.1]
  obtain ⟨next, rest, rfl⟩ := List.exists_cons_of_ne_nil hmore
  simp only [follow, problemWith, hnothing]

theorem ensureDirectory_of_isDirectory (hplace : directory.place path = .ok place)
    (hthere : directory.isDirectory place = true) :
    directory.ensureDirectory path = .ok directory := by
  have hentry := found?_eq_directory_iff.mpr hthere
  have hmake : directory.makeDirectory path = .error ⟨.alreadyExists, path⟩ := by
    rw [makeDirectory, hplace]
    simp only [bind, Except.bind, hentry]
    rfl
  rw [ensureDirectory, hmake]
  simp only [see_of_place hplace, hentry]

namespace Clear

theorem length_le (h : directory.Clear path front more here) (hmade : made <+: more) :
    (Path.text ⟨path.start, front ++ made⟩).toUtf8.length ≤ pathBytes := by
  refine Path.length_text_le ?_ h.length
  rw [h.names]
  exact (List.prefix_append_right_inj front).mpr hmade

/-- Once the directories on the way are there, the path leads on to what is behind them. -/
theorem place_append (h : directory.Clear path front more here) (hextends : after.Extends directory)
    (hmade : made <+: more)
    (hthere : ∀ done, done <+: made → done ≠ made → after.isDirectory (here ++ done) = true) :
    after.place ⟨path.start, front ++ made⟩ = .ok (here ++ made) := by
  have hfront := follow_of_isDirectory (fun _ => hextends.isDirectory) h.follow
  refine place_eq_ok_iff.mpr ⟨?_, h.length_le hmade, ?_⟩
  · rw [hextends.refuses]
    exact h.mayLook made hmade
  · rw [follow_append hfront]
    exact follow_eq_append (fun name hname => h.plain name (hmade.mem hname)) hthere

theorem ensureDirectory_eq_notFound (h : directory.Clear path front more here) {name next : Text}
    {rest : List Text} (hmade : name :: next :: rest <+: more) :
    directory.ensureDirectory ⟨path.start, front ++ name :: next :: rest⟩ =
      .error ⟨.notFound, ⟨path.start, front ++ name :: next :: rest⟩⟩ := by
  have hname : [name] <+: more := .trans ⟨_, rfl⟩ hmade
  have hne : [name] ≠ more := by
    rintro rfl
    simpa using hmade.length_le
  have hfollow : directory.follow path.start.place (front ++ name :: next :: rest) =
      .error .notFound := by
    rw [follow_append h.follow]
    exact follow_eq_notFound h.isDirectory (h.plain name (hname.mem List.mem_cons_self))
      (List.cons_ne_nil _ _) (h.nothing [name] hname (List.cons_ne_nil _ _) hne)
  have hplace : directory.place ⟨path.start, front ++ name :: next :: rest⟩ =
      .error ⟨.notFound, ⟨path.start, front ++ name :: next :: rest⟩⟩ := by
    rw [Directory.place, h.mayLook _ hmade, if_neg (Nat.not_lt.mpr (h.length_le hmade)), hfollow]
    rfl
  rw [ensureDirectory, makeDirectory, see, hplace]
  rfl

theorem not_concat_prefix (names : List Text) (name : Text) : ¬ names ++ [name] <+: names := by
  intro h
  have hlength := h.length_le
  rw [List.length_append, List.length_singleton] at hlength
  omega

/-- The directories on the way to a place have been made, the place among them, and nothing else. -/
structure Made (place : Place) (before after : Directory) : Prop where
  extends_before : after.Extends before
  isDirectory : after.isDirectory place = true
  others : ∀ other, ¬ other <+: place → after.found? other = before.found? other

theorem Made.found?_concat (h : Made (here ++ made) directory before) (name : Text) :
    before.found? (here ++ (made ++ [name])) = directory.found? (here ++ (made ++ [name])) :=
  h.others _ (List.append_assoc here made [name] ▸ not_concat_prefix _ name)

/-- Behind directories that have been made, the path leads on by one name. -/
theorem place_concat (h : directory.Clear path front more here) {name : Text}
    (hmade : made ++ [name] <+: more) (hbefore : Made (here ++ made) directory before) :
    before.place ⟨path.start, front ++ (made ++ [name])⟩ = .ok (here ++ (made ++ [name])) := by
  refine h.place_append hbefore.extends_before hmade fun done hdone hlast => ?_
  have hdone : done <+: made := (List.prefix_concat_iff.mp hdone).resolve_left hlast
  exact isDirectory_of_prefix hbefore.isDirectory ((List.prefix_append_right_inj here).mpr hdone)

theorem exists_made_append (h : directory.Clear path front more here) {name : Text}
    (hmade : made ++ [name] <+: more) (hne : made ++ [name] ≠ more)
    (hbefore : Made (here ++ made) directory before) :
    ∃ after, before.ensureDirectory ⟨path.start, front ++ (made ++ [name])⟩ = .ok after ∧
      Made (here ++ (made ++ [name])) directory after := by
  have hplace := h.place_concat hmade hbefore
  have hlonger : ∀ other, ¬ other <+: here ++ (made ++ [name]) → ¬ other <+: here ++ made :=
    fun other hother hbegins => hother (hbegins.trans ⟨[name], by simp⟩)
  have hfree : before.found? (here ++ (made ++ [name])) = none := by
    rw [hbefore.found?_concat]
    exact h.nothing _ hmade (by simp) hne
  have hallowed : before.refuses .makeDirectory ⟨path.start, front ++ (made ++ [name])⟩ = none := by
    rw [hbefore.extends_before.refuses]
    exact h.mayMake _ hmade (by simp) hne
  have hnot : before.isDirectory (here ++ (made ++ [name])) = false :=
    isDirectory_eq_false (by simp [hfree])
  have hmake := makeDirectory_eq_ok_iff.mpr ⟨_, hplace, hfree, hallowed, rfl⟩
  refine ⟨_, by rw [ensureDirectory, hmake], ?_, ?_, fun other hother => ?_⟩
  · exact (extends_of_makeDirectory hmake).trans hbefore.extends_before
  · exact (isDirectory_put hnot _).mpr (.inr ⟨List.prefix_rfl, .inr rfl⟩)
  · rw [found?_put_of_ne hnot (lies_of_place hplace) fun heq => hother (heq ▸ List.prefix_rfl)]
    exact hbefore.others other (hlonger other hother)

theorem ensureDirectories_of_eq_ok {depth : Nat} (h : before.ensureDirectory path = .ok after) :
    ensureDirectories depth before path = ⟨after, none⟩ := by
  cases depth <;> rw [ensureDirectories, h] <;> rfl

/-- The directories on the way are made, each in the one before it. -/
theorem exists_made (h : directory.Clear path front more here) {depth : Nat} (hmade : made <+: more)
    (hne : made ≠ more) (hdepth : made.length ≤ depth) :
    ∃ after, ensureDirectories depth directory ⟨path.start, front ++ made⟩ = ⟨after, none⟩ ∧
      Made (here ++ made) directory after := by
  have hfirst : Made (here ++ []) directory directory :=
    ⟨.refl directory, (List.append_nil here).symm ▸ h.isDirectory, fun _ _ => rfl⟩
  induction made using List.reverseRecOn generalizing depth with
  | nil =>
    have hplace := h.place_append (.refl directory) hmade fun _ hdone hlast =>
      absurd (List.prefix_nil.mp hdone) hlast
    exact ⟨directory, ensureDirectories_of_eq_ok
      (ensureDirectory_of_isDirectory hplace hfirst.isDirectory), hfirst⟩
  | append_singleton done name ih =>
    cases done with
    | nil =>
      obtain ⟨after, hensure, hafter⟩ := h.exists_made_append hmade hne hfirst
      exact ⟨after, ensureDirectories_of_eq_ok hensure, hafter⟩
    | cons first rest =>
      obtain ⟨depth, rfl⟩ := Nat.exists_eq_add_one.mpr (Nat.lt_of_lt_of_le (by simp) hdepth)
      have hdone : first :: rest <+: more := .trans ⟨[name], rfl⟩ hmade
      have hshort : first :: rest ≠ more := fun heq => not_concat_prefix _ name (heq ▸ hmade)
      obtain ⟨before, hbefore, hthere⟩ := ih hdone hshort (by simpa using hdepth)
      obtain ⟨after, hensure, hafter⟩ := h.exists_made_append hmade hne hthere
      refine ⟨after, ?_, hafter⟩
      have hmissing : directory.ensureDirectory ⟨path.start, front ++ (first :: rest ++ [name])⟩ =
          .error ⟨.notFound, ⟨path.start, front ++ (first :: rest ++ [name])⟩⟩ := by
        cases rest with
        | nil => exact h.ensureDirectory_eq_notFound hmade
        | cons second rest => exact h.ensureDirectory_eq_notFound hmade
      rw [ensureDirectories, hmissing]
      simp only [Path.parent_append_concat, hbefore, Changed.andThen, hensure, changed]

/-- A file is written where the way is clear. -/
theorem fault_write (h : directory.Clear path front more here) (data : List UInt8) :
    (directory.write path data).fault = none := by
  obtain ⟨made, name, rfl⟩ : ∃ made name, more = made ++ [name] :=
    ⟨_, _, (List.dropLast_concat_getLast h.ne_nil).symm⟩
  have hnames : path = ⟨path.start, front ++ (made ++ [name])⟩ :=
    congrArg (Path.mk path.start) h.names
  have hparent : path.parent = ⟨path.start, front ++ made⟩ := by
    rw [hnames, Path.parent_append_concat]
  have hshort : made ≠ made ++ [name] := fun heq => not_concat_prefix made name (heq ▸ List.prefix_rfl)
  have hdepth : made.length ≤ path.names.length := by
    rw [h.names, List.length_append, List.length_append]
    omega
  obtain ⟨after, hensure, hafter⟩ := h.exists_made (List.prefix_append _ _) hshort hdepth
  have hplace : after.place path = .ok (here ++ (made ++ [name])) := by
    rw [hnames]
    exact h.place_concat List.prefix_rfl hafter
  have hlast : ∀ entry, after.found? (here ++ (made ++ [name])) = some entry →
      ∃ old, entry = .bytes old := by
    rw [hafter.found?_concat]
    exact h.last
  have hallowed : after.refuses .write path = none := by
    rw [hafter.extends_before.refuses]
    exact h.mayWrite
  have hwrite : after.writeFile path data =
      .ok (after.put (here ++ (made ++ [name])) (.bytes data)) :=
    writeFile_eq_ok_iff.mpr ⟨_, hplace, hlast, hallowed, rfl⟩
  rw [write, hparent, hensure]
  simp only [Changed.andThen, hwrite, changed]

end Clear
end Directory
end SessionReplay
