import SessionReplay.File.Entry
import SessionReplay.Text.Utf8

/-!
# Directories

The files that a command can see, and what becomes of them when it writes one. Only what is at and
below the working directory is known; above it there are directories without files. Besides what is
there, it is up to the system what it lets be done at a path.
-/

namespace SessionReplay

/-- Where a path leads: names from the working directory, after two dots for each step above it; or
names from the root behind a slash. -/
abbrev Place := List Text

def rootName : Text := "/"

def upName : Text := ".."

def Place.enter (here : Place) (name : Text) : Place :=
  if name = upName then
    if here = [rootName] then here
    else if here.isEmpty || here.getLast? = some upName then here ++ [upName]
    else here.dropLast
  else here ++ [name]

def PathStart.place : PathStart → Place
  | .workingDirectory => []
  | .root | .doubledRoot => [rootName]

inductive Access where
  /-- Finding out where a path leads. -/
  | look
  | makeDirectory
  | write
deriving DecidableEq

/-- The files that a command can see. A directory is known by what is in it, or by an entry. -/
structure Directory where
  entries : List (Place × FileEntry) := []
  /-- Why the system does not let something be done, whatever the entries are. -/
  refuses : Access → Path → Option PathProblem := fun _ _ => none

namespace Directory

def file? (directory : Directory) (place : Place) : Option (List UInt8) :=
  match directory.entries.lookup place with
  | some (.bytes data) => some data
  | _ => none

def isDirectory (directory : Directory) (place : Place) : Bool :=
  place.all (· == upName) || place == [rootName] ||
    directory.entries.any fun (other, entry) =>
      place.isPrefixOf other &&
        (place.length < other.length || match entry with
          | .directory => true
          | .bytes _ | .closed _ => false)

/-- What stands at a place, if anything does. -/
def found? (directory : Directory) (place : Place) : Option FileEntry :=
  if directory.isDirectory place then some .directory else directory.entries.lookup place

/-- The number of bytes that a name may have. -/
def nameBytes : Nat := 255

/-- The number of bytes that a path may have. -/
def pathBytes : Nat := 4095

def problemWith (directory : Directory) (here : Place) (name : Text) : Option PathProblem :=
  match directory.found? here with
  | some .directory => if nameBytes < name.toUtf8.length then some .nameTooLong else none
  | some _ => some .notDirectory
  | none => some .notFound

/-- Goes along names from a place. All but the last have to lead to directories. -/
def follow (directory : Directory) (here : Place) : List Text → Except PathProblem Place
  | [] => .ok here
  | name :: rest =>
    match directory.problemWith here name with
    | some problem => .error problem
    | none => follow directory (here.enter name) rest

def failOn (path : Path) : Option PathProblem → Except PathFault Unit
  | some problem => .error ⟨problem, path⟩
  | none => .ok ()

/-- The place that a path leads to, whether or not anything is there. -/
def place (directory : Directory) (path : Path) : Except PathFault Place := do
  failOn path (directory.refuses .look path)
  failOn path (if pathBytes < path.text.toUtf8.length then some .nameTooLong else none)
  (directory.follow path.start.place path.names).mapError (⟨·, path⟩)

/-- What stands at the end of a path, if anything does. That there is no way to it is no fault. -/
def see (directory : Directory) (path : Path) : Except PathFault (Option FileEntry) :=
  match directory.place path with
  | .ok place => .ok (directory.found? place)
  | .error fault => if fault.problem.isAbsence then .ok none else .error fault

def put (directory : Directory) (place : Place) (entry : FileEntry) : Directory :=
  { directory with
    entries := (place, entry) :: directory.entries.filter fun other => other.1 ≠ place }

def makeDirectory (directory : Directory) (path : Path) : Except PathFault Directory := do
  let place ← directory.place path
  failOn path (if (directory.found? place).isSome then some .alreadyExists else none)
  failOn path (directory.refuses .makeDirectory path)
  return directory.put place .directory

def ensureDirectory (directory : Directory) (path : Path) : Except PathFault Directory :=
  match directory.makeDirectory path with
  | .ok made => .ok made
  | .error fault =>
    match directory.see path with
    | .ok (some .directory) => .ok directory
    | .ok _ => .error fault
    | .error other => .error other

def writeFile (directory : Directory) (path : Path) (data : List UInt8) :
    Except PathFault Directory := do
  let place ← directory.place path
  match (directory.found? place).map FileEntry.opened with
  | some (.error problem) => .error ⟨problem, path⟩
  | _ =>
    failOn path (directory.refuses .write path)
    return directory.put place (.bytes data)

/-- What changes have made of a directory, up to the first that fails. -/
structure Changed where
  directory : Directory
  fault : Option PathFault

/-- A change that fails leaves the directory as it is. -/
def changed (directory : Directory) : Except PathFault Directory → Changed
  | .ok made => ⟨made, none⟩
  | .error fault => ⟨directory, some fault⟩

def Changed.andThen (before : Changed) (change : Directory → Except PathFault Directory) : Changed :=
  match before.fault with
  | some _ => before
  | none => before.directory.changed (change before.directory)

/-- Makes a directory and the directories that it is to be in; a path has at most `depth` names.
Those that are made before one fails stay. -/
def ensureDirectories (depth : Nat) (directory : Directory) (path : Path) : Changed :=
  match depth with
  | 0 => directory.changed (directory.ensureDirectory path)
  | depth + 1 =>
    match directory.ensureDirectory path with
    | .error ⟨.notFound, _⟩ =>
      (ensureDirectories depth directory path.parent).andThen (·.ensureDirectory path)
    | result => directory.changed result

def write (directory : Directory) (path : Path) (data : List UInt8) : Changed :=
  (ensureDirectories path.names.length directory path.parent).andThen (·.writeFile path data)

/-- The files that are not in another directory, or are different there. -/
def filesBeyond (directory other : Directory) : List (Place × List UInt8) :=
  directory.entries.filterMap fun (place, entry) =>
    match entry with
    | .bytes data => if other.file? place = some data then none else some (place, data)
    | .directory | .closed _ => none

/-- The directories that are entries and that another directory does not have. -/
def directoriesBeyond (directory other : Directory) : List Place :=
  directory.entries.filterMap fun (place, entry) =>
    match entry with
    | .directory => if other.isDirectory place then none else some place
    | .bytes _ | .closed _ => none

end Directory
end SessionReplay
