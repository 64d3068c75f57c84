import SessionReplay.Schema.Scalar
import SessionReplay.Value.Display

/-!
# Reading dictionaries and lists

A description is a dictionary whose fields are read one after the other; keys that are no fields
are faults and come last, in the order of the data. Of several kinds of descriptions, the field
`name` tells which one is meant.
-/

namespace SessionReplay

variable {α : Type}

abbrev Entries := List (Value × Value)

/-- The step into a dictionary under a key that need not be a text: an integer is shown as such,
anything else as it is written. -/
def Locus.ofKey : Value → Locus
  | .text name => .key name
  | .bool b => .index (if b then 1 else 0)
  | .int n => if isLong n then .index n else .key (Text.ofInt n)
  | other => .key other.shown

def Entries.get? (entries : Entries) (name : Text) : Option Value :=
  entries.findSome? fun
    | (.text key, value) => if key = name then some value else none
    | _ => none

def Entries.required (entries : Entries) (name : Text) (check : Value → Checked α) : Checked α :=
  ((entries.get? name).elim (.fail .missing) check).under (.key name)

def Entries.optional (entries : Entries) (name : Text) (default : α)
    (check : Value → Checked α) : Checked α :=
  (entries.get? name).elim (.accepted default) fun value => (check value).under (.key name)

def Entries.extraFaults (known : List Text) (entries : Entries) : List Fault :=
  entries.filterMap fun
    | (.text key, _) => if key ∈ known then none else some ⟨[.key key], .unknownKey⟩
    | (key, _) => some ⟨[Locus.ofKey key], .keyNotText⟩

/-- A description: its fields, and no other keys. -/
def Entries.closed (entries : Entries) (known : List Text) (fields : Checked α) : Checked α :=
  fields <* Checked.ofFaults (entries.extraFaults known)

def checkModel (model : Text) (read : Entries → Checked α) (value : Value) : Checked α :=
  value.entries?.elim (.fail (.notModel model)) read

def checkItems (check : Value → Checked α) (place : Nat) : List Value → Checked (List α)
  | [] => .accepted []
  | item :: rest =>
    List.cons <$> (check item).under (.index place) <*> checkItems check (place + 1) rest

/-- A list; a tuple and a set are lists as well. -/
def checkList (check : Value → Checked α) : Value → Checked (List α)
  | .list items | .tuple items | .set items => checkItems check 0 items
  | _ => .fail .notList

def checkTexts : Value → Checked (List Text) := checkList fun item => .ofExcept (checkText item)

def checkKey (key : Value) : Checked Text :=
  ((Checked.ofExcept (checkText key)).under (.key "[key]")).under (Locus.ofKey key)

def Options.set (options : Options) (name : Text) (value : Value) : Options :=
  match options with
  | [] => [(name, value)]
  | option :: rest =>
    if option.1 = name then (name, value) :: rest else option :: Options.set rest name value

/-- The options with others set over them, one after the other. -/
def Options.update (options others : Options) : Options :=
  others.foldl (fun done option => Options.set done option.1 option.2) options

/-- The entries of a dictionary of options, after those in `done`. -/
def checkEntries (done : Options) : Entries → Checked Options
  | [] => .accepted done
  | (key, value) :: rest =>
    match checkKey key with
    | .accepted name => checkEntries (Options.set done name value) rest
    | .rejected faults =>
      match checkEntries done rest with
      | .accepted _ => .rejected faults
      | .rejected others => .rejected (faults ++ others)

/-- A dictionary whose keys are texts; the values are free. -/
def checkOptions (value : Value) : Checked Options :=
  value.entries?.elim (.fail .notDict) (checkEntries [])

def tagField : Text := "name"

/-- Whether a value without entries is still asked for the tag: a day and a moment have parts with
names, though this is none of them. -/
def hasNamedParts : Value → Bool
  | .date _ | .moment _ => true
  | _ => false

/-- One of several kinds of descriptions, each under its tag. -/
def checkTagged (kinds : List (Text × (Entries → Checked α))) (value : Value) : Checked α :=
  match value.entries? with
  | some entries =>
    match Entries.get? entries tagField with
    | none => .fail .tagMissing
    | some tag =>
      let unknown := Checked.fail (.unknownTag tag.display (kinds.map Prod.fst))
      match tag with
      | .text name => (kinds.lookup name).elim unknown fun read => (read entries).under (.key name)
      | _ => unknown
  | none => .fail (if hasNamedParts value then .tagMissing else .notRecord)

end SessionReplay
