import SessionReplay.Text.Basic

/-!
# Arguments

How a command line tells options from other arguments. An option has a long name behind two dashes
and perhaps a letter behind one dash. Its value is the next argument, or stands behind an equals
sign or right behind the letter. After two dashes alone there are no more options.
-/

namespace SessionReplay

structure OptionForm (α : Type) where
  option : α
  /-- The long name with its dashes. -/
  long : Text
  letter : Option Char
  takesValue : Bool

/-- What an argument with dashes says. -/
inductive Said (α : Type) where
  /-- Options with their values. -/
  | complete (given : List (α × Text))
  /-- Options with their values, and one whose value is the next argument. -/
  | wantsValue (given : List (α × Text)) (option : α)

def Said.after {α : Type} (given : List (α × Text)) : Said α → Said α
  | .complete more => .complete (given ++ more)
  | .wantsValue more option => .wantsValue (given ++ more) option

structure Arguments (α : Type) where
  given : List (α × Text) := []
  others : List Text := []

namespace Arguments

variable {α : Type}

def ofLetters (forms : List (OptionForm α)) : Text → Option (Said α)
  | [] => some (.complete [])
  | c :: rest => do
    let form ← forms.find? fun form => form.letter = some c
    if form.takesValue then
      some (if rest.isEmpty then .wantsValue [] form.option else .complete [(form.option, rest)])
    else
      let more ← ofLetters forms rest
      some (more.after [(form.option, [])])

/-- What an argument with dashes says, if there are such options. -/
def ofDashes (forms : List (OptionForm α)) (argument : Text) : Option (Said α) :=
  let name := argument.takeWhile (· != '=')
  let value := (argument.dropWhile (· != '=')).tail?
  match forms.find? fun form => form.long = name with
  | some form =>
    match form.takesValue, value with
    | true, some value => some (.complete [(form.option, value)])
    | true, none => some (.wantsValue [] form.option)
    | false, some _ => none
    | false, none => some (.complete [(form.option, [])])
  | none => if "--".toList.isPrefixOf argument then none else ofLetters forms argument.tail

def withGiven (given : List (α × Text)) (rest : Arguments α) : Arguments α :=
  { rest with given := given ++ rest.given }

/-- Tells options from other arguments, if all options are known and have values as they should.
Where options have to come first, everything from the first other argument on is none. -/
def read? (forms : List (OptionForm α)) (optionsFirst : Bool) : List Text → Option (Arguments α)
  | [] => some {}
  | argument :: rest =>
    if argument = "--" then some { others := rest }
    else if argument.head? = some '-' ∧ 1 < argument.length then
      match ofDashes forms argument with
      | none => none
      | some (.complete given) => (read? forms optionsFirst rest).map (withGiven given)
      | some (.wantsValue given option) =>
        match rest with
        | [] => none
        | value :: rest =>
          (read? forms optionsFirst rest).map (withGiven (given ++ [(option, value)]))
    else if optionsFirst then some { others := argument :: rest }
    else
      (read? forms optionsFirst rest).map fun more =>
        { more with others := argument :: more.others }

/-- The value of an option; of several the last one counts. -/
def value? [DecidableEq α] (arguments : Arguments α) (option : α) : Option Text :=
  arguments.given.reverse.lookup option

end Arguments
end SessionReplay
