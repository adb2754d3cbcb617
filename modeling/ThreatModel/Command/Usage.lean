import ThreatModel.Text.Quoted

/-!
Contract: the options of a command line, and how they are written.

Owns:
- options with their names, and whether they take a value;
- the faults of a command line with their wording;
- the parting of arguments into options and positional ones.

Does not own: what the options mean.
-/

namespace ThreatModel.Command

open ThreatModel.Text

/-- What an option is about. -/
inductive Key where
  | callGraph
  | reportFormat
  | reportOutput
  | diagramFormat
  | diagramOutput
  | noDiagram
  | settings
  | verbose
  | version
  | help
deriving DecidableEq, Repr

/-- An option with its names, of which the short one may be missing. -/
structure Switch where
  key : Key
  long : String
  short : Option Char := none
  takesValue : Bool := true
deriving DecidableEq, Repr

namespace Switch

def longName (switch : Switch) : String :=
  "--" ++ switch.long

def shortName (letter : Char) : String :=
  String.ofList ['-', letter]

def names (switch : Switch) : List String :=
  switch.longName :: (switch.short.map shortName).toList

end Switch

inductive UsageFault where
  | noSuchOption (name : String)
  | noSuchCommand (name : String)
  | missingCommand
  | missingValue (option : String)
  | unwantedValue (option : String)
  | missingFiles
  | folder (path : String)
  | notAmong (switch : Switch) (given : String) (names : List String)
deriving DecidableEq, Repr

def UsageFault.message : UsageFault → String
  | .noSuchOption name => "No such option " ++ quoted name ++ "."
  | .noSuchCommand name => "No such command " ++ quoted name ++ "."
  | .missingCommand => "Missing command."
  | .missingValue option => "Option " ++ quoted option ++ " requires an argument."
  | .unwantedValue option => "Option " ++ quoted option ++ " does not take a value."
  | .missingFiles => "Missing argument \x27FILES...\x27."
  | .folder path =>
      "Invalid value for \x27FILES...\x27: File " ++ quoted path ++ " is a directory."
  | .notAmong switch given names =>
      "Invalid value for " ++ " / ".intercalate (switch.names.map quoted) ++ ": " ++
        quoted given ++ " is not one of " ++ ", ".intercalate (names.map quoted) ++ "."

/-! ## Reading arguments -/

/-- An option as it was given; options that take no value have an empty one. -/
structure Given where
  key : Key
  value : String := ""
deriving DecidableEq, Repr

/-- Options that one argument gives, and whether the argument after it was used up as a value. -/
structure Taken where
  given : List Given
  usesNext : Bool := false
deriving DecidableEq, Repr

def takeValue
    (switch : Switch)
    (name : String)
    (next : Option String) :
    Except UsageFault Taken :=
  match next with
  | none => .error (.missingValue name)
  | some value => .ok ⟨[⟨switch.key, value⟩], true⟩

/-- A long option, whose value may follow an equals sign. -/
def takeLong
    (switches : List Switch)
    (argument : List Char)
    (next : Option String) :
    Except UsageFault Taken :=
  let name := String.ofList (argument.takeWhile (· ≠ '='))
  match switches.find? (·.longName = name), argument.dropWhile (· ≠ '=') with
  | none, _ => .error (.noSuchOption name)
  | some switch, [] =>
      if switch.takesValue then takeValue switch name next
      else .ok { given := [⟨switch.key, ""⟩] }
  | some switch, _ :: value =>
      if switch.takesValue then .ok { given := [⟨switch.key, String.ofList value⟩] }
      else .error (.unwantedValue name)

/-- The letters of a row of short options. The first one that takes a value takes all letters
after it, or else the next argument. -/
def takeShort
    (switches : List Switch)
    (next : Option String) :
    List Char → Except UsageFault Taken
  | [] => .ok { given := [] }
  | letter :: rest =>
      match switches.find? (·.short = some letter) with
      | none => .error (.noSuchOption (Switch.shortName letter))
      | some switch =>
          if switch.takesValue then
            if rest.isEmpty then takeValue switch (Switch.shortName letter) next
            else .ok { given := [⟨switch.key, String.ofList rest⟩] }
          else
            (takeShort switches next rest).map fun taken =>
              { taken with given := ⟨switch.key, ""⟩ :: taken.given }

/-- The options that an argument gives, or `none` for a positional argument. A single hyphen is a
positional argument. -/
def takeOption
    (switches : List Switch)
    (argument : String)
    (next : Option String) :
    Except UsageFault (Option Taken) :=
  match argument.toList with
  | '-' :: '-' :: name => (takeLong switches ('-' :: '-' :: name) next).map some
  | '-' :: letter :: rest => (takeShort switches next (letter :: rest)).map some
  | _ => .ok none

/-- Arguments, parted. -/
structure Parted where
  given : List Given := []
  positional : List String := []
deriving DecidableEq, Repr

/-- Parts arguments into options and positional ones. Two hyphens end the options; so does the first
positional argument, unless the two kinds are `mixed`. -/
def part
    (switches : List Switch)
    (mixed : Bool) :
    List String → Except UsageFault Parted
  | [] => .ok {}
  | argument :: rest =>
      if argument = "--" then
        .ok { positional := rest }
      else
        match takeOption switches argument rest.head? with
        | .error fault => .error fault
        | .ok none =>
            if mixed then
              (part switches mixed rest).map fun parted =>
                { parted with positional := argument :: parted.positional }
            else
              .ok { positional := argument :: rest }
        | .ok (some taken) =>
            (part switches mixed (if taken.usesNext then rest.drop 1 else rest)).map fun parted =>
              { parted with given := taken.given ++ parted.given }
termination_by arguments => arguments.length
decreasing_by
  · exact Nat.lt_succ_self _
  · split
    · exact Nat.lt_succ_of_le (by simp)
    · exact Nat.lt_succ_self _

end ThreatModel.Command
