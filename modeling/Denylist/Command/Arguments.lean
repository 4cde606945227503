import Denylist.Text.Quoted
import Denylist.Text.Similar
import Denylist.Validation

/-!
# Command-line arguments

A command has options and arguments.  An option is given by a long name, with its value behind an
equals sign or in the next argument, or by one letter, behind which may stand more letters or the
value.  Two dashes end the options.

* `UsageError` says what may be wrong with a command line, `Refusal` also what may have been meant.
* `parse` sorts a command line into options and arguments.
-/

namespace Denylist.Command

/-- An option of a command. -/
structure Switch where
  /-- The long name with its dashes. -/
  long : String
  /-- The letter. -/
  letter : Option Char
  /-- Whether a value belongs to it. -/
  takesValue : Bool
deriving DecidableEq, Repr

/-- The name of an option in a message: the long one, then the one of a letter. -/
def Switch.display (s : Switch) : String :=
  match s.letter with
  | some c => s!"'{s.long}' / '-{c}'"
  | none => s!"'{s.long}'"

/-- What is wrong with a command line. -/
inductive UsageError where
  /-- There is no such option; some may look like it. -/
  | noSuchOption (name : String) (closest : List String)
  /-- An option without its value. -/
  | valueMissing (name : String)
  /-- A value for an option that has none. -/
  | valueUnexpected (name : String)
  /-- An argument that has to be there is not. -/
  | argumentMissing (name : String)
  /-- More arguments than the command has. -/
  | argumentsUnexpected (given : List String)
  /-- There is no such command. -/
  | noSuchCommand (name : String)
  /-- No command at all. -/
  | commandMissing
  /-- An option whose value is not what it has to be. -/
  | badValue (option : Switch) (defect : Defect)
  /-- An argument that is not what it has to be. -/
  | badArgument (name : String) (defect : Defect)
  /-- An argument that is to name a file and names nothing. -/
  | fileMissing (name given : String)
  /-- An argument that is to name a file and names a directory. -/
  | fileIsDirectory (name given : String)
deriving DecidableEq, Repr

/-- What a usage error says. -/
def UsageError.statement : UsageError → String
  | noSuchOption name _ => "No such option: " ++ name
  | valueMissing name => "Option " ++ Text.quoted name ++ " requires an argument."
  | valueUnexpected name => "Option " ++ Text.quoted name ++ " does not take a value."
  | argumentMissing name => s!"Missing argument '{name}'."
  | argumentsUnexpected l => "Got unexpected extra argument(s) (" ++ " ".intercalate l ++ ")"
  | noSuchCommand name => "No such command " ++ Text.quoted name ++ "."
  | commandMissing => "Missing command."
  | badValue option defect => "Invalid value for " ++ option.display ++ ": " ++ defect.message
  | badArgument name defect => s!"Invalid value for '{name}': " ++ defect.message
  | fileMissing name given =>
    s!"Invalid value for '{name}': file " ++ Text.quoted given ++ " does not exist."
  | fileIsDirectory name given =>
    s!"Invalid value for '{name}': file " ++ Text.quoted given ++ " is a directory."

/-- The options that may have been meant where one is not known, in order. -/
def UsageError.possibleOptions : UsageError → List String
  | noSuchOption _ closest => closest.mergeSort (· ≤ ·)
  | _ => []

/-- A command line that is refused. -/
structure Refusal where
  /-- What is wrong with it. -/
  error : UsageError
  /-- The commands that may have been meant. -/
  commands : List String
deriving DecidableEq, Repr

/-- A statement with the commands that may have been meant, in place of its own full stops. -/
def withCommands (commands : List String) (statement : String) : String :=
  if commands.isEmpty then statement else
    String.ofList (statement.toList.reverse.dropWhile (· == '.')).reverse ++ ". Did you mean " ++
      ", ".intercalate (commands.map Text.quoted) ++ "?"

/-- The text of a refusal. -/
def Refusal.message (r : Refusal) : String :=
  let options := r.error.possibleOptions
  withCommands r.commands r.error.statement ++
    if options.isEmpty then "" else " (Possible options: " ++ ", ".intercalate options ++ ")"

/-- An option as it is given. -/
structure Given where
  /-- The option. -/
  option : Switch
  /-- Its value, if it takes one. -/
  value : Option String
deriving DecidableEq, Repr

/-- A command line sorted into options and arguments, each in the order given. -/
structure CommandLine where
  /-- The options. -/
  options : List Given
  /-- The arguments. -/
  arguments : List String
deriving DecidableEq, Repr

namespace CommandLine

/-- The values of an option, in the order given. -/
def valuesOf (l : CommandLine) (s : Switch) : List String :=
  l.options.filterMap fun g => if g.option = s then g.value else none

/-- The value of an option; of several the last one counts. -/
def value? (l : CommandLine) (s : Switch) : Option String := (l.valuesOf s).getLast?

/-- Whether an option is given. -/
def has (l : CommandLine) (s : Switch) : Bool := l.options.any fun g => g.option = s

end CommandLine

/-- What one argument says about options: those it gives, and the one whose value has to follow,
under the name by which it was given. -/
structure Reading where
  /-- The options that are complete. -/
  complete : List Given
  /-- The option that waits for its value. -/
  waiting : Option (Switch × String)

/-- The options that a run of letters gives. -/
def readLetters (options : List Switch) : List Char → Except UsageError Reading
  | [] => .ok ⟨[], none⟩
  | c :: l =>
    let name := String.ofList ['-', c]
    match options.find? fun s => s.letter == some c with
    | none => .error (.noSuchOption name [])
    | some s =>
      if s.takesValue then
        if l.isEmpty then .ok ⟨[], some (s, name)⟩
        else .ok ⟨[⟨s, some (String.ofList l)⟩], none⟩
      else (readLetters options l).map fun r => { r with complete := ⟨s, none⟩ :: r.complete }

/-- The long name that an argument begins with, and the value behind an equals sign. -/
def splitValue (arg : List Char) : String × Option String :=
  let name := arg.takeWhile (· != '=')
  (String.ofList name,
    if name.length < arg.length then some (String.ofList (arg.drop (name.length + 1))) else none)

/-- The option that a long name gives. -/
def readLong (s : Switch) (value : Option String) : Except UsageError Reading :=
  match s.takesValue, value with
  | true, some v => .ok ⟨[⟨s, some v⟩], none⟩
  | true, none => .ok ⟨[], some (s, s.long)⟩
  | false, some _ => .error (.valueUnexpected s.long)
  | false, none => .ok ⟨[⟨s, none⟩], none⟩

/-- The options that an argument gives which begins with a dash. -/
def readOption (options : List Switch) (arg : List Char) : Except UsageError Reading :=
  let (name, value) := splitValue arg
  match options.find? fun s => s.long == name with
  | some s => readLong s value
  | none =>
    match arg with
    | '-' :: '-' :: _ => .error (.noSuchOption name (Text.closest name (options.map Switch.long)))
    | _ => readLetters options (arg.drop 1)

/-- Whether an argument gives options. -/
def isOption (arg : List Char) : Bool := arg.head? == some '-' && 1 < arg.length

/-- A command line with more options in front. -/
def withOptions (gs : List Given) (l : CommandLine) : CommandLine :=
  { l with options := gs ++ l.options }

/-- Where the sorting of a command line stops short. -/
structure Stop where
  /-- What is wrong. -/
  error : UsageError
  /-- What stands behind the argument that is wrong. -/
  unread : List String
deriving DecidableEq, Repr

/-- Sorts a command line.  Where options and arguments do not mix, everything from the first
argument on is an argument. -/
def parse (options : List Switch) (mixed : Bool) : List String → Except Stop CommandLine
  | [] => .ok ⟨[], []⟩
  | arg :: rest =>
    if arg = "--" then .ok ⟨[], rest⟩
    else if isOption arg.toList then
      match readOption options arg.toList, rest with
      | .error e, rest => .error ⟨e, rest⟩
      | .ok ⟨gs, none⟩, rest => (parse options mixed rest).map (withOptions gs)
      | .ok ⟨_, some (_, name)⟩, [] => .error ⟨.valueMissing name, []⟩
      | .ok ⟨gs, some (s, _)⟩, value :: rest =>
        (parse options mixed rest).map (withOptions (gs ++ [⟨s, some value⟩]))
    else if mixed then
      (parse options mixed rest).map fun l => { l with arguments := arg :: l.arguments }
    else .ok ⟨[], arg :: rest⟩

end Denylist.Command
