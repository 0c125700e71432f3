import DepAtlas.Text.FileName
import DepAtlas.Text.Quoted

/-!
# Commands and their misuse

The names of the commands and of their parameters, and the ways in which a line of words
fails to be a command, with the message of each.  Words may be uneven; they are spelled
out, and so are the messages.
-/

namespace DepAtlas.CommandLine

/-- The name that the program goes by. -/
def programName : String := "repo-mapper"

/-- A command by name. -/
inductive Verb where
  | analyze
  | deps
  | dependents
  | diff
  deriving DecidableEq, Repr

namespace Verb

/-- The name of a command. -/
def name : Verb → String
  | .analyze => "analyze"
  | .deps => "deps"
  | .dependents => "dependents"
  | .diff => "diff"

/-- The command with a name. -/
def ofName? : String → Option Verb
  | "analyze" => some .analyze
  | "deps" => some .deps
  | "dependents" => some .dependents
  | "diff" => some .diff
  | _ => none

/-- The names of all commands of the program.  The service has a command of its own, which
is run elsewhere. -/
def allNames : List String :=
  [analyze, deps, dependents, diff].map name ++ ["serve"]

/-- The parameters of a command. -/
def parameters : Verb → List String
  | .analyze => ["INPUT_PATH"]
  | .deps | .dependents => ["INPUT_PATH", "COMPONENT_ID"]
  | .diff => ["OLD_PATH", "NEW_PATH"]

theorem ofName?_name (verb : Verb) : ofName? verb.name = some verb := by
  cases verb <;> decide

end Verb

/-- What is wrong with the value of an option or a parameter. -/
inductive ValueFault where
  | noFile (path : String)
  | directory (path : String)
  | notInteger (text : String)
  | tooSmall (value : Int)
  deriving DecidableEq, Repr

/-- The message of a wrong value. -/
def ValueFault.message : ValueFault → String
  | .noFile path => s!"File {Text.quoted (Text.shownName path)} does not exist."
  | .directory path => s!"File {Text.quoted (Text.shownName path)} is a directory."
  | .notInteger text => s!"{Text.quotedSpelled text} is not a valid integer range."
  | .tooSmall value => s!"{value} is not in the range x>=1."

/-- How a line of words fails to be a command. -/
inductive Misuse where
  | missingCommand
  /-- An unknown command, with the commands that resemble it. -/
  | unknownCommand (name : String) (similar : List String)
  /-- An unknown option, with the options that resemble it. -/
  | unknownOption (name : String) (similar : List String)
  | valueMissing (option : String)
  | valueUnwanted (option : String)
  | argumentMissing (parameter : String)
  | surplus (arguments : List String)
  /-- A value is wrong; `place` names the option or parameter. -/
  | wrongValue (place : String) (fault : ValueFault)
  deriving DecidableEq, Repr

/-- The hint that names resembling an unknown one are there. -/
def similarHint : List String → String
  | [] => ""
  | [name] => s!" Did you mean {Text.quoted name}?"
  | names => " (Did you mean one of: " ++ ", ".intercalate (names.map Text.quoted) ++ "?)"

/-- The message of a misuse. -/
def Misuse.message : Misuse → String
  | .missingCommand => "Missing command."
  | .unknownCommand name similar =>
      s!"No such command {Text.quotedSpelled name}." ++ similarHint similar
  | .unknownOption name similar =>
      s!"No such option {Text.quotedSpelled name}." ++ similarHint similar
  | .valueMissing option => s!"Option {Text.quoted option} requires an argument."
  | .valueUnwanted option => s!"Option {Text.quoted option} does not take a value."
  | .argumentMissing parameter => s!"Missing argument '{parameter}'."
  | .surplus arguments =>
      let noun := if arguments.length = 1 then "argument" else "arguments"
      s!"Got unexpected extra {noun} (" ++ " ".intercalate arguments ++ ")"
  | .wrongValue place fault => s!"Invalid value for {place}: {fault.message}"

/-- The words that call the program up to a command. -/
def callOf : Option Verb → String
  | none => programName
  | some verb => s!"{programName} {verb.name}"

/-- How the program or a command is used. -/
def usageOf (verb : Option Verb) : String :=
  let parameters := match verb with
    | none => ["COMMAND", "[ARGS]..."]
    | some verb => verb.parameters
  s!"Usage: {callOf verb} [OPTIONS] " ++ " ".intercalate parameters

/-- Whether a report shows how the program is used.  It does not where the value of an
option is missing or unwanted. -/
def Misuse.showsUsage : Misuse → Bool
  | .valueMissing _ | .valueUnwanted _ => false
  | _ => true

/-- What is printed when the program or a command is misused. -/
def Misuse.report (misuse : Misuse) (verb : Option Verb) : String :=
  let usage :=
    if misuse.showsUsage then
      s!"{usageOf verb}\nTry '{callOf verb} --help' for help.\n\n"
    else ""
  usage ++ s!"Error: {misuse.message}\n"

end DepAtlas.CommandLine
