import DepAtlas.CommandLine.FileTree
import DepAtlas.CommandLine.Words
import DepAtlas.Notice
import DepAtlas.Settings
import DepAtlas.Text.Numeral

/-!
# Commands

A command together with the files and values that it works on.  Options are checked in
the order in which they first occur, with the value that was given last; then come the
parameters in their order, and at last words that are too many.  The first thing that is
wrong counts: a misuse of the words, or a path that nothing can be asked about.
-/

namespace DepAtlas.CommandLine

/-- A file that is read, with its content. -/
structure InputFile where
  /-- The normal form of the path. -/
  path : String
  content : ByteArray

/-- A file that is to be written, with what is there before. -/
structure Target where
  /-- The normal form of the path. -/
  path : String
  entry : Entry

/-- The options of an analysis. -/
structure AnalyzeOptions where
  /-- Print the document in place of the map. -/
  json : Bool := false
  showOrder : Bool := false
  showDependencies : Bool := false
  focus : Option String := none
  /-- The limit of all rankings. -/
  top : { n : Int // 1 ≤ n } := ⟨10, one_le_ten⟩
  /-- Where to write; what is printed goes there. -/
  output : Option Target := none

/-- A command, ready to be run. -/
inductive Command where
  | analyze (input : InputFile) (options : AnalyzeOptions)
  | deps (input : InputFile) (component : ComponentId)
  | dependents (input : InputFile) (component : ComponentId)
  | diff (old new : InputFile)

/-- What a line of words asks for. -/
inductive Invocation where
  | version
  | help (verb : Option Verb)
  /-- A command, and the least level of the notices that are logged. -/
  | command (least : Level) (command : Command)

/-- What keeps words from being a command. -/
inductive Obstacle where
  | misuse (misuse : Misuse)
  /-- A path holds a NUL character. -/
  | cutShort (path : String)
  /-- A path has no bytes. -/
  | unencodable (path : String)
  deriving DecidableEq, Repr

/-- A line of words that is no command: what is wrong with it, and in which command. -/
structure Rejection where
  verb : Option Verb
  obstacle : Obstacle
  deriving DecidableEq, Repr

/-! ## Values -/

/-- The place of a parameter in a message. -/
def parameterPlace (parameter : String) : String :=
  s!"'{parameter}'"

/-- A value that is refused. -/
def refuseValue {α : Type} (place : String) (fault : ValueFault) : Except Obstacle α :=
  .error (.misuse (.wrongValue place fault))

/-- The limit of the rankings that a text gives. -/
def readTop (text : String) : Except Obstacle { n : Int // 1 ≤ n } :=
  match Text.wordInteger? text.toList with
  | none => refuseValue "'--top'" (.notInteger text)
  | some n => if h : 1 ≤ n then .ok ⟨n, h⟩ else refuseValue "'--top'" (.tooSmall n)

/-- The file that a path names for writing; it must be no directory. -/
def readTarget (look : String → Entry) (path : String) : Except Obstacle Target :=
  match look path with
  | .cutShort => .error (.cutShort path)
  | .unencodable => .error (.unencodable path)
  | .directory => refuseValue "'-o' / '--output'" (.directory path)
  | _ => .ok ⟨normalPath path, look (normalPath path)⟩

/-- The argument of a parameter. -/
def readArgument (parameter : String) : Option String → Except Obstacle String
  | some argument => .ok argument
  | none => .error (.misuse (.argumentMissing parameter))

/-- The file that a parameter names for reading. -/
def readInput (look : String → Entry) (parameter : String) (argument? : Option String) :
    Except Obstacle InputFile := do
  let path ← readArgument parameter argument?
  match look path with
  | .file content => return ⟨normalPath path, content⟩
  | .cutShort => .error (.cutShort path)
  | .unencodable => .error (.unencodable path)
  | .directory => refuseValue (parameterPlace parameter) (.directory path)
  | _ => refuseValue (parameterPlace parameter) (.noFile path)

/-- Refuse arguments that no parameter takes. -/
def refuseSurplus : List String → Except Obstacle Unit
  | [] => .ok ()
  | arguments => .error (.misuse (.surplus arguments))

/-! ## Commands -/

/-- The options of an analysis with one more option taken from the words. -/
def AnalyzeOptions.take (look : String → Entry) (words : Words) (options : AnalyzeOptions)
    (key : OptionKey) : Except Obstacle AnalyzeOptions :=
  match key with
  | .json => .ok { options with json := true }
  | .order => .ok { options with showOrder := true }
  | .dependencies => .ok { options with showDependencies := true }
  | .focus => .ok { options with focus := some (words.value .focus) }
  | .top => (readTop (words.value .top)).map fun top => { options with top }
  | .output => (readTarget look (words.value .output)).map fun target =>
      { options with output := some target }
  | .verbose | .version | .help => .ok options

/-- The options of an analysis. -/
def AnalyzeOptions.ofWords (look : String → Entry) (words : Words) :
    Except Obstacle AnalyzeOptions :=
  words.keys.foldlM (AnalyzeOptions.take look words) {}

/-- The command that a verb makes of its words. -/
def Command.ofWords (look : String → Entry) (words : Words) : Verb → Except Obstacle Command
  | .analyze => do
      let options ← AnalyzeOptions.ofWords look words
      let input ← readInput look "INPUT_PATH" words.arguments[0]?
      refuseSurplus (words.arguments.drop 1)
      return .analyze input options
  | .deps => do
      let input ← readInput look "INPUT_PATH" words.arguments[0]?
      let component ← readArgument "COMPONENT_ID" words.arguments[1]?
      refuseSurplus (words.arguments.drop 2)
      return .deps input component
  | .dependents => do
      let input ← readInput look "INPUT_PATH" words.arguments[0]?
      let component ← readArgument "COMPONENT_ID" words.arguments[1]?
      refuseSurplus (words.arguments.drop 2)
      return .dependents input component
  | .diff => do
      let old ← readInput look "OLD_PATH" words.arguments[0]?
      let new ← readInput look "NEW_PATH" words.arguments[1]?
      refuseSurplus (words.arguments.drop 2)
      return .diff old new

/-! ## Invocations -/

/-- A request for the version or for help, which goes before everything else that the
words say.  The one that comes first counts. -/
def Words.request? (words : Words) (verb : Option Verb) : Option Invocation :=
  match words.first? [.version, .help] with
  | some .version => some .version
  | some _ => some (.help verb)
  | none => none

/-- The least level of the notices that are logged, by how often more were asked for. -/
def leastLevel : Nat → Level
  | 0 => .warning
  | 1 => .info
  | _ => .debug

/-- Read the words behind the name of a command. -/
def readCommand (look : String → Entry) (least : Level) (verb : Verb) (line : List String) :
    Except Obstacle Invocation := do
  let words ← (readWords verb.forms true line).mapError .misuse
  match words.request? (some verb) with
  | some invocation => return invocation
  | none => return .command least (← Command.ofWords look words verb)

/-- Why a line does not begin with the name of a command.  Where the name looks like an
option, it is read as one. -/
def readUnknown (name : String) (rest : List String) : Except Misuse Invocation := do
  let words ← readWords programForms false (name :: rest)
  match words.request? none with
  | some invocation => return invocation
  | none => .error (.unknownCommand name (Text.resembling name Verb.allNames))

/-- The rejection of a misuse of the program itself. -/
def Rejection.ofMisuse (misuse : Misuse) : Rejection :=
  ⟨none, .misuse misuse⟩

/-- Read a line of words. -/
def Invocation.ofLine (look : String → Entry) (line : List String) :
    Except Rejection Invocation :=
  match readWords programForms false line with
  | .error misuse => .error (.ofMisuse misuse)
  | .ok words =>
      match words.request? none, words.arguments with
      | some invocation, _ => .ok invocation
      | none, [] => .error (.ofMisuse .missingCommand)
      | none, name :: rest =>
          match Verb.ofName? name with
          | some verb =>
              (readCommand look (leastLevel (words.count .verbose)) verb rest).mapError
                fun obstacle => ⟨some verb, obstacle⟩
          | none => (readUnknown name rest).mapError .ofMisuse

end DepAtlas.CommandLine
