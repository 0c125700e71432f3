import DepAtlas.CommandLine.Command
import DepAtlas.Differences
import DepAtlas.Document
import DepAtlas.Input
import DepAtlas.Map
import DepAtlas.Text.ControlSequence
import DepAtlas.Version

/-!
# The command line

Running a command is a function of what it reads.  It ends in one of six ways: something
is printed, something is saved to a file, a file is begun and given up, a failure is
reported, the words were misused, or the command breaks down.  Notices are logged on the
way.  What is printed and reported is free of control sequences; files and the log keep
them.

The words are spelled out, for they may be uneven.  An uneven text can be reported as a
failure, but it cannot be printed or saved.
-/

namespace DepAtlas.CommandLine

/-- A failure that is reported. -/
inductive Failure where
  | invalidDocument (path : String) (issues : List Issue)
  /-- The input contradicts itself. -/
  | contradiction (fault : Fault)
  | unknownComponent (id : ComponentId)
  deriving DecidableEq, Repr

/-- The message of a failure, spelled out. -/
def Failure.message : Failure → String
  | .invalidDocument path _ => s!"Invalid input document {path}:"
  | .contradiction fault => Text.spelled fault.message
  | .unknownComponent id => s!"Component '{id}' not found"

/-- A failure that nobody has provided for. -/
inductive Breakdown where
  /-- The input is not UTF-8. -/
  | notUtf8
  /-- The output would stand in a directory that does not exist. -/
  | noDirectory
  /-- The output would stand below a file. -/
  | notDirectory
  /-- The output would replace a directory. -/
  | isDirectory
  /-- The name of the output is longer than any file's. -/
  | nameTooLong
  /-- A path holds a NUL character. -/
  | cutShort
  /-- An uneven text would have to be encoded. -/
  | uneven
  /-- A component was looked up that is not there. -/
  | fault (cause : Fault)
  /-- The analysis has no document. -/
  | unwritable (issues : List Issue)
  deriving DecidableEq, Repr

/-- The message of a breakdown. -/
def Breakdown.message : Breakdown → String
  | .notUtf8 => "The input is not UTF-8"
  | .noDirectory => "No such directory for the output"
  | .notDirectory => "The output would stand below a file"
  | .isDirectory => "The output is a directory"
  | .nameTooLong => "The name of the output is too long"
  | .cutShort => "A path holds a NUL character"
  | .uneven => "Half of a surrogate pair cannot be encoded"
  | .fault cause => s!"Lookup failed: {cause.message}"
  | .unwritable _ => "The result cannot be written as a document"

/-- How a command ends. -/
inductive Ending where
  | printed (text : String)
  | saved (path text : String)
  /-- A file is left with a text in it when something uneven comes up. -/
  | abandoned (path text : String)
  | failed (failure : Failure)
  | misused (verb : Option Verb) (misuse : Misuse)
  | broken (breakdown : Breakdown)
  deriving DecidableEq, Repr

/-- The ending of a line that is no command. -/
def Ending.ofRejection (rejection : Rejection) : Ending :=
  match rejection.obstacle with
  | .misuse misuse => .misused rejection.verb misuse
  | .cutShort _ => .broken .cutShort
  | .unencodable _ => .broken .uneven

/-- The ending of an analysis at a fault. -/
def Ending.ofFault : Fault → Ending
  | .absent id => .broken (.fault (.absent id))
  | .unopened id => .broken (.fault (.unopened id))
  | .oversizedNumber => .broken (.fault .oversizedNumber)
  | fault => .failed (.contradiction fault)

/-- What comes out of a command: the notices on the way, and its ending. -/
structure Outcome where
  /-- The least level of the notices that are logged. -/
  least : Level := .warning
  notices : List Notice := []
  ending : Ending
  deriving DecidableEq, Repr

namespace Outcome

/-- The exit code. -/
def exitCode (outcome : Outcome) : Nat :=
  match outcome.ending with
  | .printed _ | .saved _ _ => 0
  | .failed _ | .broken _ | .abandoned _ _ => 1
  | .misused .. => 2

/-- What goes to standard output. -/
def stdout (outcome : Outcome) : String :=
  match outcome.ending with
  | .printed text => Text.plain (text ++ "\n")
  | .saved path _ => Text.plain (Text.legible s!"Repository map saved to {path}\n")
  | _ => ""

/-- What goes to standard error: the log, and the report of a failure. -/
def stderr (outcome : Outcome) : String :=
  let log := (Notice.lines outcome.least outcome.notices).map (· ++ "\n")
  let report := match outcome.ending with
    | .failed failure => s!"Error: {failure.message}\n"
    | .misused verb misuse => misuse.report verb
    | _ => ""
  String.join log ++ Text.plain (Text.legible report)

/-- The file that is written, with its path and text. -/
def written? (outcome : Outcome) : Option (String × String) :=
  match outcome.ending with
  | .saved path text | .abandoned path text => some (path, text)
  | _ => none

/-- The breakdown, if there is one. -/
def breakdown? (outcome : Outcome) : Option Breakdown :=
  match outcome.ending with
  | .broken breakdown => some breakdown
  | .abandoned _ _ => some .uneven
  | _ => none

end Outcome

/-- Notices, and the value that they led to or the ending that came before it. -/
structure Attempt (α : Type) where
  notices : List Notice
  result : Except Ending α

/-- The notices and the ending of an attempt that is concluded from its value. -/
def Attempt.conclude {α : Type} (attempt : Attempt α) (ending : α → Ending) :
    List Notice × Ending :=
  match attempt.result with
  | .ok value => (attempt.notices, ending value)
  | .error early => (attempt.notices, early)

/-- Analyse the document in a file. -/
def InputFile.analyze (file : InputFile) (settings : Settings) : Attempt Analysis :=
  match InputDocument.ofBytes file.content with
  | .error .notUtf8 => ⟨[], .error (.broken .notUtf8)⟩
  | .error (.invalid issues) => ⟨[], .error (.failed (.invalidDocument file.path issues))⟩
  | .ok document =>
      let traced := DepAtlas.analyze settings document.records document.references
      ⟨traced.notices, traced.outcome.mapError .ofFault⟩

/-- Save a text to a file, if it is not uneven; otherwise the file is left empty. -/
def Target.save (target : Target) (text? : Option String) : Ending :=
  match target.entry with
  | .file _ | .vacant =>
      match text? with
      | some text =>
          if Text.isUneven target.path then .abandoned target.path text
          else .saved target.path text
      | none => .abandoned target.path ""
  | .directory => .broken .isDirectory
  | .astray => .broken .noDirectory
  | .blocked => .broken .notDirectory
  | .tooLong => .broken .nameTooLong
  | .cutShort => .broken .cutShort
  | .unencodable => .broken .uneven

namespace AnalyzeOptions

/-- The settings of an analysis with these options. -/
def settings (options : AnalyzeOptions) : Settings :=
  .ofLimit options.top.1 options.top.2

/-- The map of an analysis, unless it is uneven. -/
def mapOf? (options : AnalyzeOptions) (path : String) (analysis : Analysis) :
    Except Breakdown (Option String) :=
  match Text.unspelled? path, options.focus.mapM Text.unspelled? with
  | some repository, some focus =>
      match analysis.map
        { repository := some repository
          focus
          showOrder := options.showOrder
          showDependencies := options.showDependencies }
        options.settings with
      | .ok text => .ok (some text)
      | .error fault => .error (.fault fault)
  | _, _ => .ok none

/-- The text that an analysis is reported by: its document or its map, unless that is
uneven. -/
def textOf? (options : AnalyzeOptions) (path : String) (analysis : Analysis) :
    Except Breakdown (Option String) :=
  if options.json then
    match analysis.document with
    | .ok document => .ok (some (document.toText (some 2)))
    | .bad issues => .error (.unwritable issues)
  else options.mapOf? path analysis

/-- Print or save what an analysis is reported by. -/
def report (options : AnalyzeOptions) (path : String) (analysis : Analysis) : Ending :=
  match options.textOf? path analysis with
  | .error breakdown => .broken breakdown
  | .ok text? =>
      match options.output, text? with
      | some target, text? => target.save text?
      | none, some text => .printed text
      | none, none => .broken .uneven

end AnalyzeOptions

/-- Print ids, one a line. -/
def printIds (component : ComponentId) : Option (List ComponentId) → Ending
  | none => .failed (.unknownComponent component)
  | some [] => .printed "(none)"
  | some ids => .printed ("\n".intercalate ids)

/-- The style that differences are printed in. -/
def diffStyle : Json.Style := { indent := some 2, asciiOnly := true }

/-- Run a command: the notices on the way, and how it ends. -/
def Command.run : Command → List Notice × Ending
  | .analyze input options =>
      (input.analyze options.settings).conclude (options.report input.path)
  | .deps input component =>
      (input.analyze {}).conclude fun analysis =>
        printIds component ((Text.unspelled? component).bind analysis.dependencies?)
  | .dependents input component =>
      (input.analyze {}).conclude fun analysis =>
        printIds component ((Text.unspelled? component).bind analysis.dependents?)
  | .diff old new =>
      let before := old.analyze {}
      match before.result with
      | .error early => (before.notices, early)
      | .ok result =>
          let (notices, ending) := (new.analyze {}).conclude fun other =>
            .printed ((result.differences other).toJson.write diffStyle)
          (before.notices ++ notices, ending)

/-- Run what a line of words asks for. -/
def Invocation.run : Invocation → Outcome
  | .version => { ending := .printed s!"{programName}, version {DepAtlas.version}" }
  | .help verb => { ending := .printed (usageOf verb) }
  | .command least action =>
      let (notices, ending) := action.run
      { least, notices, ending }

/-- Run a line of words that are spelled out; `look` shows what a path leads to. -/
def run (look : String → Entry) (line : List String) : Outcome :=
  match Invocation.ofLine look line with
  | .ok invocation => invocation.run
  | .error rejection => { ending := .ofRejection rejection }

/-- Run lines of words one after another in a file tree: their outcomes, and the tree with
what they have written. -/
def runAll (tree : FileTree) : List (List String) → List Outcome × FileTree
  | [] => ([], tree)
  | line :: lines =>
      let outcome := run tree.entry line
      let next := match outcome.written? with
        | some (path, text) => tree.put path text.toUTF8
        | none => tree
      let (outcomes, last) := runAll next lines
      (outcome :: outcomes, last)

end DepAtlas.CommandLine
