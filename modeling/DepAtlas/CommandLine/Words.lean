import DepAtlas.CommandLine.Misuse
import DepAtlas.Text.Resemblance

/-!
# Words of a command line

A line of words is sorted into options and arguments.  An option is written by its long
name, with its value behind an equals sign or in the next word, or by its letter, with
its value right behind the letter or in the next word; letters without values can share
one word.  Two hyphens alone end the options.  Words are spelled out.
-/

namespace DepAtlas.CommandLine

/-- What an option is about. -/
inductive OptionKey where
  | json
  | order
  | dependencies
  | focus
  | top
  | output
  | verbose
  | version
  | help
  deriving DecidableEq, Repr

/-- How an option is written. -/
structure OptionForm where
  key : OptionKey
  letter : Option Char := none
  long : String
  takesValue : Bool := false
  deriving DecidableEq, Repr

/-- The option that every command has. -/
def OptionForm.help : OptionForm := { key := .help, long := "--help" }

/-- The options of the program, which stand before the command. -/
def programForms : List OptionForm :=
  [ { key := .version, long := "--version" },
    { key := .verbose, long := "--verbose", letter := some 'v' },
    .help ]

/-- The options of a command. -/
def Verb.forms : Verb → List OptionForm
  | .analyze =>
      [ { key := .json, long := "--json" },
        { key := .order, long := "--order" },
        { key := .dependencies, long := "--deps" },
        { key := .focus, long := "--focus", takesValue := true },
        { key := .top, long := "--top", takesValue := true },
        { key := .output, long := "--output", letter := some 'o', takesValue := true },
        .help ]
  | .deps | .dependents | .diff => [.help]

/-- An option that has been given, with its value; an option that takes none has an empty
one. -/
structure Given where
  key : OptionKey
  value : String := ""
  deriving DecidableEq, Repr

/-- A line of words, sorted. -/
structure Words where
  options : List Given := []
  arguments : List String := []
  deriving DecidableEq, Repr

namespace Words

/-- The options that occur, each at its first place. -/
def keys (words : Words) : List OptionKey :=
  distinct (words.options.map (·.key))

/-- The value of an option: the last one that was given. -/
def value (words : Words) (key : OptionKey) : String :=
  ((words.options.reverse.find? fun given => given.key = key).map (·.value)).getD ""

/-- How often an option occurs. -/
def count (words : Words) (key : OptionKey) : Nat :=
  words.options.countP fun given => given.key = key

/-- The first occurrence of one of some options. -/
def first? (words : Words) (keys : List OptionKey) : Option OptionKey :=
  (words.options.find? fun given => given.key ∈ keys).map (·.key)

/-- The words with options in front. -/
def withOptions (options : List Given) (words : Words) : Words :=
  { words with options := options ++ words.options }

/-- The words with an argument in front. -/
def withArgument (argument : String) (words : Words) : Words :=
  { words with arguments := argument :: words.arguments }

end Words

/-- What one word says about options. -/
structure OptionWord where
  options : List Given := []
  /-- The option whose value is the next word, as it was written. -/
  awaiting : Option (OptionKey × String) := none
  deriving DecidableEq, Repr

/-- Read the letters of a word by their numbers. -/
def readLetters (forms : List OptionForm) : List Nat → Except Misuse OptionWord
  | [] => .ok {}
  | letter :: rest =>
      let name := String.ofList ('-' :: Text.spelling letter)
      match forms.find? fun form => form.letter.map Char.toNat = some letter with
      | none => .error (.unknownOption name [])
      | some form =>
          if form.takesValue then
            if rest.isEmpty then .ok { awaiting := some (form.key, name) }
            else .ok { options := [⟨form.key, String.ofList (Text.spellOut rest)⟩] }
          else
            (readLetters forms rest).map fun word =>
              { word with options := { key := form.key } :: word.options }

/-- The value behind the first equals sign of a word, if it has one. -/
def attachedValue? (word : List Char) : Option String :=
  match word.dropWhile (· != '=') with
  | [] => none
  | _ :: value => some (String.ofList value)

/-- Read an option under its long name. -/
def readLong (form : OptionForm) (value? : Option String) : Except Misuse OptionWord :=
  match form.takesValue, value? with
  | true, some value => .ok { options := [⟨form.key, value⟩] }
  | true, none => .ok { awaiting := some (form.key, form.long) }
  | false, some _ => .error (.valueUnwanted form.long)
  | false, none => .ok { options := [{ key := form.key }] }

/-- Read a word that begins with a hyphen: an option under its long name, or else letters
behind a single hyphen. -/
def readOptionWord (forms : List OptionForm) (word : List Char) : Except Misuse OptionWord :=
  let name := String.ofList (word.takeWhile (· != '='))
  match forms.find? fun form => form.long = name with
  | some form => readLong form (attachedValue? word)
  | none =>
      match word with
      | '-' :: '-' :: _ =>
          .error (.unknownOption name (Text.resembling name (forms.map (·.long))))
      | word => readLetters forms (Text.spelledNumbers (word.drop 1))

/-- Whether a word stands for options. -/
def isOptionWord : List Char → Bool
  | '-' :: _ :: _ => true
  | _ => false

/-- Sort a line of words.  Unless options may be mixed with arguments, the first argument
ends the options. -/
def readWords (forms : List OptionForm) (mixed : Bool) : List String → Except Misuse Words
  | [] => .ok {}
  | word :: rest =>
      if word = "--" then .ok { arguments := rest }
      else if isOptionWord word.toList then
        match readOptionWord forms word.toList with
        | .error misuse => .error misuse
        | .ok ⟨options, none⟩ => (readWords forms mixed rest).map (.withOptions options)
        | .ok ⟨options, some (key, name)⟩ =>
            match rest with
            | [] => .error (.valueMissing name)
            | value :: rest =>
                (readWords forms mixed rest).map (.withOptions (options ++ [⟨key, value⟩]))
      else if mixed then (readWords forms mixed rest).map (.withArgument word)
      else .ok { arguments := word :: rest }

end DepAtlas.CommandLine
