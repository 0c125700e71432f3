import DepAtlas.Json
import DepAtlas.Naming
import DepAtlas.Text.Numeral

/-!
# Schemas

How typed values are read out of JSON.  Reading goes on behind a mistake, so that all
mistakes of a document are reported together; each issue says what is wrong and where.
A reader of numbers or booleans also takes the other spellings that carry the same
value.
-/

namespace DepAtlas

/-- A step into a document. -/
inductive Step where
  | field (name : String)
  | index (position : Nat)
  deriving DecidableEq, Repr

/-- What is wrong at a place of a document. -/
inductive Mistake where
  /-- The text is no JSON. -/
  | notJson
  /-- An object was expected. -/
  | notObject
  /-- An object was expected in the body of a request. -/
  | notAttributes
  | missing
  | notList
  | notText
  /-- An uneven text stands in place of a number, a boolean or a name. -/
  | unevenText
  | notInteger
  | unreadableInteger
  | fractionalInteger
  | oversizedInteger
  | infiniteInteger
  | notBoolean
  | unreadableBoolean
  /-- A number is below its least value. -/
  | tooSmall
  /-- A value that is not text stands in place of a name, or a name is unknown. -/
  | notMember
  /-- A name is unknown, and the issue shows it. -/
  | unknownName (name : UnknownName)
  deriving DecidableEq, Repr

/-- The code that a mistake is reported by. -/
def Mistake.code : Mistake → String
  | .notJson => "json_invalid"
  | .notObject => "model_type"
  | .notAttributes => "model_attributes_type"
  | .missing => "missing"
  | .notList => "list_type"
  | .notText => "string_type"
  | .unevenText => "string_unicode"
  | .notInteger => "int_type"
  | .unreadableInteger => "int_parsing"
  | .fractionalInteger => "int_from_float"
  | .oversizedInteger => "int_parsing_size"
  | .infiniteInteger => "finite_number"
  | .notBoolean => "bool_type"
  | .unreadableBoolean => "bool_parsing"
  | .tooSmall => "greater_than_equal"
  | .notMember => "enum"
  | .unknownName _ => "value_error"

/-- The message of a mistake, where it has one, quoted in a certain way. -/
def Mistake.messageBy? (quote : String → String) : Mistake → Option String
  | .unknownName name => some s!"Value error, {name.messageBy quote}"
  | _ => none

/-- A mistake and its place. -/
structure Issue where
  mistake : Mistake
  place : List Step
  deriving DecidableEq, Repr

/-- A step in JSON. -/
def Step.toJson : Step → Json
  | .field name => .text name
  | .index position => .int position

/-- An issue in JSON, with a message that is quoted in a certain way. -/
def Issue.toJsonBy (quote : String → String) (issue : Issue) : Json :=
  .object ([
    ("type", .text issue.mistake.code),
    ("loc", .array (issue.place.map Step.toJson))] ++
    ((issue.mistake.messageBy? quote).map fun message => ("msg", Json.text message)).toList)

/-- An issue in JSON. -/
def Issue.toJson (issue : Issue) : Json :=
  issue.toJsonBy Text.quoted

/-- A value that was read, or all the issues that stand in the way. -/
inductive Checked (α : Type) where
  | ok (value : α)
  | bad (issues : List Issue)
  deriving Repr

namespace Checked

variable {α β : Type}

/-- A single mistake, at the place where reading stands. -/
def mistake (mistake : Mistake) : Checked α :=
  .bad [⟨mistake, []⟩]

/-- Change the value that was read. -/
def map (f : α → β) : Checked α → Checked β
  | .ok value => .ok (f value)
  | .bad issues => .bad issues

/-- Read two values side by side; the issues of the first come first. -/
def apply : Checked (α → β) → Checked α → Checked β
  | .ok f, .ok value => .ok (f value)
  | .ok _, .bad issues => .bad issues
  | .bad issues, .ok _ => .bad issues
  | .bad issues, .bad others => .bad (issues ++ others)

instance : Functor Checked where
  map := map

instance : Applicative Checked where
  pure := .ok
  seq f x := f.apply (x ())

/-- The same, one step deeper in the document. -/
def under (step : Step) : Checked α → Checked α
  | .ok value => .ok value
  | .bad issues => .bad (issues.map fun issue => { issue with place := step :: issue.place })

/-- The result as an `Except`. -/
def toExcept : Checked α → Except (List Issue) α
  | .ok value => .ok value
  | .bad issues => .error issues

end Checked

namespace Schema

variable {α : Type}

/-- A text. -/
def text : Json → Checked String
  | .text value | .uneven value => .ok value
  | _ => .mistake .notText

/-- A value or `null`. -/
def nullable (read : Json → Checked α) : Json → Checked (Option α)
  | .null => .ok none
  | value => (read value).map some

/-- The mistake of a decimal that is no integer. -/
def ofNotInteger : NotInteger → Mistake
  | .notFinite => .infiniteInteger
  | .fractional => .fractionalInteger
  | .tooLarge => .oversizedInteger

/-- The mistake of a text that is no integer. -/
def ofNumeralFault : Text.NumeralFault → Mistake
  | .malformed => .unreadableInteger
  | .tooLong => .oversizedInteger

/-- An integer: a number, a boolean as zero or one, or a text that writes a number. -/
def integer : Json → Checked Int
  | .int value => .ok value
  | .bool value => .ok (if value then 1 else 0)
  | .decimal value =>
      match value.integer with
      | .ok n => .ok n
      | .error reason => .mistake (ofNotInteger reason)
  | .text value =>
      match Text.documentInteger value.toList with
      | .ok n => .ok n
      | .error fault => .mistake (ofNumeralFault fault)
  | .uneven _ => .mistake .unevenText
  | _ => .mistake .notInteger

/-- An integer that is at least one. -/
def positive (value : Json) : Checked { n : Int // 1 ≤ n } :=
  match integer value with
  | .ok n => if h : 1 ≤ n then .ok ⟨n, h⟩ else .mistake .tooSmall
  | .bad issues => .bad issues

/-- The boolean that a text writes, in any case. -/
def booleanOfText? (text : String) : Option Bool :=
  match text.map Char.toLower with
  | "0" | "off" | "f" | "false" | "n" | "no" => some false
  | "1" | "on" | "t" | "true" | "y" | "yes" => some true
  | _ => none

/-- The boolean that an integer stands for.  Integers beyond 64 bits are no candidates. -/
def booleanOfInt (n : Int) : Checked Bool :=
  if n = 0 then .ok false
  else if n = 1 then .ok true
  else if -Int.pow 2 63 ≤ n ∧ n < Int.pow 2 63 then .mistake .unreadableBoolean
  else .mistake .notBoolean

/-- A boolean: `true` or `false`, zero or one, or a text that writes it. -/
def boolean : Json → Checked Bool
  | .bool value => .ok value
  | .int value => booleanOfInt value
  | .decimal value =>
      match value.integer with
      | .ok n => booleanOfInt n
      | .error _ => .mistake .notBoolean
  | .text value =>
      match booleanOfText? value with
      | some b => .ok b
      | none => .mistake .unreadableBoolean
  | .uneven _ => .mistake .unevenText
  | _ => .mistake .notBoolean

/-- A member of a family by name; the report shows an unknown name. -/
def named (family : NameFamily α) : Json → Checked α
  | .text name | .uneven name =>
      match family.read (.text name) with
      | .ok member => .ok member
      | .error unknown => .mistake (.unknownName unknown)
  | _ => .mistake .notMember

/-- A member of a family by name; the report does not show an unknown name. -/
def member (family : NameFamily α) : Json → Checked α
  | .text name =>
      match family.member? name with
      | some member => .ok member
      | none => .mistake .notMember
  | .uneven _ => .mistake .unevenText
  | _ => .mistake .notMember

/-- Read the items of an array that begin at a position. -/
def itemsFrom (read : Json → Checked α) (position : Nat) : List Json → Checked (List α)
  | [] => .ok []
  | item :: items =>
      List.cons <$> (read item).under (.index position) <*> itemsFrom read (position + 1) items

/-- A list. -/
def list (read : Json → Checked α) : Json → Checked (List α)
  | .array items => itemsFrom read 0 items
  | _ => .mistake .notList

/-- A field that has to be there. -/
def required (fields : List (String × Json)) (name : String) (read : Json → Checked α) :
    Checked α :=
  match Json.field? fields name with
  | some value => (read value).under (.field name)
  | none => (Checked.mistake .missing).under (.field name)

/-- A field that has a default value. -/
def optional (fields : List (String × Json)) (name : String) (default : α)
    (read : Json → Checked α) : Checked α :=
  match Json.field? fields name with
  | some value => (read value).under (.field name)
  | none => .ok default

/-- An object; `refusal` is the mistake of any other value. -/
def object (refusal : Mistake) (read : List (String × Json) → Checked α) : Json → Checked α
  | .object fields => read fields
  | _ => .mistake refusal

end Schema

end DepAtlas
