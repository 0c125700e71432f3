import DepAtlas.Json
import DepAtlas.Text.Hexadecimal
import DepAtlas.Text.Uneven

/-!
# Writing JSON

A style says how a value is laid out: on one line without blanks, or with one item on
each line; whether characters beyond ASCII are written as themselves; and whether the texts
of the value are spelled out.  A surrogate that stands alone can only be written by its
number.
-/

namespace DepAtlas.Json

/-- How JSON is laid out. -/
structure Style where
  /-- Blanks per level of nesting, one item a line; all on one line if absent. -/
  indent : Option Nat := none
  /-- Write characters outside the printable ASCII range by their number. -/
  asciiOnly : Bool := false
  /-- Take the texts of the value as spelled out. -/
  spelled : Bool := false
  deriving DecidableEq, Repr

/-- One line, no blanks, all characters as themselves. -/
def compact : Style := {}

/-- A unit of four hexadecimal digits. -/
def unitChars (unit : Nat) : List Char :=
  '\\' :: 'u' :: Text.hexDigits 4 unit

/-- A character by its number: one unit, or a surrogate pair. -/
def numbered (c : Char) : List Char :=
  if c.toNat < 0x10000 then unitChars c.toNat
  else
    let n := c.toNat - 0x10000
    unitChars (0xD800 + n / 0x400) ++ unitChars (0xDC00 + n % 0x400)

/-- A character inside a text. -/
def escaped (style : Style) (c : Char) : List Char :=
  if c == '"' then ['\\', '"']
  else if c == '\\' then ['\\', '\\']
  else if c == '\x08' then ['\\', 'b']
  else if c == '\x0c' then ['\\', 'f']
  else if c == '\n' then ['\\', 'n']
  else if c == '\r' then ['\\', 'r']
  else if c == '\t' then ['\\', 't']
  else if c.toNat < 0x20 then numbered c
  else if style.asciiOnly && 0x7F ≤ c.toNat then numbered c
  else [c]

/-- A number inside a text that may be uneven. -/
def escapedNumber (style : Style) (number : Nat) : List Char :=
  if Text.isSurrogate number then unitChars number else escaped style (Char.ofNat number)

/-- A text that is spelled out, with its quotes. -/
def spelledChars (style : Style) (text : String) : List Char :=
  '"' :: (Text.spelledNumbers text.toList).flatMap (escapedNumber style) ++ ['"']

/-- A text with its quotes. -/
def textChars (style : Style) (text : String) : List Char :=
  if style.spelled then spelledChars style text
  else '"' :: text.toList.flatMap (escaped style) ++ ['"']

/-- The digits of an integer. -/
def intChars (n : Int) : List Char :=
  if n < 0 then '-' :: Nat.toDigits 10 n.natAbs else Nat.toDigits 10 n.natAbs

/-- A decimal fraction, always with an exponent, so that it reads back as one. -/
def decimalChars : Decimal → List Char
  | .nan => "NaN".toList
  | .infinite false => "Infinity".toList
  | .infinite true => "-Infinity".toList
  | .finite negative digits exponent =>
      (if negative then ['-'] else []) ++ Nat.toDigits 10 digits ++ 'e' :: intChars exponent

/-- What stands in front of an item at a level of nesting. -/
def lineStart (style : Style) (level : Nat) : List Char :=
  match style.indent with
  | none => []
  | some n => '\n' :: List.replicate (n * level) ' '

/-- What stands between a field's name and its value. -/
def afterName (style : Style) : List Char :=
  match style.indent with
  | none => [':']
  | some _ => [':', ' ']

mutual

/-- The characters of a value at a level of nesting. -/
def chars (style : Style) (level : Nat) : Json → List Char
  | .null => "null".toList
  | .bool true => "true".toList
  | .bool false => "false".toList
  | .int value => intChars value
  | .decimal value => decimalChars value
  | .text value => textChars style value
  | .uneven value => spelledChars style value
  | .array [] => ['[', ']']
  | .array (item :: items) =>
      '[' :: lineStart style (level + 1) ++ chars style (level + 1) item ++
        itemChars style (level + 1) items ++ lineStart style level ++ [']']
  | .object [] => ['\x7b', '\x7d']
  | .object (field :: fields) =>
      '\x7b' :: lineStart style (level + 1) ++ fieldChars style (level + 1) field ++
        otherFieldChars style (level + 1) fields ++ lineStart style level ++ ['\x7d']

/-- The items behind the first of an array. -/
def itemChars (style : Style) (level : Nat) : List Json → List Char
  | [] => []
  | item :: items =>
      ',' :: lineStart style level ++ chars style level item ++ itemChars style level items

/-- A field of an object. -/
def fieldChars (style : Style) (level : Nat) : String × Json → List Char
  | (name, value) => textChars style name ++ afterName style ++ chars style level value

/-- The fields behind the first of an object. -/
def otherFieldChars (style : Style) (level : Nat) : List (String × Json) → List Char
  | [] => []
  | field :: fields =>
      ',' :: lineStart style level ++ fieldChars style level field ++
        otherFieldChars style level fields

end

/-- The text of a value. -/
def write (style : Style) (value : Json) : String :=
  String.ofList (chars style 0 value)

end DepAtlas.Json
