import DepAtlas.Text.Blank

/-!
# Integers in text

There are two ways to read an integer, both with blanks around it.

On a command line an integer is an optional sign and a run of digits, with single
underscores between digits.  Every decimal digit of Unicode counts.

In a document an integer is read strictly: a minus sign, if any, and ASCII digits without
a zero in front.  A text that is not written so is cleaned before it is read.  Cleaning
drops the blanks and a plus sign, the zeros in front with the underscores among them, a
fraction of zeros, and single underscores.  A minus sign may also stand behind the zeros,
where cleaning puts it in front.
-/

namespace DepAtlas.Text

/-- The most digits that an integer is read from. -/
def maxDigits : Nat := 4300

/-! ## Integers on a command line -/

/-- The zeros of the decimal digit ranges of Unicode: each range holds the digits
zero to nine in order. -/
def digitZeros : List Nat :=
  [0x30, 0x660, 0x6F0, 0x7C0, 0x966, 0x9E6, 0xA66, 0xAE6, 0xB66, 0xBE6, 0xC66, 0xCE6,
   0xD66, 0xDE6, 0xE50, 0xED0, 0xF20, 0x1040, 0x1090, 0x17E0, 0x1810, 0x1946, 0x19D0,
   0x1A80, 0x1A90, 0x1B50, 0x1BB0, 0x1C40, 0x1C50, 0xA620, 0xA8D0, 0xA900, 0xA9D0,
   0xA9F0, 0xAA50, 0xABF0, 0xFF10, 0x104A0, 0x10D30, 0x11066, 0x110F0, 0x11136, 0x111D0,
   0x112F0, 0x11450, 0x114D0, 0x11650, 0x116C0, 0x11730, 0x118E0, 0x11950, 0x11C50,
   0x11D50, 0x11DA0, 0x16A60, 0x16AC0, 0x16B50, 0x1D7CE, 0x1D7D8, 0x1D7E2, 0x1D7EC,
   0x1D7F6, 0x1E140, 0x1E2F0, 0x1E950, 0x1FBF0]

/-- The value of a decimal digit of any script. -/
def decimalDigit? (c : Char) : Option Nat :=
  (digitZeros.find? fun first => first ≤ c.toNat && c.toNat < first + 10).map (c.toNat - ·)

/-- Continue a number whose value so far is `value`, right behind a digit: more digits,
or an underscore that has a digit behind it. -/
def digitsFrom (value : Nat) : List Char → Option Nat
  | [] => some value
  | '_' :: c :: rest => (decimalDigit? c).bind fun d => digitsFrom (10 * value + d) rest
  | c :: rest => (decimalDigit? c).bind fun d => digitsFrom (10 * value + d) rest

/-- A natural number: at least one digit, with single underscores allowed between digits. -/
def natural? : List Char → Option Nat
  | [] => none
  | c :: rest => (decimalDigit? c).bind fun d => digitsFrom d rest

/-- An integer: at most one sign in front of a natural number. -/
def integer? : List Char → Option Int
  | '-' :: rest => (natural? rest).map fun n => -(n : Int)
  | '+' :: rest => (natural? rest).map Int.ofNat
  | cs => (natural? cs).map Int.ofNat

/-- The integer that a word of a command line writes, unless it has more digits than are
read. -/
def wordInteger? (cs : List Char) : Option Int :=
  if maxDigits < cs.countP fun c => (decimalDigit? c).isSome then none
  else integer? (trimBlanks cs)

/-! ## Integers in documents -/

/-- Why a text is no integer. -/
inductive NumeralFault where
  | malformed
  /-- It has more digits than are read. -/
  | tooLong
  deriving DecidableEq, Repr

/-- What is left behind zeros and underscores, the last of which is `last`.  It stays where
nothing or a point follows. -/
def behindZeros? (last : Char) : List Char → Option (List Char)
  | [] => some [last]
  | c :: rest =>
      if c == '0' || c == '_' then behindZeros? c rest
      else if c == '.' then some (last :: c :: rest)
      else if c.isDigit || c == '-' then some (c :: rest)
      else none

/-- A number without the zeros in front; it has to begin with a digit. -/
def dropZeros? : List Char → Option (List Char)
  | [] => none
  | '0' :: rest => behindZeros? '0' rest
  | c :: rest => if c.isDigit then some (c :: rest) else none

/-- A number without its fraction, if that is one or more zeros; any other number as it
is. -/
def dropFraction (cs : List Char) : List Char :=
  match cs.dropWhile (· != '.') with
  | _ :: '0' :: zeros => if zeros.all (· == '0') then cs.takeWhile (· != '.') else cs
  | _ => cs

/-- Whether every underscore stands alone between two other characters. -/
def underscoresApart : List Char → Bool
  | [] => true
  | ['_'] => false
  | '_' :: '_' :: _ => false
  | _ :: rest => underscoresApart rest

/-- A number without its underscores, if they stand apart and none is in front; any other
number as it is. -/
def dropUnderscores (cs : List Char) : List Char :=
  if cs.head? != some '_' && underscoresApart cs then cs.filter (· != '_') else cs

/-- A number without sign, cleaned. -/
def cleaned? (cs : List Char) : Option (List Char) :=
  (dropZeros? cs).map fun number => dropUnderscores (dropFraction number)

/-- The number that a run of ASCII digits writes, without a zero in front. -/
def strictNatural (cs : List Char) : Except NumeralFault Nat :=
  let run := cs.takeWhile Char.isDigit
  if run.isEmpty || (run.head? == some '0' && run.length != 1) then .error .malformed
  else if maxDigits < run.length then .error .tooLong
  else if run.length != cs.length then .error .malformed
  else .ok (Nat.ofDigitChars 10 cs 0)

/-- The integer that a sign, if any, and digits write. -/
def strictInteger : List Char → Except NumeralFault Int
  | '-' :: cs => (strictNatural cs).map fun n => -(n : Int)
  | cs => (strictNatural cs).map Int.ofNat

/-- A text as a strict number, cleaned of blanks around it, of a plus sign, and of zeros
and underscores that do not count. -/
def cleanedInteger? (cs : List Char) : Option (List Char) :=
  match trimBlanks cs with
  | '-' :: number => (cleaned? number).map ('-' :: ·)
  | '+' :: number => cleaned? number
  | number => cleaned? number

/-- The integer that a text of a document writes.  It is read as it stands, or else
cleaned.  Only a text that begins with its digits is too long; one that has too many
digits when it is cleaned is malformed. -/
def documentInteger (cs : List Char) : Except NumeralFault Int :=
  match strictInteger cs with
  | .error .malformed =>
      match (cleanedInteger? cs).map strictInteger with
      | some (.ok n) => .ok n
      | _ => .error .malformed
  | reading => reading

end DepAtlas.Text
