import DepAtlas.Text.Hexadecimal
import DepAtlas.Text.Printable
import DepAtlas.Text.Uneven

/-!
# Quoted text

How an identifier, a path or a rejected value is shown inside a message: between quotes,
with everything that could not be read on a terminal escaped.  A surrogate that stands
alone is shown like any other number that cannot be read.
-/

namespace DepAtlas.Text

/-- Single quotes, unless the text has a single quote and no double quote. -/
def delimiter (cs : List Char) : Char :=
  if cs.contains '\'' && !cs.contains '"' then '"' else '\''

/-- A character by its number, with as few digits as its size needs. -/
def numbered (number : Nat) : List Char :=
  if number < 0x100 then '\\' :: 'x' :: hexDigits 2 number
  else if number < 0x10000 then '\\' :: 'u' :: hexDigits 4 number
  else '\\' :: 'U' :: hexDigits 8 number

/-- One character between quotes.  The quote in use and the backslash take a backslash;
an unprintable character is written by its number. -/
def quoteChar (quote c : Char) : List Char :=
  if c == quote || c == '\\' then ['\\', c]
  else if c == '\n' then ['\\', 'n']
  else if c == '\r' then ['\\', 'r']
  else if c == '\t' then ['\\', 't']
  else if isPrintable c then [c]
  else numbered c.toNat

/-- A text between quotes. -/
def quoted (text : String) : String :=
  let cs := text.toList
  let quote := delimiter cs
  String.ofList (quote :: cs.flatMap (quoteChar quote) ++ [quote])

/-- A number of an uneven text between quotes. -/
def quoteNumber (quote : Char) (number : Nat) : List Char :=
  if isSurrogate number then numbered number else quoteChar quote (Char.ofNat number)

/-- The text that is spelled out by another one, between quotes. -/
def quotedSpelled (text : String) : String :=
  let quote := delimiter text.toList
  String.ofList
    (quote :: (spelledNumbers text.toList).flatMap (quoteNumber quote) ++ [quote])

/-- Why an uneven text is not written: the first surrogates in it cannot be encoded. -/
def encodingMessage (text : String) : String :=
  let numbers := spelledNumbers text.toList
  let front := numbers.takeWhile (!isSurrogate ·)
  let run := (numbers.drop front.length).takeWhile isSurrogate
  let first := front.length
  let what :=
    if run.length = 1 then
      let number := String.ofList ((run.take 1).flatMap numbered)
      s!"character '{number}' in position {first}"
    else s!"characters in position {first}-{first + run.length - 1}"
  s!"UnicodeEncodeError: 'utf-8' codec can't encode {what}: surrogates not allowed"

/-- The text that is spelled out by another one, with the surrogates in it by their
numbers. -/
def legible (text : String) : String :=
  String.ofList ((spelledNumbers text.toList).flatMap fun number =>
    if isSurrogate number then numbered number else [Char.ofNat number])

end DepAtlas.Text
