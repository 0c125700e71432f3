import DepAtlas.Text.Uneven
import DepAtlas.Text.Utf8

/-!
# File names

The name of a file is a list of bytes.  It is written as a text, which is spelled out.  As
far as the bytes are UTF-8 they are written as the characters that they hold.  Any other
byte is written as a surrogate that stands alone, whose number tells the byte.

A name may be written in several ways, of which the one that is read from its bytes is the
usual one.  There are surrogates that tell no byte; a text with one of them names no file.
The law is that a text of characters only names the file of its UTF-8 bytes.
-/

namespace DepAtlas.Text

/-- What is added to a byte to make it the number of a surrogate. -/
def byteShift : Nat := 0xDC00

/-- The bytes that a number in a name is written for. -/
def bytesOfNumber? (number : Nat) : Option (List UInt8) :=
  if isSurrogate number then
    if byteShift + 0x80 ≤ number ∧ number < byteShift + 0x100 then
      some [UInt8.ofNat (number - byteShift)]
    else none
  else some (String.utf8EncodeChar (Char.ofNat number))

/-- The bytes of a name. -/
def nameBytes? (name : String) : Option (List UInt8) :=
  ((spelledNumbers name.toList).mapM bytesOfNumber?).map List.flatten

/-- The number of bytes in a name. -/
def nameLength (name : String) : Nat :=
  ((nameBytes? name).getD []).length

/-- The character that bytes begin with. -/
def leadingChar? (bytes : List UInt8) : Option Char :=
  [1, 2, 3, 4].findSome? fun length =>
    (String.fromUTF8? (bytes.take length).toByteArray).bind fun text =>
      match text.toList with
      | [c] => some c
      | _ => none

/-- The numbers that bytes are written by, of which some first ones have been written
already. -/
def numbersOfBytes (written : Nat) : List UInt8 → List Nat
  | [] => []
  | byte :: bytes =>
      match written with
      | written + 1 => numbersOfBytes written bytes
      | 0 =>
          match leadingChar? (byte :: bytes) with
          | some c => c.toNat :: numbersOfBytes (c.utf8Size - 1) bytes
          | none => (byteShift + byte.toNat) :: numbersOfBytes 0 bytes

/-- A name in its usual form. -/
def usualName (name : String) : String :=
  match nameBytes? name with
  | some bytes => String.ofList (spellOut (numbersOfBytes 0 bytes))
  | none => name

/-- A name as it is shown: bytes that belong to no character are replaced. -/
def shownName (name : String) : String :=
  String.ofList (charsOfBytes ((nameBytes? name).getD []))

/-- A character is written for its own bytes. -/
theorem bytesOfNumber?_toNat (c : Char) :
    bytesOfNumber? c.toNat = some (String.utf8EncodeChar c) := by
  simp [bytesOfNumber?, isSurrogate_toNat]

/-- A text of characters is the name that is its own UTF-8. -/
theorem nameBytes?_spelled (text : String) :
    nameBytes? (spelled text) = some (text.toList.flatMap String.utf8EncodeChar) := by
  have each : (text.toList.map Char.toNat).mapM bytesOfNumber? =
      some (text.toList.map String.utf8EncodeChar) := by
    induction text.toList with
    | nil => rfl
    | cons c cs ih => simp [bytesOfNumber?_toNat, ih]
  simp [nameBytes?, spelledNumbers_spelled, each, List.flatMap]

/-- Two bytes of one character that are written apart are the character. -/
example : numbersOfBytes 0 [0x61, 0xC3, 0xA9, 0xA9] = [0x61, 0xE9, 0xDCA9] := by
  decide +kernel

end DepAtlas.Text
