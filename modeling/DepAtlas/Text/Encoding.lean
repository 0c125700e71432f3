import DepAtlas.Text.Uneven

/-!
# Encodings

The encoding of JSON shows in the zeros among its first bytes: it begins with a character
of ASCII, which is a byte of its own in UTF-8, and has a zero byte beside it in UTF-16 and
three in UTF-32.  Surrogates that stand alone are taken in both, so what is decoded is
spelled out.  In UTF-8 a byte order mark may stand in front.
-/

namespace DepAtlas.Text

/-- How a text is laid out in bytes. -/
inductive Encoding where
  | utf8
  | utf16 (bigEndian : Bool)
  | utf32 (bigEndian : Bool)
  deriving DecidableEq, Repr

/-- The encoding of a text without a byte order mark, by its first bytes. -/
def Encoding.ofBytes : List UInt8 → Encoding
  | 0 :: 0 :: _ :: _ :: _ => .utf32 true
  | 0 :: _ :: _ :: _ :: _ => .utf16 true
  | _ :: 0 :: 0 :: 0 :: _ => .utf32 false
  | _ :: 0 :: _ :: _ :: _ => .utf16 false
  | [0, _] => .utf16 true
  | [_, 0] => .utf16 false
  | _ => .utf8

/-- Units of two bytes. -/
def pairs? (bigEndian : Bool) : List UInt8 → Option (List Nat)
  | [] => some []
  | [_] => none
  | a :: b :: rest =>
      let unit := if bigEndian then 256 * a.toNat + b.toNat else 256 * b.toNat + a.toNat
      (pairs? bigEndian rest).map (unit :: ·)

/-- Pairs of units as one number each. -/
def doubled? (bigEndian : Bool) : List Nat → Option (List Nat)
  | [] => some []
  | [_] => none
  | a :: b :: rest =>
      let unit := if bigEndian then 65536 * a + b else 65536 * b + a
      (doubled? bigEndian rest).map (unit :: ·)

/-- The numbers of the text that bytes hold in an encoding. -/
def Encoding.numbers? (encoding : Encoding) (bytes : List UInt8) : Option (List Nat) :=
  match encoding with
  | .utf8 =>
      (String.fromUTF8? bytes.toByteArray).map fun text => text.toList.map Char.toNat
  | .utf16 bigEndian => (pairs? bigEndian bytes).map joinUnits
  | .utf32 bigEndian => do
      let numbers ← doubled? bigEndian (← pairs? bigEndian bytes)
      if numbers.all isTextNumber then some numbers else none

/-- The text that bytes hold, spelled out.  A byte order mark does not belong to it. -/
def decode? : List UInt8 → Option (List Char)
  | 0xEF :: 0xBB :: 0xBF :: bytes => (Encoding.utf8.numbers? bytes).map spellOut
  | bytes => ((Encoding.ofBytes bytes).numbers? bytes).map spellOut

end DepAtlas.Text
