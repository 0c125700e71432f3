import DepAtlas.Text.Hexadecimal
import DepAtlas.Text.Utf8

/-!
# Percent encoding

In an address, a percent sign and two hexadecimal digits stand for a byte, and any other
character for its bytes in UTF-8.  The laws are that an encoded text is decoded as the text,
and that a text without percent signs is left as it is.
-/

namespace DepAtlas.Text

/-- The byte that two hexadecimal digits write. -/
def hexByte? (high low : Char) : Option UInt8 := do
  return UInt8.ofNat (16 * (← hexDigit? high) + (← hexDigit? low))

/-- The bytes that a text with percent signs stands for. -/
def percentBytes : List Char → List UInt8
  | [] => []
  | '%' :: high :: low :: rest =>
      match hexByte? high low with
      | some byte => byte :: percentBytes rest
      | none => String.utf8EncodeChar '%' ++ percentBytes (high :: low :: rest)
  | c :: rest => String.utf8EncodeChar c ++ percentBytes rest
termination_by cs => cs.length

/-- A byte with a percent sign. -/
def percentByte (byte : UInt8) : List Char :=
  '%' :: hexDigits 2 byte.toNat

/-- A text with every byte written with a percent sign. -/
def percentEncode (cs : List Char) : List Char :=
  (cs.flatMap String.utf8EncodeChar).flatMap percentByte

/-- The two digits of a byte write it. -/
theorem hexByte?_digitChar (byte : UInt8) :
    hexByte? (Nat.digitChar (byte.toNat / 16 % 16)) (Nat.digitChar (byte.toNat % 16)) =
      some byte := by
  have bound : byte.toNat < 256 := byte.toNat_lt
  have high : byte.toNat / 16 % 16 < 16 := by omega
  have low : byte.toNat % 16 < 16 := by omega
  have whole : 16 * (byte.toNat / 16 % 16) + byte.toNat % 16 = byte.toNat := by omega
  unfold hexByte?
  rw [hexDigit?_digitChar high, hexDigit?_digitChar low]
  simp only [Option.bind_eq_bind, Option.bind_some, whole, UInt8.ofNat_toNat]
  rfl

/-- An encoded byte is read back, whatever follows it. -/
theorem percentBytes_percentByte (byte : UInt8) (cs : List Char) :
    percentBytes (percentByte byte ++ cs) = byte :: percentBytes cs := by
  simp [percentByte, hexDigits, percentBytes, hexByte?_digitChar]

/-- An encoded text stands for its bytes. -/
theorem percentBytes_percentEncode (cs : List Char) :
    percentBytes (percentEncode cs) = cs.flatMap String.utf8EncodeChar := by
  unfold percentEncode
  induction cs.flatMap String.utf8EncodeChar with
  | nil => simp [percentBytes]
  | cons byte bytes ih => simp [percentBytes_percentByte, ih]

/-- A text with its percent signs decoded. -/
def percentDecode (cs : List Char) : List Char :=
  charsOfBytes (percentBytes cs)

theorem percentDecode_percentEncode (cs : List Char) : percentDecode (percentEncode cs) = cs := by
  rw [percentDecode, percentBytes_percentEncode, charsOfBytes_flatMap]

theorem percentBytes_of_ne {c : Char} (other : c ≠ '%') (cs : List Char) :
    percentBytes (c :: cs) = String.utf8EncodeChar c ++ percentBytes cs := by
  match cs with
  | [] | [_] => simp [percentBytes]
  | _ :: _ :: _ => rw [percentBytes]; simp [other]

theorem percentBytes_of_not_mem {cs : List Char} (plain : '%' ∉ cs) :
    percentBytes cs = cs.flatMap String.utf8EncodeChar := by
  induction cs with
  | nil => simp [percentBytes]
  | cons c cs ih =>
      rw [List.mem_cons, not_or] at plain
      rw [percentBytes_of_ne (Ne.symm plain.1), ih plain.2, List.flatMap_cons]

theorem percentDecode_of_not_mem {cs : List Char} (plain : '%' ∉ cs) : percentDecode cs = cs := by
  rw [percentDecode, percentBytes_of_not_mem plain, charsOfBytes_flatMap]

/-- A text with every byte written with a percent sign holds nothing else than these signs and
digits. -/
theorem mem_percentEncode {c : Char} {cs : List Char} (member : c ∈ percentEncode cs) :
    c = '%' ∨ ∃ digit < 16, c = Nat.digitChar digit := by
  obtain ⟨byte, _, inside⟩ := List.mem_flatMap.1 member
  rcases List.mem_cons.1 inside with sign | digit
  · exact .inl sign
  · exact .inr (mem_hexDigits digit)

/-- Bytes of one character stand together; a percent sign without digits stands for
itself, and what it is decoded to is not decoded again. -/
example : percentDecode "a%2Fb%C3%A9%zz%%2541".toList = "a/bé%zz%%41".toList := by
  cbv

end DepAtlas.Text
