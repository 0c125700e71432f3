/-!
# UTF-8 with faults

Bytes are read as UTF-8 as far as they are.  Where a character breaks off, its bytes so far
are read as one replacement character, and reading goes on with the byte that does not fit;
a byte that begins no character is replaced by itself.

The law is that the bytes of a text are read as the text.
-/

namespace DepAtlas.Text

/-- The character that is read in place of bytes that are no UTF-8. -/
def replacement : Char := '\ufffd'

/-- A character of which some bytes are still due. -/
structure Unfinished where
  /-- The bits of the bytes so far. -/
  bits : Nat
  /-- How many bytes are due; at least one. -/
  due : Nat
  /-- The least byte that may come next. -/
  low : Nat := 0x80
  /-- The greatest byte that may come next. -/
  high : Nat := 0xBF
  deriving DecidableEq, Repr

namespace Unfinished

/-- The character of several bytes that a byte begins.  The bounds of the second byte leave
out longer spellings of a character than its shortest, surrogates, and numbers beyond those
of characters. -/
def begun? (byte : Nat) : Option Unfinished :=
  if 0xC2 ≤ byte ∧ byte < 0xE0 then some { bits := byte - 0xC0, due := 1 }
  else if byte = 0xE0 then some { bits := 0, due := 2, low := 0xA0 }
  else if byte = 0xED then some { bits := 0xD, due := 2, high := 0x9F }
  else if 0xE1 ≤ byte ∧ byte < 0xF0 then some { bits := byte - 0xE0, due := 2 }
  else if byte = 0xF0 then some { bits := 0, due := 3, low := 0x90 }
  else if byte = 0xF4 then some { bits := 4, due := 3, high := 0x8F }
  else if 0xF1 ≤ byte ∧ byte < 0xF4 then some { bits := byte - 0xF0, due := 3 }
  else none

/-- Whether a byte may come next. -/
def takes (character : Unfinished) (byte : Nat) : Bool :=
  character.low ≤ byte && byte ≤ character.high

end Unfinished

/-- What a byte adds where no character is unfinished: characters that are complete, and one
that is not. -/
def beginCharacter (byte : Nat) : List Char × Option Unfinished :=
  if byte < 0x80 then ([Char.ofNat byte], none)
  else
    match Unfinished.begun? byte with
    | some character => ([], some character)
    | none => ([replacement], none)

/-- What a byte adds behind a character that may be unfinished. -/
def takeByte (unfinished : Option Unfinished) (byte : Nat) : List Char × Option Unfinished :=
  match unfinished with
  | none => beginCharacter byte
  | some character =>
      if character.takes byte then
        let bits := 0x40 * character.bits + (byte - 0x80)
        if character.due ≤ 1 then ([Char.ofNat bits], none)
        else ([], some { bits, due := character.due - 1 })
      else
        let (complete, next) := beginCharacter byte
        (replacement :: complete, next)

/-- The characters of bytes behind a character that may be unfinished. -/
def charsOfBytesFrom (unfinished : Option Unfinished) : List UInt8 → List Char
  | [] => if unfinished.isSome then [replacement] else []
  | byte :: bytes =>
      let (complete, next) := takeByte unfinished byte.toNat
      complete ++ charsOfBytesFrom next bytes

/-- The characters of bytes. -/
def charsOfBytes (bytes : List UInt8) : List Char :=
  charsOfBytesFrom none bytes

/-! ## The bytes of a text -/

namespace Unfinished

/-- The first two of two bytes. -/
theorem exists_begun_two {number : Nat} (low : 0x80 ≤ number) (high : number < 0x800) :
    ∃ character, begun? (number / 64 % 32 + 192) = some character ∧
      character.bits = number / 64 ∧ character.due = 1 ∧
      character.takes (number % 64 + 128) = true := by
  have first : 0xC2 ≤ number / 64 % 32 + 192 ∧ number / 64 % 32 + 192 < 0xE0 := by omega
  refine ⟨_, if_pos first, ?_, rfl, ?_⟩
  · simp only
    omega
  · simp only [takes, Bool.and_eq_true, decide_eq_true_eq]
    omega

/-- The first two of three bytes.  No character has the number of a surrogate. -/
theorem exists_begun_three {number : Nat} (low : 0x800 ≤ number) (high : number < 0x10000)
    (valid : number.isValidChar) :
    ∃ character, begun? (number / 4096 % 16 + 224) = some character ∧
      character.bits = number / 4096 ∧ character.due = 2 ∧
      character.takes (number / 64 % 64 + 128) = true := by
  rw [Nat.isValidChar] at valid
  by_cases least : number / 4096 % 16 + 224 = 0xE0
  · refine ⟨⟨0, 2, 0xA0, 0xBF⟩, by rw [least]; rfl, ?_, rfl, ?_⟩
    · simp only
      omega
    · simp only [takes, Bool.and_eq_true, decide_eq_true_eq]
      omega
  by_cases surrogate : number / 4096 % 16 + 224 = 0xED
  · refine ⟨⟨0xD, 2, 0x80, 0x9F⟩, by rw [surrogate]; rfl, ?_, rfl, ?_⟩
    · simp only
      omega
    · simp only [takes, Bool.and_eq_true, decide_eq_true_eq]
      omega
  refine ⟨⟨number / 4096 % 16 + 224 - 0xE0, 2, 0x80, 0xBF⟩, ?_, ?_, rfl, ?_⟩
  · rw [begun?, if_neg (by omega), if_neg least, if_neg surrogate, if_pos (by omega)]
  · simp only
    omega
  · simp only [takes, Bool.and_eq_true, decide_eq_true_eq]
    omega

/-- The first two of four bytes. -/
theorem exists_begun_four {number : Nat} (low : 0x10000 ≤ number) (high : number < 0x110000) :
    ∃ character, begun? (number / 262144 % 8 + 240) = some character ∧
      character.bits = number / 262144 ∧ character.due = 3 ∧
      character.takes (number / 4096 % 64 + 128) = true := by
  by_cases least : number / 262144 % 8 + 240 = 0xF0
  · refine ⟨⟨0, 3, 0x90, 0xBF⟩, by rw [least]; rfl, ?_, rfl, ?_⟩
    · simp only
      omega
    · simp only [takes, Bool.and_eq_true, decide_eq_true_eq]
      omega
  by_cases greatest : number / 262144 % 8 + 240 = 0xF4
  · refine ⟨⟨4, 3, 0x80, 0x8F⟩, by rw [greatest]; rfl, ?_, rfl, ?_⟩
    · simp only
      omega
    · simp only [takes, Bool.and_eq_true, decide_eq_true_eq]
      omega
  refine ⟨⟨number / 262144 % 8 + 240 - 0xF0, 3, 0x80, 0xBF⟩, ?_, ?_, rfl, ?_⟩
  · rw [begun?, if_neg (by omega), if_neg (by omega), if_neg (by omega), if_neg (by omega),
      if_neg least, if_neg greatest, if_pos (by omega)]
  · simp only
    omega
  · simp only [takes, Bool.and_eq_true, decide_eq_true_eq]
    omega

end Unfinished

section Bytes

variable {byte : Nat} (small : byte < 0x100) (bytes : List UInt8)

include small

theorem charsOfBytesFrom_begun {character : Unfinished} (long : 0x80 ≤ byte)
    (begins : Unfinished.begun? byte = some character) :
    charsOfBytesFrom none (UInt8.ofNat byte :: bytes) = charsOfBytesFrom (some character) bytes := by
  have number : (UInt8.ofNat byte).toNat = byte := by
    rw [UInt8.toNat_ofNat']
    omega
  rw [charsOfBytesFrom, number, takeByte, beginCharacter, if_neg (by omega), begins]
  rfl

theorem charsOfBytesFrom_takes {character : Unfinished} (fits : character.takes byte = true)
    (more : 1 < character.due) :
    charsOfBytesFrom (some character) (UInt8.ofNat byte :: bytes) =
      charsOfBytesFrom (some ⟨0x40 * character.bits + (byte - 0x80), character.due - 1, 0x80, 0xBF⟩)
        bytes := by
  have number : (UInt8.ofNat byte).toNat = byte := by
    rw [UInt8.toNat_ofNat']
    omega
  rw [charsOfBytesFrom, number]
  simp only [takeByte, fits, if_true, if_neg (Nat.not_le_of_lt more), List.nil_append]

theorem charsOfBytesFrom_ends {character : Unfinished} (fits : character.takes byte = true)
    (last : character.due = 1) :
    charsOfBytesFrom (some character) (UInt8.ofNat byte :: bytes) =
      Char.ofNat (0x40 * character.bits + (byte - 0x80)) :: charsOfBytesFrom none bytes := by
  have number : (UInt8.ofNat byte).toNat = byte := by
    rw [UInt8.toNat_ofNat']
    omega
  rw [charsOfBytesFrom, number]
  simp [takeByte, fits, last]

end Bytes

/-- Any byte behind the second one is taken. -/
theorem takes_later (bits due number : Nat) :
    Unfinished.takes ⟨bits, due, 0x80, 0xBF⟩ (number % 64 + 128) = true := by
  simp only [Unfinished.takes, Bool.and_eq_true, decide_eq_true_eq]
  omega

/-- The bytes of a character are read as the character. -/
theorem charsOfBytesFrom_utf8EncodeChar (c : Char) (bytes : List UInt8) :
    charsOfBytesFrom none (String.utf8EncodeChar c ++ bytes) = c :: charsOfBytesFrom none bytes := by
  have valid : c.toNat.isValidChar := c.valid
  have bound : c.toNat < 0x110000 := by
    rw [Nat.isValidChar] at valid
    omega
  have back : ∀ number, number = c.toNat → Char.ofNat number = c := by
    rintro _ rfl
    exact Char.ofNat_toNat c
  have number : c.val.toNat = c.toNat := rfl
  rw [String.utf8EncodeChar]
  simp only [number]
  generalize c.toNat = number at valid bound back ⊢
  split
  next one =>
    have byte : (UInt8.ofNat number).toNat = number := by
      rw [UInt8.toNat_ofNat']
      omega
    rw [List.singleton_append, charsOfBytesFrom, byte, takeByte, beginCharacter,
      if_pos (by omega), back _ rfl]
    rfl
  next =>
    split
    next two =>
      obtain ⟨character, begins, bits, due, takes⟩ :=
        Unfinished.exists_begun_two (show 0x80 ≤ number by omega) (by omega)
      rw [List.cons_append, List.singleton_append,
        charsOfBytesFrom_begun (by omega) _ (by omega) begins,
        charsOfBytesFrom_ends (by omega) _ takes due, back _ (by omega)]
    next =>
      split
      next three =>
        obtain ⟨character, begins, bits, due, takes⟩ :=
          Unfinished.exists_begun_three (show 0x800 ≤ number by omega) (by omega) valid
        rw [List.cons_append, List.cons_append, List.singleton_append,
          charsOfBytesFrom_begun (by omega) _ (by omega) begins,
          charsOfBytesFrom_takes (by omega) _ takes (by omega),
          charsOfBytesFrom_ends (by omega) _ (takes_later _ _ _) (by simp only; omega),
          back _ (by simp only; omega)]
      next four =>
        obtain ⟨character, begins, bits, due, takes⟩ :=
          Unfinished.exists_begun_four (show 0x10000 ≤ number by omega) (by omega)
        rw [List.cons_append, List.cons_append, List.cons_append, List.singleton_append,
          charsOfBytesFrom_begun (by omega) _ (by omega) begins,
          charsOfBytesFrom_takes (by omega) _ takes (by omega),
          charsOfBytesFrom_takes (by omega) _ (takes_later _ _ _) (by simp only; omega),
          charsOfBytesFrom_ends (by omega) _ (takes_later _ _ _) (by simp only; omega),
          back _ (by simp only; omega)]

/-- The bytes of a text are read as the text. -/
theorem charsOfBytes_flatMap (cs : List Char) :
    charsOfBytes (cs.flatMap String.utf8EncodeChar) = cs := by
  rw [charsOfBytes]
  induction cs with
  | nil => rfl
  | cons c cs ih => rw [List.flatMap_cons, charsOfBytesFrom_utf8EncodeChar, ih]

/-- Characters of one to four bytes. -/
example : charsOfBytes "aé→😀".toUTF8.toList = "aé→😀".toList := by
  decide +kernel

/-- Two bytes of three are one fault, and three bytes that no character begins with are
three. -/
example : charsOfBytes [0xE4, 0xB8, 0x41, 0xFF, 0xC0, 0x80] =
    [replacement, 'A', replacement, replacement, replacement] := by
  decide +kernel

end DepAtlas.Text
