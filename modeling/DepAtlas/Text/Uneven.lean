import DepAtlas.Text.Surrogate

/-!
# Uneven texts

A text can be sent so that half of a surrogate pair stands alone in it.  Such a text is
*uneven*: it is a list of numbers, some of which are no characters.

An uneven text is kept *spelled out* in characters.  Each of its numbers is spelled as the
character that it is, except for the surrogates and the one number in front of them: these
are spelled with a mark and a second character.  The mark is the character of the number in
front.  So the spellings of two texts are joined when the texts are, they differ when the
texts do, and they are in the same order as the texts.

The laws are that a spelling reads back as the numbers that it was made from, and that a
text of characters only is read back as itself.
-/

namespace DepAtlas.Text

/-- The character in front of the surrogates, which marks what is not spelled as itself. -/
def mark : Char := '\ud7ff'

/-- Whether a number is spelled with a mark. -/
def isMarked (number : Nat) : Bool := 0xD7FF ≤ number && number < 0xE000

/-- What is added to a number to make it the character behind a mark. -/
def markedShift : Nat := 0xF0000

/-- How a number is spelled. -/
def spelling (number : Nat) : List Char :=
  if isMarked number then [mark, Char.ofNat (markedShift + number)]
  else [Char.ofNat number]

/-- The characters that spell out the numbers of a text. -/
def spellOut (numbers : List Nat) : List Char :=
  numbers.flatMap spelling

/-- The numbers that characters spell out. -/
def spelledNumbers : List Char → List Nat
  | [] => []
  | [c] => [c.toNat]
  | c :: next :: rest =>
      if c = mark then (next.toNat - markedShift) :: spelledNumbers rest
      else c.toNat :: spelledNumbers (next :: rest)

/-- A number that a text may hold: that of a character or of a surrogate. -/
def isTextNumber (number : Nat) : Bool := number < 0x110000

theorem toNat_ofNat {number : Nat} (h : number.isValidChar) :
    (Char.ofNat number).toNat = number := by
  rw [Char.ofNat, dif_pos h]
  rfl

theorem mark_toNat : mark.toNat = 0xD7FF := rfl

theorem spelledNumbers_unmarked {c : Char} (h : c ≠ mark) (cs : List Char) :
    spelledNumbers (c :: cs) = c.toNat :: spelledNumbers cs := by
  cases cs with
  | nil => rfl
  | cons next rest => simp [spelledNumbers, h]

/-- A spelled number is read back, whatever follows it. -/
theorem spelledNumbers_spelling {number : Nat} (h : isTextNumber number = true)
    (cs : List Char) :
    spelledNumbers (spelling number ++ cs) = number :: spelledNumbers cs := by
  have bound : number < 0x110000 := by simpa [isTextNumber] using h
  unfold spelling
  cases marked : isMarked number with
  | true =>
      have bounds : 0xD7FF ≤ number ∧ number < 0xE000 := by simpa [isMarked] using marked
      have valid : (markedShift + number).isValidChar := by
        unfold markedShift Nat.isValidChar
        omega
      simp [spelledNumbers, toNat_ofNat valid]
  | false =>
      have outside : number < 0xD7FF ∨ 0xE000 ≤ number := by
        have := marked
        simp only [isMarked, Bool.and_eq_false_iff, decide_eq_false_iff_not] at this
        omega
      have valid : number.isValidChar := by
        unfold Nat.isValidChar
        omega
      have unmarked : Char.ofNat number ≠ mark := by
        intro same
        have numbers := congrArg Char.toNat same
        rw [toNat_ofNat valid, mark_toNat] at numbers
        omega
      simp [spelledNumbers_unmarked unmarked, toNat_ofNat valid]

/-- What is spelled out is read back. -/
theorem spelledNumbers_spellOut {numbers : List Nat}
    (h : ∀ number ∈ numbers, isTextNumber number = true) :
    spelledNumbers (spellOut numbers) = numbers := by
  induction numbers with
  | nil => rfl
  | cons number rest ih =>
      have first := h number (by simp)
      have others := ih fun other member => h other (by simp [member])
      simp [spellOut, spelledNumbers_spelling first] at others ⊢
      exact others

/-- A text of characters, spelled out. -/
def spelled (text : String) : String :=
  String.ofList (spellOut (text.toList.map Char.toNat))

/-- Whether the text that is spelled out is uneven. -/
def isUneven (text : String) : Bool :=
  (spelledNumbers text.toList).any isSurrogate

/-- The text of characters that is spelled out, unless it is uneven. -/
def unspelled? (text : String) : Option String :=
  if isUneven text then none
  else some (String.ofList ((spelledNumbers text.toList).map Char.ofNat))

theorem isSome_unspelled? (text : String) : (unspelled? text).isSome = !isUneven text := by
  rw [unspelled?]
  cases isUneven text <;> rfl

/-- No character has the number of a surrogate. -/
theorem isSurrogate_toNat (c : Char) : isSurrogate c.toNat = false := by
  have valid : c.toNat.isValidChar := c.valid
  simp only [Nat.isValidChar] at valid
  simp only [isSurrogate, Bool.and_eq_false_iff, decide_eq_false_iff_not]
  omega

/-- The number of a character may stand in a text. -/
theorem isTextNumber_toNat (c : Char) : isTextNumber c.toNat = true := by
  have valid : c.toNat.isValidChar := c.valid
  simp only [Nat.isValidChar] at valid
  simp only [isTextNumber, decide_eq_true_eq]
  omega

/-- A text of characters spells out the numbers of its characters. -/
theorem spelledNumbers_spelled (text : String) :
    spelledNumbers (spelled text).toList = text.toList.map Char.toNat := by
  rw [spelled, String.toList_ofList]
  apply spelledNumbers_spellOut
  intro number member
  obtain ⟨c, _, rfl⟩ := List.mem_map.1 member
  exact isTextNumber_toNat c

/-- A text of characters is not uneven. -/
theorem isUneven_spelled (text : String) : isUneven (spelled text) = false := by
  simp [isUneven, spelledNumbers_spelled, isSurrogate_toNat]

/-- A text of characters is read back as itself. -/
theorem unspelled?_spelled (text : String) : unspelled? (spelled text) = some text := by
  simp [unspelled?, isUneven_spelled, spelledNumbers_spelled, Function.comp_def]

end DepAtlas.Text
