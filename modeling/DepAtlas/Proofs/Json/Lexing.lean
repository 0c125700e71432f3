import DepAtlas.Json.Reader
import DepAtlas.Proofs.Json.Integers

/-!
# The tokens of written JSON

A value that is written without decimals and without uneven texts is read as its tokens: marks
of punctuation, texts that are spelled out, and atoms.  Blanks and line feeds between them do
not matter, so the tokens are the same for every indentation.
-/

namespace DepAtlas.Json

/-! ## Values that are read back -/

/-- Whether a reader takes an integer. -/
def Bounds.takes (bounds : Bounds) (n : Int) : Prop :=
  bounds.longIntegers = true ∨ n.natAbs < Nat.pow 10 Text.maxDigits

mutual

/-- Whether a value that is written can be read within some bounds and so many levels of
nesting. -/
def Readable (bounds : Bounds) (levels : Nat) : Json → Prop
  | .null | .bool _ | .text _ => True
  | .int value => bounds.takes value
  | .decimal _ | .uneven _ => False
  | .array items => 0 < levels ∧ ReadableItems bounds (levels - 1) items
  | .object fields => 0 < levels ∧ ReadableFields bounds (levels - 1) fields

/-- The same for the items of an array. -/
def ReadableItems (bounds : Bounds) (levels : Nat) : List Json → Prop
  | [] => True
  | item :: items => Readable bounds levels item ∧ ReadableItems bounds levels items

/-- The same for a field of an object. -/
def ReadableField (bounds : Bounds) (levels : Nat) : String × Json → Prop
  | (_, value) => Readable bounds levels value

/-- The same for the fields of an object. -/
def ReadableFields (bounds : Bounds) (levels : Nat) : List (String × Json) → Prop
  | [] => True
  | field :: fields => ReadableField bounds levels field ∧ ReadableFields bounds levels fields

end

section Readable

variable {bounds : Bounds} {levels : Nat}

@[simp] theorem readable_bool (value : Bool) : Readable bounds levels (.bool value) := by
  simp [Readable]

@[simp] theorem readable_text (value : String) : Readable bounds levels (.text value) := by
  simp [Readable]

@[simp] theorem readable_int {value : Int} :
    Readable bounds levels (.int value) ↔ bounds.takes value := by
  simp [Readable]

theorem readable_array {items : List Json} :
    Readable bounds levels (.array items) ↔
      0 < levels ∧ ∀ item ∈ items, Readable bounds (levels - 1) item := by
  have inside : ReadableItems bounds (levels - 1) items ↔
      ∀ item ∈ items, Readable bounds (levels - 1) item := by
    induction items with
    | nil => simp [ReadableItems]
    | cons item items ih => simp [ReadableItems, ih]
  rw [Readable, inside]

theorem readable_object {fields : List (String × Json)} :
    Readable bounds levels (.object fields) ↔
      0 < levels ∧ ∀ field ∈ fields, Readable bounds (levels - 1) field.2 := by
  have inside : ReadableFields bounds (levels - 1) fields ↔
      ∀ field ∈ fields, Readable bounds (levels - 1) field.2 := by
    induction fields with
    | nil => simp [ReadableFields]
    | cons field fields ih =>
        obtain ⟨name, value⟩ := field
        simp [ReadableFields, ReadableField, ih]
  rw [Readable, inside]

theorem readable_map {α : Type} (room : 0 < levels) {items : List α} {write : α → Json}
    (law : ∀ item ∈ items, Readable bounds (levels - 1) (write item)) :
    Readable bounds levels (.array (items.map write)) := by
  refine readable_array.2 ⟨room, ?_⟩
  intro value member
  obtain ⟨item, inside, rfl⟩ := List.mem_map.1 member
  exact law item inside

theorem readable_texts (room : 0 < levels) (items : List String) :
    Readable bounds levels (texts items) :=
  readable_map room fun text _ => readable_text text

end Readable

/-! ## Tokens -/

mutual

/-- The tokens that a value is written with. -/
def written : Json → List Token
  | .null => [.atom .null]
  | .bool value => [.atom (.bool value)]
  | .int value => [atomToken (intChars value)]
  | .decimal value => [atomToken (decimalChars value)]
  | .text value => [.text (Text.spelled value)]
  | .uneven value => [.text value]
  | .array [] => [.openArray, .closeArray]
  | .array (item :: items) =>
      .openArray :: written item ++ writtenItems items ++ [.closeArray]
  | .object [] => [.openObject, .closeObject]
  | .object (field :: fields) =>
      .openObject :: writtenField field ++ writtenFields fields ++ [.closeObject]

/-- The tokens of the items behind the first of an array. -/
def writtenItems : List Json → List Token
  | [] => []
  | item :: items => .comma :: written item ++ writtenItems items

/-- The tokens of a field. -/
def writtenField : String × Json → List Token
  | (name, value) => .text (Text.spelled name) :: .colon :: written value

/-- The tokens of the fields behind the first of an object. -/
def writtenFields : List (String × Json) → List Token
  | [] => []
  | field :: fields => .comma :: writtenField field ++ writtenFields fields

end

namespace Lexer

/-! ## Spelled characters -/

/-- Take a character as it is spelled out. -/
def take (lexer : Lexer) (c : Char) : Lexer :=
  (Text.spelling c.toNat).foldl step lexer

theorem tokens_spelled (text : String) :
    Json.tokens (Text.spelled text).toList = (text.toList.foldl take {}).finish := by
  rw [Json.tokens, Text.spelled, String.toList_ofList, Text.spellOut, List.foldl_flatMap,
    List.foldl_map]
  rfl

theorem spelling_toNat {c : Char} (plain : c.toNat < 0xD7FF) : Text.spelling c.toNat = [c] := by
  have unmarked : Text.isMarked c.toNat = false := by
    simp only [Text.isMarked, Bool.and_eq_false_iff, decide_eq_false_iff_not]
    omega
  rw [Text.spelling, unmarked]
  simp

/-- Characters in front of the mark are spelled as themselves. -/
theorem take_of_lt {c : Char} (plain : c.toNat < 0xD7FF) (lexer : Lexer) :
    lexer.take c = lexer.step c := by
  rw [take, spelling_toNat plain]
  rfl

theorem foldl_take_of_lt {cs : List Char} (plain : ∀ c ∈ cs, c.toNat < 0xD7FF) (lexer : Lexer) :
    cs.foldl take lexer = cs.foldl step lexer := by
  induction cs generalizing lexer with
  | nil => rfl
  | cons c cs ih =>
      rw [List.foldl_cons, List.foldl_cons, take_of_lt (plain c (by simp))]
      exact ih (fun other member => plain other (List.mem_cons_of_mem c member)) _

/-! ## Between tokens -/

/-- A lexer that has read some tokens, of which the last may be an atom that still goes on. -/
inductive Holds : Lexer → List Token → Prop where
  | between (tokens : List Token) : Holds ⟨.between, tokens⟩ tokens
  | inAtom (taken : List Char) (tokens : List Token)
      (readable : (atomToken taken.reverse).isLast = false) :
      Holds ⟨.inAtom taken, tokens⟩ (atomToken taken.reverse :: tokens)

theorem Holds.finish {lexer : Lexer} {tokens : List Token} (holds : lexer.Holds tokens) :
    lexer.finish = tokens.reverse := by
  cases holds with
  | between => rfl
  | inAtom => rfl

/-- A character that ends an atom is taken as if the atom had ended before it. -/
theorem Holds.ends {lexer : Lexer} {tokens : List Token} (holds : lexer.Holds tokens) {c : Char}
    (plain : c.toNat < 0xD7FF) (ending : endsAtom c = true) :
    lexer.take c = Lexer.start ⟨.between, tokens⟩ c := by
  rw [take_of_lt plain]
  cases holds with
  | between => rfl
  | inAtom taken tokens readable =>
      simp only [step, stepAtom, ending, readable, if_true, Bool.false_eq_true, if_false, push]

theorem Holds.mark {lexer : Lexer} {tokens : List Token} (holds : lexer.Holds tokens)
    {c : Char} {token : Token} (plain : c.toNat < 0xD7FF) (blank : isSpace c = false)
    (punctuation : punctuation? c = some token) (readable : token.isLast = false) :
    lexer.take c = ⟨.between, token :: tokens⟩ := by
  have ending : endsAtom c = true := by simp [endsAtom, punctuation]
  rw [holds.ends plain ending, start, blank, punctuation]
  simp [push, readable]

theorem foldl_take_blanks {cs : List Char} (blank : ∀ c ∈ cs, c.toNat < 0xD7FF ∧ isSpace c = true)
    (tokens : List Token) :
    cs.foldl take ⟨.between, tokens⟩ = ⟨.between, tokens⟩ := by
  induction cs with
  | nil => rfl
  | cons c cs ih =>
      obtain ⟨plain, space⟩ := blank c (by simp)
      have same : Lexer.take ⟨.between, tokens⟩ c = ⟨.between, tokens⟩ := by
        rw [take_of_lt plain]
        simp [step, start, space]
      rw [List.foldl_cons, same]
      exact ih fun other member => blank other (List.mem_cons_of_mem c member)

theorem blank_of_mem_lineStart {style : Style} {level : Nat} {c : Char}
    (member : c ∈ Json.lineStart style level) : c.toNat < 0xD7FF ∧ isSpace c = true := by
  unfold Json.lineStart at member
  split at member
  next => simp at member
  next =>
    rcases List.mem_cons.1 member with rfl | space
    · decide
    · rw [List.eq_of_mem_replicate space]
      decide

theorem foldl_lineStart (style : Style) (level : Nat) (tokens : List Token) :
    (Json.lineStart style level).foldl take ⟨.between, tokens⟩ = ⟨.between, tokens⟩ :=
  foldl_take_blanks (fun _ member => blank_of_mem_lineStart member) tokens

/-- A line start ends an atom, if it is not empty. -/
theorem Holds.lineStart {lexer : Lexer} {tokens : List Token} (holds : lexer.Holds tokens)
    (style : Style) (level : Nat) :
    ((Json.lineStart style level).foldl Lexer.take lexer).Holds tokens := by
  cases start : Json.lineStart style level with
  | nil => exact holds
  | cons c cs =>
      have blank : ∀ other ∈ c :: cs, other.toNat < 0xD7FF ∧ isSpace other = true := by
        intro other member
        rw [← start] at member
        exact blank_of_mem_lineStart member
      obtain ⟨plain, space⟩ := blank c (by simp)
      have broken : lexer.take c = ⟨.between, tokens⟩ := by
        rw [holds.ends plain (by simp [endsAtom, space]), Lexer.start, if_pos space]
      rw [List.foldl_cons, broken,
        foldl_take_blanks fun other member => blank other (List.mem_cons_of_mem c member)]
      exact .between tokens

/-- A run of characters none of which ends it is an atom. -/
theorem holds_atom {c : Char} {cs : List Char}
    (stand : ∀ other ∈ c :: cs, other.toNat < 0xD7FF ∧ endsAtom other = false)
    (readable : (atomToken (c :: cs)).isLast = false) (tokens : List Token) :
    ((c :: cs).foldl take ⟨.between, tokens⟩).Holds (atomToken (c :: cs) :: tokens) := by
  have goesOn : ∀ (rest taken : List Char), (∀ other ∈ rest, endsAtom other = false) →
      rest.foldl step ⟨.inAtom taken, tokens⟩ = ⟨.inAtom (rest.reverse ++ taken), tokens⟩ := by
    intro rest
    induction rest with
    | nil => exact fun _ _ => rfl
    | cons other rest ih =>
        intro taken inside
        have next : step ⟨.inAtom taken, tokens⟩ other = ⟨.inAtom (other :: taken), tokens⟩ := by
          simp [step, stepAtom, inside other (by simp)]
        have later := fun last member => inside last (List.mem_cons_of_mem _ member)
        rw [List.foldl_cons, next, ih _ later]
        simp
  have first := (stand c (by simp)).2
  have begun : step ⟨.between, tokens⟩ c = ⟨.inAtom [c], tokens⟩ := by
    simp only [endsAtom, Bool.or_eq_false_iff, Option.isSome_eq_false_iff,
      Option.isNone_iff_eq_none] at first
    simp [step, start, first]
  rw [foldl_take_of_lt fun other member => (stand other member).1, List.foldl_cons, begun,
    goesOn cs [c] fun other member => (stand other (List.mem_cons_of_mem c member)).2]
  have whole : (cs.reverse ++ [c]).reverse = c :: cs := by simp
  rw [← whole] at readable
  have holds := Holds.inAtom (cs.reverse ++ [c]) tokens readable
  rw [whole] at holds
  exact holds

theorem holds_intChars (n : Int) (tokens : List Token) :
    ((intChars n).foldl take ⟨.between, tokens⟩).Holds (atomToken (intChars n) :: tokens) := by
  have digit : ∀ c : Char, c.isDigit = true → c.toNat < 0xD7FF ∧ endsAtom c = false := by
    intro c isDigit
    have small : c.toNat ≤ '9'.toNat := by
      have bounds := isDigit
      simp only [Char.isDigit, Bool.and_eq_true, decide_eq_true_eq, UInt32.le_iff_toNat_le]
        at bounds
      exact bounds.2
    have noMark : punctuation? c = none := by
      unfold punctuation?
      split
      all_goals first | rfl | simp at isDigit
    have differs : ∀ other : Char, other.isDigit = false → (c == other) = false :=
      fun other noDigit => by simpa using ne_of_isDigit isDigit noDigit
    refine ⟨Nat.lt_of_le_of_lt small (by decide), ?_⟩
    simp [endsAtom, isSpace, noMark, differs]
  have stand : ∀ c ∈ intChars n, c.toNat < 0xD7FF ∧ endsAtom c = false := by
    intro c member
    rcases intChars_cases n with ⟨_, written⟩ | ⟨_, written⟩
    · rw [written] at member
      rcases List.mem_cons.1 member with rfl | inside
      · decide
      · exact digit c (isDigit_of_mem_toDigits inside)
    · rw [written] at member
      exact digit c (isDigit_of_mem_toDigits member)
  have readable : (atomToken (intChars n)).isLast = false := by
    rw [atomToken_intChars]
    split <;> rfl
  cases chars : intChars n with
  | nil =>
      rcases intChars_cases n with ⟨_, written⟩ | ⟨_, written⟩
      · simp [written] at chars
      · exact absurd (written.symm.trans chars) Nat.toDigits_ne_nil
  | cons c cs =>
      rw [chars] at stand readable
      exact holds_atom stand readable tokens

/-! ## Texts -/

/-- A unit is read as its number. -/
theorem foldl_unitChars {unit : Nat} (small : unit < 0x10000) (taken : List Char)
    (tokens : List Token) :
    (unitChars unit).foldl take ⟨.inText taken, tokens⟩ =
      takeNumber ⟨.inHex taken none 1 (unit / 16), tokens⟩ taken none unit := by
  have digit : ∀ n, Text.hexDigit? (Nat.digitChar (n % 16)) = some (n % 16) := fun n =>
    Text.hexDigit?_digitChar (Nat.mod_lt n (by decide))
  have plainDigit : ∀ n, (Nat.digitChar (n % 16)).toNat < 0xD7FF := by
    intro n
    have every : ∀ digit : Fin 16, (Nat.digitChar digit.val).toNat < 0xD7FF := by decide
    exact every ⟨n % 16, Nat.mod_lt n (by decide)⟩
  have plain : ∀ c ∈ unitChars unit, c.toNat < 0xD7FF := by
    intro c member
    simp only [unitChars, Text.hexDigits, List.nil_append, List.cons_append, List.mem_cons,
      List.not_mem_nil, or_false] at member
    rcases member with rfl | rfl | rfl | rfl | rfl | rfl
    · decide
    · decide
    · exact plainDigit _
    · exact plainDigit _
    · exact plainDigit _
    · exact plainDigit _
  have whole : 16 * (unit / 16) + unit % 16 = unit := Nat.div_add_mod unit 16
  have front : 16 * (16 * (unit / 16 / 16 / 16 % 16) + unit / 16 / 16 % 16) +
      unit / 16 % 16 = unit / 16 := by omega
  rw [foldl_take_of_lt plain]
  simp only [unitChars, Text.hexDigits, List.nil_append, List.cons_append, List.foldl_cons,
    List.foldl_nil, step, stepText, stepEscaped, stepHex, digit]
  simp [front, whole]

/-- Whether a character may stand in a text as it is. -/
def isRaw (c : Char) : Prop :=
  c ≠ '"' ∧ c ≠ '\\' ∧ 0x20 ≤ c.toNat

/-- The ways in which a character is written inside a text. -/
inductive EscapeStep (c : Char) : List Char → Prop where
  | short (escape : Char) (plain : c.toNat < 0xD7FF) (plainEscape : escape.toNat < 0xD7FF)
      (notUnit : escape ≠ 'u') (stands : escape? escape = some c) : EscapeStep c ['\\', escape]
  | unit (control : c.toNat < 0x20) : EscapeStep c (unitChars c.toNat)
  | raw (stands : isRaw c) : EscapeStep c [c]

theorem escapeStep {style : Style} (raw : style.asciiOnly = false) (c : Char) :
    EscapeStep c (escaped style c) := by
  by_cases quote : c = '"'
  · subst quote
    exact .short '"' (by decide) (by decide) (by decide) rfl
  by_cases backslash : c = '\\'
  · subst backslash
    exact .short '\\' (by decide) (by decide) (by decide) rfl
  simp only [escaped, raw, quote, backslash, beq_iff_eq, Bool.false_and, Bool.false_eq_true,
    if_false]
  iterate 5
    split
    next same =>
      subst same
      exact .short _ (by decide) (by decide) (by decide) rfl
  split
  next control =>
    rw [numbered, if_pos (by omega)]
    exact .unit control
  next noControl => exact .raw ⟨quote, backslash, by omega⟩

theorem isRaw_of_mem_spelling {c : Char} (stands : isRaw c) {other : Char}
    (member : other ∈ Text.spelling c.toNat) : isRaw other := by
  have valid : c.toNat.isValidChar := c.valid
  unfold Text.spelling at member
  split at member
  next marked =>
    have bounds : 0xD7FF ≤ c.toNat ∧ c.toNat < 0xE000 := by simpa [Text.isMarked] using marked
    have shifted : (Char.ofNat (Text.markedShift + c.toNat)).toNat = 0xF0000 + c.toNat :=
      Text.toNat_ofNat (by unfold Text.markedShift Nat.isValidChar; omega)
    rcases List.mem_cons.1 member with rfl | last
    · exact ⟨by decide, by decide, by decide⟩
    · rw [List.mem_singleton] at last
      refine ⟨?_, ?_, by rw [last, shifted]; omega⟩
      · rintro rfl
        have number := congrArg Char.toNat last
        rw [shifted, show '"'.toNat = 0x22 by decide] at number
        omega
      · rintro rfl
        have number := congrArg Char.toNat last
        rw [shifted, show '\\'.toNat = 0x5C by decide] at number
        omega
  next unmarked =>
    rw [List.mem_singleton, Char.ofNat_toNat] at member
    rw [member]
    exact stands

theorem foldl_raw {cs : List Char} (stand : ∀ c ∈ cs, isRaw c) (taken : List Char)
    (tokens : List Token) :
    cs.foldl step ⟨.inText taken, tokens⟩ = ⟨.inText (cs.reverse ++ taken), tokens⟩ := by
  induction cs generalizing taken with
  | nil => rfl
  | cons c cs ih =>
      obtain ⟨notQuote, notBackslash, printable⟩ := stand c (by simp)
      have next : step ⟨.inText taken, tokens⟩ c = ⟨.inText (c :: taken), tokens⟩ := by
        simp [step, stepText, notQuote, notBackslash, Nat.not_lt.2 printable]
      rw [List.foldl_cons, next, ih fun other member => stand other (List.mem_cons_of_mem c member)]
      simp

/-- A character inside a text is taken as itself, however it is written. -/
theorem foldl_escaped {style : Style} (raw : style.asciiOnly = false) (c : Char)
    (taken : List Char) (tokens : List Token) :
    (escaped style c).foldl take ⟨.inText taken, tokens⟩ =
      ⟨.inText ((Text.spelling c.toNat).reverse ++ taken), tokens⟩ := by
  have step := escapeStep raw c
  generalize escaped style c = cs at step
  cases step with
  | short escape plain plainEscape notUnit stands =>
      have plainBoth : ∀ other ∈ ['\\', escape], other.toNat < 0xD7FF := by
        intro other member
        rcases List.mem_cons.1 member with rfl | last
        · decide
        · rw [List.mem_singleton.1 last]
          exact plainEscape
      rw [foldl_take_of_lt plainBoth, spelling_toNat plain]
      simp [Lexer.step, stepText, stepEscaped, notUnit, stands]
  | unit control =>
      have noSurrogate : Text.isHighSurrogate c.toNat = false := by
        simp only [Text.isHighSurrogate, Bool.and_eq_false_iff, decide_eq_false_iff_not]
        omega
      rw [foldl_unitChars (by omega)]
      simp [takeNumber, takeUnit, noSurrogate, behind]
  | raw stands =>
      rw [List.foldl_cons, List.foldl_nil, take]
      exact foldl_raw (fun _ member => isRaw_of_mem_spelling stands member) taken tokens

theorem foldl_escapedText {style : Style} (raw : style.asciiOnly = false) (cs : List Char)
    (taken : List Char) (tokens : List Token) :
    (cs.flatMap (escaped style)).foldl take ⟨.inText taken, tokens⟩ =
      ⟨.inText ((Text.spellOut (cs.map Char.toNat)).reverse ++ taken), tokens⟩ := by
  induction cs generalizing taken with
  | nil => rfl
  | cons c cs ih =>
      rw [List.flatMap_cons, List.foldl_append, foldl_escaped raw, ih]
      simp [Text.spellOut]

/-- A text is read as one token. -/
theorem Holds.text {lexer : Lexer} {tokens : List Token} (holds : lexer.Holds tokens)
    {style : Style} (raw : style.asciiOnly = false) (whole : style.spelled = false)
    (text : String) :
    (textChars style text).foldl Lexer.take lexer =
      ⟨.between, .text (Text.spelled text) :: tokens⟩ := by
  have opened : lexer.take '"' = ⟨.inText [], tokens⟩ := by
    rw [holds.ends (by decide) (by decide)]
    rfl
  rw [textChars, whole, if_neg (by simp), List.cons_append, List.foldl_cons, opened,
    List.foldl_append, foldl_escapedText raw, List.foldl_cons, List.foldl_nil,
    take_of_lt (by decide), List.append_nil]
  simp [step, stepText, push, Token.isLast, Text.spelled]

/-! ## Values -/

theorem foldl_afterName (style : Style) (tokens : List Token) :
    (afterName style).foldl take ⟨.between, tokens⟩ = ⟨.between, .colon :: tokens⟩ := by
  have colon : Lexer.take ⟨.between, tokens⟩ ':' = ⟨.between, .colon :: tokens⟩ :=
    (Holds.between tokens).mark (by decide) rfl rfl rfl
  unfold afterName
  split
  next => rw [List.foldl_cons, colon, List.foldl_nil]
  next =>
    rw [List.foldl_cons, colon]
    apply foldl_take_blanks
    intro c member
    rw [List.mem_singleton.1 member]
    decide

theorem holds_word {c : Char} {cs : List Char} {value : Json}
    (plain : (c :: cs).all (fun other => decide (other.toNat < 0xD7FF) && !endsAtom other) = true)
    (word : atomToken (c :: cs) = .atom value) (tokens : List Token) :
    ((c :: cs).foldl take ⟨.between, tokens⟩).Holds (.atom value :: tokens) := by
  have stand : ∀ other ∈ c :: cs, other.toNat < 0xD7FF ∧ endsAtom other = false := by
    intro other member
    have both := List.all_eq_true.1 plain other member
    simpa using both
  rw [← word]
  exact holds_atom stand (by rw [word]; rfl) tokens

section Values

variable {style : Style} {bounds : Bounds}

mutual

/-- What a value is written with is read as the tokens of the value. -/
theorem holds_chars (raw : style.asciiOnly = false) (whole : style.spelled = false) :
    (value : Json) → (level levels : Nat) → (tokens : List Token) →
    Readable bounds levels value →
      ((chars style level value).foldl take ⟨.between, tokens⟩).Holds
        ((written value).reverse ++ tokens)
  | .null, level, levels, tokens, _ => by
      rw [chars, written]
      exact holds_word rfl rfl tokens
  | .bool true, level, levels, tokens, _ => by
      rw [chars, written]
      exact holds_word rfl rfl tokens
  | .bool false, level, levels, tokens, _ => by
      rw [chars, written]
      exact holds_word rfl rfl tokens
  | .int n, level, levels, tokens, _ => by
      rw [chars, written]
      exact holds_intChars n tokens
  | .text value, level, levels, tokens, _ => by
      rw [chars, written, (Holds.between tokens).text raw whole]
      exact .between _
  | .array [], level, levels, tokens, _ => by
      rw [chars, written, List.foldl_cons, List.foldl_cons, List.foldl_nil,
        (Holds.between tokens).mark (by decide) rfl rfl rfl,
        (Holds.between (.openArray :: tokens)).mark (by decide) rfl rfl rfl]
      exact .between _
  | .array (item :: items), level, levels, tokens, readable => by
      rw [Readable, ReadableItems] at readable
      have first := holds_chars raw whole item (level + 1) (levels - 1) (.openArray :: tokens)
        readable.2.1
      have rest := holds_itemChars raw whole items (level + 1) (levels - 1) first readable.2.2
      have closed := (rest.lineStart style level).mark (c := ']') (by decide) rfl rfl rfl
      rw [chars, written]
      simp only [List.cons_append, List.foldl_cons, List.foldl_append, List.foldl_nil,
        foldl_lineStart, (Holds.between tokens).mark (c := '[') (by decide) rfl rfl rfl, closed]
      simpa using Holds.between _
  | .object [], level, levels, tokens, _ => by
      rw [chars, written, List.foldl_cons, List.foldl_cons, List.foldl_nil,
        (Holds.between tokens).mark (by decide) rfl rfl rfl,
        (Holds.between (.openObject :: tokens)).mark (by decide) rfl rfl rfl]
      exact .between _
  | .object (field :: fields), level, levels, tokens, readable => by
      rw [Readable, ReadableFields] at readable
      have first := holds_fieldChars raw whole field (level + 1) (levels - 1)
        (.openObject :: tokens) readable.2.1
      have rest := holds_otherFieldChars raw whole fields (level + 1) (levels - 1) first
        readable.2.2
      have closed := (rest.lineStart style level).mark (c := '\x7d') (by decide) rfl rfl rfl
      rw [chars, written]
      simp only [List.cons_append, List.foldl_cons, List.foldl_append, List.foldl_nil,
        foldl_lineStart, (Holds.between tokens).mark (c := '\x7b') (by decide) rfl rfl rfl, closed]
      simpa using Holds.between _
  | .decimal _, level, levels, tokens, readable => by simp [Readable] at readable
  | .uneven _, level, levels, tokens, readable => by simp [Readable] at readable

theorem holds_itemChars (raw : style.asciiOnly = false) (whole : style.spelled = false) :
    (items : List Json) → (level levels : Nat) → {lexer : Lexer} → {tokens : List Token} →
    lexer.Holds tokens → ReadableItems bounds levels items →
      ((itemChars style level items).foldl take lexer).Holds
        ((writtenItems items).reverse ++ tokens)
  | [], level, levels, lexer, tokens, holds, _ => by
      rw [itemChars, writtenItems]
      exact holds
  | item :: items, level, levels, lexer, tokens, holds, readable => by
      rw [ReadableItems] at readable
      have first := holds_chars raw whole item level levels (.comma :: tokens) readable.1
      have rest := holds_itemChars raw whole items level levels first readable.2
      rw [itemChars, List.cons_append, List.cons_append, List.foldl_cons, List.foldl_append,
        List.foldl_append, holds.mark (by decide) rfl rfl rfl, foldl_lineStart, writtenItems]
      simpa using rest

theorem holds_fieldChars (raw : style.asciiOnly = false) (whole : style.spelled = false) :
    (field : String × Json) → (level levels : Nat) → (tokens : List Token) →
    ReadableField bounds levels field →
      ((fieldChars style level field).foldl take ⟨.between, tokens⟩).Holds
        ((writtenField field).reverse ++ tokens)
  | (name, value), level, levels, tokens, readable => by
      rw [ReadableField] at readable
      have rest := holds_chars raw whole value level levels
        (.colon :: .text (Text.spelled name) :: tokens) readable
      rw [fieldChars, writtenField, List.foldl_append, List.foldl_append,
        (Holds.between tokens).text raw whole, foldl_afterName]
      simpa using rest

theorem holds_otherFieldChars (raw : style.asciiOnly = false) (whole : style.spelled = false) :
    (fields : List (String × Json)) → (level levels : Nat) → {lexer : Lexer} →
    {tokens : List Token} → lexer.Holds tokens → ReadableFields bounds levels fields →
      ((otherFieldChars style level fields).foldl take lexer).Holds
        ((writtenFields fields).reverse ++ tokens)
  | [], level, levels, lexer, tokens, holds, _ => by
      rw [otherFieldChars, writtenFields]
      exact holds
  | field :: fields, level, levels, lexer, tokens, holds, readable => by
      rw [ReadableFields] at readable
      have first := holds_fieldChars raw whole field level levels (.comma :: tokens) readable.1
      have rest := holds_otherFieldChars raw whole fields level levels first readable.2
      rw [otherFieldChars, List.cons_append, List.cons_append, List.foldl_cons,
        List.foldl_append, List.foldl_append, holds.mark (by decide) rfl rfl rfl,
        foldl_lineStart, writtenFields]
      simpa using rest

end

end Values

end Lexer

/-- The tokens of what is written are those of the value. -/
theorem tokens_write {style : Style} (raw : style.asciiOnly = false)
    (whole : style.spelled = false) {bounds : Bounds} {levels : Nat} {value : Json}
    (readable : Readable bounds levels value) :
    tokens (Text.spelled (write style value)).toList = written value := by
  have holds := Lexer.holds_chars raw whole value 0 levels [] readable
  rw [Lexer.tokens_spelled, write, String.toList_ofList]
  exact holds.finish.trans (by simp)

end DepAtlas.Json
