import DepAtlas.Proofs.Json.Lexing

/-!
# Reading back what is written

The reader takes the tokens of a value one after the other and ends with the value in hand.  It
keeps the containers around the value open, so the same holds for the items and fields inside.
-/

namespace DepAtlas.Json

namespace Reader

variable {bounds : Bounds}

/-- Whether a value may begin now. -/
def Awaits (bounds : Bounds) (reader : Reader) : Prop :=
  reader.hand = .value ∨ reader.hand = .firstItem ∧ reader.frames.length ≤ bounds.depth

/-- Whether a value may begin with a token. -/
def begins : Token → Bool
  | .atom _ | .text _ | .longInteger _ | .openArray | .openObject => true
  | _ => false

theorem step_firstItem {frames : List Frame} {token : Token} (first : begins token = true) :
    step bounds ⟨frames, .firstItem⟩ token =
      takeFirst bounds ⟨frames, .firstItem⟩ (begin bounds ⟨frames, .firstItem⟩ token) := by
  unfold step
  split
  all_goals first | rfl | simp_all [begins]

theorem step_firstName {frames : List Frame} (name : String) :
    step bounds ⟨frames, .firstName⟩ (.text name) =
      takeFirst bounds ⟨frames, .firstName⟩
        (takeName bounds ⟨frames, .firstName⟩ (.text name)) := by
  unfold step
  split
  all_goals first | rfl | simp_all

theorem step_of_awaits {reader : Reader} (awaits : reader.Awaits bounds) {token : Token}
    (first : begins token = true) : reader.step bounds token = reader.begin bounds token := by
  obtain ⟨frames, hand⟩ := reader
  rcases awaits with due | ⟨due, shallow⟩
  · simp only at due
    subst due
    cases token <;> rfl
  · simp only at due shallow
    subst due
    rw [step_firstItem first, takeFirst, if_neg (Nat.not_lt.2 shallow)]

theorem foldlM_cons_of_ok {reader next : Reader} {token : Token}
    (stepped : reader.step bounds token = .ok next) (rest : List Token) :
    (token :: rest).foldlM (step bounds) reader = rest.foldlM (step bounds) next := by
  rw [List.foldlM_cons, stepped]
  rfl

theorem foldlM_append_of_ok {reader next : Reader} {front : List Token}
    (taken : front.foldlM (step bounds) reader = .ok next) (rest : List Token) :
    (front ++ rest).foldlM (step bounds) reader = rest.foldlM (step bounds) next := by
  rw [List.foldlM_append, taken]
  rfl

/-- An atom, a text or a long integer that is read as a value of its own. -/
theorem step_scalar {reader : Reader} (awaits : reader.Awaits bounds) {token : Token}
    {value : Json} (first : begins token = true)
    (scalar : reader.begin bounds token = .ok { reader with hand := .complete value }) :
    [token].foldlM (Reader.step bounds) reader = .ok ⟨reader.frames, .complete value⟩ := by
  rw [foldlM_cons_of_ok ((step_of_awaits awaits first).trans scalar)]
  rfl

theorem textOf_spelled (even : bounds.unevenTexts = false) (text : String) :
    textOf bounds (Text.spelled text) = .ok text := by
  simp [textOf, even, Text.unspelled?_spelled]

theorem begin_text (even : bounds.unevenTexts = false) (reader : Reader) (text : String) :
    reader.begin bounds (.text (Text.spelled text)) =
      .ok { reader with hand := .complete (.text text) } := by
  simp only [begin, textOf_spelled even, ofText, even]
  rfl

theorem begin_int (reader : Reader) {n : Int}
    (size : bounds.takes n) :
    reader.begin bounds (atomToken (intChars n)) =
      .ok { reader with hand := .complete (.int n) } := by
  rw [atomToken_intChars]
  split
  next short => simp [begin, isConstant]
  next long => simp [begin, size.resolve_right long]

theorem enter_of_le {reader : Reader} {levels : Nat}
    (room : reader.frames.length + levels ≤ bounds.depth) (positive : 0 < levels) (frame : Frame)
    (hand : Hand) : reader.enter bounds frame hand = .ok ⟨frame :: reader.frames, hand⟩ := by
  rw [enter, if_pos (by omega)]

/-- Whether a field may begin now. -/
def AwaitsName (bounds : Bounds) (reader : Reader) : Prop :=
  reader.hand = .name ∨ reader.hand = .firstName ∧ reader.frames.length ≤ bounds.depth

theorem step_name (even : bounds.unevenTexts = false) {reader : Reader}
    (awaits : reader.AwaitsName bounds) (name : String) :
    reader.step bounds (.text (Text.spelled name)) = .ok { reader with hand := .colon name } := by
  obtain ⟨frames, hand⟩ := reader
  have taken : ∀ before : Reader, before.takeName bounds (.text (Text.spelled name)) =
      .ok { before with hand := .colon name } := by
    intro before
    simp only [takeName, textOf_spelled even]
    rfl
  rcases awaits with due | ⟨due, shallow⟩
  · simp only at due
    subst due
    exact taken _
  · simp only at due shallow
    subst due
    rw [step_firstName, takeFirst, if_neg (Nat.not_lt.2 shallow)]
    exact taken _

mutual

/-- The tokens of a value are read as the value. -/
theorem foldlM_written (even : bounds.unevenTexts = false) :
    (value : Json) → (levels : Nat) → {reader : Reader} → reader.Awaits bounds →
    Readable bounds levels value → reader.frames.length + levels ≤ bounds.depth →
      (written value).foldlM (Reader.step bounds) reader =
        .ok ⟨reader.frames, .complete value⟩
  | .null, levels, reader, awaits, _, _ => by
      rw [written]
      exact step_scalar awaits rfl rfl
  | .bool value, levels, reader, awaits, _, _ => by
      rw [written]
      exact step_scalar awaits rfl rfl
  | .int n, levels, reader, awaits, readable, _ => by
      rw [Readable] at readable
      rw [written]
      refine step_scalar awaits ?_ (begin_int reader readable)
      rw [atomToken_intChars]
      split <;> rfl
  | .text value, levels, reader, awaits, _, _ => by
      rw [written]
      exact step_scalar awaits rfl (begin_text even reader value)
  | .array [], levels, reader, awaits, readable, room => by
      rw [Readable] at readable
      rw [written, List.foldlM_cons, step_of_awaits awaits rfl, begin,
        enter_of_le room readable.1]
      rfl
  | .array (item :: items), levels, reader, awaits, readable, room => by
      rw [Readable, ReadableItems] at readable
      have entered : reader.frames.length + 1 + (levels - 1) ≤ bounds.depth := by omega
      have due : Reader.Awaits bounds ⟨.items [] :: reader.frames, .firstItem⟩ :=
        .inr ⟨rfl, by rw [List.length_cons]; omega⟩
      have first := foldlM_written even item (levels - 1) due readable.2.1 entered
      obtain ⟨done, last, rest, whole⟩ :=
        foldlM_writtenItems even items (levels - 1) [] item reader.frames readable.2.2 entered
      have opened : reader.step bounds .openArray =
          .ok ⟨.items [] :: reader.frames, .firstItem⟩ := by
        rw [step_of_awaits awaits rfl, begin, enter_of_le room readable.1]
      have closed : step bounds ⟨.items done :: reader.frames, .complete last⟩ .closeArray =
          .ok ⟨reader.frames, .complete (.array (last :: done).reverse)⟩ := rfl
      rw [written, List.cons_append, List.cons_append, foldlM_cons_of_ok opened,
        List.append_assoc, foldlM_append_of_ok first, foldlM_append_of_ok rest,
        foldlM_cons_of_ok closed, whole]
      rfl
  | .object [], levels, reader, awaits, readable, room => by
      rw [Readable] at readable
      rw [written, List.foldlM_cons, step_of_awaits awaits rfl, begin,
        enter_of_le room readable.1]
      rfl
  | .object (field :: fields), levels, reader, awaits, readable, room => by
      rw [Readable, ReadableFields] at readable
      have entered : reader.frames.length + 1 + (levels - 1) ≤ bounds.depth := by omega
      have due : Reader.AwaitsName bounds ⟨.fields [] :: reader.frames, .firstName⟩ :=
        .inr ⟨rfl, by rw [List.length_cons]; omega⟩
      have first := foldlM_writtenField even field (levels - 1) due rfl readable.2.1 entered
      obtain ⟨done, last, rest, whole⟩ :=
        foldlM_writtenFields even fields (levels - 1) [] field reader.frames readable.2.2 entered
      have opened : reader.step bounds .openObject =
          .ok ⟨.fields [] :: reader.frames, .firstName⟩ := by
        rw [step_of_awaits awaits rfl, begin, enter_of_le room readable.1]
      have closed : step bounds ⟨.field done last.1 :: reader.frames, .complete last.2⟩
          .closeObject = .ok ⟨reader.frames, .complete (.object (last :: done).reverse)⟩ := rfl
      rw [written, List.cons_append, List.cons_append, foldlM_cons_of_ok opened,
        List.append_assoc, foldlM_append_of_ok first, foldlM_append_of_ok rest,
        foldlM_cons_of_ok closed, whole]
      rfl
  | .decimal _, levels, reader, _, readable, _ => by simp [Readable] at readable
  | .uneven _, levels, reader, _, readable, _ => by simp [Readable] at readable

/-- The items behind a complete one of an array. -/
theorem foldlM_writtenItems (even : bounds.unevenTexts = false) :
    (items : List Json) → (levels : Nat) → (done : List Json) → (last : Json) →
    (frames : List Frame) → ReadableItems bounds levels items →
    frames.length + 1 + levels ≤ bounds.depth →
      ∃ others final, (writtenItems items).foldlM (Reader.step bounds)
          ⟨.items done :: frames, .complete last⟩ =
            .ok ⟨.items others :: frames, .complete final⟩ ∧
        (final :: others).reverse = (last :: done).reverse ++ items
  | [], levels, done, last, frames, _, _ => ⟨done, last, by rw [writtenItems]; rfl, by simp⟩
  | item :: items, levels, done, last, frames, readable, room => by
      rw [ReadableItems] at readable
      have due : Reader.Awaits bounds ⟨.items (last :: done) :: frames, .value⟩ := .inl rfl
      have first := foldlM_written even item levels due readable.1 room
      obtain ⟨others, final, rest, whole⟩ :=
        foldlM_writtenItems even items levels (last :: done) item frames readable.2 room
      refine ⟨others, final, ?_, by simpa using whole⟩
      have opened : step bounds ⟨.items done :: frames, .complete last⟩ .comma =
          .ok ⟨.items (last :: done) :: frames, .value⟩ := rfl
      rw [writtenItems, List.cons_append, foldlM_cons_of_ok opened, foldlM_append_of_ok first]
      exact rest

/-- A field of an object. -/
theorem foldlM_writtenField (even : bounds.unevenTexts = false) :
    (field : String × Json) → (levels : Nat) → {reader : Reader} →
    {done : List (String × Json)} → {frames : List Frame} → reader.AwaitsName bounds →
    reader.frames = .fields done :: frames → ReadableField bounds levels field →
    frames.length + 1 + levels ≤ bounds.depth →
      (writtenField field).foldlM (Reader.step bounds) reader =
        .ok ⟨.field done field.1 :: frames, .complete field.2⟩
  | (name, value), levels, reader, done, frames, awaits, inside, readable, room => by
      rw [ReadableField] at readable
      have due : Reader.Awaits bounds ⟨.field done name :: frames, .value⟩ := .inl rfl
      have rest := foldlM_written even value levels due readable room
      rw [writtenField, foldlM_cons_of_ok (step_name even awaits name), inside]
      exact rest

/-- The fields behind a complete one of an object. -/
theorem foldlM_writtenFields (even : bounds.unevenTexts = false) :
    (fields : List (String × Json)) → (levels : Nat) → (done : List (String × Json)) →
    (last : String × Json) → (frames : List Frame) → ReadableFields bounds levels fields →
    frames.length + 1 + levels ≤ bounds.depth →
      ∃ others final, (writtenFields fields).foldlM (Reader.step bounds)
          ⟨.field done last.1 :: frames, .complete last.2⟩ =
            .ok ⟨.field others final.1 :: frames, .complete final.2⟩ ∧
        (final :: others).reverse = (last :: done).reverse ++ fields
  | [], levels, done, last, frames, _, _ => ⟨done, last, by rw [writtenFields]; rfl, by simp⟩
  | field :: fields, levels, done, last, frames, readable, room => by
      rw [ReadableFields] at readable
      have due : Reader.AwaitsName bounds ⟨.fields (last :: done) :: frames, .name⟩ := .inl rfl
      have first := foldlM_writtenField even field levels due rfl readable.1 room
      obtain ⟨others, final, rest, whole⟩ :=
        foldlM_writtenFields even fields levels (last :: done) field frames readable.2 room
      refine ⟨others, final, ?_, by simpa using whole⟩
      have opened : step bounds ⟨.field done last.1 :: frames, .complete last.2⟩ .comma =
          .ok ⟨.fields (last :: done) :: frames, .name⟩ := rfl
      rw [writtenFields, List.cons_append, foldlM_cons_of_ok opened, foldlM_append_of_ok first]
      exact rest

end

end Reader

/-- What is written is read back. -/
theorem read_write {style : Style} (raw : style.asciiOnly = false)
    (whole : style.spelled = false) {bounds : Bounds} (even : bounds.unevenTexts = false)
    {value : Json} (readable : Readable bounds bounds.depth value) :
    read bounds (Text.spelled (write style value)).toList = .ok value := by
  have due : Reader.Awaits bounds {} := .inl rfl
  have taken := Reader.foldlM_written even value bounds.depth due readable (by simp)
  rw [read, ofTokens, tokens_write raw whole readable, taken]
  rfl

end DepAtlas.Json
