import DepAtlas.Json.Token

/-!
# Reading JSON

The reader takes one token at a time and keeps the containers that are still open.  A
value that has just been read stays in its hand until the next token says where it
belongs.

What a reader takes is bounded: containers are nested only so deep, and integers have
only so many digits.  The bounds differ between documents and the bodies of requests, and
so do some tokens that are taken; the first token that is not taken is the reason why a
text is refused.

Other things than containers may take up levels of nesting too: a number that is not
finite, and the report of a fault.  A report is made unless a value is due and none begins.
A fault that cannot be reported is one of nesting.

Where half of a surrogate pair may stand alone, the texts of a value are spelled out.
-/

namespace DepAtlas.Json

/-- What a reader takes. -/
structure Bounds where
  /-- The deepest nesting of containers that hold something. -/
  depth : Nat
  /-- Empty containers may stand one level deeper. -/
  emptyBelow : Bool
  /-- How many levels a number takes up that is not finite. -/
  constantLevels : Nat
  /-- How many levels the report of a fault takes up. -/
  reportLevels : Nat
  /-- An integer may have any number of digits. -/
  longIntegers : Bool
  /-- A decimal may have any number of digits in front of its point. -/
  longDecimals : Bool
  /-- Half of a surrogate pair may stand alone in a text; the texts of the value are
  spelled out. -/
  unevenTexts : Bool
  deriving DecidableEq, Repr

/-- The bounds of documents. -/
def documentBounds : Bounds where
  depth := 200
  emptyBelow := true
  constantLevels := 0
  reportLevels := 0
  longIntegers := false
  longDecimals := false
  unevenTexts := false

/-- The bounds of the bodies of requests. -/
def bodyBounds : Bounds where
  depth := 960
  emptyBelow := false
  constantLevels := 1
  reportLevels := 3
  longIntegers := false
  longDecimals := true
  unevenTexts := true

/-- Why a text is refused. -/
inductive ReadFault where
  | notJson
  | tooDeep
  /-- A number has more digits than are read. -/
  | tooLong
  deriving DecidableEq, Repr

/-- A container that is still open, its content last first. -/
inductive Frame where
  | items (done : List Json)
  | fields (done : List (String × Json))
  /-- An object in which the value of a field is due. -/
  | field (done : List (String × Json)) (name : String)
  deriving Repr

/-- What the reader has in hand or may take next. -/
inductive Hand where
  /-- A value has to come. -/
  | value
  /-- The first item of an array, or its end. -/
  | firstItem
  /-- A field name has to come. -/
  | name
  /-- The first field name of an object, or its end. -/
  | firstName
  /-- The colon behind a field name. -/
  | colon (name : String)
  /-- A value is complete. -/
  | complete (value : Json)
  deriving Repr

/-- The reader: the open containers, innermost first, and its hand. -/
structure Reader where
  frames : List Frame := []
  hand : Hand := .value
  deriving Repr

namespace Reader

/-- Open a container. -/
def enter (bounds : Bounds) (reader : Reader) (frame : Frame) (hand : Hand) :
    Except ReadFault Reader :=
  if reader.frames.length < bounds.depth + bounds.emptyBelow.toNat then
    .ok ⟨frame :: reader.frames, hand⟩
  else .error .tooDeep

/-- Whether something fits into the nesting that takes up so many levels. -/
def fits (bounds : Bounds) (reader : Reader) (levels : Nat) : Bool :=
  levels = 0 || reader.frames.length + levels ≤ bounds.depth

/-- Refuse a text with a report. -/
def report {α : Type} (bounds : Bounds) (reader : Reader) : Except ReadFault α :=
  .error (if reader.fits bounds bounds.reportLevels then .notJson else .tooDeep)

/-- Whether an atom is a number that is not finite. -/
def isConstant : Json → Bool
  | .decimal .nan | .decimal (.infinite _) => true
  | _ => false

/-- The text of a token as it stands in the value. -/
def textOf (bounds : Bounds) (spelled : String) : Except ReadFault String :=
  if bounds.unevenTexts then .ok spelled
  else
    match Text.unspelled? spelled with
    | some plain => .ok plain
    | none => .error .notJson

/-- The value of a text. -/
def ofText (bounds : Bounds) (text : String) : Json :=
  if bounds.unevenTexts && Text.isUneven text then .uneven text else .text text

/-- Take a value that begins with a token, where a value may begin. -/
def begin (bounds : Bounds) (reader : Reader) : Token → Except ReadFault Reader
  | .atom value =>
      if isConstant value && !reader.fits bounds bounds.constantLevels then .error .tooDeep
      else .ok { reader with hand := .complete value }
  | .text value =>
      (textOf bounds value).map fun text =>
        { reader with hand := .complete (ofText bounds text) }
  | .longDecimal value =>
      if bounds.longDecimals then .ok { reader with hand := .complete value }
      else .error .tooLong
  | .longInteger value? =>
      if bounds.longIntegers then
        match value? with
        | some value => .ok { reader with hand := .complete value }
        | none => reader.report bounds
      else .error .tooLong
  | .openArray => reader.enter bounds (.items []) .firstItem
  | .openObject => reader.enter bounds (.fields []) .firstName
  | .spoilt => reader.report bounds
  | _ => .error .notJson

/-- Take a field name. -/
def takeName (bounds : Bounds) (reader : Reader) : Token → Except ReadFault Reader
  | .text name => (textOf bounds name).map fun text => { reader with hand := .colon text }
  | _ => reader.report bounds

/-- Take what comes first in a container, which must not be too deep to hold something. -/
def takeFirst (bounds : Bounds) (reader : Reader) (rest : Except ReadFault Reader) :
    Except ReadFault Reader :=
  if bounds.depth < reader.frames.length then .error .tooDeep else rest

/-- Take a token. -/
def step (bounds : Bounds) (reader : Reader) (token : Token) : Except ReadFault Reader :=
  match reader.hand, reader.frames, token with
  | .value, _, token => reader.begin bounds token
  | .firstItem, .items _ :: outer, .closeArray => .ok ⟨outer, .complete (.array [])⟩
  | .firstItem, _, token => reader.takeFirst bounds (reader.begin bounds token)
  | .firstName, .fields _ :: outer, .closeObject => .ok ⟨outer, .complete (.object [])⟩
  | .firstName, _, token => reader.takeFirst bounds (reader.takeName bounds token)
  | .name, _, token => reader.takeName bounds token
  | .colon name, .fields done :: outer, .colon => .ok ⟨.field done name :: outer, .value⟩
  | .complete value, .items done :: outer, .comma =>
      .ok ⟨.items (value :: done) :: outer, .value⟩
  | .complete value, .items done :: outer, .closeArray =>
      .ok ⟨outer, .complete (.array (value :: done).reverse)⟩
  | .complete value, .field done name :: outer, .comma =>
      .ok ⟨.fields ((name, value) :: done) :: outer, .name⟩
  | .complete value, .field done name :: outer, .closeObject =>
      .ok ⟨outer, .complete (.object ((name, value) :: done).reverse)⟩
  | _, _, _ => reader.report bounds

/-- The value of a text that ends here. -/
def finish (bounds : Bounds) (reader : Reader) : Except ReadFault Json :=
  match reader.hand, reader.frames with
  | .complete value, [] => .ok value
  | .value, _ | .firstItem, _ => .error .notJson
  | _, _ => reader.report bounds

end Reader

/-- The value that a list of tokens writes. -/
def ofTokens (bounds : Bounds) (tokens : List Token) : Except ReadFault Json :=
  (tokens.foldlM (Reader.step bounds) {}).bind (Reader.finish bounds)

/-- The value that the characters of a text write, which is spelled out. -/
def read (bounds : Bounds) (cs : List Char) : Except ReadFault Json :=
  ofTokens bounds (tokens cs)

/-- The value that a text writes. -/
def ofText? (bounds : Bounds) (text : String) : Option Json :=
  (read bounds (Text.spelled text).toList).toOption

/-- The value that the text of a document writes. -/
def read? (text : String) : Option Json :=
  ofText? documentBounds text

end DepAtlas.Json
