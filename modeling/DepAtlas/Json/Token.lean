import DepAtlas.Json
import DepAtlas.Text.Hexadecimal
import DepAtlas.Text.Numeral
import DepAtlas.Text.Uneven

/-!
# JSON tokens

The lexer is a machine that takes one character at a time, so that reading a text in two
parts is reading it in one.  Between tokens stand spaces, tabs, carriage returns and
line feeds.  A token is a mark of punctuation, a text, or an atom: `null`, a boolean or
a number.

Half of a surrogate pair may stand alone in a text, so texts are spelled out: both the text
that is read and those among its tokens.

Some tokens are taken by some readers only, and the lexer leaves the choice to them.
Where the text is no JSON whatever the reader, the lexer stops with a last token that
says so, and whether something begins there that goes wrong later.
-/

namespace DepAtlas.Json

/-- A token of JSON text. -/
inductive Token where
  | openArray
  | closeArray
  | openObject
  | closeObject
  | comma
  | colon
  | atom (value : Json)
  /-- A text, spelled out. -/
  | text (value : String)
  /-- A decimal whose integer part has more digits than an integer is read from. -/
  | longDecimal (value : Json)
  /-- An integer of more digits than an integer is read from; the value is absent where it
  goes wrong behind them. -/
  | longInteger (value? : Option Json)
  /-- No token: nothing begins here that could be one. -/
  | unreadable
  /-- No token: a text or an atom begins here and goes wrong. -/
  | spoilt
  deriving Repr

/-- Whether a token says that the text is no JSON. -/
def Token.isLast : Token → Bool
  | .unreadable | .spoilt => true
  | _ => false

/-- The blanks that may stand between tokens. -/
def isSpace (c : Char) : Bool :=
  c == ' ' || c == '\t' || c == '\r' || c == '\n'

/-- The token of a punctuation mark. -/
def punctuation? : Char → Option Token
  | '[' => some .openArray
  | ']' => some .closeArray
  | '{' => some .openObject
  | '}' => some .closeObject
  | ',' => some .comma
  | ':' => some .colon
  | _ => none

/-! ## Atoms -/

/-- A non-empty run of digits as a number. -/
def digits? (cs : List Char) : Option Nat :=
  if cs.isEmpty || !cs.all Char.isDigit then none else some (Nat.ofDigitChars 10 cs 0)

/-- The digits in front of a point: no leading zero, unless it is the only digit. -/
def whole? : List Char → Option Nat
  | '0' :: _ :: _ => none
  | cs => digits? cs

/-- An exponent: an optional sign and digits. -/
def exponent? : List Char → Option Int
  | '-' :: cs => (digits? cs).map fun n => -(n : Int)
  | '+' :: cs => (digits? cs).map Int.ofNat
  | cs => (digits? cs).map Int.ofNat

/-- A number without its sign: digits, then perhaps a fraction, then perhaps an exponent.
It is an integer when it has neither. -/
def unsigned? (negative : Bool) (cs : List Char) : Option Json := do
  let isMark (c : Char) := c == 'e' || c == 'E'
  let power := cs.dropWhile (!isMark ·)
  let body := cs.takeWhile (!isMark ·)
  let fraction := body.dropWhile (· != '.')
  let front ← whole? (body.takeWhile (· != '.'))
  match fraction, power with
  | [], [] => some (.int (if negative then -(front : Int) else front))
  | [], _ :: power => return .decimal (.finite negative front (← exponent? power))
  | _ :: places, power =>
      let behind ← digits? places
      let shift ← match power with
        | [] => some 0
        | _ :: power => exponent? power
      return .decimal
        (.finite negative (front * Nat.pow 10 places.length + behind) (shift - places.length))

/-- The number that a run of characters writes. -/
def number? : List Char → Option Json
  | '-' :: cs => unsigned? true cs
  | cs => unsigned? false cs

/-- The atom that a run of characters writes. -/
def atom? (cs : List Char) : Option Json :=
  match String.ofList cs with
  | "null" => some .null
  | "true" => some (.bool true)
  | "false" => some (.bool false)
  | "NaN" => some (.decimal .nan)
  | "Infinity" => some (.decimal (.infinite false))
  | "-Infinity" => some (.decimal (.infinite true))
  | _ => number? cs

/-- The digits in front of a number, behind its sign. -/
def frontDigits : List Char → List Char
  | '-' :: cs => cs.takeWhile Char.isDigit
  | cs => cs.takeWhile Char.isDigit

/-- Whether a number has so many digits in front that it is no ordinary atom. -/
def isLong (cs : List Char) : Bool :=
  (frontDigits cs).head? != some '0' && Text.maxDigits < (frontDigits cs).length

/-- Whether a number goes on behind its digits: with a point and a digit, or with an
exponent. -/
def hasTail : List Char → Bool
  | '.' :: c :: _ => c.isDigit
  | mark :: sign :: rest =>
      (mark == 'e' || mark == 'E') &&
        (sign.isDigit ||
          ((sign == '+' || sign == '-') && rest.head?.any Char.isDigit))
  | _ => false

/-- The token of a long number.  Without a fraction or an exponent it is an integer,
whatever else may follow. -/
def longToken (cs : List Char) : Token :=
  let behind := (if cs.head? == some '-' then cs.drop 1 else cs).drop (frontDigits cs).length
  if hasTail behind then
    match number? cs with
    | some value => .longDecimal value
    | none => .spoilt
  else .longInteger (number? cs)

/-- The atoms that are words. -/
def atomWords : List String :=
  ["null", "true", "false", "NaN", "Infinity", "-Infinity"]

/-- Whether a run of characters begins with an atom: with a word, or with a digit of a
number. -/
def beginsWithAtom (cs : List Char) : Bool :=
  !(frontDigits cs).isEmpty || atomWords.any fun word => word.toList.isPrefixOf cs

/-- The token of a run of characters. -/
def atomToken (cs : List Char) : Token :=
  if isLong cs then longToken cs
  else
    match atom? cs with
    | some value => .atom value
    | none => if beginsWithAtom cs then .spoilt else .unreadable

/-! ## Texts -/

/-- The character behind a backslash that stands for one character. -/
def escape? : Char → Option Char
  | '"' => some '"'
  | '\\' => some '\\'
  | '/' => some '/'
  | 'b' => some '\x08'
  | 'f' => some '\x0c'
  | 'n' => some '\n'
  | 'r' => some '\r'
  | 't' => some '\t'
  | _ => none

/-! ## The machine -/

/-- Where the lexer stands.  Characters read so far are kept last first. -/
inductive Mode where
  /-- Between tokens. -/
  | between
  /-- In an atom. -/
  | inAtom (taken : List Char)
  /-- In a text. -/
  | inText (taken : List Char)
  /-- Behind a backslash. -/
  | escaped (taken : List Char)
  /-- In the hexadecimal digits of a character's number; `high` is the first half of a pair. -/
  | inHex (taken : List Char) (high : Option Nat) (missing value : Nat)
  /-- Behind the first half of a surrogate pair, where a backslash may begin the second. -/
  | halfPair (taken : List Char) (high : Nat)
  /-- Behind the backslash that may begin the second half of a pair. -/
  | halfEscaped (taken : List Char) (high : Nat)
  /-- Behind a place where the text is no JSON. -/
  | stopped
  deriving Repr

/-- The lexer: where it stands, and the tokens read so far, last first. -/
structure Lexer where
  mode : Mode := .between
  tokens : List Token := []
  deriving Repr

namespace Lexer

/-- Take one more token. -/
def push (lexer : Lexer) (token : Token) : Lexer where
  mode := if token.isLast then .stopped else .between
  tokens := token :: lexer.tokens

/-- Take a character between tokens. -/
def start (lexer : Lexer) (c : Char) : Lexer :=
  if isSpace c then { lexer with mode := .between }
  else
    match punctuation? c with
    | some token => lexer.push token
    | none =>
        if c == '"' then { lexer with mode := .inText [] }
        else { lexer with mode := .inAtom [c] }

/-- An atom ends at a blank, a punctuation mark or a quote. -/
def endsAtom (c : Char) : Bool :=
  isSpace c || (punctuation? c).isSome || c == '"'

/-- Take a character in an atom. -/
def stepAtom (lexer : Lexer) (taken : List Char) (c : Char) : Lexer :=
  if endsAtom c then
    let token := atomToken taken.reverse
    if token.isLast then lexer.push token else (lexer.push token).start c
  else { lexer with mode := .inAtom (c :: taken) }

/-- Take a character in a text. -/
def stepText (lexer : Lexer) (taken : List Char) (c : Char) : Lexer :=
  if c == '"' then lexer.push (.text (String.ofList taken.reverse))
  else if c == '\\' then { lexer with mode := .escaped taken }
  else if c.toNat < 0x20 then lexer.push .spoilt
  else { lexer with mode := .inText (c :: taken) }

/-- Take a character behind a backslash. -/
def stepEscaped (lexer : Lexer) (taken : List Char) (c : Char) : Lexer :=
  if c == 'u' then { lexer with mode := .inHex taken none 4 0 }
  else
    match escape? c with
    | some escape => { lexer with mode := .inText (escape :: taken) }
    | none => lexer.push .spoilt

/-- The characters of a text with one more number spelled behind them, last first. -/
def behind (taken : List Char) (number : Nat) : List Char :=
  (Text.spelling number).reverse ++ taken

/-- Take a number that is no second half of a pair. -/
def takeUnit (lexer : Lexer) (taken : List Char) (unit : Nat) : Lexer :=
  if Text.isHighSurrogate unit then { lexer with mode := .halfPair taken unit }
  else { lexer with mode := .inText (behind taken unit) }

/-- Take the number that a character is written by. -/
def takeNumber (lexer : Lexer) (taken : List Char) (high : Option Nat) (unit : Nat) : Lexer :=
  match high with
  | none => lexer.takeUnit taken unit
  | some first =>
      if Text.isLowSurrogate unit then
        { lexer with mode := .inText (behind taken (Text.joinSurrogates first unit)) }
      else lexer.takeUnit (behind taken first) unit

/-- Take a hexadecimal digit. -/
def stepHex (lexer : Lexer) (taken : List Char) (high : Option Nat) (missing value : Nat)
    (c : Char) : Lexer :=
  match Text.hexDigit? c with
  | none => lexer.push .spoilt
  | some digit =>
      if missing ≤ 1 then lexer.takeNumber taken high (16 * value + digit)
      else { lexer with mode := .inHex taken high (missing - 1) (16 * value + digit) }

/-- Take one character. -/
def step (lexer : Lexer) (c : Char) : Lexer :=
  match lexer.mode with
  | .between => lexer.start c
  | .inAtom taken => lexer.stepAtom taken c
  | .inText taken => lexer.stepText taken c
  | .escaped taken => lexer.stepEscaped taken c
  | .inHex taken high missing value => lexer.stepHex taken high missing value c
  | .halfPair taken high =>
      if c == '\\' then { lexer with mode := .halfEscaped taken high }
      else lexer.stepText (behind taken high) c
  | .halfEscaped taken high =>
      if c == 'u' then { lexer with mode := .inHex taken (some high) 4 0 }
      else lexer.stepEscaped (behind taken high) c
  | .stopped => lexer

/-- The tokens of a text that ends here. -/
def finish (lexer : Lexer) : List Token :=
  match lexer.mode with
  | .between | .stopped => lexer.tokens.reverse
  | .inAtom taken => (lexer.push (atomToken taken.reverse)).tokens.reverse
  | _ => (lexer.push .spoilt).tokens.reverse

end Lexer

/-- The tokens of a text that is spelled out. -/
def tokens (cs : List Char) : List Token :=
  (cs.foldl Lexer.step {}).finish

end DepAtlas.Json
