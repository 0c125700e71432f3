/-!
# Surrogates

In sixteen bits, a character beyond the first plane is written as a pair of surrogates: a
high one and a low one.  A surrogate is a number, and no character has that number.
-/

namespace DepAtlas.Text

/-- The first half of a surrogate pair. -/
def isHighSurrogate (number : Nat) : Bool := 0xD800 ≤ number && number < 0xDC00

/-- The second half of a surrogate pair. -/
def isLowSurrogate (number : Nat) : Bool := 0xDC00 ≤ number && number < 0xE000

/-- Either half of a surrogate pair. -/
def isSurrogate (number : Nat) : Bool := 0xD800 ≤ number && number < 0xE000

/-- The number of the character that a surrogate pair stands for. -/
def joinSurrogates (high low : Nat) : Nat :=
  0x10000 + (high - 0xD800) * 0x400 + (low - 0xDC00)

/-- Units of sixteen bits with their pairs joined. -/
def joinUnits : List Nat → List Nat
  | [] => []
  | high :: low :: rest =>
      if isHighSurrogate high && isLowSurrogate low then
        joinSurrogates high low :: joinUnits rest
      else high :: joinUnits (low :: rest)
  | [unit] => [unit]

end DepAtlas.Text
