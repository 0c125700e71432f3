/-!
# Control sequences

A control sequence is an order to a terminal in the middle of a text: the escape
character and a square bracket, then parameters, then intermediate characters, and last
the character that names the order.  Text that goes to no terminal is printed without
them.
-/

namespace DepAtlas.Text

/-- The characters that the parameters of a control sequence are written with. -/
def isParameter (c : Char) : Bool := '0' ≤ c && c ≤ '?'

/-- The characters that may stand between the parameters and the last character. -/
def isIntermediate (c : Char) : Bool := ' ' ≤ c && c ≤ '/'

/-- The characters that end a control sequence. -/
def isFinal (c : Char) : Bool := '@' ≤ c && c ≤ '~'

/-- What follows a control sequence whose bracket has been read, if it has an end. -/
def afterSequence? (cs : List Char) : Option (List Char) :=
  match (cs.dropWhile isParameter).dropWhile isIntermediate with
  | [] => none
  | c :: rest => if isFinal c then some rest else none

/-- A control sequence takes at least one character. -/
theorem length_of_afterSequence? {cs rest : List Char} (h : afterSequence? cs = some rest) :
    rest.length < cs.length := by
  unfold afterSequence? at h
  split at h
  · cases h
  · next c tail shape =>
      split at h
      · cases h
        have outer := (List.dropWhile_sublist isIntermediate
          (l := cs.dropWhile isParameter)).length_le
        have inner := (List.dropWhile_sublist isParameter (l := cs)).length_le
        rw [shape, List.length_cons] at outer
        omega
      · cases h

/-- Characters without the control sequences among them. -/
def dropSequences : List Char → List Char
  | [] => []
  | '\x1b' :: '[' :: cs =>
      match h : afterSequence? cs with
      | some rest =>
          have := length_of_afterSequence? h
          dropSequences rest
      | none => '\x1b' :: dropSequences ('[' :: cs)
  | c :: cs => c :: dropSequences cs
termination_by cs => cs.length
decreasing_by
  all_goals
    simp only [List.length_cons]
    omega

/-- A text without the control sequences in it. -/
def plain (text : String) : String :=
  String.ofList (dropSequences text.toList)

/-- A sequence goes with all its parameters; an escape that begins none stays. -/
example :
    plain "a\x1b[1;31mb\x1b[0m\x1b]c\x1b[" = "ab\x1b]c\x1b[" := by
  cbv

end DepAtlas.Text
