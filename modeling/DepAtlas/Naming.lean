import DepAtlas.Text.Quoted

/-!
# Named choices

Kinds, visibilities and edge types are written by name.  A family of names says which
texts stand for which member; anything else, and every value that is not a text, is
refused with a message that shows the value.  How a message puts a text between quotes
depends on whether the text is spelled out.
-/

namespace DepAtlas

/-- A value that is offered as the name of a family's member. -/
inductive Scalar where
  | null
  | bool (value : Bool)
  | int (value : Int)
  | text (value : String)
  deriving DecidableEq, Repr

/-- A scalar as messages show it that quote in a certain way. -/
def Scalar.shownBy (quote : String → String) : Scalar → String
  | .null => "None"
  | .bool true => "True"
  | .bool false => "False"
  | .int value => toString value
  | .text value => quote value

/-- A value that names no member of a family. -/
structure UnknownName where
  value : Scalar
  family : String
  deriving DecidableEq, Repr

/-- The message for an unknown name, quoted in a certain way. -/
def UnknownName.messageBy (quote : String → String) (unknown : UnknownName) : String :=
  s!"{unknown.value.shownBy quote} is not a valid {unknown.family}"

/-- The message for an unknown name. -/
def UnknownName.message (unknown : UnknownName) : String :=
  unknown.messageBy Text.quoted

/-- A family of named members. -/
structure NameFamily (α : Type) where
  /-- The family's own name, as messages give it. -/
  title : String
  /-- The member that a text stands for. -/
  member? : String → Option α

/-- The member that a value names. -/
def NameFamily.read {α : Type} (family : NameFamily α) : Scalar → Except UnknownName α
  | .text name =>
      match family.member? name with
      | some member => .ok member
      | none => .error ⟨.text name, family.title⟩
  | value => .error ⟨value, family.title⟩

end DepAtlas
