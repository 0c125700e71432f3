import DepAtlas.Json
import DepAtlas.Text.Uneven

/-!
# JSON values that are spelled out

The texts of a value may be spelled out.  Such a value stands for one with the texts
themselves, unless one of them is uneven.  The names of fields are texts of a value too.
-/

namespace DepAtlas.Json

mutual

/-- The value that a value with texts that are spelled out stands for. -/
def unspelled? : Json → Option Json
  | .text value | .uneven value => (Text.unspelled? value).map .text
  | .array items => (unspelledItems? items).map .array
  | .object fields => (unspelledFields? fields).map .object
  | value => some value

/-- The items of an array. -/
def unspelledItems? : List Json → Option (List Json)
  | [] => some []
  | item :: items => do
      let item ← unspelled? item
      let items ← unspelledItems? items
      return item :: items

/-- The fields of an object. -/
def unspelledFields? : List (String × Json) → Option (List (String × Json))
  | [] => some []
  | (name, value) :: fields => do
      let name ← Text.unspelled? name
      let value ← unspelled? value
      let fields ← unspelledFields? fields
      return (name, value) :: fields

end

mutual

/-- The texts of a value, in the order in which they are written. -/
def textsIn : Json → List String
  | .text value | .uneven value => [value]
  | .array items => textsInItems items
  | .object fields => textsInFields fields
  | _ => []

/-- The texts of the items of an array. -/
def textsInItems : List Json → List String
  | [] => []
  | item :: items => textsIn item ++ textsInItems items

/-- The texts of the fields of an object. -/
def textsInFields : List (String × Json) → List String
  | [] => []
  | (name, value) :: fields => name :: textsIn value ++ textsInFields fields

end

/-- The first uneven text of a value. -/
def uneven? (value : Json) : Option String :=
  value.textsIn.find? Text.isUneven

mutual

theorem isSome_unspelled? : ∀ value : Json,
    value.unspelled?.isSome = value.textsIn.all fun text => !Text.isUneven text
  | .null | .bool _ | .int _ | .decimal _ => rfl
  | .text value | .uneven value => by
      simp [unspelled?, textsIn, Text.isSome_unspelled?]
  | .array items => by
      rw [unspelled?, textsIn, Option.isSome_map, isSome_unspelledItems? items]
  | .object fields => by
      rw [unspelled?, textsIn, Option.isSome_map, isSome_unspelledFields? fields]

theorem isSome_unspelledItems? : ∀ items : List Json,
    (unspelledItems? items).isSome = (textsInItems items).all fun text => !Text.isUneven text
  | [] => rfl
  | item :: items => by
      rw [textsInItems, List.all_append, ← isSome_unspelled? item, ← isSome_unspelledItems? items,
        unspelledItems?]
      cases unspelled? item <;> cases unspelledItems? items <;> rfl

theorem isSome_unspelledFields? : ∀ fields : List (String × Json),
    (unspelledFields? fields).isSome = (textsInFields fields).all fun text => !Text.isUneven text
  | [] => rfl
  | (name, value) :: fields => by
      rw [textsInFields, List.cons_append, List.all_cons, List.all_append,
        ← Text.isSome_unspelled? name, ← isSome_unspelled? value,
        ← isSome_unspelledFields? fields, unspelledFields?]
      cases Text.unspelled? name <;> cases unspelled? value <;>
        cases unspelledFields? fields <;> rfl

end

/-- A value stands for one with the texts themselves unless one of its texts is uneven. -/
theorem unspelled?_eq_none_iff {value : Json} :
    value.unspelled? = none ↔ ∃ text ∈ value.textsIn, Text.isUneven text = true := by
  rw [← Option.not_isSome_iff_eq_none, isSome_unspelled?]
  simp

theorem uneven?_eq_none_iff {value : Json} :
    value.uneven? = none ↔ ∀ text ∈ value.textsIn, Text.isUneven text = false := by
  simp [uneven?]

end DepAtlas.Json
