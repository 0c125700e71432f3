import DepAtlas.Json.Decimal

/-!
# JSON values

The value type that documents are read into and written from.  Integers have any size
and are kept apart from decimal fractions.  So are texts and those in which half of a
surrogate pair stands alone.  The fields of an object keep their order; of several fields
with one name the last one counts.
-/

namespace DepAtlas

/-- A JSON value. -/
inductive Json where
  | null
  | bool (value : Bool)
  | int (value : Int)
  | decimal (value : Decimal)
  | text (value : String)
  /-- An uneven text, spelled out. -/
  | uneven (value : String)
  | array (items : List Json)
  | object (fields : List (String × Json))
  deriving Repr

namespace Json

/-- The value of the last field with a name. -/
def field? (fields : List (String × Json)) (name : String) : Option Json :=
  (fields.reverse.find? fun field => field.1 = name).map (·.2)

/-- An array of texts. -/
def texts (items : List String) : Json :=
  .array (items.map .text)

end Json

end DepAtlas
