/-!
# Optional text

Where a text may be left out, an empty text counts as left out.
-/

namespace DepAtlas.Text

/-- A text that is there and not empty. -/
def present (text : Option String) : Option String :=
  text.filter (· != "")

theorem present_eq_some_iff {text : Option String} {value : String} :
    present text = some value ↔ text = some value ∧ value ≠ "" := by
  simp [present, Option.filter_eq_some_iff]

theorem present_eq_none_iff {text : Option String} :
    present text = none ↔ text = none ∨ text = some "" := by
  cases text <;> simp [present, Option.filter_eq_none_iff]

end DepAtlas.Text
