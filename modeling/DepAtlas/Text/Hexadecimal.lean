/-!
# Hexadecimal digits

Written in lower case and read in either case.
-/

namespace DepAtlas.Text

/-- The `width` lowest hexadecimal digits of a number, in lower case. -/
def hexDigits : (width : Nat) → Nat → List Char
  | 0, _ => []
  | width + 1, n => hexDigits width (n / 16) ++ [Nat.digitChar (n % 16)]

@[simp] theorem length_hexDigits (width n : Nat) : (hexDigits width n).length = width := by
  induction width generalizing n with
  | zero => rfl
  | succ width ih => simp [hexDigits, ih]

theorem mem_hexDigits {c : Char} {width n : Nat} (member : c ∈ hexDigits width n) :
    ∃ digit < 16, c = Nat.digitChar digit := by
  induction width generalizing n with
  | zero => cases member
  | succ width ih =>
      rcases List.mem_append.1 member with front | last
      · exact ih front
      · exact ⟨_, Nat.mod_lt _ (by decide), List.mem_singleton.1 last⟩

/-- The value of a hexadecimal digit. -/
def hexDigit? (c : Char) : Option Nat :=
  if '0' ≤ c ∧ c ≤ '9' then some (c.toNat - '0'.toNat)
  else if 'a' ≤ c ∧ c ≤ 'f' then some (c.toNat - 'a'.toNat + 10)
  else if 'A' ≤ c ∧ c ≤ 'F' then some (c.toNat - 'A'.toNat + 10)
  else none

/-- A written digit reads back. -/
theorem hexDigit?_digitChar {n : Nat} (h : n < 16) : hexDigit? (Nat.digitChar n) = some n := by
  have every : ∀ m : Fin 16, hexDigit? (Nat.digitChar m.val) = some m.val := by decide
  exact every ⟨n, h⟩

end DepAtlas.Text
