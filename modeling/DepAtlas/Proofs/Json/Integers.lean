import DepAtlas.Json.Token
import DepAtlas.Json.Writer
import Mathlib.Data.List.TakeWhile

/-!
# Integers in JSON text

The characters that an integer is written with make up one atom, and the atom is read as that
integer.  Only an integer of more than `Text.maxDigits` digits is a token of its own kind.
-/

namespace DepAtlas.Json

/-! ## Digits -/

theorem isDigit_of_mem_toDigits {n : Nat} {c : Char} (member : c ∈ Nat.toDigits 10 n) :
    c.isDigit = true :=
  Nat.isDigit_of_mem_toDigits (by decide) (by decide) member

theorem ne_of_isDigit {c other : Char} (digit : c.isDigit = true)
    (noDigit : other.isDigit = false) : c ≠ other := by
  rintro rfl
  simp [noDigit] at digit

/-- No number but zero begins with a zero. -/
theorem head?_toDigits {n : Nat} (positive : 0 < n) : (Nat.toDigits 10 n).head? ≠ some '0' := by
  induction n using Nat.strongRecOn with
  | ind n ih =>
      by_cases small : n < 10
      · rw [Nat.toDigits_of_lt_base small]
        have digits : ∀ digit : Fin 10, 0 < digit.val → Nat.digitChar digit.val ≠ '0' := by decide
        simpa using digits ⟨n, small⟩ positive
      · rw [Nat.toDigits_of_base_le (by decide) (by omega), List.head?_append]
        have first := ih (n / 10) (by omega) (by omega)
        cases found : (Nat.toDigits 10 (n / 10)).head? with
        | none => exact absurd (List.head?_eq_none_iff.1 found) Nat.toDigits_ne_nil
        | some c =>
            rw [found] at first
            simpa using first

theorem digits?_toDigits (n : Nat) : digits? (Nat.toDigits 10 n) = some n := by
  have allDigits : (Nat.toDigits 10 n).all Char.isDigit = true :=
    List.all_eq_true.2 fun c member => isDigit_of_mem_toDigits member
  simp [digits?, allDigits, Nat.toDigits_ne_nil, Nat.ofDigitChars_ten_toDigits]

theorem whole?_toDigits (n : Nat) : whole? (Nat.toDigits 10 n) = some n := by
  unfold whole?
  split
  next c rest written =>
    have positive : 0 < n := by
      apply Nat.pos_of_ne_zero
      rintro rfl
      simp at written
    have first := head?_toDigits positive
    simp [written] at first
  next => exact digits?_toDigits n

theorem takeWhile_toDigits {keep : Char → Bool} (n : Nat)
    (kept : ∀ c, c.isDigit = true → keep c = true) :
    (Nat.toDigits 10 n).takeWhile keep = Nat.toDigits 10 n :=
  List.takeWhile_eq_self_iff.2 fun _ member => kept _ (isDigit_of_mem_toDigits member)

theorem dropWhile_toDigits {keep : Char → Bool} (n : Nat)
    (kept : ∀ c, c.isDigit = true → keep c = true) :
    (Nat.toDigits 10 n).dropWhile keep = [] :=
  List.dropWhile_eq_nil_iff.2 fun _ member => kept _ (isDigit_of_mem_toDigits member)

/-! ## Numbers -/

theorem unsigned?_toDigits (negative : Bool) (n : Nat) :
    unsigned? negative (Nat.toDigits 10 n) =
      some (.int (if negative then -(n : Int) else n)) := by
  have noMark : ∀ c : Char, c.isDigit = true → (!(c == 'e' || c == 'E')) = true := by
    intro c digit
    have notLower := ne_of_isDigit digit (show 'e'.isDigit = false by decide)
    have notUpper := ne_of_isDigit digit (show 'E'.isDigit = false by decide)
    simp [notLower, notUpper]
  have noPoint : ∀ c : Char, c.isDigit = true → (c != '.') = true := by
    intro c digit
    simpa using ne_of_isDigit digit (show '.'.isDigit = false by decide)
  simp only [unsigned?, takeWhile_toDigits n noMark, dropWhile_toDigits n noMark,
    takeWhile_toDigits n noPoint, dropWhile_toDigits n noPoint, whole?_toDigits]
  rfl

/-- The characters of an integer are its digits, behind a minus sign if it is negative. -/
theorem intChars_cases (n : Int) :
    (n < 0 ∧ intChars n = '-' :: Nat.toDigits 10 n.natAbs) ∨
      (0 ≤ n ∧ intChars n = Nat.toDigits 10 n.natAbs) := by
  unfold intChars
  split
  next negative => exact .inl ⟨negative, rfl⟩
  next notNegative => exact .inr ⟨by omega, rfl⟩

theorem number?_intChars (n : Int) : number? (intChars n) = some (.int n) := by
  rcases intChars_cases n with ⟨negative, written⟩ | ⟨notNegative, written⟩
  · rw [written, number?, unsigned?_toDigits]
    simp only [if_true]
    congr 2
    omega
  · have unsigned := unsigned?_toDigits false n.natAbs
    have same : ((n.natAbs : Nat) : Int) = n := by omega
    rw [written]
    unfold number?
    split
    next rest signed =>
      have digit := isDigit_of_mem_toDigits (n := n.natAbs) (c := '-') (by simp [signed])
      simp at digit
    next =>
      rw [unsigned]
      simp [same]

theorem frontDigits_intChars (n : Int) :
    frontDigits (intChars n) = Nat.toDigits 10 n.natAbs := by
  have whole : (Nat.toDigits 10 n.natAbs).takeWhile Char.isDigit = Nat.toDigits 10 n.natAbs :=
    takeWhile_toDigits n.natAbs fun _ digit => digit
  rcases intChars_cases n with ⟨negative, written⟩ | ⟨notNegative, written⟩
  · rw [written, frontDigits, whole]
  · rw [written]
    unfold frontDigits
    split
    next rest signed =>
      have digit := isDigit_of_mem_toDigits (n := n.natAbs) (c := '-') (by simp [signed])
      simp at digit
    next => exact whole

/-! ## Atoms -/

theorem atom?_intChars (n : Int) : atom? (intChars n) = some (.int n) := by
  have word : ∀ {text : String}, text.toList.all (fun c => !c.isDigit) = true →
      String.ofList (intChars n) ≠ text := by
    intro text letters same
    have written : text.toList = intChars n := by rw [← same, String.toList_ofList]
    obtain ⟨c, member⟩ := List.exists_mem_of_ne_nil (Nat.toDigits 10 n.natAbs) Nat.toDigits_ne_nil
    have inside : c ∈ text.toList := by
      rw [written]
      rcases intChars_cases n with ⟨_, signed⟩ | ⟨_, unsigned⟩
      · rw [signed]
        exact List.mem_cons_of_mem '-' member
      · rw [unsigned]
        exact member
    have noDigit := List.all_eq_true.1 letters c inside
    simp [isDigit_of_mem_toDigits member] at noDigit
  unfold atom?
  split
  next same => exact absurd same (word rfl)
  next same => exact absurd same (word rfl)
  next same => exact absurd same (word rfl)
  next same => exact absurd same (word rfl)
  next same => exact absurd same (word rfl)
  next same => exact absurd same (word rfl)
  next => exact number?_intChars n

theorem length_toDigits_le {n limit : Nat} (positive : 0 < limit) :
    (Nat.toDigits 10 n).length ≤ limit ↔ n < Nat.pow 10 limit :=
  Nat.length_toDigits_le_iff (by decide) positive

/-- An integer is an atom, or a token of its own kind if it has too many digits. -/
theorem atomToken_intChars (n : Int) :
    atomToken (intChars n) =
      if n.natAbs < Nat.pow 10 Text.maxDigits then .atom (.int n)
      else .longInteger (some (.int n)) := by
  have length : (Nat.toDigits 10 n.natAbs).length ≤ Text.maxDigits ↔
      n.natAbs < Nat.pow 10 Text.maxDigits :=
    length_toDigits_le (show 0 < Text.maxDigits by decide)
  split
  next short =>
    have notLong : isLong (intChars n) = false := by
      have few := length.2 short
      simp only [isLong, frontDigits_intChars, Bool.and_eq_false_iff, decide_eq_false_iff_not]
      exact .inr (by omega)
    rw [atomToken, if_neg (by simp [notLong]), atom?_intChars]
  next many =>
    have positive : 0 < n.natAbs := by
      apply Nat.pos_of_ne_zero
      intro zero
      rw [zero] at many
      have powers : ∀ limit, 0 < Nat.pow 10 limit := fun limit => Nat.pow_pos (by decide)
      exact many (powers Text.maxDigits)
    have isLong : isLong (intChars n) = true := by
      have more : ¬(Nat.toDigits 10 n.natAbs).length ≤ Text.maxDigits := fun few =>
        many (length.1 few)
      simp only [Json.isLong, frontDigits_intChars, Bool.and_eq_true, decide_eq_true_eq]
      exact ⟨by simpa using head?_toDigits positive, by omega⟩
    have behind : (if (intChars n).head? == some '-' then (intChars n).drop 1 else intChars n).drop
        (frontDigits (intChars n)).length = [] := by
      rw [frontDigits_intChars]
      rcases intChars_cases n with ⟨_, written⟩ | ⟨_, written⟩
      · simp [written]
      · split <;> simp [written]
    rw [atomToken, if_pos isLong, longToken]
    simp only [behind, hasTail, number?_intChars]
    rfl

end DepAtlas.Json
