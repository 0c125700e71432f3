/-!
# Lists of ids and files

The list operations that the analysis is written in: adding to a list without repeats,
ascending order, and the part of a listing that a limit lets through.
-/

namespace DepAtlas

variable {α : Type}

/-- Add an item behind a list, unless the list has it. -/
def addNew [DecidableEq α] (items : List α) (item : α) : List α :=
  if item ∈ items then items else items ++ [item]

@[simp] theorem mem_addNew [DecidableEq α] {items : List α} {item x : α} :
    x ∈ addNew items item ↔ x ∈ items ∨ x = item := by
  unfold addNew
  split
  · next h => exact ⟨.inl, fun h' => h'.elim id fun e => e ▸ h⟩
  · simp

theorem nodup_addNew [DecidableEq α] {items : List α} {item : α} (h : items.Nodup) :
    (addNew items item).Nodup := by
  unfold addNew
  split
  · exact h
  · next hnot =>
    refine List.nodup_append.2 ⟨h, by simp, ?_⟩
    intro a ha b hb e
    rw [List.mem_singleton] at hb
    exact hnot (hb ▸ e ▸ ha)

/-- The items of a list in order of first occurrence, without later repeats. -/
def distinct [DecidableEq α] (items : List α) : List α :=
  items.foldl addNew []

theorem mem_foldl_addNew [DecidableEq α] {items start : List α} {x : α} :
    x ∈ items.foldl addNew start ↔ x ∈ start ∨ x ∈ items := by
  induction items generalizing start with
  | nil => simp
  | cons item items ih => simp [ih, or_assoc]

theorem nodup_foldl_addNew [DecidableEq α] {items start : List α} (nodup : start.Nodup) :
    (items.foldl addNew start).Nodup := by
  induction items generalizing start with
  | nil => exact nodup
  | cons item items ih => exact ih (nodup_addNew nodup)

@[simp] theorem mem_distinct [DecidableEq α] {items : List α} {x : α} :
    x ∈ distinct items ↔ x ∈ items := by
  simp [distinct, mem_foldl_addNew]

theorem nodup_distinct [DecidableEq α] (items : List α) : (distinct items).Nodup :=
  nodup_foldl_addNew List.nodup_nil

theorem foldl_addNew [DecidableEq α] (items start : List α) :
    items.foldl addNew start = start ++ (items.filter fun item => item ∉ start).eraseDups := by
  induction items generalizing start with
  | nil => simp
  | cons item items ih =>
      rw [List.foldl_cons, ih, addNew]
      by_cases known : item ∈ start
      · simp [known]
      · have others : (fun other => decide (other ∉ start ++ [item])) =
            fun other => !other == item && decide (other ∉ start) := by
          funext other
          rw [Bool.eq_iff_iff]
          simp [and_comm]
        rw [if_neg known, others, List.filter_cons_of_pos (by simpa using known),
          List.eraseDups_cons, List.filter_filter, List.append_assoc, List.singleton_append]

theorem distinct_eq_eraseDups [DecidableEq α] (items : List α) :
    distinct items = items.eraseDups := by
  have all : (items.filter fun item => item ∉ ([] : List α)) = items :=
    List.filter_eq_self.2 fun item _ => by simp
  rw [distinct, foldl_addNew, List.nil_append, all]

/-- Texts in ascending order, by code points. -/
def ascending (texts : List String) : List String :=
  texts.mergeSort fun a b => decide (a ≤ b)

theorem ascending_perm (texts : List String) : (ascending texts).Perm texts :=
  List.mergeSort_perm _ _

@[simp] theorem mem_ascending {texts : List String} {text : String} :
    text ∈ ascending texts ↔ text ∈ texts :=
  (ascending_perm texts).mem_iff

theorem ascending_sorted (texts : List String) : (ascending texts).Pairwise (· ≤ ·) := by
  have sorted : (ascending texts).Pairwise fun a b => decide (a ≤ b) = true := by
    apply List.pairwise_mergeSort
    · intro a b c first second
      exact decide_eq_true (String.le_trans (of_decide_eq_true first) (of_decide_eq_true second))
    · intro a b
      simpa using String.le_total a b
  exact sorted.imp fun related => of_decide_eq_true related

/-- Texts without repeats are in strictly ascending order. -/
theorem ascending_strict {texts : List String} (nodup : texts.Nodup) :
    (ascending texts).Pairwise (· < ·) := by
  have distinctTexts : (ascending texts).Pairwise (· ≠ ·) :=
    (ascending_perm texts).nodup_iff.2 nodup
  refine (ascending_sorted texts).imp₂ (fun a b least different => ?_) distinctTexts
  apply String.not_le.1
  intro greatest
  exact different (String.le_antisymm least greatest)

theorem nodup_of_strict {texts : List String} (strict : texts.Pairwise (· < ·)) :
    texts.Nodup := by
  refine List.Pairwise.imp ?_ strict
  rintro text _ less rfl
  exact String.lt_irrefl text less

/-- Texts in strictly ascending order are determined by which they are. -/
theorem eq_of_strict {texts others : List String} (strict : texts.Pairwise (· < ·))
    (strictOthers : others.Pairwise (· < ·)) (same : ∀ text, text ∈ texts ↔ text ∈ others) :
    texts = others := by
  have perm := (List.perm_ext_iff_of_nodup (nodup_of_strict strict)
    (nodup_of_strict strictOthers)).2 same
  refine List.Perm.eq_of_pairwise ?_ strict strictOthers perm
  intro first second _ _ less greater
  exact absurd (String.lt_trans less greater) (String.lt_irrefl first)

/-- The ascending order of texts does not depend on the order in which they come. -/
theorem ascending_eq_of_perm {texts others : List String} (perm : texts.Perm others) :
    ascending texts = ascending others :=
  List.Perm.eq_of_pairwise (fun _ _ _ _ => String.le_antisymm) (ascending_sorted texts)
    (ascending_sorted others)
    ((ascending_perm texts).trans (perm.trans (ascending_perm others).symm))

/-- The part of a listing that a limit lets through: the first `limit` items, or for a
negative limit all but the last `-limit`. -/
def shown (limit : Int) (items : List α) : List α :=
  if 0 ≤ limit then items.take limit.toNat
  else items.take (items.length - (-limit).toNat)

theorem shown_of_nonneg {limit : Int} (notNegative : 0 ≤ limit) (items : List α) :
    shown limit items = items.take limit.toNat :=
  if_pos notNegative

theorem map_shown {β : Type} (view : α → β) (limit : Int) (items : List α) :
    (shown limit items).map view = shown limit (items.map view) := by
  unfold shown
  split <;> rw [List.map_take]
  rw [List.length_map]

theorem shown_subset (limit : Int) (items : List α) : shown limit items ⊆ items := by
  unfold shown
  split <;> exact List.take_subset _ _

/-- The sum of a list of integers. -/
def total (values : List Int) : Int :=
  values.foldr (· + ·) 0

end DepAtlas
