import DepAtlas.SourcePath

/-!
# Normal forms of paths

The segments of a path that has been read name something and hold no slash.  A path with
such segments is what its own text reads as, so the normal form of a path is a fixed point:
a file that is stored under its normal form keeps it when it is stored again.
-/

namespace DepAtlas.SourcePath

/-- A segment as a path holds it. -/
def IsName (segment : List Char) : Prop :=
  '/' ∉ segment ∧ isSegment segment = true

theorem pieces_ne_nil (cs : List Char) : pieces cs ≠ [] := by
  cases cs with
  | nil => simp [pieces]
  | cons c cs =>
      simp only [pieces]
      split
      · simp
      · split <;> simp

theorem slash_not_mem_of_mem_pieces {cs piece : List Char} (member : piece ∈ pieces cs) :
    '/' ∉ piece := by
  induction cs generalizing piece with
  | nil =>
      rw [pieces, List.mem_singleton] at member
      simp [member]
  | cons c cs ih =>
      simp only [pieces] at member
      split at member
      next slash =>
        rcases List.mem_cons.1 member with rfl | later
        · simp
        · exact ih later
      next other =>
        cases split : pieces cs with
        | nil => exact absurd split (pieces_ne_nil cs)
        | cons first rest =>
            rw [split] at ih
            simp only [split, List.mem_cons] at member
            rcases member with rfl | later
            · have plain := ih List.mem_cons_self
              simp [plain, Ne.symm other]
            · exact ih (List.mem_cons_of_mem first later)

theorem pieces_of_not_mem {piece : List Char} (plain : '/' ∉ piece) :
    pieces piece = [piece] := by
  induction piece with
  | nil => rfl
  | cons c cs ih =>
      rw [List.mem_cons, not_or] at plain
      simp [pieces, Ne.symm plain.1, ih plain.2]

theorem pieces_append {piece : List Char} (plain : '/' ∉ piece) (rest : List Char) :
    pieces (piece ++ '/' :: rest) = piece :: pieces rest := by
  induction piece with
  | nil => simp [pieces]
  | cons c cs ih =>
      rw [List.mem_cons, not_or] at plain
      simp [pieces, Ne.symm plain.1, ih plain.2]

theorem pieces_intercalate {first : List Char} {names : List (List Char)}
    (plain : ∀ name ∈ first :: names, '/' ∉ name) :
    pieces (['/'].intercalate (first :: names)) = first :: names := by
  induction names generalizing first with
  | nil =>
      rw [List.intercalate_singleton]
      exact pieces_of_not_mem (plain first (by simp))
  | cons second names ih =>
      rw [List.intercalate_cons_cons, List.append_assoc, List.singleton_append,
        pieces_append (plain first (by simp)), ih]
      intro name member
      exact plain name (List.mem_cons_of_mem first member)

/-- Segments joined by slashes are read back. -/
theorem filter_pieces_intercalate {names : List (List Char)}
    (named : ∀ name ∈ names, IsName name) :
    (pieces (['/'].intercalate names)).filter isSegment = names := by
  cases names with
  | nil => decide
  | cons first names =>
      rw [pieces_intercalate fun name member => (named name member).1]
      exact List.filter_eq_self.2 fun name member => (named name member).2

/-- The text of segments does not begin with a slash. -/
theorem takeWhile_slash_intercalate {names : List (List Char)}
    (named : ∀ name ∈ names, IsName name) :
    (['/'].intercalate names).takeWhile (· == '/') = [] := by
  cases names with
  | nil => rfl
  | cons first names =>
      have isName := named first List.mem_cons_self
      cases first with
      | nil => simp [IsName, isSegment] at isName
      | cons c cs =>
          have other : c ≠ '/' := by
            intro slash
            exact isName.1 (by simp [slash])
          cases names <;> simp [List.intercalate_cons_cons, other]

/-- A path whose segments are names is read from its own text. -/
theorem ofString_text {path : SourcePath}
    (named : ∀ segment ∈ path.segments, IsName segment.toList) :
    ofString path.text = path := by
  obtain ⟨root, segments⟩ := path
  have names : ∀ name ∈ segments.map String.toList, IsName name := by
    intro name member
    obtain ⟨segment, inside, rfl⟩ := List.mem_map.1 member
    exact named segment inside
  have back := filter_pieces_intercalate names
  have start := takeWhile_slash_intercalate names
  have again : (segments.map String.toList).map String.ofList = segments := by
    simp [Function.comp_def]
  cases root with
  | relative =>
      cases segments with
      | nil => rfl
      | cons first rest =>
          have chars : (SourcePath.text ⟨.relative, first :: rest⟩).toList =
              ['/'].intercalate ((first :: rest).map String.toList) := by
            simp [SourcePath.text, Root.text]
          rw [ofString, chars, rootOf, start, back, again]
          rfl
  | single =>
      have chars : (SourcePath.text ⟨.single, segments⟩).toList =
          '/' :: ['/'].intercalate (segments.map String.toList) := by
        simp [SourcePath.text, Root.text]
      rw [ofString, chars, rootOf, List.takeWhile_cons_of_pos (by rfl), start, pieces, if_pos rfl,
        List.filter_cons_of_neg (by decide), back, again]
      rfl
  | double =>
      have chars : (SourcePath.text ⟨.double, segments⟩).toList =
          '/' :: '/' :: ['/'].intercalate (segments.map String.toList) := by
        simp [SourcePath.text, Root.text]
      rw [ofString, chars, rootOf, List.takeWhile_cons_of_pos (by rfl),
        List.takeWhile_cons_of_pos (by rfl), start, pieces, if_pos rfl,
        List.filter_cons_of_neg (by decide), pieces, if_pos rfl,
        List.filter_cons_of_neg (by decide), back, again]
      rfl

/-- The segments of a path that has been read are names. -/
theorem isName_of_mem_ofString {text segment : String}
    (member : segment ∈ (ofString text).segments) : IsName segment.toList := by
  obtain ⟨piece, kept, rfl⟩ := List.mem_map.1 member
  obtain ⟨inside, named⟩ := List.mem_filter.1 kept
  rw [String.toList_ofList]
  exact ⟨slash_not_mem_of_mem_pieces inside, named⟩

end DepAtlas.SourcePath

namespace DepAtlas

/-- The normal form of a path is its own normal form. -/
theorem normalPath_normalPath (text : String) :
    normalPath (normalPath text) = normalPath text := by
  unfold normalPath
  rw [SourcePath.ofString_text fun _ member => SourcePath.isName_of_mem_ofString member]

end DepAtlas
