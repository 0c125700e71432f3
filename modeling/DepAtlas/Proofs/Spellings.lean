import DepAtlas.Proofs.NormalPath

/-!
# Spellings of a path

A path can be spelled in many ways.  Slashes stand between its names, where one more does
no harm, and at its end; a single dot between slashes counts for nothing.  Only the slashes
in front say something: none, one or exactly two of them are different roots, and three or
more are as good as one.

This is what it is to read a path: a text spells the path that it reads as and no other.
So two texts have the same normal form exactly if they spell the same path.
-/

namespace DepAtlas.SourcePath

/-- How the text behind a root spells the names of a path. -/
inductive SpellsNames : List Char → List (List Char) → Prop where
  | nil : SpellsNames [] []
  | dot : SpellsNames ['.'] []
  | name {name : List Char} (named : IsName name) : SpellsNames name [name]
  | slash {body : List Char} {names : List (List Char)} (rest : SpellsNames body names) :
      SpellsNames ('/' :: body) names
  | dotSlash {body : List Char} {names : List (List Char)} (rest : SpellsNames body names) :
      SpellsNames ('.' :: '/' :: body) names
  | nameSlash {name body : List Char} {names : List (List Char)} (named : IsName name)
      (rest : SpellsNames body names) : SpellsNames (name ++ '/' :: body) (name :: names)

/-- How a text spells a path.  Unless there are three slashes in front, no slash follows those of
the root. -/
inductive Spells : List Char → SourcePath → Prop where
  | relative {body : List Char} {names : List (List Char)} (ended : body.head? ≠ some '/')
      (spelled : SpellsNames body names) : Spells body ⟨.relative, names.map String.ofList⟩
  | single {body : List Char} {names : List (List Char)} (ended : body.head? ≠ some '/')
      (spelled : SpellsNames body names) :
      Spells ('/' :: body) ⟨.single, names.map String.ofList⟩
  | double {body : List Char} {names : List (List Char)} (ended : body.head? ≠ some '/')
      (spelled : SpellsNames body names) :
      Spells ('/' :: '/' :: body) ⟨.double, names.map String.ofList⟩
  | more {body : List Char} {names : List (List Char)} (spelled : SpellsNames body names) :
      Spells ('/' :: '/' :: '/' :: body) ⟨.single, names.map String.ofList⟩

/-! ## Names -/

/-- The segments of a text that spells some names are these names. -/
theorem SpellsNames.filter_pieces {body : List Char} {names : List (List Char)}
    (spelled : SpellsNames body names) : (pieces body).filter isSegment = names := by
  induction spelled with
  | nil => rfl
  | dot => rfl
  | name named =>
      rw [pieces_of_not_mem named.1, List.filter_cons_of_pos named.2, List.filter_nil]
  | slash _ ih =>
      rw [pieces, if_pos rfl, List.filter_cons_of_neg (by decide), ih]
  | @dotSlash body _ _ ih =>
      have plain : '/' ∉ ['.'] := by decide
      have first : pieces ('.' :: '/' :: body) = ['.'] :: pieces body := pieces_append plain body
      rw [first, List.filter_cons_of_neg (by decide), ih]
  | nameSlash named _ ih =>
      rw [pieces_append named.1, List.filter_cons_of_pos named.2, ih]

theorem intercalate_pieces (cs : List Char) : ['/'].intercalate (pieces cs) = cs := by
  induction cs with
  | nil => rfl
  | cons c cs ih =>
      cases split : pieces cs with
      | nil => exact absurd split (pieces_ne_nil cs)
      | cons first rest =>
          rw [split] at ih
          rw [pieces]
          split
          next slash =>
            rw [split, List.intercalate_cons_cons, ih, slash]
            rfl
          next =>
            simp only [split]
            cases rest with
            | nil => simpa using ih
            | cons second rest =>
                rw [List.intercalate_cons_cons] at ih ⊢
                rw [← ih]
                rfl

/-- Pieces that are joined by slashes spell those among them that name something. -/
theorem spellsNames_intercalate {pieces : List (List Char)}
    (plain : ∀ piece ∈ pieces, '/' ∉ piece) :
    SpellsNames (['/'].intercalate pieces) (pieces.filter isSegment) := by
  induction pieces with
  | nil => exact .nil
  | cons first rest ih =>
      have later := ih fun piece member => plain piece (List.mem_cons_of_mem first member)
      by_cases named : isSegment first = true
      · have isName : IsName first := ⟨plain first (by simp), named⟩
        rw [List.filter_cons_of_pos named]
        cases rest with
        | nil => simpa using SpellsNames.name isName
        | cons second rest =>
            rw [List.intercalate_cons_cons, List.append_assoc]
            exact .nameSlash isName later
      · have blank : first = [] ∨ first = ['.'] := by
          apply Decidable.or_iff_not_imp_left.2
          simpa [isSegment] using named
        rw [List.filter_cons_of_neg named]
        cases rest with
        | nil =>
            rcases blank with rfl | rfl
            · exact .nil
            · exact .dot
        | cons second rest =>
            rw [List.intercalate_cons_cons]
            rcases blank with rfl | rfl
            · exact .slash later
            · exact .dotSlash later

/-- Every text spells its segments. -/
theorem spellsNames_pieces (cs : List Char) :
    SpellsNames cs ((pieces cs).filter isSegment) := by
  have spelled := spellsNames_intercalate fun piece (member : piece ∈ pieces cs) =>
    slash_not_mem_of_mem_pieces member
  rwa [intercalate_pieces] at spelled

/-! ## Paths -/

theorem takeWhile_slash_of_head {body : List Char} (ended : body.head? ≠ some '/') :
    body.takeWhile (· == '/') = [] := by
  cases body with
  | nil => rfl
  | cons c cs => exact List.takeWhile_cons_of_neg (by simpa using ended)

/-- A slash in front adds no segment. -/
theorem filter_pieces_slash (cs : List Char) :
    (pieces ('/' :: cs)).filter isSegment = (pieces cs).filter isSegment := by
  rw [pieces, if_pos rfl, List.filter_cons_of_neg (by decide)]

/-- A text that spells a path reads as it. -/
theorem Spells.ofString_eq {text : String} {path : SourcePath}
    (spelled : Spells text.toList path) : ofString text = path := by
  rw [ofString]
  generalize text.toList = cs at spelled
  cases spelled with
  | relative ended names =>
      rw [rootOf, takeWhile_slash_of_head ended, names.filter_pieces]
      rfl
  | single ended names =>
      rw [rootOf, List.takeWhile_cons_of_pos (by rfl), takeWhile_slash_of_head ended,
        filter_pieces_slash, names.filter_pieces]
      rfl
  | double ended names =>
      rw [rootOf, List.takeWhile_cons_of_pos (by rfl), List.takeWhile_cons_of_pos (by rfl),
        takeWhile_slash_of_head ended, filter_pieces_slash, filter_pieces_slash,
        names.filter_pieces]
      rfl
  | more names =>
      rw [rootOf, List.takeWhile_cons_of_pos (by rfl), List.takeWhile_cons_of_pos (by rfl),
        List.takeWhile_cons_of_pos (by rfl), filter_pieces_slash, filter_pieces_slash,
        filter_pieces_slash, names.filter_pieces]
      rfl

/-- Every text spells a path: none, one, two or more slashes stand in front. -/
theorem exists_spells (cs : List Char) : ∃ path, Spells cs path := by
  by_cases one : cs.head? = some '/'
  · obtain ⟨behindOne, rfl⟩ := List.head?_eq_some_iff.1 one
    by_cases two : behindOne.head? = some '/'
    · obtain ⟨behindTwo, rfl⟩ := List.head?_eq_some_iff.1 two
      by_cases three : behindTwo.head? = some '/'
      · obtain ⟨behindThree, rfl⟩ := List.head?_eq_some_iff.1 three
        exact ⟨_, .more (spellsNames_pieces behindThree)⟩
      · exact ⟨_, .double three (spellsNames_pieces behindTwo)⟩
    · exact ⟨_, .single two (spellsNames_pieces behindOne)⟩
  · exact ⟨_, .relative one (spellsNames_pieces cs)⟩

/-- A text spells the path that it reads as, and no other. -/
theorem spells_iff {text : String} {path : SourcePath} :
    Spells text.toList path ↔ ofString text = path := by
  constructor
  · exact Spells.ofString_eq
  · rintro rfl
    obtain ⟨path, spelled⟩ := exists_spells text.toList
    rwa [spelled.ofString_eq]

end DepAtlas.SourcePath

namespace DepAtlas

/-- The normal form of a text reads as the text does. -/
theorem ofString_normalPath (text : String) :
    SourcePath.ofString (normalPath text) = SourcePath.ofString text := by
  rw [normalPath, SourcePath.ofString_text fun _ member => SourcePath.isName_of_mem_ofString member]

/-- Two texts have the same normal form exactly if they spell the same path. -/
theorem normalPath_eq_iff {text other : String} :
    normalPath text = normalPath other ↔
      ∃ path, SourcePath.Spells text.toList path ∧ SourcePath.Spells other.toList path := by
  constructor
  · intro same
    refine ⟨SourcePath.ofString text, SourcePath.spells_iff.2 rfl, SourcePath.spells_iff.2 ?_⟩
    rw [← ofString_normalPath other, ← same, ofString_normalPath]
  · rintro ⟨path, spelled, otherSpelled⟩
    rw [normalPath, normalPath, spelled.ofString_eq, otherSpelled.ofString_eq]

end DepAtlas
