import DepAtlas.Proofs.Service.Calls
import Mathlib.Data.List.TakeWhile

/-!
# Addresses that are written plainly

An address may be written in many ways.  One that is written plainly holds the names of its path as
they are, each behind a slash: letters, digits and a few marks, none of which has a meaning in an
address.  A request to such an address leads to these names, and its parameters are those that come
beside the address.
-/

namespace DepAtlas

namespace Text

/-- A character that an address always holds as itself. -/
def IsUnreserved (c : Char) : Prop :=
  'a' ≤ c ∧ c ≤ 'z' ∨ 'A' ≤ c ∧ c ≤ 'Z' ∨ '0' ≤ c ∧ c ≤ '9' ∨ c ∈ ['-', '_', '.', '~']

instance : DecidablePred IsUnreserved :=
  fun c => inferInstanceAs (Decidable
    ('a' ≤ c ∧ c ≤ 'z' ∨ 'A' ≤ c ∧ c ≤ 'Z' ∨ '0' ≤ c ∧ c ≤ '9' ∨ c ∈ ['-', '_', '.', '~']))

theorem IsUnreserved.toNat_lt {c : Char} (unreserved : IsUnreserved c) : c.toNat < 0x80 := by
  have bounded : ∀ {greatest : Char}, c ≤ greatest → greatest.toNat < 0x80 → c.toNat < 0x80 :=
    fun below short => Nat.lt_of_le_of_lt (UInt32.le_iff_toNat_le.1 (Char.le_def.1 below)) short
  rcases unreserved with ⟨_, below⟩ | ⟨_, below⟩ | ⟨_, below⟩ | mark
  · exact bounded below (by decide)
  · exact bounded below (by decide)
  · exact bounded below (by decide)
  · simp only [List.mem_cons, List.not_mem_nil, or_false] at mark
    rcases mark with rfl | rfl | rfl | rfl <;> decide

/-- Characters of ASCII are spelled as themselves. -/
theorem spelled_ofList_of_lt {cs : List Char} (short : ∀ c ∈ cs, c.toNat < 0x80) :
    spelled (String.ofList cs) = String.ofList cs := by
  rw [spelled, spellOut, String.toList_ofList]
  congr 1
  induction cs with
  | nil => rfl
  | cons c cs ih =>
      obtain ⟨first, rest⟩ := List.forall_mem_cons.1 short
      have unmarked : isMarked c.toNat = false := by
        simp only [isMarked, Bool.and_eq_false_iff, decide_eq_false_iff_not]
        omega
      rw [List.map_cons, List.flatMap_cons, ih rest, spelling, unmarked, if_neg (by simp),
        Char.ofNat_toNat, List.singleton_append]

end Text

namespace Service

/-- A name that an address holds as it is: characters without a meaning, and not the dots that are
followed. -/
structure IsPlain (name : String) : Prop where
  some : name ≠ ""
  unreserved : ∀ c ∈ name.toList, Text.IsUnreserved c
  undotted : name ≠ "." ∧ name ≠ ".."

theorem isPlain_iff {name : String} : IsPlain name ↔
    name ≠ "" ∧ (name.toList.all fun c => decide (Text.IsUnreserved c)) = true ∧
      name ≠ "." ∧ name ≠ ".." := by
  simp only [List.all_eq_true, decide_eq_true_eq]
  constructor
  · rintro ⟨nonempty, unreserved, undotted⟩
    exact ⟨nonempty, unreserved, undotted⟩
  · rintro ⟨nonempty, unreserved, undotted⟩
    exact ⟨nonempty, unreserved, undotted⟩

instance : DecidablePred IsPlain :=
  fun _ => decidable_of_iff _ isPlain_iff.symm

namespace Address

variable {names : List String}

theorem foldl_follow_of_plain (plain : ∀ name ∈ names, IsPlain name) (way : List (List Char)) :
    (names.map String.toList).foldl follow way = way ++ names.map String.toList := by
  induction names generalizing way with
  | nil => simp
  | cons name names ih =>
      have ⟨first, rest⟩ := List.forall_mem_cons.1 plain
      have one : name.toList ≠ ['.'] := fun same =>
        first.undotted.1 (String.toList_inj.1 (same.trans (by decide)))
      have two : name.toList ≠ ['.', '.'] := fun same =>
        first.undotted.2 (String.toList_inj.1 (same.trans (by decide)))
      have step : follow way name.toList = way ++ [name.toList] := by
        simp [follow, one, two]
      rw [List.map_cons, List.foldl_cons, step, ih rest, List.append_assoc, List.singleton_append]

/-- The path to some names, each behind a slash. -/
def pathTo (names : List String) : List Char :=
  names.flatMap fun name => '/' :: name.toList

theorem pathTo_cons (name : String) (names : List String) :
    pathTo (name :: names) = '/' :: (name.toList ++ pathTo names) :=
  rfl

theorem pathTo_eq_intercalate (names : List String) :
    pathTo names = ['/'].intercalate ([] :: names.map String.toList) := by
  induction names with
  | nil => rfl
  | cons name names ih =>
      have front : ∀ piece : List Char, ['/'].intercalate (piece :: names.map String.toList) =
          piece ++ ['/'].intercalate ([] :: names.map String.toList) := by
        cases names <;> simp [List.intercalate_cons_cons]
      rw [pathTo_cons, ih, ← front, List.map_cons, List.intercalate_cons_cons]
      rfl

theorem of_mem_pathTo (plain : ∀ name ∈ names, IsPlain name) {c : Char}
    (member : c ∈ pathTo names) : c = '/' ∨ Text.IsUnreserved c := by
  obtain ⟨name, named, inside⟩ := List.mem_flatMap.1 member
  rcases List.mem_cons.1 inside with slash | inName
  · exact .inl slash
  · exact .inr ((plain name named).unreserved c inName)

theorem ne_of_mem_pathTo (plain : ∀ name ∈ names, IsPlain name) {c other : Char}
    (member : c ∈ pathTo names) (slash : other ≠ '/') (reserved : ¬Text.IsUnreserved other) :
    c ≠ other := by
  rintro rfl
  rcases of_mem_pathTo plain member with same | unreserved
  · exact slash same
  · exact reserved unreserved

theorem pieces_pathTo (plain : ∀ name ∈ names, IsPlain name) :
    SourcePath.pieces (pathTo names) = [] :: names.map String.toList := by
  rw [pathTo_eq_intercalate]
  refine SourcePath.pieces_intercalate ?_
  intro piece member
  rcases List.mem_cons.1 member with rfl | later
  · simp
  · obtain ⟨name, named, rfl⟩ := List.mem_map.1 later
    exact fun slash => absurd ((plain name named).unreserved _ slash) (by decide)

theorem withoutDots_pathTo (plain : ∀ name ∈ names, IsPlain name) :
    withoutDots (pathTo names) = pathTo names := by
  rw [withoutDots, pieces_pathTo plain, List.foldl_cons, pathTo_eq_intercalate]
  exact congrArg _ (foldl_follow_of_plain plain [[]])

theorem exists_pathTo (plain : ∀ name ∈ names, IsPlain name) (some : names ≠ []) :
    ∃ c rest, pathTo names = '/' :: c :: rest ∧ c ≠ '/' := by
  cases names with
  | nil => exact absurd rfl some
  | cons name names =>
      have ⟨first, _⟩ := List.forall_mem_cons.1 plain
      cases whole : name.toList with
      | nil => exact absurd (String.toList_eq_nil_iff.1 whole) first.some
      | cons c rest =>
          refine ⟨c, rest ++ pathTo names, by rw [pathTo_cons, whole]; rfl, ?_⟩
          rintro rfl
          exact absurd (first.unreserved '/' (by simp [whole])) (by decide)

theorem pathOf_pathTo (plain : ∀ name ∈ names, IsPlain name) (some : names ≠ []) :
    pathOf (pathTo names) = pathTo names := by
  obtain ⟨c, rest, path, other⟩ := exists_pathTo plain some
  have scheme : splitScheme (pathTo names) = ([], pathTo names) := by
    rw [path]
    rfl
  have authority : splitAuthority (pathTo names) = ([], pathTo names) := by
    rw [path, splitAuthority]
    simpa using other
  have root : '/' :: (pathTo names).dropWhile (· == '/') = pathTo names := by
    rw [path]
    simp [other]
  rw [pathOf, scheme]
  simp only [authority]
  simp [isEmptyAuthority, fromRoot, root, withoutDots_pathTo plain]

theorem read_pathTo (plain : ∀ name ∈ names, IsPlain name) (some : names ≠ []) :
    read (pathTo names) = ⟨pathTo names, []⟩ := by
  have sent : ∀ c ∈ pathTo names, (c != '#') = true := fun c member => by
    simpa using ne_of_mem_pathTo plain member (by decide) (by decide)
  have front : ∀ c ∈ pathTo names, (c != '?') = true := fun c member => by
    simpa using ne_of_mem_pathTo plain member (by decide) (by decide)
  have split : parts (pathTo names) = (pathTo names, []) := by
    rw [parts, List.takeWhile_eq_self_iff.2 sent, List.takeWhile_eq_self_iff.2 front,
      List.dropWhile_eq_nil_iff.2 front]
    rfl
  have decoded : Text.percentDecode (pathTo names) = pathTo names := by
    refine Text.percentDecode_of_not_mem fun member => ?_
    exact ne_of_mem_pathTo plain member (by decide) (by decide) rfl
  rw [read, split]
  simp only [pathOf_pathTo plain some, decoded]

theorem segments_pathTo (plain : ∀ name ∈ names, IsPlain name) (query : List Char) :
    segments ⟨pathTo names, query⟩ = names := by
  have each : ∀ name ∈ names, Text.spelled (String.ofList name.toList) = name := by
    intro name named
    rw [Text.spelled_ofList_of_lt fun c inside => ((plain name named).unreserved c inside).toNat_lt,
      String.ofList_toList]
  rw [segments, segmentsOf, pieces_pathTo plain, List.drop_succ_cons, List.drop_zero, List.map_map]
  exact (List.map_congr_left each).trans (List.map_id _)

theorem redirected?_pathTo (plain : ∀ name ∈ names, IsPlain name) (query : List Char) :
    Endpoint.redirected? ⟨pathTo names, query⟩ = none := by
  have last : (pathTo names).getLast? ≠ some '/' := by
    rcases List.eq_nil_or_concat names with rfl | ⟨front, name, rfl⟩
    · simp [pathTo]
    · have named := plain name (by simp)
      have behind : pathTo (front.concat name) = (pathTo front ++ ['/']) ++ name.toList := by
        simp [pathTo]
      cases end? : name.toList.getLast? with
      | none =>
          have empty := String.toList_eq_nil_iff.1 (List.getLast?_eq_none_iff.1 end?)
          exact absurd empty named.some
      | some c =>
          rw [behind, List.getLast?_append, end?, Option.some_or, ne_eq, Option.some.injEq]
          rintro rfl
          exact absurd (named.unreserved '/' (List.mem_of_getLast? end?)) (by decide)
  simp [Endpoint.redirected?, last]

end Address

/-! ## Parameters beside an address -/

namespace Address

theorem ne_of_mem_percentEncode {c other : Char} {cs : List Char}
    (member : c ∈ Text.percentEncode cs) (sign : other ≠ '%')
    (digit : ∀ digit < 16, other ≠ Nat.digitChar digit) : c ≠ other := by
  rintro rfl
  rcases Text.mem_percentEncode member with same | ⟨value, small, same⟩
  · exact sign same
  · exact digit value small same

theorem parameterText_percentEncode (text : String) :
    parameterText (Text.percentEncode text.toList) = Text.spelled text := by
  have plain : ∀ c ∈ Text.percentEncode text.toList, (if c == '+' then ' ' else c) = c := by
    intro c member
    have other : c ≠ '+' := ne_of_mem_percentEncode member (by decide) (by decide)
    simp [other]
  rw [parameterText, List.map_congr_left plain, List.map_id', Text.percentDecode_percentEncode,
    String.ofList_toList]

/-- A parameter as a query holds it. -/
def written (parameter : String × String) : List Char :=
  Text.percentEncode parameter.1.toList ++ '=' :: Text.percentEncode parameter.2.toList

theorem parameter_written (given : String × String) :
    parameter (written given) = (Text.spelled given.1, Text.spelled given.2) := by
  have front : ∀ c ∈ Text.percentEncode given.1.toList, (c != '=') = true := fun c member => by
    simpa using ne_of_mem_percentEncode member (by decide) (by decide)
  rw [parameter, written, List.takeWhile_append_of_pos front, List.dropWhile_append_of_pos front]
  simp [parameterText_percentEncode]

theorem parameters_queryOf (path : List Char) (given : List (String × String)) :
    parameters ⟨path, queryOf given⟩ =
      given.map fun (name, value) => (Text.spelled name, Text.spelled value) := by
  have whole : queryOf given = ['&'].intercalate (given.map written) := rfl
  have unsplit : ∀ piece ∈ given.map written, '&' ∉ piece := by
    intro piece member inside
    obtain ⟨one, _, rfl⟩ := List.mem_map.1 member
    rcases List.mem_append.1 inside with name | value
    · exact ne_of_mem_percentEncode name (by decide) (by decide) rfl
    · rcases List.mem_cons.1 value with same | value
      · exact absurd same (by decide)
      · exact ne_of_mem_percentEncode value (by decide) (by decide) rfl
  have some : ∀ piece ∈ given.map written, (piece != []) = true := by
    intro piece member
    obtain ⟨one, _, rfl⟩ := List.mem_map.1 member
    simp [written]
  rw [parameters, whole]
  cases given with
  | nil => rfl
  | cons first given =>
      rw [List.splitOn_intercalate '&' unsplit (by simp), List.filter_eq_self.2 some, List.map_map]
      exact List.map_congr_left fun one _ => parameter_written one

end Address

namespace Request

variable {request : Request} {names : List String} (some : names ≠ [])
  (plain : ∀ name ∈ names, IsPlain name)
  (addressed : request.address.toList = Address.pathTo names)

include some plain addressed

theorem destination_of_plain :
    request.destination = ⟨Address.pathTo names, Address.queryOf (request.query.getD [])⟩ := by
  have target : request.target =
      ⟨Address.pathTo names, Address.queryOf (request.query.getD [])⟩ := by
    rw [target, addressed, Address.read_pathTo plain some]
    cases request.query <;> rfl
  have led : ∀ query redirections, Endpoint.destination ⟨Address.pathTo names, query⟩ redirections =
      ⟨Address.pathTo names, query⟩ := by
    intro query redirections
    cases redirections with
    | zero => rfl
    | succ redirections =>
        rw [Endpoint.destination, Address.redirected?_pathTo plain]
        simp
  rw [destination, target, led]

/-- A request that is addressed plainly to some names leads to them. -/
theorem leadsTo_of_plain : request.LeadsTo names := by
  rw [leadsTo_iff, destination_of_plain some plain addressed, Address.segments_pathTo plain]

/-- The parameters of a request that is addressed plainly are those that come beside the address. -/
theorem parameters_of_plain : request.destination.parameters =
    (request.query.getD []).map fun (name, value) => (Text.spelled name, Text.spelled value) := by
  rw [destination_of_plain some plain addressed, Address.parameters_queryOf]

end Request

end Service

end DepAtlas
