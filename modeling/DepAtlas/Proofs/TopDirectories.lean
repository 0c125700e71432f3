import DepAtlas.Proofs.Layering

/-!
# Layers and top-level directories

A path stands at the top level, or below a top-level directory.  The layer of a path below a
directory is that directory; the files at the top level have a layer of their own, which they share
with the directory of that name.  The ordinary root makes no difference.  The double root is not
dropped but taken for a directory.

So the layers of paths without a double root say which of them have the same top-level directory,
and an edge is counted between layers when its ends have different ones.
-/

namespace DepAtlas

namespace SourcePath

/-- Two paths have the same top-level directory: both stand at the top level, with one segment at
most, or both have more segments and begin with the same one. -/
def SameTop (path other : SourcePath) : Prop :=
  path.segments.length ≤ 1 ∧ other.segments.length ≤ 1 ∨
    2 ≤ path.segments.length ∧ 2 ≤ other.segments.length ∧
      path.segments.head? = other.segments.head?

/-- A path at the top level, and one below the directory that the layer of the top level is named
after. -/
def SharesTopLevel (path other : SourcePath) : Prop :=
  path.segments.length ≤ 1 ∧ 2 ≤ other.segments.length ∧ other.segments.head? = some topLevel

/-- Two paths that are grouped together: the files at the top level count as those of the directory
that their layer is named after. -/
def Together (path other : SourcePath) : Prop :=
  path.SameTop other ∨ path.SharesTopLevel other ∨ other.SharesTopLevel path

/-- The top-level directory of a path that stands below one. -/
def topDirectory? (path : SourcePath) : Option String :=
  match path.segments with
  | directory :: _ :: _ => some directory
  | _ => none

variable {path other : SourcePath}

theorem sameTop_iff : path.SameTop other ↔ path.topDirectory? = other.topDirectory? := by
  rw [SameTop, topDirectory?, topDirectory?]
  rcases path.segments with _ | ⟨first, _ | ⟨second, rest⟩⟩ <;>
    rcases other.segments with _ | ⟨firstOther, _ | ⟨secondOther, restOther⟩⟩ <;>
    simp

theorem sharesTopLevel_iff : path.SharesTopLevel other ↔
    path.topDirectory? = none ∧ other.topDirectory? = some topLevel := by
  rw [SharesTopLevel, topDirectory?, topDirectory?]
  rcases path.segments with _ | ⟨first, _ | ⟨second, rest⟩⟩ <;>
    rcases other.segments with _ | ⟨firstOther, _ | ⟨secondOther, restOther⟩⟩ <;>
    simp

/-! ## The layer of a path -/

/-- Only the double root has a say in the layer of a path. -/
theorem layer_of_ordinary (ordinary : path.root ≠ .double) :
    path.layer = path.topDirectory?.getD topLevel := by
  rw [layer, topDirectory?]
  cases root : path.root with
  | double => exact absurd root ordinary
  | relative | single => rcases path.segments with _ | ⟨first, _ | ⟨second, rest⟩⟩ <;> rfl

theorem together_iff : path.Together other ↔
    path.topDirectory?.getD topLevel = other.topDirectory?.getD topLevel := by
  rw [Together, sameTop_iff, sharesTopLevel_iff, sharesTopLevel_iff]
  cases path.topDirectory? <;> cases other.topDirectory? <;> simp [eq_comm]

theorem layer_eq_iff (ordinary : path.root ≠ .double) (ordinaryOther : other.root ≠ .double) :
    path.layer = other.layer ↔ path.Together other := by
  rw [layer_of_ordinary ordinary, layer_of_ordinary ordinaryOther, together_iff]

/-! ## Absolute spellings -/

/-- A text with slashes in front. -/
def rooted (slashes : Nat) (text : String) : String :=
  String.ofList (List.replicate slashes '/') ++ text

theorem toList_rooted (slashes : Nat) (text : String) :
    (rooted slashes text).toList = List.replicate slashes '/' ++ text.toList := by
  rw [rooted, String.toList_append, String.toList_ofList]

/-- Slashes in front of a path make no segments. -/
theorem segments_rooted (slashes : Nat) (text : String) :
    (ofString (rooted slashes text)).segments = (ofString text).segments := by
  have kept : (pieces (rooted slashes text).toList).filter isSegment =
      (pieces text.toList).filter isSegment := by
    rw [toList_rooted]
    induction slashes with
    | zero => rfl
    | succ slashes ih =>
        rw [List.replicate_succ, List.cons_append, pieces, if_pos rfl,
          List.filter_cons_of_neg (by decide), ih]
  rw [ofString, kept]
  rfl

/-- Slashes in front of a relative path are its root. -/
theorem takeWhile_rooted {text : String} (relative : (ofString text).root = .relative)
    (slashes : Nat) :
    ((rooted slashes text).toList.takeWhile (· == '/')).length = slashes := by
  have plain : (text.toList.takeWhile (· == '/')).length = 0 := by
    have root : rootOf text.toList = .relative := relative
    rw [rootOf] at root
    split at root
    next none => exact none
    next => cases root
    next => cases root
  rw [toList_rooted, List.takeWhile_append_of_pos (by simp), List.length_append, plain,
    List.length_replicate, Nat.add_zero]

theorem root_rooted {text : String} (relative : (ofString text).root = .relative) {slashes : Nat}
    (notTwo : slashes ≠ 2) : (ofString (rooted slashes text)).root ≠ .double := by
  have length := takeWhile_rooted relative slashes
  change rootOf (rooted slashes text).toList ≠ .double
  rw [rootOf, length]
  split
  next => simp
  next => contradiction
  next => simp

end SourcePath

/-- An absolute spelling of a path has the layer of its relative spelling, unless its root is
double. -/
theorem fileLayer_rooted {text : String} (relative : (SourcePath.ofString text).root = .relative)
    {slashes : Nat} (notTwo : slashes ≠ 2) :
    fileLayer (SourcePath.rooted slashes text) = fileLayer text := by
  have plain : (SourcePath.ofString text).root ≠ .double := by simp [relative]
  rw [fileLayer, fileLayer, SourcePath.layer_of_ordinary (SourcePath.root_rooted relative notTwo),
    SourcePath.layer_of_ordinary plain, SourcePath.topDirectory?, SourcePath.segments_rooted]
  rfl

/-! ## Edges between layers -/

namespace Graph

variable {graph : Graph}

theorem crosses_iff {edge : Reference} {source target : Component}
    (found : graph.store.get? edge.source = some source)
    (foundTarget : graph.store.get? edge.target = some target) :
    graph.crosses edge = true ↔ fileLayer source.file ≠ fileLayer target.file := by
  rw [crosses, layerOf_of_get? found, layerOf_of_get? foundTarget, bne_iff_ne]

/-- An edge between files without a double root crosses layers when the files are not grouped
together. -/
theorem WellFormed.crosses_iff_not_together (wf : graph.WellFormed) {edge : Reference}
    (member : edge ∈ graph.edges) :
    ∃ source target, graph.store.get? edge.source = some source ∧
      graph.store.get? edge.target = some target ∧
      ((SourcePath.ofString source.file).root ≠ .double →
        (SourcePath.ofString target.file).root ≠ .double →
        (graph.crosses edge = true ↔
          ¬(SourcePath.ofString source.file).Together (SourcePath.ofString target.file))) := by
  have depends := wf.edges edge member
  obtain ⟨source, found⟩ := Store.exists_get? depends.source_mem
  obtain ⟨target, foundTarget⟩ := Store.exists_get? (wf.store.target_mem depends)
  refine ⟨source, target, found, foundTarget, ?_⟩
  intro ordinary ordinaryTarget
  rw [crosses_iff found foundTarget, ← SourcePath.layer_eq_iff ordinary ordinaryTarget]
  rfl

end Graph

/-- Layers follow the top-level directories of paths without a double root, but that the files at
the top level share a layer with those below the directory that it is named after.  Absolute
spellings make no difference.  The edges that a layer's description counts are those that leave it
for a layer of other directories. -/
theorem layers_follow_directories :
    (∀ file other : String, (SourcePath.ofString file).root ≠ .double →
      (SourcePath.ofString other).root ≠ .double →
      (fileLayer file = fileLayer other ↔
        (SourcePath.ofString file).Together (SourcePath.ofString other))) ∧
      (∀ text : String, (SourcePath.ofString text).root = .relative → ∀ slashes ≠ 2,
        fileLayer (SourcePath.rooted slashes text) = fileLayer text) ∧
      ∀ (origin : Origin) (analysis : Analysis), origin.trace.outcome = .ok analysis →
        (∀ layer ∈ analysis.overview.layers, ∃ components files,
          layer.description = Layer.summary components files
            (analysis.graph.edges.countP fun edge =>
              Graph.layerOf analysis.graph.store edge.source = layer.name &&
                analysis.graph.crosses edge)) ∧
          ∀ edge ∈ analysis.graph.edges, ∃ source target,
            analysis.component? edge.source = some source ∧
            analysis.component? edge.target = some target ∧
            ((SourcePath.ofString source.file).root ≠ .double →
              (SourcePath.ofString target.file).root ≠ .double →
              (analysis.graph.crosses edge = true ↔
                ¬(SourcePath.ofString source.file).Together
                  (SourcePath.ofString target.file))) := by
  refine ⟨?_, ?_, ?_⟩
  · intro file other ordinary ordinaryOther
    exact SourcePath.layer_eq_iff ordinary ordinaryOther
  · intro text relative slashes notTwo
    exact fileLayer_rooted relative notTwo
  · intro origin analysis returned
    constructor
    · intro layer member
      exact ⟨_, _, (Origin.isLayering returned).description layer member⟩
    · intro edge member
      exact (Origin.sound returned).wellFormed.crosses_iff_not_together member

/-- An absolute and a relative path below one directory, a file at the top level and one below the
directory that its layer is named after. -/
theorem layers_follow_directories_mixed :
    ∃ analysis layer, (Origin.analyzed {}
        [{ id := "a", name := "a", file := "/s//f", startLine := 1, endLine := 1 },
          { id := "b", name := "b", file := "s/g", startLine := 1, endLine := 1 },
          { id := "m", name := "m", file := "m", startLine := 1, endLine := 1 },
          { id := "r", name := "r", file := "root/x", startLine := 1, endLine := 1 }]
        [⟨"a", "b", .call⟩, ⟨"a", "m", .call⟩, ⟨"m", "r", .call⟩]).trace.outcome = .ok analysis ∧
      fileLayer "/s/f" = fileLayer "s/g" ∧
      fileLayer (SourcePath.rooted 3 "s/g") = fileLayer "s/g" ∧
      layer ∈ analysis.overview.layers ∧ layer.name = "s" ∧
      layer.description = Layer.summary 2 2 1 ∧
      (analysis.graph.edges.countP fun edge =>
        Graph.layerOf analysis.graph.store edge.source = layer.name &&
          analysis.graph.crosses edge) = 1 ∧
      analysis.graph.crosses ⟨"a", "m", .call⟩ = true := by
  have evaluated : (Origin.analyzed {}
      [{ id := "a", name := "a", file := "/s//f", startLine := 1, endLine := 1 },
        { id := "b", name := "b", file := "s/g", startLine := 1, endLine := 1 },
        { id := "m", name := "m", file := "m", startLine := 1, endLine := 1 },
        { id := "r", name := "r", file := "root/x", startLine := 1, endLine := 1 }]
      [⟨"a", "b", .call⟩, ⟨"a", "m", .call⟩, ⟨"m", "r", .call⟩]).trace.outcome.toOption.map
        (fun analysis => (analysis.graph.edges, (analysis.component? "a").map (·.file),
          (analysis.component? "m").map (·.file),
          analysis.overview.layers.map fun layer => (layer.name, layer.description))) =
      some ([⟨"a", "b", .call⟩, ⟨"a", "m", .call⟩, ⟨"m", "r", .call⟩], some "/s/f", some "m",
        [("root", Layer.summary 2 2 0), ("s", Layer.summary 2 2 1)]) := by
    cbv
  obtain ⟨analysis, known, values⟩ := Option.map_eq_some_iff.1 evaluated
  simp only [Prod.mk.injEq] at values
  obtain ⟨edges, fileA, fileM, layers⟩ := values
  have returned := Traced.outcome_of_toOption known
  obtain ⟨together, spelled, counts⟩ := layers_follow_directories
  obtain ⟨counted, crossing⟩ := counts (.analyzed _ _ _) analysis returned
  have listed : ("s", Layer.summary 2 2 1) ∈
      analysis.overview.layers.map fun layer => (layer.name, layer.description) := by
    rw [layers]
    simp
  obtain ⟨layer, member, entry⟩ := List.mem_map.1 listed
  obtain ⟨name, description⟩ := Prod.mk.inj entry
  have rootA : (SourcePath.ofString "/s/f").root = .single := by cbv
  have rootB : (SourcePath.ofString "s/g").root = .relative := by cbv
  have rootM : (SourcePath.ofString "m").root = .relative := by cbv
  obtain ⟨components, files, described⟩ := counted layer member
  have leaving := (Layer.summary_inj.1 (described.symm.trans description)).2.2
  refine ⟨analysis, layer, returned, ?_, spelled "s/g" rootB 3 (by decide), member, name,
    description, leaving, ?_⟩
  · apply (together "/s/f" "s/g" (by simp [rootA]) (by simp [rootB])).2
    rw [SourcePath.together_iff]
    cbv
  · obtain ⟨source, target, found, foundTarget, crosses⟩ :=
      crossing ⟨"a", "m", .call⟩ (by simp [edges])
    rw [found] at fileA
    rw [foundTarget] at fileM
    have fileSource : source.file = "/s/f" := Option.some.inj fileA
    have fileTarget : target.file = "m" := Option.some.inj fileM
    rw [fileSource, fileTarget] at crosses
    rw [crosses (by simp [rootA]) (by simp [rootM]), SourcePath.together_iff]
    cbv

/-- Two files with different top-level directories, one of them at the top level, in one layer; and
two spellings of a path, one with a double root, in two. -/
theorem layers_conflate_directories :
    ¬(fileLayer "main.py" = fileLayer "root/main.py" ↔
        (SourcePath.ofString "main.py").SameTop (SourcePath.ofString "root/main.py")) ∧
      ¬(fileLayer "//src/a.py" = fileLayer "src/a.py" ↔
        (SourcePath.ofString "//src/a.py").SameTop (SourcePath.ofString "src/a.py")) := by
  have shared : fileLayer "main.py" = fileLayer "root/main.py" := by cbv
  have apart : fileLayer "//src/a.py" ≠ fileLayer "src/a.py" := by cbv
  have top : (SourcePath.ofString "main.py").topDirectory? = none := by cbv
  have below : (SourcePath.ofString "root/main.py").topDirectory? = some "root" := by cbv
  have double : (SourcePath.ofString "//src/a.py").topDirectory? = some "src" := by cbv
  have relative : (SourcePath.ofString "src/a.py").topDirectory? = some "src" := by cbv
  rw [SourcePath.sameTop_iff, SourcePath.sameTop_iff, top, below, double, relative]
  simp [shared, apart]

end DepAtlas
