import DepAtlas.CommandLine
import DepAtlas.Proofs.DrawnMaps
import DepAtlas.Proofs.RoundTrip

/-!
# How commands end

A command that saves nothing ends with something printed or with a failure reported, as long as what
it works on can be read and written as text.  An analysis of a text fails for two reasons only,
mistakes in the document and an id that two files claim, and both are reported.  What comes out of
it always has a document and a map, and the map is printed unless it shows an uneven word or would
have to write a number of too many digits.

Nothing else is provided for: neither bytes that are no text nor texts that have no bytes.
-/

namespace DepAtlas.CommandLine

/-! ## Analyses of files -/

/-- The ways in which the analysis of a file can end. -/
inductive InputFile.AnalyzeCase (file : InputFile) : Except Ending Analysis → Prop where
  | notText (noText : ¬file.content.IsValidUTF8) : AnalyzeCase file (.error (.broken .notUtf8))
  | failed (text : file.content.IsValidUTF8) (failure : Failure) :
      AnalyzeCase file (.error (.failed failure))
  | returned (text : file.content.IsValidUTF8) {analysis : Analysis} {document : Document}
      (ids : analysis.IdsStored) (written : analysis.document = .ok document) :
      AnalyzeCase file (.ok analysis)

theorem InputFile.analyzeCase (file : InputFile) (settings : Settings) :
    file.AnalyzeCase (file.analyze settings).result := by
  rw [analyze]
  cases read : InputDocument.ofBytes file.content with
  | error fault =>
      rw [InputDocument.ofBytes, String.fromUTF8?] at read
      by_cases text : file.content.IsValidUTF8
      · rw [dif_pos text] at read
        cases fault with
        | notUtf8 =>
            simp only at read
            split at read <;> cases read
        | invalid issues => exact .failed text _
      · rw [dif_neg text] at read
        cases read
        exact .notText text
  | ok document =>
      have text : file.content.IsValidUTF8 := by
        by_contra noText
        rw [InputDocument.ofBytes, String.fromUTF8?, dif_neg noText] at read
        cases read
      simp only
      cases ended : (DepAtlas.analyze settings document.records document.references).outcome with
      | error fault =>
          obtain ⟨id, first, second, rfl⟩ := Store.duplicate_of_load (load_of_analyze_error ended)
          exact .failed text _
      | ok analysis =>
          have measured : ∀ record ∈ document.records, record.complexity.isSome = true := by
            intro record member
            obtain ⟨entry, _, rfl⟩ := List.mem_map.1 member
            rfl
          obtain ⟨_, _, _, _, _, rejected⟩ :=
            (Analysis.Returned.analyzed _ _ _ measured ended).loaded
          obtain ⟨written, describes⟩ := Analysis.described rejected
          exact .returned text (@Origin.idsStored (.analyzed _ _ _) analysis ended) describes.written

/-! ## Endings -/

/-- Something is printed, or a failure is reported. -/
def Ending.IsReported : Ending → Prop
  | .printed _ | .failed _ => True
  | _ => False

/-- A command is reported on under a condition, and otherwise breaks down over a text. -/
structure Ending.ReportsIf (condition : Prop) (ending : Ending) : Prop where
  reports : condition → ending.IsReported
  breaks : ¬condition → ending ∈
    [.broken .notUtf8, .broken .uneven, .broken (.fault .oversizedNumber)]

/-- An analysis can be printed with these options. -/
structure AnalyzeOptions.Fit (options : AnalyzeOptions) (path : String) (analysis : Analysis) :
    Prop where
  path : Text.isUneven path = false
  focus : ∀ focus, options.focus = some focus → Text.isUneven focus = false
  previews : analysis.PreviewsFit
    { showOrder := options.showOrder, showDependencies := options.showDependencies }
    options.settings

theorem Ending.reportsIf_of_reported {condition : Prop} {ending : Ending} (holds : condition)
    (reported : ending.IsReported) : ending.ReportsIf condition :=
  ⟨fun _ => reported, fun failed => absurd holds failed⟩

theorem Ending.ReportsIf.congr {condition other : Prop} {ending : Ending}
    (reports : ending.ReportsIf condition) (same : condition ↔ other) : ending.ReportsIf other :=
  ⟨fun holds => reports.reports (same.2 holds), fun failed => reports.breaks (mt same.1 failed)⟩

/-- What is concluded from an analysis is reported if the file is a text and the conclusion is. -/
theorem InputFile.reportsIf_conclude {file : InputFile} {settings : Settings}
    {conclusion : Analysis → Ending} {condition : Analysis → Prop}
    (each : ∀ analysis document, analysis.IdsStored → analysis.document = .ok document →
      (conclusion analysis).ReportsIf (condition analysis)) :
    ((file.analyze settings).conclude conclusion).2.ReportsIf (file.content.IsValidUTF8 ∧
      ∀ analysis, (file.analyze settings).result = .ok analysis → condition analysis) := by
  have ended := file.analyzeCase settings
  rw [Attempt.conclude]
  generalize (file.analyze settings).result = result at ended
  cases ended with
  | notText noText => exact ⟨fun provided => absurd provided.1 noText, fun _ => by simp⟩
  | failed text failure =>
      refine Ending.reportsIf_of_reported ⟨text, ?_⟩ trivial
      intro analysis never
      cases never
  | @returned text analysis document ids written =>
      refine (each analysis document ids written).congr ?_
      constructor
      · intro holds
        refine ⟨text, ?_⟩
        rintro _ ⟨⟩
        exact holds
      · intro provided
        exact provided.2 analysis rfl

theorem exists_unspelled? {text : String} (even : Text.isUneven text = false) :
    ∃ unspelled, Text.unspelled? text = some unspelled := by
  rw [Text.unspelled?, even]
  exact ⟨_, rfl⟩

theorem unspelled?_eq_none {text : String} (uneven : Text.isUneven text = true) :
    Text.unspelled? text = none := by
  rw [Text.unspelled?, if_pos uneven]

namespace AnalyzeOptions

variable {options : AnalyzeOptions} {path : String} {analysis : Analysis}

theorem exists_unspelled_focus
    (even : ∀ focus, options.focus = some focus → Text.isUneven focus = false) :
    ∃ focus, options.focus.mapM Text.unspelled? = some focus := by
  cases given : options.focus with
  | none => exact ⟨none, rfl⟩
  | some focus =>
      obtain ⟨unspelled, same⟩ := exists_unspelled? (even focus given)
      refine ⟨some unspelled, ?_⟩
      rw [Option.mapM_some, same]
      rfl

/-- An uneven word keeps a map from being a text. -/
theorem mapOf?_of_uneven (uneven : ¬(Text.isUneven path = false ∧
    ∀ focus, options.focus = some focus → Text.isUneven focus = false)) :
    options.mapOf? path analysis = .ok none := by
  rw [mapOf?]
  split
  next repository focus pathRead focusRead =>
    -- Both words could be read, so neither is uneven.
    refine absurd ⟨?_, ?_⟩ uneven
    · by_contra pathUneven
      rw [unspelled?_eq_none (by simpa using pathUneven)] at pathRead
      cases pathRead
    · intro text given
      by_contra textUneven
      rw [given, Option.mapM_some, unspelled?_eq_none (by simpa using textUneven)] at focusRead
      cases focusRead
  next => rfl

/-- A map is printed if it can be. -/
theorem reportsIf_fit (silent : options.output = none) (map : options.json = false)
    (ids : analysis.IdsStored) :
    (options.report path analysis).ReportsIf (options.Fit path analysis) := by
  rw [report, textOf?, map, silent, if_neg (by decide)]
  by_cases even : Text.isUneven path = false ∧
      ∀ focus, options.focus = some focus → Text.isUneven focus = false
  · obtain ⟨repository, pathRead⟩ := exists_unspelled? even.1
    obtain ⟨focus, focusRead⟩ := exists_unspelled_focus even.2
    have writes := ids.writes_map
      { repository := some repository
        focus
        showOrder := options.showOrder
        showDependencies := options.showDependencies } options.settings
    rw [mapOf?, pathRead, focusRead]
    constructor
    · intro fit
      obtain ⟨text, drawn⟩ := writes.gives ⟨fit.previews.order, fit.previews.edges⟩
      simp only [drawn]
      trivial
    · intro unfit
      have stopped := writes.stops fun previews =>
        unfit ⟨even.1, even.2, previews.order, previews.edges⟩
      simp only [stopped]
      decide
  · rw [mapOf?_of_uneven even]
    exact ⟨fun fit => absurd ⟨fit.path, fit.focus⟩ even, fun _ => by decide⟩

theorem reportsIf (silent : options.output = none) {document : Document}
    (ids : analysis.IdsStored) (written : analysis.document = .ok document) :
    (options.report path analysis).ReportsIf
      (options.json = true ∨ options.Fit path analysis) := by
  cases wanted : options.json with
  | true =>
      have printed : options.report path analysis = .printed (document.toText (some 2)) := by
        rw [report, textOf?, if_pos wanted, written, silent]
      rw [printed]
      exact Ending.reportsIf_of_reported (.inl rfl) trivial
  | false => simpa using reportsIf_fit silent wanted ids

end AnalyzeOptions

/-! ## Commands -/

/-- A command that saves nothing. -/
def Command.IsSilent : Command → Prop
  | .analyze _ options => options.output = none
  | .deps .. | .dependents .. | .diff .. => True

/-- What it takes for a command not to break down: the files that it reads are texts, and a map that
comes out of it can be printed. -/
def Command.IsProvidedFor : Command → Prop
  | .analyze input options => input.content.IsValidUTF8 ∧
      ∀ analysis, (input.analyze options.settings).result = .ok analysis →
        options.json = true ∨ options.Fit input.path analysis
  | .deps input _ | .dependents input _ => input.content.IsValidUTF8
  | .diff old new => old.content.IsValidUTF8 ∧
      ∀ analysis, (old.analyze {}).result = .ok analysis → new.content.IsValidUTF8

theorem isReported_printIds (component : ComponentId) (ids? : Option (List ComponentId)) :
    (printIds component ids?).IsReported := by
  rcases ids? with _ | _ | _ <;> trivial

theorem InputFile.reportsIf_printIds (file : InputFile) (component : ComponentId)
    (ids? : Analysis → Option (List ComponentId)) :
    ((file.analyze {}).conclude fun analysis => printIds component (ids? analysis)).2.ReportsIf
      file.content.IsValidUTF8 := by
  have each : ∀ analysis document, analysis.IdsStored →
      analysis.document = .ok document →
        (printIds component (ids? analysis)).ReportsIf True := fun analysis _ _ _ =>
    Ending.reportsIf_of_reported trivial (isReported_printIds component (ids? analysis))
  exact (InputFile.reportsIf_conclude each).congr (by simp)

theorem Command.reportsIf {command : Command} (silent : command.IsSilent) :
    command.run.2.ReportsIf command.IsProvidedFor := by
  cases command with
  | analyze input options =>
      exact InputFile.reportsIf_conclude fun analysis document ids written =>
        options.reportsIf silent ids written
  | deps input component => exact input.reportsIf_printIds component _
  | dependents input component => exact input.reportsIf_printIds component _
  | diff old new =>
      have compared : (Command.diff old new).run.2 =
          ((old.analyze {}).conclude fun result => ((new.analyze {}).conclude fun other =>
            .printed ((result.differences other).toJson.write diffStyle)).2).2 := by
        rw [run, Attempt.conclude]
        cases (old.analyze {}).result <;> rfl
      rw [compared]
      apply InputFile.reportsIf_conclude
      intro result _ _ _
      have each : ∀ other document, other.IdsStored → other.document = .ok document →
          (Ending.printed ((result.differences other).toJson.write diffStyle)).ReportsIf True :=
        fun other _ _ _ => Ending.reportsIf_of_reported trivial trivial
      exact (InputFile.reportsIf_conclude each).congr (by simp)

/-- A command that saves nothing prints something and succeeds, or reports a failure and fails, if
it is provided for.  Any other breaks down: bytes are no text, an uneven word would have to be
printed, or a number of too many digits. -/
theorem run_isReported {command : Command} (silent : command.IsSilent) (least : Level) :
    (command.IsProvidedFor →
      (∃ text, (Invocation.command least command).run.ending = .printed text ∧
        (Invocation.command least command).run.exitCode = 0) ∨
      ∃ failure, (Invocation.command least command).run.ending = .failed failure ∧
        (Invocation.command least command).run.exitCode = 1) ∧
    (¬command.IsProvidedFor → (Invocation.command least command).run.ending ∈
      [.broken .notUtf8, .broken .uneven, .broken (.fault .oversizedNumber)]) := by
  have reports := Command.reportsIf silent
  refine ⟨?_, reports.breaks⟩
  intro provided
  have reported : (Invocation.command least command).run.ending.IsReported :=
    reports.reports provided
  rw [Outcome.exitCode]
  cases ended : (Invocation.command least command).run.ending with
  | printed text => exact .inl ⟨text, rfl, rfl⟩
  | failed failure => exact .inr ⟨failure, rfl, rfl⟩
  | saved path text | abandoned path text | misused verb misuse | broken breakdown =>
      rw [ended] at reported
      cases reported

/-- An empty document has no component to ask for, which is reported. -/
theorem run_isReported_unknown :
    ∃ failure,
      (Invocation.command .warning (.deps ⟨"in.json", "{}".toUTF8⟩ "a")).run.ending =
        .failed failure ∧ failure = .unknownComponent "a" := by
  have ended : (Invocation.command .warning (.deps ⟨"in.json", "{}".toUTF8⟩ "a")).run.ending =
      .failed (.unknownComponent "a") := by
    decide +kernel
  have provided : (Command.deps ⟨"in.json", "{}".toUTF8⟩ "a").IsProvidedFor :=
    String.isValidUTF8 "{}"
  rcases (@run_isReported (.deps ⟨"in.json", "{}".toUTF8⟩ "a") trivial .warning).1 provided with
    ⟨text, printed, _⟩ | ⟨failure, failed, _⟩
  · rw [ended] at printed
    cases printed
  · refine ⟨failure, failed, ?_⟩
    rw [ended] at failed
    exact (Ending.failed.inj failed).symm

/-- A file of one byte that is no text. -/
theorem run_notUtf8 :
    (Invocation.command .warning (.analyze ⟨"in.json", ⟨#[0xff]⟩⟩ {})).run.ending =
        .broken .notUtf8 ∧
      (Invocation.command .warning (.deps ⟨"in.json", ⟨#[0xff]⟩⟩ "a")).run.ending =
        .broken .notUtf8 :=
  ⟨rfl, rfl⟩

end DepAtlas.CommandLine
