import DepAtlas.Notice

/-!
# Warnings in a log

A log holds the lines of the notices that matter at least as much as its level.  Two notices are
warnings: the one about blocked components and the one about a document that is out of date.  So
their lines are in a log of any level, and a line about blocked components is there only where there
is a notice about as many of them.
-/

namespace DepAtlas

/-- The line in a log that warns of blocked components. -/
def blockedLine (count : Nat) : String :=
  "WARNING repo_mapper.analysis.sequencer: Cycles detected in dependency graph; " ++
    (toString count ++ " component(s) appended to the processing order by id")

/-- The line in a log that warns of fields that are out of date. -/
def outdatedLine (fields : List String) : String :=
  "WARNING repo_mapper.serialization: Document fields out of date with its graph, recomputed: " ++
    ", ".intercalate fields

theorem number_eq_of_append_eq {front back : String} {number other : Nat}
    (same : front ++ (toString number ++ back) = front ++ (toString other ++ back)) :
    number = other := by
  have listed := congrArg String.toList same
  simp only [String.toList_append, List.append_cancel_left_eq, List.append_cancel_right_eq,
    Nat.toString_eq_repr, Nat.toList_repr] at listed
  have numbers := congrArg (Nat.ofDigitChars 10 · 0) listed
  simpa only [Nat.ofDigitChars_ten_toDigits] using numbers

namespace Notice

theorem line_eq (notice : Notice) : notice.line =
    notice.level.name ++ " " ++ notice.topic.name ++ ": " ++ notice.text := by
  simp only [line, toString, String.append_assoc]

theorem line_eq_append {notice : Notice} {words front back : String}
    (headed : notice.level.name ++ " " ++ notice.topic.name ++ ": " ++ words = front)
    (text : notice.text = words ++ back) : notice.line = front ++ back := by
  rw [line_eq, text, ← headed, ← String.append_assoc]

theorem line_blocked (count : Nat) : (blocked count).line = blockedLine count := by
  have headed : "WARNING" ++ " " ++ "repo_mapper.analysis.sequencer" ++ ": " ++
      "Cycles detected in dependency graph; " =
      "WARNING repo_mapper.analysis.sequencer: Cycles detected in dependency graph; " := by
    decide
  have text : (blocked count).text = "Cycles detected in dependency graph; " ++
      (toString count ++ " component(s) appended to the processing order by id") :=
    String.append_assoc
  exact line_eq_append headed text

theorem line_outOfDate (fields : List String) : (outOfDate fields).line = outdatedLine fields := by
  have headed : "WARNING" ++ " " ++ "repo_mapper.serialization" ++ ": " ++
      "Document fields out of date with its graph, recomputed: " =
      "WARNING repo_mapper.serialization: Document fields out of date with its graph, recomputed: "
      := by
    decide
  exact line_eq_append headed rfl

/-- A line begins with the level and the topic, which are long enough to tell warnings apart. -/
theorem take_line (notice : Notice) :
    notice.line.toList.take 21 =
      (notice.level.name ++ " " ++ notice.topic.name).toList.take 21 := by
  have long : 21 ≤ (notice.level.name ++ " " ++ notice.topic.name).toList.length := by
    cases notice.level <;> cases notice.topic <;> decide +kernel
  rw [line_eq, String.append_assoc, String.toList_append, List.take_append_of_le_length long]

/-- All warnings but those about documents are of blocked components. -/
theorem exists_blocked_of_level_topic {notice : Notice} (level : notice.level = .warning)
    (topic : notice.topic ≠ .documents) : ∃ count, notice = blocked count := by
  cases notice with
  | blocked count => exact ⟨count, rfl⟩
  | outOfDate fields => exact absurd rfl topic
  | _ => cases level

theorem level_topic_of_line_eq {notice : Notice} {count : Nat}
    (same : notice.line = (blocked count).line) :
    notice.level = .warning ∧ notice.topic ≠ .documents := by
  have front := congrArg (fun line : String => line.toList.take 21) same
  simp only [take_line] at front
  have level : (blocked count).level = .warning := rfl
  have topic : (blocked count).topic = .order := rfl
  rw [level, topic] at front
  revert front
  generalize notice.level = some
  generalize notice.topic = other
  cases some <;> cases other <;> decide +kernel

theorem eq_blocked_of_line_eq {notice : Notice} {count : Nat}
    (same : notice.line = blockedLine count) : notice = blocked count := by
  rw [← line_blocked] at same
  obtain ⟨level, topic⟩ := level_topic_of_line_eq same
  obtain ⟨other, rfl⟩ := exists_blocked_of_level_topic level topic
  rw [line_blocked, line_blocked] at same
  rw [number_eq_of_append_eq same]

variable {least : Level} {notices : List Notice}

theorem mem_lines_iff {line : String} :
    line ∈ lines least notices ↔
      ∃ notice ∈ notices, least.rank ≤ notice.level.rank ∧ notice.line = line := by
  simp [lines, and_assoc]

/-- A log of any level holds the warnings. -/
theorem line_mem_lines {notice : Notice} (warning : notice.level = .warning)
    (member : notice ∈ notices) : notice.line ∈ lines least notices := by
  refine mem_lines_iff.2 ⟨notice, member, ?_, rfl⟩
  rw [warning]
  cases least <;> decide

theorem blockedLine_mem_lines_iff {count : Nat} :
    blockedLine count ∈ lines least notices ↔ blocked count ∈ notices := by
  constructor
  · intro logged
    obtain ⟨notice, member, _, same⟩ := mem_lines_iff.1 logged
    rwa [eq_blocked_of_line_eq same] at member
  · intro member
    rw [← line_blocked]
    exact line_mem_lines rfl member

theorem outdatedLine_mem_lines {fields : List String} (member : outOfDate fields ∈ notices) :
    outdatedLine fields ∈ lines least notices := by
  rw [← line_outOfDate]
  exact line_mem_lines rfl member

end Notice

end DepAtlas
