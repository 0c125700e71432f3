import DepAtlas.Component

/-!
# Faults and notices

A fault is why an operation did not happen.  A notice is something that happened on the
way and is worth a line in a log; its level says how much it matters, its topic which
part of the analysis it comes from.
-/

namespace DepAtlas

/-- Why an operation did not happen. -/
inductive Fault where
  /-- A symbol was offered to a finished store. -/
  | storeSealed
  /-- An edge was offered to a finished graph. -/
  | graphSealed
  /-- Two files claim one id. -/
  | duplicate (id : ComponentId) (firstFile secondFile : String)
  /-- An edge names an id that the store does not hold. -/
  | unknownEndpoint (id : ComponentId)
  /-- A component is looked up that the store does not hold. -/
  | absent (id : ComponentId)
  /-- The search for cycles closes a component that it never opened. -/
  | unopened (id : ComponentId)
  /-- A number has more digits than are written. -/
  | oversizedNumber
  deriving DecidableEq, Repr

/-- The message of a fault, quoted in a certain way. -/
def Fault.messageBy (quote : String → String) : Fault → String
  | .storeSealed => "Symbol store is sealed; start a new analysis instead"
  | .graphSealed => "Graph is sealed; start a new analysis instead"
  | .duplicate id firstFile secondFile =>
      s!"Component id {quote id} is claimed by both {quote firstFile} and {quote secondFile}"
  | .unknownEndpoint id => s!"Unknown component id: {quote id}"
  | .absent id => quote id
  | .unopened id => quote id
  | .oversizedNumber =>
      "Exceeds the limit (4300 digits) for integer string conversion; use sys.set_int_max_str_digits() to increase the limit"

/-- The message of a fault. -/
def Fault.message (fault : Fault) : String :=
  fault.messageBy Text.quoted

/-- A reference that names an id absent from the store. -/
structure DanglingReference where
  reference : Reference
  missing : ComponentId
  deriving DecidableEq, Repr

/-- How much a notice matters. -/
inductive Level where
  | debug
  | info
  | warning
  deriving DecidableEq, Repr

namespace Level

/-- The name of a level. -/
def name : Level → String
  | .debug => "DEBUG"
  | .info => "INFO"
  | .warning => "WARNING"

/-- The level with a name. -/
def ofName? : String → Option Level
  | "DEBUG" => some .debug
  | "INFO" => some .info
  | "WARNING" => some .warning
  | _ => none

/-- The place of a level among the levels. -/
def rank : Level → Nat
  | .debug => 0
  | .info => 1
  | .warning => 2

end Level

/-- The part of the analysis that a notice comes from. -/
inductive Topic where
  | store
  | graph
  | cycles
  | order
  | overview
  | analysis
  | documents
  deriving DecidableEq, Repr

/-- The name that a topic is logged under. -/
def Topic.name : Topic → String
  | .store => "repo_mapper.analysis.symbol_store"
  | .graph => "repo_mapper.analysis.dependency_graph"
  | .cycles => "repo_mapper.analysis.cycles"
  | .order => "repo_mapper.analysis.sequencer"
  | .overview => "repo_mapper.analysis.insights"
  | .analysis => "repo_mapper.analysis.analyzer"
  | .documents => "repo_mapper.serialization"

/-- Something that happened during an analysis. -/
inductive Notice where
  /-- A record with an invalid range was rejected. -/
  | rejected (record : Symbol)
  /-- A symbol was already stored. -/
  | repeated (id : ComponentId)
  | started (components : Nat)
  | rejections (count : Nat)
  /-- A reference was dropped. -/
  | dropped (dangling : DanglingReference)
  | drops (count : Nat)
  | built (components edges : Nat)
  | cyclesFound (count : Nat)
  | cycleFound (number : Nat) (members : List ComponentId)
  /-- Some components could not be put behind all their dependencies. -/
  | blocked (count : Nat)
  | drawingOverview
  | finished (components edges cycles : Nat)
  /-- Stored values of a document disagree with its own graph. -/
  | outOfDate (fields : List String)
  deriving DecidableEq, Repr

namespace Notice

/-- How much a notice matters. -/
def level : Notice → Level
  | .rejected _ | .repeated _ | .dropped _ | .built .. | .cycleFound .. | .drawingOverview =>
      .debug
  | .started _ | .rejections _ | .drops _ | .cyclesFound _ | .finished .. => .info
  | .blocked _ | .outOfDate _ => .warning

/-- Where a notice comes from. -/
def topic : Notice → Topic
  | .rejected _ | .repeated _ => .store
  | .dropped _ | .drops _ | .built .. => .graph
  | .cyclesFound _ | .cycleFound .. => .cycles
  | .blocked _ => .order
  | .drawingOverview => .overview
  | .started _ | .rejections _ | .finished .. => .analysis
  | .outOfDate _ => .documents

/-- The text of a notice. -/
def text : Notice → String
  | .rejected record =>
      s!"Rejecting {record.id}: end line {record.endLine} before start line {record.startLine}"
  | .repeated id => s!"Ignoring repeated symbol {id}"
  | .started components => s!"Starting repository analysis of {components} component(s)"
  | .rejections count => s!"Rejected {count} symbol(s) with invalid line ranges"
  | .dropped dangling =>
      let reference := dangling.reference
      s!"Dropping {reference.type.name} reference {reference.source} -> {reference.target}: unknown id {dangling.missing}"
  | .drops count => s!"Dropped {count} unresolved reference(s) while building the graph"
  | .built components edges => s!"Built graph with {components} components and {edges} edges"
  | .cyclesFound count => s!"Detected {count} cycle(s) in the dependency graph"
  | .cycleFound number members => s!"Cycle {number}: " ++ " -> ".intercalate members
  | .blocked count =>
      s!"Cycles detected in dependency graph; {count} component(s) appended to the processing order by id"
  | .drawingOverview => "Generating repository insights"
  | .finished components edges cycles =>
      s!"Repository analysis complete. Found {components} components, {edges} edges, {cycles} cycles"
  | .outOfDate fields =>
      "Document fields out of date with its graph, recomputed: " ++ ", ".intercalate fields

/-- The log line of a notice. -/
def line (notice : Notice) : String :=
  s!"{notice.level.name} {notice.topic.name}: {notice.text}"

/-- The log lines of the notices that matter at least as much as a level. -/
def lines (least : Level) (notices : List Notice) : List String :=
  (notices.filter fun notice => least.rank ≤ notice.level.rank).map line

end Notice

/-- A computation with its notices, in the order in which they came up.  The notices of
a computation that fails are those up to the failure. -/
structure Traced (α : Type) where
  notices : List Notice
  outcome : Except Fault α
  deriving Repr

namespace Traced

variable {α β : Type}

/-- Go on with the value of a computation. -/
def andThen (first : Traced α) (next : α → Traced β) : Traced β :=
  match first.outcome with
  | .ok value => ⟨first.notices ++ (next value).notices, (next value).outcome⟩
  | .error fault => ⟨first.notices, .error fault⟩

instance : Monad Traced where
  pure value := ⟨[], .ok value⟩
  bind := andThen

/-- Nothing but notices. -/
def note (notices : List Notice) : Traced Unit :=
  ⟨notices, .ok ()⟩

/-- A computation without notices. -/
def ofExcept (outcome : Except Fault α) : Traced α :=
  ⟨[], outcome⟩

@[simp] theorem outcome_pure (value : α) : (pure value : Traced α).outcome = .ok value := rfl

@[simp] theorem notices_pure (value : α) : (pure value : Traced α).notices = [] := rfl

@[simp] theorem outcome_note (notices : List Notice) : (note notices).outcome = .ok () := rfl

@[simp] theorem notices_note (notices : List Notice) : (note notices).notices = notices := rfl

@[simp] theorem outcome_ofExcept (outcome : Except Fault α) :
    (ofExcept outcome).outcome = outcome := rfl

@[simp] theorem notices_ofExcept (outcome : Except Fault α) :
    (ofExcept outcome).notices = [] := rfl

@[simp] theorem outcome_bind (first : Traced α) (next : α → Traced β) :
    (first >>= next).outcome = first.outcome.bind fun value => (next value).outcome := by
  cases first with
  | mk notices outcome => cases outcome <;> rfl

theorem mem_notices_bind {first : Traced α} {next : α → Traced β} {notice : Notice} :
    notice ∈ (first >>= next).notices ↔
      notice ∈ first.notices ∨
        ∃ value, first.outcome = .ok value ∧ notice ∈ (next value).notices := by
  cases first with
  | mk notices outcome =>
      cases outcome with
      | error fault => simp [Bind.bind, andThen]
      | ok value => simp [Bind.bind, andThen]

theorem outcome_of_toOption {computation : Traced α} {value : α}
    (known : computation.outcome.toOption = some value) : computation.outcome = .ok value := by
  cases ended : computation.outcome with
  | error fault => simp [ended, Except.toOption] at known
  | ok other =>
      rw [ended] at known
      rw [Option.some.inj known]

end Traced

end DepAtlas
