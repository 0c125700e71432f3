import DepAtlas.Proofs.Spellings
import DepAtlas.Service

/-!
# What requests ask for

A request asks for something by its method, by the names in the path that its address leads to, and
by what its query or its body holds.  The names lead to an endpoint, and the endpoint takes its
values from the rest.  Which analyses are known has no part in it.

What a request asks for is the call that it makes; a request that asks for nothing makes none.
-/

namespace DepAtlas

/-! ## Reading values -/

namespace Checked

variable {α β : Type}

theorem map_eq_ok_iff {f : α → β} {checked : Checked α} {value : β} :
    f <$> checked = .ok value ↔ ∃ read, checked = .ok read ∧ f read = value := by
  change checked.map f = .ok value ↔ _
  cases checked <;> simp [map]

theorem seq_eq_ok_iff {maps : Checked (α → β)} {checked : Checked α} {value : β} :
    maps <*> checked = .ok value ↔
      ∃ f read, maps = .ok f ∧ checked = .ok read ∧ f read = value := by
  change maps.apply checked = .ok value ↔ _
  cases maps <;> cases checked <;> simp [apply]

theorem under_eq_ok_iff {step : Step} {checked : Checked α} {value : α} :
    checked.under step = .ok value ↔ checked = .ok value := by
  cases checked <;> simp [under]

end Checked

namespace Schema

variable {α : Type} {fields : List (String × Json)} {name : String} {read : Json → Checked α}
  {value default : α}

theorem required_eq_ok_iff :
    required fields name read = .ok value ↔
      ∃ inside, Json.field? fields name = some inside ∧ read inside = .ok value := by
  rw [required]
  cases Json.field? fields name with
  | none => simp [Checked.under_eq_ok_iff, Checked.mistake]
  | some inside => simp [Checked.under_eq_ok_iff]

theorem optional_eq_ok_iff :
    optional fields name default read = .ok value ↔
      Json.field? fields name = none ∧ default = value ∨
        ∃ inside, Json.field? fields name = some inside ∧ read inside = .ok value := by
  rw [optional]
  cases Json.field? fields name with
  | none => simp
  | some inside => simp [Checked.under_eq_ok_iff]

theorem text_eq_ok_iff {json : Json} {text : String} :
    Schema.text json = .ok text ↔ json = .text text ∨ json = .uneven text := by
  cases json <;> simp [Schema.text, Checked.mistake]

end Schema

/-- A field of an object holds a text, which may be uneven. -/
def Json.HoldsText (fields : List (String × Json)) (name text : String) : Prop :=
  Json.field? fields name = some (.text text) ∨ Json.field? fields name = some (.uneven text)

theorem Schema.required_text_eq_ok_iff {fields : List (String × Json)} {name text : String} :
    Schema.required fields name Schema.text = .ok text ↔ Json.HoldsText fields name text := by
  simp only [required_eq_ok_iff, text_eq_ok_iff, Json.HoldsText]
  constructor
  · rintro ⟨inside, there, rfl | rfl⟩
    · exact .inl there
    · exact .inr there
  · rintro (there | there)
    · exact ⟨_, there, .inl rfl⟩
    · exact ⟨_, there, .inr rfl⟩

/-- A word that says yes or no, in any case. -/
inductive Text.Says (word : String) : Bool → Prop
  | no (listed : word.map Char.toLower ∈ ["0", "off", "f", "false", "n", "no"]) : Says word false
  | yes (listed : word.map Char.toLower ∈ ["1", "on", "t", "true", "y", "yes"]) : Says word true

theorem Schema.booleanOfText?_eq_some_iff {word : String} {value : Bool} :
    booleanOfText? word = some value ↔ Text.Says word value := by
  rw [booleanOfText?]
  constructor
  · intro said
    split at said <;> cases said
    all_goals
      next same =>
        first
          | exact .no (by rw [same]; decide)
          | exact .yes (by rw [same]; decide)
  · rintro (listed | listed)
    all_goals
      simp only [List.mem_cons, List.not_mem_nil, or_false] at listed
      rcases listed with same | same | same | same | same | same <;> rw [same] <;> rfl

theorem Schema.boolean_text_eq_ok_iff {word : String} {value : Bool} :
    Schema.boolean (.text word) = .ok value ↔ Text.Says word value := by
  rw [← booleanOfText?_eq_some_iff, boolean]
  cases booleanOfText? word <;> simp [Checked.mistake]

namespace Service

/-! ## Endpoints -/

/-- The last name of a path is a known one.  A line feed behind it does not count. -/
inductive EndsIn (name : String) : String → Prop
  | plain : EndsIn name name
  | fed : EndsIn name (name ++ "\n")

theorem EndsIn.ne_empty {name last : String} (known : EndsIn name last) (some : name ≠ "") :
    last ≠ "" := by
  cases known with
  | plain => exact some
  | fed =>
      intro empty
      have none := congrArg String.toList empty
      simp at none

namespace Endpoint

/-- The endpoint of a method and of the names in a path. -/
inductive At : Method → List String → Endpoint → Prop
  | health {last : String} (known : EndsIn "health" last) : At .get ["api", last] .health
  | analyze {last : String} (known : EndsIn "analyze" last) :
      At .post ["api", "analysis", last] .analyze
  | compare {last : String} (known : EndsIn "diff" last) :
      At .post ["api", "analysis", last] .compare
  | document {id : SessionId} (some : id ≠ "") :
      At .get ["api", "analysis", id] (.read id .document)
  | remove {id : SessionId} (some : id ≠ "") : At .delete ["api", "analysis", id] (.remove id)
  | map {id : SessionId} {last : String} (some : id ≠ "") (known : EndsIn "map" last) :
      At .get ["api", "analysis", id, last] (.read id .map)
  | dependencies {id : SessionId} {last : String} (some : id ≠ "")
      (known : EndsIn "dependencies" last) :
      At .get ["api", "analysis", id, last] (.read id .dependencies)
  | dependents {id : SessionId} {last : String} (some : id ≠ "")
      (known : EndsIn "dependents" last) :
      At .get ["api", "analysis", id, last] (.read id .dependents)

theorem lastName_eq_iff {name segment : String} (unfed : name.toList.getLast? ≠ some '\n') :
    lastName segment = name ↔ EndsIn name segment := by
  constructor
  · intro same
    rw [lastName] at same
    split at same
    next rest turned =>
      have whole : segment = name ++ "\n" := by
        rw [← String.toList_inj, ← same]
        simpa using congrArg List.reverse turned
      rw [whole]
      exact .fed
    next =>
      rw [same]
      exact .plain
  · rintro (_ | _)
    · rw [lastName]
      split
      next rest turned =>
        have fed : name.toList = rest.reverse ++ ['\n'] := by
          simpa using congrArg List.reverse turned
        simp [fed] at unfed
      next => rfl
    · rw [lastName]
      have turned : (name ++ "\n").toList.reverse = '\n' :: name.toList.reverse := by simp
      rw [turned]
      simp

theorem mem_fixed_iff {segment : String} {method : Method} {endpoint : Endpoint} :
    (method, endpoint) ∈ fixed (lastName segment) ↔
      method = .post ∧ (EndsIn "analyze" segment ∧ endpoint = .analyze ∨
        EndsIn "diff" segment ∧ endpoint = .compare) := by
  rw [← lastName_eq_iff (by decide), ← lastName_eq_iff (by decide), fixed.eq_def]
  split
  next same => simp [same]
  next same => simp [same]
  next notAnalyze notDiff =>
      simp [show lastName segment ≠ "analyze" from notAnalyze,
        show lastName segment ≠ "diff" from notDiff]

theorem view?_lastName_eq_iff {segment : String} {view : View} :
    view? (lastName segment) = some view ↔
      EndsIn "map" segment ∧ view = .map ∨
        EndsIn "dependencies" segment ∧ view = .dependencies ∨
        EndsIn "dependents" segment ∧ view = .dependents := by
  rw [← lastName_eq_iff (by decide), ← lastName_eq_iff (by decide), ← lastName_eq_iff (by decide),
    view?.eq_def]
  split
  next same => simp [same, eq_comm]
  next same => simp [same, eq_comm]
  next same => simp [same, eq_comm]
  next notMap notDependencies notDependents =>
      simp [show lastName segment ≠ "map" from notMap,
        show lastName segment ≠ "dependencies" from notDependencies,
        show lastName segment ≠ "dependents" from notDependents]

theorem mem_offered_iff {names : List String} {method : Method} {endpoint : Endpoint} :
    (method, endpoint) ∈ offered names ↔ At method names endpoint := by
  constructor
  · intro member
    rw [offered.eq_def] at member
    split at member
    next last =>
      split at member
      next known =>
        cases List.mem_singleton.1 member
        exact .health ((lastName_eq_iff (by decide)).1 known)
      next => cases member
    next id =>
      split at member
      next => cases member
      next some =>
        simp only [List.mem_append, mem_fixed_iff, List.mem_cons, Prod.mk.injEq, List.not_mem_nil,
          or_false] at member
        rcases member with ⟨rfl, ⟨known, rfl⟩ | ⟨known, rfl⟩⟩ | ⟨rfl, rfl⟩ | ⟨rfl, rfl⟩
        · exact .analyze known
        · exact .compare known
        · exact .document some
        · exact .remove some
    next id last =>
      split at member
      next => cases member
      next some =>
        simp only [Option.mem_toList, Option.map_eq_some_iff, Prod.mk.injEq,
          view?_lastName_eq_iff] at member
        obtain ⟨view, ⟨known, rfl⟩ | ⟨known, rfl⟩ | ⟨known, rfl⟩, rfl, rfl⟩ := member
        · exact .map some known
        · exact .dependencies some known
        · exact .dependents some known
    next => cases member
  · intro found
    cases found with
    | health known => simp [offered, (lastName_eq_iff (by decide)).2 known]
    | analyze known | compare known =>
        have some := known.ne_empty (by decide)
        simp [offered, some, mem_fixed_iff, known]
    | document some | remove some => simp [offered, some]
    | map some known | dependencies some known | dependents some known =>
        simp [offered, some, view?_lastName_eq_iff, known]

/-- No address offers two endpoints for one method. -/
theorem nodup_offered (names : List String) : ((offered names).map Prod.fst).Nodup := by
  rw [offered.eq_def]
  split
  next last => split <;> simp
  next id =>
    split
    next => exact List.nodup_nil
    next =>
      rw [fixed.eq_def]
      split <;> simp
  next id last =>
    split
    next => exact List.nodup_nil
    next => cases view? (lastName last) <;> simp
  next => exact List.nodup_nil

theorem find?_eq_some_iff_of_nodup {offers : List (Method × Endpoint)}
    (unique : (offers.map Prod.fst).Nodup) {method : Method} {offer : Method × Endpoint} :
    offers.find? (fun offer => offer.1 = method) = some offer ↔
      offer ∈ offers ∧ offer.1 = method := by
  constructor
  · intro found
    exact ⟨List.mem_of_find?_eq_some found, by simpa using List.find?_some found⟩
  · rintro ⟨member, rfl⟩
    induction offers with
    | nil => cases member
    | cons first offers ih =>
        rw [List.map_cons, List.nodup_cons] at unique
        rcases List.mem_cons.1 member with rfl | later
        · exact List.find?_cons_of_pos (by simp)
        · have other : first.1 ≠ offer.1 := fun same =>
            unique.1 (same ▸ List.mem_map_of_mem later)
          rw [List.find?_cons_of_neg (by simpa using other)]
          exact ih unique.2 later

theorem route_eq_ok_iff {method : Method} {address : Address} {endpoint : Endpoint} :
    route method address = .ok endpoint ↔ At method address.segments endpoint := by
  have unique := nodup_offered address.segments
  rw [← mem_offered_iff, route]
  split
  next none => simp [none]
  next =>
    split
    next first other found =>
      obtain ⟨member, rfl⟩ := (find?_eq_some_iff_of_nodup unique).1 found
      constructor
      · intro same
        cases same
        exact member
      · intro offered
        rw [(find?_eq_some_iff_of_nodup unique).2 ⟨offered, rfl⟩] at found
        cases found
        rfl
    next none =>
      refine iff_of_false (by simp) ?_
      intro offered
      rw [(find?_eq_some_iff_of_nodup unique).2 ⟨offered, rfl⟩] at none
      cases none

end Endpoint

/-! ## Parts of requests -/

theorem checkedPart_eq_ok_iff {α : Type} {part : String} {checked : Checked α} {value : α} :
    checkedPart part checked = .ok value ↔ checked = .ok value := by
  cases checked with
  | ok read =>
      change Except.ok read = .ok value ↔ _
      simp
  | bad issues =>
      change Except.error _ = .ok value ↔ _
      simp

namespace Request

variable {request : Request}

/-- The path that a request leads to, decoded, consists of names behind slashes. -/
def LeadsTo (request : Request) (names : List String) : Prop :=
  ∃ front pieces, (∀ piece ∈ front :: pieces, '/' ∉ piece) ∧
    request.destination.path = ['/'].intercalate (front :: pieces) ∧
    names = pieces.map fun piece => Text.spelled (String.ofList piece)

theorem leadsTo_iff {names : List String} :
    request.LeadsTo names ↔ request.destination.segments = names := by
  rw [LeadsTo, Address.segments, Address.segmentsOf]
  constructor
  · rintro ⟨front, pieces, plain, path, rfl⟩
    rw [path, SourcePath.pieces_intercalate plain]
    rfl
  · rintro rfl
    cases split : SourcePath.pieces request.destination.path with
    | nil => exact absurd split (SourcePath.pieces_ne_nil _)
    | cons front pieces =>
        refine ⟨front, pieces, ?_, ?_, rfl⟩
        · rw [← split]
          exact fun piece => SourcePath.slash_not_mem_of_mem_pieces
        · rw [← split, SourcePath.intercalate_pieces]

/-- The query parameter of a name: the last one. -/
def parameter? (request : Request) (name : String) : Option String :=
  (request.destination.parameters.reverse.find? fun parameter => parameter.1 = name).map (·.2)

theorem field?_parameters (request : Request) (name : String) :
    Json.field? (request.destination.parameters.map fun parameter =>
      (parameter.1, .text parameter.2)) name = (request.parameter? name).map .text := by
  rw [Json.field?, parameter?, ← List.map_reverse, List.find?_map, Option.map_map, Option.map_map]
  rfl

/-- A parameter that says yes or no.  It says no if it is left out. -/
inductive Flags (request : Request) (name : String) : Bool → Prop
  | absent (none : request.parameter? name = none) : Flags request name false
  | given {word : String} {value : Bool} (there : request.parameter? name = some word)
      (said : Text.Says word value) : Flags request name value

/-- The body of a request is an object with certain fields, in JSON. -/
def Holds (request : Request) (fields : List (String × Json)) : Prop :=
  request.body ≠ "" ∧ ∃ cs, Text.decode? request.body.toUTF8.toList = some cs ∧
    Json.read Json.bodyBounds cs = .ok (.object fields)

theorem bodyValue_eq_ok_iff {body : String} {value : Json} :
    bodyValue body = .ok value ↔ ∃ cs, Text.decode? body.toUTF8.toList = some cs ∧
      Json.read Json.bodyBounds cs = .ok value := by
  rw [bodyValue]
  cases Text.decode? body.toUTF8.toList with
  | none => simp
  | some cs =>
      simp only [Option.some.injEq, exists_eq_left']
      split
      next whole => simp [whole]
      next broken => simp [broken, checkedPart_eq_ok_iff, Checked.mistake]
      next refused => simp [refused]

theorem ofBody_eq_ok_iff {α : Type} {read : List (String × Json) → Checked α} {value : α} :
    ofBody request.body read = .ok value ↔
      ∃ fields, request.Holds fields ∧ read fields = .ok value := by
  simp only [Holds, ← bodyValue_eq_ok_iff]
  rw [ofBody]
  split
  next none => simp [none, checkedPart_eq_ok_iff, Checked.mistake]
  next some =>
    cases bodyValue request.body with
    | error malformed => simp [Bind.bind, Except.bind]
    | ok whole =>
        change checkedPart "body" (Schema.object .notAttributes read whole) = .ok value ↔ _
        rw [checkedPart_eq_ok_iff]
        cases whole <;> simp [some, Schema.object, Checked.mistake]

/-- The body of a request posts the input of an analysis and a label, which may be left out. -/
def Posts (request : Request) (job : Job) : Prop :=
  ∃ fields, request.Holds fields ∧
    InputDocument.readFields .notAttributes fields = .ok job.input ∧
    (Json.field? fields "label" = none ∧ job.label = "" ∨ Json.HoldsText fields "label" job.label)

theorem ofBody_readFields_iff {job : Job} :
    ofBody request.body Job.readFields = .ok job ↔ request.Posts job := by
  simp only [ofBody_eq_ok_iff, Posts, Job.readFields, Checked.seq_eq_ok_iff, Checked.map_eq_ok_iff,
    Schema.optional_eq_ok_iff, Schema.text_eq_ok_iff, Json.HoldsText]
  constructor
  · rintro ⟨fields, holds, _, label, ⟨input, read, rfl⟩, there, rfl⟩
    refine ⟨fields, holds, read, ?_⟩
    rcases there with ⟨none, rfl⟩ | ⟨_, there, rfl | rfl⟩
    · exact .inl ⟨none, rfl⟩
    · exact .inr (.inl there)
    · exact .inr (.inr there)
  · rintro ⟨fields, holds, read, there⟩
    refine ⟨fields, holds, _, job.label, ⟨job.input, read, rfl⟩, ?_, rfl⟩
    rcases there with ⟨none, empty⟩ | there | there
    · exact .inl ⟨none, empty.symm⟩
    · exact .inr ⟨_, there, .inl rfl⟩
    · exact .inr ⟨_, there, .inr rfl⟩

theorem optional_boolean_iff {name : String} {value : Bool} :
    Schema.optional (request.destination.parameters.map fun parameter =>
      (parameter.1, .text parameter.2)) name false Schema.boolean = .ok value ↔
      request.Flags name value := by
  rw [Schema.optional_eq_ok_iff, field?_parameters]
  constructor
  · rintro (⟨none, rfl⟩ | ⟨_, there, read⟩)
    · exact .absent (Option.map_eq_none_iff.1 none)
    · obtain ⟨word, given, rfl⟩ := Option.map_eq_some_iff.1 there
      exact .given given (Schema.boolean_text_eq_ok_iff.1 read)
  · rintro (none | ⟨given, said⟩)
    · exact .inl ⟨by rw [none]; rfl, rfl⟩
    · exact .inr ⟨_, by rw [given]; rfl, Schema.boolean_text_eq_ok_iff.2 said⟩

theorem optional_text_iff {name : String} {value : Option String} :
    Schema.optional (request.destination.parameters.map fun parameter =>
      (parameter.1, .text parameter.2)) name none (Schema.nullable Schema.text) = .ok value ↔
      request.parameter? name = value := by
  rw [Schema.optional_eq_ok_iff, field?_parameters]
  cases request.parameter? name with
  | none => simp
  | some word => simp [Schema.nullable, Schema.text, Checked.map]

theorem required_text_iff {name value : String} :
    Schema.required (request.destination.parameters.map fun parameter =>
      (parameter.1, .text parameter.2)) name Schema.text = .ok value ↔
      request.parameter? name = some value := by
  rw [Schema.required_eq_ok_iff, field?_parameters]
  cases request.parameter? name with
  | none => simp
  | some word => simp [Schema.text]

end Request

/-! ## Calls -/

/-- What an endpoint takes from a request. -/
inductive Endpoint.Takes (request : Request) : Endpoint → Call → Prop
  | health : Takes request .health .health
  | analyze {job : Job} (posts : request.Posts job) : Takes request .analyze (.analyze job)
  | compare {fields : List (String × Json)} {old new : SessionId} (holds : request.Holds fields)
      (oldId : Json.HoldsText fields "old_id" old) (newId : Json.HoldsText fields "new_id" new) :
      Takes request .compare (.compare old new)
  | document {id : SessionId} : Takes request (.read id .document) (.read id .document)
  | map {id : SessionId} {focus : Option String} {showOrder showDependencies : Bool}
      (focused : request.parameter? "focus" = focus)
      (order : request.Flags "show_order" showOrder)
      (dependencies : request.Flags "show_dependencies" showDependencies) :
      Takes request (.read id .map) (.read id (.map focus showOrder showDependencies))
  | dependencies {id : SessionId} {component : ComponentId}
      (named : request.parameter? "component_id" = some component) :
      Takes request (.read id .dependencies) (.read id (.dependencies component))
  | dependents {id : SessionId} {component : ComponentId}
      (named : request.parameter? "component_id" = some component) :
      Takes request (.read id .dependents) (.read id (.dependents component))
  | remove {id : SessionId} : Takes request (.remove id) (.remove id)

/-- A request asks for something: its method and its path have an endpoint, which takes the rest
from the request. -/
def Request.Asks (request : Request) (call : Call) : Prop :=
  ∃ names, request.LeadsTo names ∧ ∃ endpoint, Endpoint.At request.method names endpoint ∧
    endpoint.Takes request call

theorem Except.map_eq_ok_iff {ε α β : Type} {f : α → β} {result : Except ε α} {value : β} :
    f <$> result = .ok value ↔ ∃ before, result = .ok before ∧ f before = value := by
  cases result <;> simp [Functor.map, Except.map]

theorem Endpoint.Takes.exists_query {request : Request} {id : SessionId} {view : View} {call : Call}
    (takes : Endpoint.Takes request (.read id view) call) : ∃ query, call = .read id query := by
  cases takes <;> exact ⟨_, rfl⟩

theorem Query.read_eq_ok_iff {request : Request} {id : SessionId} {view : View} {query : Query} :
    Query.read request.destination.parameters view = .ok query ↔
      Endpoint.Takes request (.read id view) (.read id query) := by
  cases view with
  | document =>
      simp only [Query.read, Except.ok.injEq]
      constructor
      · rintro rfl
        exact .document
      · rintro ⟨⟩
        rfl
  | map =>
      simp only [Query.read, ofQuery, checkedPart_eq_ok_iff, Checked.seq_eq_ok_iff,
        Checked.map_eq_ok_iff, Request.optional_boolean_iff, Request.optional_text_iff]
      constructor
      · rintro ⟨_, _, ⟨_, _, ⟨_, focused, rfl⟩, order, rfl⟩, dependencies, rfl⟩
        exact .map focused order dependencies
      · intro takes
        cases takes with
        | map focused order dependencies =>
            exact ⟨_, _, ⟨_, _, ⟨_, focused, rfl⟩, order, rfl⟩, dependencies, rfl⟩
  | dependencies =>
      simp only [Query.read, ofQuery, checkedPart_eq_ok_iff, Checked.map_eq_ok_iff,
        Request.required_text_iff]
      constructor
      · rintro ⟨component, named, rfl⟩
        exact .dependencies named
      · intro takes
        cases takes with
        | dependencies named => exact ⟨_, named, rfl⟩
  | dependents =>
      simp only [Query.read, ofQuery, checkedPart_eq_ok_iff, Checked.map_eq_ok_iff,
        Request.required_text_iff]
      constructor
      · rintro ⟨component, named, rfl⟩
        exact .dependents named
      · intro takes
        cases takes with
        | dependents named => exact ⟨_, named, rfl⟩

theorem Endpoint.ofParts_eq_ok_iff {request : Request} {endpoint : Endpoint} {call : Call} :
    Call.ofParts request.destination.parameters request.body endpoint = .ok call ↔
      endpoint.Takes request call := by
  cases endpoint with
  | health =>
      simp only [Call.ofParts, Except.ok.injEq]
      constructor
      · rintro rfl
        exact .health
      · rintro ⟨⟩
        rfl
  | analyze =>
      simp only [Call.ofParts, Except.map_eq_ok_iff, Request.ofBody_readFields_iff]
      constructor
      · rintro ⟨job, posts, rfl⟩
        exact .analyze posts
      · intro takes
        cases takes with
        | analyze posts => exact ⟨_, posts, rfl⟩
  | compare =>
      simp only [Call.ofParts, Request.ofBody_eq_ok_iff, Checked.seq_eq_ok_iff,
        Checked.map_eq_ok_iff, Schema.required_text_eq_ok_iff]
      constructor
      · rintro ⟨fields, holds, _, new, ⟨old, oldId, rfl⟩, newId, rfl⟩
        exact .compare holds oldId newId
      · intro takes
        cases takes with
        | compare holds oldId newId => exact ⟨_, holds, _, _, ⟨_, oldId, rfl⟩, newId, rfl⟩
  | read id view =>
      simp only [Call.ofParts, Except.map_eq_ok_iff]
      constructor
      · rintro ⟨query, read, rfl⟩
        exact Query.read_eq_ok_iff.1 read
      · intro takes
        obtain ⟨query, rfl⟩ := takes.exists_query
        exact ⟨query, Query.read_eq_ok_iff.2 takes, rfl⟩
  | remove id =>
      simp only [Call.ofParts, Except.ok.injEq]
      constructor
      · rintro rfl
        exact .remove
      · rintro ⟨⟩
        rfl

/-- The call that a request makes is what it asks for. -/
theorem Request.call_eq_ok_iff {request : Request} {call : Call} :
    request.call = .ok call ↔ request.Asks call := by
  simp only [Asks, leadsTo_iff, exists_eq_left', ← Endpoint.route_eq_ok_iff,
    ← Endpoint.ofParts_eq_ok_iff]
  rw [Request.call]
  cases Endpoint.route request.method request.destination with
  | error fault => cases fault <;> simp
  | ok endpoint =>
      simp only [Except.ok.injEq, exists_eq_left']
      cases Call.ofParts request.destination.parameters request.body endpoint with
      | error malformed => cases malformed <;> simp
      | ok made => simp

end Service

end DepAtlas
