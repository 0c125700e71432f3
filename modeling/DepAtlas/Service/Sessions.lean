import DepAtlas.Analysis

/-!
# Sessions

A service keeps each finished analysis under an id.  Ids are drawn outside the service,
which does not look at how they are made.  A supply of ids that is never used up numbers the
analyses stored so far, removed ones included.

The laws say what a lookup finds after storing and after removing.
-/

namespace DepAtlas.Service

/-- The id of a stored analysis. -/
abbrev SessionId := String

/-- The id of the analysis that is stored as the `number`-th: twelve digits, more if the
number needs them. -/
def sessionId (number : Nat) : SessionId :=
  String.ofList ((Nat.toDigits 10 number).leftpad 12 '0')

/-- A finished analysis that is kept for later requests. -/
structure Session where
  id : SessionId
  /-- The label that the analysis was posted with; it may be empty. -/
  label : String
  result : Analysis
  deriving Repr

/-- The sessions of a service, latest first. -/
structure Sessions where
  kept : List Session := []
  /-- How many analyses have been stored so far, removed ones included. -/
  stored : Nat := 0
  deriving Repr

namespace Sessions

/-- The session with an id. -/
def get? (sessions : Sessions) (id : SessionId) : Option Session :=
  sessions.kept.find? fun session => session.id = id

/-- The id for the analysis that is stored next, where ids are numbered. -/
def nextId (sessions : Sessions) : SessionId :=
  sessionId (sessions.stored + 1)

/-- Store an analysis under an id.  It takes the place of one that is stored there. -/
def store (sessions : Sessions) (session : Session) : Sessions where
  kept := session :: sessions.kept
  stored := sessions.stored + 1

/-- Remove the session with an id. -/
def remove (sessions : Sessions) (id : SessionId) : Sessions :=
  { sessions with kept := sessions.kept.filter fun session => session.id != id }

@[simp] theorem get?_empty (id : SessionId) : ({} : Sessions).get? id = none := rfl

/-- A stored analysis is found under its id, and no other lookup notices it. -/
theorem get?_store (sessions : Sessions) (session : Session) (id : SessionId) :
    (sessions.store session).get? id =
      if id = session.id then some session else sessions.get? id := by
  unfold get? store
  rw [List.find?_cons]
  by_cases h : id = session.id
  · simp [h]
  · simp [h, Ne.symm h]

/-- A removed id is not found, and no other lookup notices the removal. -/
theorem get?_remove (sessions : Sessions) (removed id : SessionId) :
    (sessions.remove removed).get? id =
      if id = removed then none else sessions.get? id := by
  unfold get? remove
  rw [List.find?_filter]
  by_cases h : id = removed
  · simp [h, List.find?_eq_none]
  · rw [if_neg h]
    congr 1
    funext session
    by_cases e : session.id = id
    · simp [e, h]
    · simp [e]

/-- A session is found under its own id. -/
theorem id_of_get? {sessions : Sessions} {id : SessionId} {session : Session}
    (h : sessions.get? id = some session) : session.id = id := by
  simpa using List.find?_some h

end Sessions

end DepAtlas.Service
