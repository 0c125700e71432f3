import DepAtlas.Input
import DepAtlas.Service.Request
import DepAtlas.Text.Encoding

/-!
# Calls

A call is a well-formed request: its endpoint together with the values that the endpoint
takes from the query or the body.  Which sessions exist plays no part here, so a request
is refused as malformed whether or not it names a session.

The texts of a body may be uneven, so all texts of a call are spelled out.
-/

namespace DepAtlas.Service

/-- An analysis that has been asked for. -/
structure Job where
  input : InputDocument
  label : String
  deriving DecidableEq, Repr

/-- What is read from a session. -/
inductive Query where
  | document
  | map (focus : Option String) (showOrder showDependencies : Bool)
  | dependencies (component : ComponentId)
  | dependents (component : ComponentId)
  deriving DecidableEq, Repr

/-- A well-formed request. -/
inductive Call where
  | health
  | analyze (job : Job)
  | compare (old new : SessionId)
  | read (id : SessionId) (query : Query)
  | remove (id : SessionId)
  deriving DecidableEq, Repr

/-- Why a request is no call. -/
inductive Malformed where
  /-- The body cannot be decoded, or goes beyond the bounds of bodies. -/
  | unreadableBody
  | invalid (issues : List Issue)
  deriving DecidableEq, Repr

/-- A value that was read from a part of a request, or what is wrong with that part. -/
def checkedPart {α : Type} (part : String) (value : Checked α) : Except Malformed α :=
  (value.under (.field part)).toExcept.mapError .invalid

/-- Read values out of the query parameters. -/
def ofQuery {α : Type} (query : List (String × String))
    (read : List (String × Json) → Checked α) : Except Malformed α :=
  checkedPart "query" (read (query.map fun parameter => (parameter.1, .text parameter.2)))

/-- The value of a body, in whichever encoding its bytes hold it. -/
def bodyValue (body : String) : Except Malformed Json :=
  match Text.decode? body.toUTF8.toList with
  | none => .error .unreadableBody
  | some cs =>
      match Json.read Json.bodyBounds cs with
      | .ok value => .ok value
      | .error .notJson => checkedPart "body" (.mistake .notJson)
      | .error _ => .error .unreadableBody

/-- Read values out of the object in a body. -/
def ofBody {α : Type} (body : String) (read : List (String × Json) → Checked α) :
    Except Malformed α :=
  if body = "" then checkedPart "body" (.mistake .missing)
  else do
    let value ← bodyValue body
    checkedPart "body" (Schema.object .notAttributes read value)

/-- Read the body of an analysis request. -/
def Job.readFields (fields : List (String × Json)) : Checked Job :=
  Job.mk
    <$> InputDocument.readFields .notAttributes fields
    <*> Schema.optional fields "label" "" Schema.text

/-- Read what a view takes from the query. -/
def Query.read (query : List (String × String)) : View → Except Malformed Query
  | .document => .ok .document
  | .map => ofQuery query fun fields =>
      .map
        <$> Schema.optional fields "focus" none (Schema.nullable Schema.text)
        <*> Schema.optional fields "show_order" false Schema.boolean
        <*> Schema.optional fields "show_dependencies" false Schema.boolean
  | .dependencies => ofQuery query fun fields =>
      .dependencies <$> Schema.required fields "component_id" Schema.text
  | .dependents => ofQuery query fun fields =>
      .dependents <$> Schema.required fields "component_id" Schema.text

/-- Read what an endpoint takes from the parameters and the body of a request. -/
def Call.ofParts (parameters : List (String × String)) (body : String) :
    Endpoint → Except Malformed Call
  | .health => .ok .health
  | .analyze => Call.analyze <$> ofBody body Job.readFields
  | .compare => ofBody body fun fields =>
      Call.compare
        <$> Schema.required fields "old_id" Schema.text
        <*> Schema.required fields "new_id" Schema.text
  | .read id view => Call.read id <$> Query.read parameters view
  | .remove id => .ok (.remove id)

end DepAtlas.Service
