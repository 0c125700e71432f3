import DepAtlas.Service.Address
import DepAtlas.Service.Sessions

/-!
# Requests and endpoints

A request is a method, an address, query parameters and the text of a body.  Its address
offers endpoints, at most one for each method; a request whose address offers nothing, or
not for its method, has no endpoint.

An address that offers nothing because of slashes at its end leads on to the address
without them.
-/

namespace DepAtlas.Service

/-- The method of a request. -/
inductive Method where
  | get
  | post
  | delete
  /-- Any method that no endpoint is offered for. -/
  | other
  deriving DecidableEq, Repr

/-- The method with a name. -/
def Method.ofName : String → Method
  | "GET" => .get
  | "POST" => .post
  | "DELETE" => .delete
  | _ => .other

/-- A request. -/
structure Request where
  method : Method
  address : String
  /-- The query parameters that come beside the address, if any do; they replace those in
  it.  The last one of a name counts. -/
  query : Option (List (String × String)) := none
  /-- The text of the body; a request without a body has an empty one. -/
  body : String := ""
  deriving DecidableEq, Repr

/-- Where a request leads at first. -/
def Request.target (request : Request) : Address :=
  let written := Address.read request.address.toList
  match request.query with
  | none => written
  | some parameters => { written with query := Address.queryOf parameters }

/-- What can be read from a session. -/
inductive View where
  | document
  | map
  | dependencies
  | dependents
  deriving DecidableEq, Repr

/-- What a request addresses. -/
inductive Endpoint where
  | health
  | analyze
  | compare
  | read (id : SessionId) (view : View)
  | remove (id : SessionId)
  deriving DecidableEq, Repr

/-- Why a request has no endpoint. -/
inductive RoutingFault where
  | unknownPath
  | wrongMethod
  deriving DecidableEq, Repr

namespace Endpoint

/-- The endpoints that a name beside the sessions offers. -/
def fixed : String → List (Method × Endpoint)
  | "analyze" => [(.post, .analyze)]
  | "diff" => [(.post, .compare)]
  | _ => []

/-- The view with a name. -/
def view? : String → Option View
  | "map" => some .map
  | "dependencies" => some .dependencies
  | "dependents" => some .dependents
  | _ => none

/-- A name at the end of an address, where one line feed behind a known name does not
count. -/
def lastName (segment : String) : String :=
  match segment.toList.reverse with
  | '\n' :: rest => String.ofList rest.reverse
  | _ => segment

/-- The endpoints that the segments of an address offer.  Every segment in the place of an
id is one unless it is empty, so that a fixed name also offers the methods of a session. -/
def offered : List String → List (Method × Endpoint)
  | ["api", name] => if lastName name = "health" then [(.get, .health)] else []
  | ["api", "analysis", name] =>
      if name = "" then []
      else fixed (lastName name) ++ [(.get, .read name .document), (.delete, .remove name)]
  | ["api", "analysis", id, name] =>
      if id = "" then []
      else ((view? (lastName name)).map fun view => (.get, .read id view)).toList
  | _ => []

/-- Where an address leads on to, because of the slashes at its end. -/
def redirected? (address : Address) : Option Address :=
  if address.path.getLast? = some '/' &&
      !(offered (Address.segmentsOf (Address.withoutLastSlashes address.path))).isEmpty
  then some address.shortened
  else none

/-- The most times that an address leads on. -/
def maxRedirections : Nat := 20

/-- Where an address leads in the end, by leading on at most so many times. -/
def destination (address : Address) : (redirections : Nat) → Address
  | 0 => address
  | redirections + 1 =>
      if (offered address.segments).isEmpty then
        match redirected? address with
        | some next => destination next redirections
        | none => address
      else address

/-- The endpoint of a method and an address. -/
def route (method : Method) (address : Address) : Except RoutingFault Endpoint :=
  match offered address.segments with
  | [] => .error .unknownPath
  | offers =>
      match offers.find? fun offer => offer.1 = method with
      | some (_, endpoint) => .ok endpoint
      | none => .error .wrongMethod

end Endpoint

/-- Where a request leads in the end. -/
def Request.destination (request : Request) : Address :=
  Endpoint.destination request.target Endpoint.maxRedirections

end DepAtlas.Service
