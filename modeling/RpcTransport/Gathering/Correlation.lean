import RpcTransport.Message.Envelope
import RpcTransport.Message.Request

/-!
Handing the elements of a reply to the requests of a batch. A request gets the last element with its
id. If there is none, it gets the element at its own place, unless that element answers another
request. No element is handed out twice.
-/

namespace RpcTransport.Gathering

/-- The place of the last element with an id. -/
def lastIndexOf? (id : String) (ids : List (Option String)) : Option Nat :=
  (ids.zipIdx.filter fun entry => entry.1 == some id).getLast?.map (·.2)

/-- Whether the element at a place carries the id of some request. -/
def isClaimed (requests : List Request) (ids : List (Option String)) (place : Nat) : Bool :=
  match ids[place]? with
  | some (some id) => requests.any (·.id == id)
  | _ => false

/-- The place of the element for the request at a position, if any element may be for it. -/
def choose? (requests : List Request) (ids : List (Option String)) (request : Request)
    (position : Nat) : Option Nat :=
  (lastIndexOf? request.id ids).or
    (if isClaimed requests ids position then none else some position)

/-- The element at a place, unless it is not there or has been handed out. -/
def elementAt? (elements : List Envelope) (given : List Nat) (place : Nat) : Option Envelope :=
  if place ∈ given then none else elements[place]?

/-- Hands each request the element at its chosen place; `given` lists the places whose elements have
been handed out. -/
def handOut (elements : List Envelope) (given : List Nat) :
    List (Request × Option Nat) → List (Outcome Bytes)
  | [] => []
  | (request, place) :: rest =>
    match place.bind (elementAt? elements given) with
    | some element => .ok element.raw :: handOut elements (place.toList ++ given) rest
    | none => .error (.protocol (.noResponse request.id)) :: handOut elements given rest

/-- What each request of a batch gets of the elements of the reply. -/
def correlate (requests : List Request) (elements : List Envelope) : List (Outcome Bytes) :=
  let ids := elements.map Envelope.validId
  handOut elements []
    (requests.zipIdx.map fun entry => (entry.1, choose? requests ids entry.1 entry.2))

/-- What came of a batch: a result for each request, or one error for all of them. -/
abbrev BatchOutcome :=
  Outcome (List (Outcome Bytes))

/-- The error by which one message without id rejects a whole batch. -/
def rejection (element : Envelope) : TransportError :=
  match element.intoResult with
  | .error error => error
  | .ok _ => .protocol .singleResponse

/-- What a batch gets of the elements of the reply. -/
def ofElements (requests : List Request) (elements : List Envelope) : BatchOutcome :=
  match elements with
  | [element] =>
    if requests.length > 1 && element.validId.isNone then .error (rejection element)
    else .ok (correlate requests elements)
  | _ => .ok (correlate requests elements)

/-- What a batch gets of a reply, or of the failure to get one. -/
def ofReply (requests : List Request) (reply : Outcome Bytes) : BatchOutcome := do
  let body ← reply
  let elements ← Envelope.decodeBatch body
  ofElements requests elements

/-- The result for the request at a position. -/
def settle (outcome : BatchOutcome) (position : Nat) : Outcome Bytes := do
  let results ← outcome
  results[position]?.getD (.error (.protocol (.noResponseAt position)))

end RpcTransport.Gathering
