import RpcTransport.Endpoint.Http
import RpcTransport.Gathering.Schedule

/-!
Loading: what is sent for calls that are made at once, and what each of them gets.
-/

namespace RpcTransport

/-- A text that is sent, with the time of its sending. -/
structure Sending where
  time : Nat
  payload : Bytes

/-- What was sent for some calls, and what they got. -/
structure Loaded where
  sendings : List Sending
  results : List (Outcome Bytes)

namespace Loading

/-- What a call gets that is sent by itself: the reply as it is. -/
def reply : Gathering.Fetched → Outcome Bytes
  | .replied reply => reply
  | .died => .error (.http .abandoned)

/-- What a caller gets, without the time. -/
def value : Gathering.CallerResult → List (Outcome Bytes)
  | .one result => [result.value]
  | .many results => results.value
  | .abandoned => []

/-- Makes calls at once. The n-th attempt to fetch a reply takes the time and ends in the way that
`fetch` tells. -/
def load (fetch : Nat → Nat × Gathering.Fetched) (requests : List Request) : Loading → Loaded
  | direct =>
    ⟨requests.map fun request => ⟨0, request.encode⟩,
      (List.range requests.length).map fun n => reply (fetch n).2⟩
  | gathered limits =>
    let execution := Gathering.Execution.run limits [⟨0, .load requests⟩]
    ⟨execution.timeline.dispatches.map fun dispatch => ⟨dispatch.time, dispatch.payload⟩,
      (execution.results fun n _ => fetch n).flatMap value⟩

end Loading

end RpcTransport
