import RpcTransport.Endpoint.Transport
import RpcTransport.Gathering.Window
import RpcTransport.Text.Utf8
import RpcTransport.Url.Uri

/-!
Endpoints that are spoken to over HTTP. Every call is an exchange of its own, or a part of an
exchange if calls are gathered; subscriptions there are none.
-/

namespace RpcTransport

/-- How an exchange with a node ends. -/
inductive Exchange
  /-- The request could not be sent, or no answer came. -/
  | unanswered
  /-- An answer came. Its body is missing if the connection broke within it. -/
  | answered (status : Nat) (body : Option Bytes)

namespace Exchange

/-- Whether a status tells of success. -/
def isSuccess (status : Nat) : Bool :=
  200 ≤ status && status < 300

/-- The reply that an exchange with the node at `target` gives. The body of an answer that tells of
no success becomes part of the error. -/
def outcome (target : String) : Exchange → Outcome Bytes
  | .unanswered => .error (.http (.unanswered target))
  | .answered status body =>
    if isSuccess status then body.elim (.error (.http .truncatedBody)) .ok
    else .error (.http (.status status (body.elim "" Utf8.repair)))

end Exchange

/-- How the calls to an endpoint are sent. -/
inductive Loading
  /-- Each by itself. -/
  | direct
  /-- In batches. -/
  | gathered (limits : Gathering.Limits)

/-- The way of loading that a configuration asks for. -/
def Loading.ofConfig (config : HttpConfig) : Outcome Loading :=
  match config.batch with
  | none => .ok .direct
  | some batch => do return .gathered (← Gathering.Limits.ofConfig batch)

/-- An endpoint that is spoken to over HTTP. -/
structure HttpEndpoint where
  /-- The URL as it was given. -/
  url : String
  target : Url
  loading : Loading

namespace HttpEndpoint

/-- The target that a text names, if it can be spoken to over HTTP. -/
def targetOf (url : String) : Outcome Url := do
  let target ← Url.ofText url
  if isHttpScheme target.schemeName then return target
  else .error (.config (.notHttp target.schemeName))

/-- The endpoint of a configuration. -/
def make (url : String) (config : HttpConfig) : Outcome HttpEndpoint := do
  let target ← targetOf url
  let loading ← Loading.ofConfig config
  return ⟨url, target, loading⟩

/-- Whether a target can be requested: its host has only characters of a URI, and it is not too
long. What else it has is encoded where it needs to be. -/
def isRequestable (target : Url) : Bool :=
  (match target.host with
    | some (.domain name) => name.all Url.Uri.isPlain
    | _ => true)
  && target.render.utf8ByteSize ≤ Url.Uri.longest

/-- The reply that an exchange with the endpoint gives. -/
def reply (endpoint : HttpEndpoint) (exchange : Exchange) : Outcome Bytes :=
  if isRequestable endpoint.target then exchange.outcome endpoint.target.render
  else .error (.http (.unsendable endpoint.target.render))

/-- There is nothing to be started. -/
def start (_ : HttpEndpoint) : Outcome Unit :=
  .ok ()

/-- There are no subscriptions. -/
def subscribe (_ : HttpEndpoint) : Outcome String :=
  .error .subscriptionsUnsupported

/-- There are no subscriptions that could be ended. -/
def unsubscribe (_ : HttpEndpoint) : Outcome Bool :=
  .error .subscriptionsUnsupported

end HttpEndpoint

end RpcTransport
