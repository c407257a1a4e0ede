import RpcTransport.Endpoint.Transport
import RpcTransport.Config.Basic
import RpcTransport.Message.Method
import RpcTransport.Message.Request
import RpcTransport.Session.CallRegistry

/-!
Sessions: one connection to a node, over which calls are made and notifications come.

A session is disconnected until a start has dialed the node, then connected, and dead for good once
it has been torn down. Starts follow one another: while one is under way, later ones wait. Every
operation below is one atomic step; a caller that gets its answer, or learns that there is none,
finishes in the same step.
-/

namespace RpcTransport

/-- The life of a session. -/
inductive Phase
  | disconnected
  | connected
  /-- Torn down, for good. -/
  | dead
  deriving DecidableEq

/-- How far a start has come. -/
inductive StartState
  /-- It waits until the starts before it have ended. -/
  | queued
  | dialing
  /-- A dial has failed, and the next one comes after a pause. -/
  | pausing
  /-- It has a connection, which is not in use yet. -/
  | dialed
  | finished (outcome : Outcome Unit)
  /-- Nobody waits for it any more. -/
  | abandoned

namespace StartState

/-- Whether a start keeps later starts waiting. -/
def isUnderWay : StartState → Bool
  | .dialing | .pausing | .dialed => true
  | _ => false

/-- What a teardown makes of a start. One that has a connection finds out when it wants to use it.
-/
def close : StartState → StartState
  | .dialing | .pausing => .finished (.error .connectionClosed)
  | state => state

end StartState

/-- How far a call has come. -/
inductive CallState
  /-- It waits for the answer to the request of this id. -/
  | waiting (id : String)
  | finished (outcome : Outcome Envelope)
  /-- Its caller has given up. -/
  | abandoned

/-- What a teardown makes of a call. -/
def CallState.close : CallState → CallState
  | .waiting _ => .finished (.error .connectionClosed)
  | state => state

/-- A session. -/
structure Session where
  /-- The URL as it was given. -/
  url : String
  config : WebSocketConfig
  phase : Phase := .disconnected
  /-- The texts handed to the connection, in order. There is no place for them before a connection
  has come into use. -/
  outbound : Option (List Bytes) := none
  /-- The calls that wait for an answer, by id. -/
  pending : CallTable := ∅
  feeds : Feeds := {}
  /-- All calls that were made, by number. -/
  calls : List CallState := []
  /-- All starts, by number. -/
  starts : List StartState := []

namespace Session

/-- A session that has not been started. -/
def make (url : String) (config : WebSocketConfig) : Outcome Session := do
  let target ← Url.ofText url
  if !isWebSocketScheme target.schemeName then
    .error (.config (.notWebSocket target.schemeName))
  else
    config.validate
    return { url := url, config := config }

/-- The number of calls that wait for an answer. -/
def pendingCalls (session : Session) : Nat :=
  session.pending.size

/-- Whether someone can send to a mailbox: the session itself, or a subscription that is still being
made. -/
def serves (sink : Nat) (session : Session) : Bool :=
  session.feeds.serves sink || session.pending.values.any (·.sink? == some sink)

/-! ### Starts -/

/-- Lets waiting starts proceed, until one of them dials. -/
def proceed (phase : Phase) : List StartState → List StartState
  | [] => []
  | .queued :: rest =>
    match phase with
    | .disconnected => .dialing :: rest
    | .connected => .finished (.ok ()) :: proceed phase rest
    | .dead => .finished (.error .connectionClosed) :: proceed phase rest
  | start :: rest =>
    if start.isUnderWay then start :: rest else start :: proceed phase rest

/-- Moves a start on, and lets waiting starts proceed. -/
def moveStart (number : Nat) (state : StartState) (session : Session) : Session :=
  { session with starts := proceed session.phase (session.starts.set number state) }

/-- A new start, and its number. -/
def start (session : Session) : Nat × Session :=
  (session.starts.length,
    { session with starts := proceed session.phase (session.starts ++ [.queued]) })

/-- The dial of a start fails. It is tried again, or the start fails with it. -/
def dialFailed (number : Nat) (text : String) (session : Session) : Session :=
  match session.starts[number]? with
  | some .dialing =>
    if session.config.reconnect then session.moveStart number .pausing
    else session.moveStart number (.finished (.error (.webSocket text)))
  | _ => session

/-- The pause of a start ends. -/
def redial (number : Nat) (session : Session) : Session :=
  match session.starts[number]? with
  | some .pausing => session.moveStart number .dialing
  | _ => session

/-- The dial of a start succeeds. -/
def dialSucceeded (number : Nat) (session : Session) : Session :=
  match session.starts[number]? with
  | some .dialing => session.moveStart number .dialed
  | _ => session

/-- Puts the connection of a start into use. That can be done once, and not after a teardown. -/
def launch (number : Nat) (session : Session) : Session :=
  match session.starts[number]?, session.outbound with
  | some .dialed, none =>
    let session : Session := { session with outbound := some [] }
    match session.phase with
    | .disconnected =>
      { session with phase := .connected }.moveStart number (.finished (.ok ()))
    | _ => session.moveStart number (.finished (.error .connectionClosed))
  | some .dialed, some _ => session.moveStart number (.finished (.error .connectionClosed))
  | _, _ => session

/-- Whoever waits for a start gives up. -/
def abandonStart (number : Nat) (session : Session) : Session :=
  match session.starts[number]? with
  | some (.finished _) | some .abandoned | none => session
  | _ => session.moveStart number .abandoned

/-! ### Calls -/

/-- A call that waits comes to its end. Its request is no longer pending. -/
def settle (number : Nat) (state : CallState) (session : Session) : Session :=
  match session.calls[number]? with
  | some (.waiting id) =>
    { session with pending := session.pending.erase id, calls := session.calls.set number state }
  | _ => session

/-- Sends a request for a new call, and tells the call's number. Without a connection the call ends
at once. Ids are random; two calls in flight with one id would both be lost. -/
def send (request : Request) (subscription : Option Subscription) (session : Session) :
    Nat × Session :=
  let number := session.calls.length
  match session.phase, session.outbound with
  | .connected, some texts =>
    let session : Session :=
      { session with
        outbound := some (texts ++ [request.encode])
        calls := session.calls ++ [.waiting request.id] }
    match session.pending[request.id]? with
    | none =>
      (number, { session with pending := session.pending.insert request.id ⟨number, subscription⟩ })
    | some earlier =>
      let closed := CallState.finished (.error .connectionClosed)
      (number, (session.settle earlier.call closed).settle number closed)
  | _, _ =>
    (number, { session with calls := session.calls ++ [.finished (.error .connectionClosed)] })

/-- Makes a call. -/
def call (id method : String) (params : List Json) (session : Session) : Nat × Session :=
  session.send (.make id method params) none

/-- Subscribes to an event. The answer, a string, is the id of the subscription, whose values are
put into the mailbox. -/
def subscribe (id method event : String) (params : List Json) (sink : Nat) (session : Session) :
    Nat × Session :=
  session.send (.make id method (.string event :: params)) (some ⟨method, sink⟩)

/-- What follows from the wish to end a subscription. -/
inductive Unsubscribed
  /-- It is known at once whether there was such a subscription. -/
  | known (existed : Bool)
  /-- The node is asked, by the call of this number. -/
  | asked (number : Nat)

/-- Ends a subscription. It is forgotten at once; then the node is asked to end it, too, if there is
a method for that. -/
def unsubscribe (id subscription : String) (session : Session) : Unsubscribed × Session :=
  match session.feeds.methodOf? subscription with
  | none => (.known false, session)
  | some method =>
    let session := { session with feeds := session.feeds.remove subscription }
    match Method.unsubscribeOf? method with
    | none => (.known true, session)
    | some ending =>
      let (number, session) := session.call id ending [.string subscription]
      (.asked number, session)

/-- A caller gives up. -/
def abandon (number : Nat) (session : Session) : Session :=
  session.settle number .abandoned

/-- The outcome of a call that has ended. -/
def outcome? (number : Nat) (session : Session) : Option (Outcome Envelope) :=
  match session.calls[number]? with
  | some (.finished outcome) => some outcome
  | _ => none

/-- What a caller gets who subscribes: the id of the subscription. -/
def subscribed (outcome : Outcome Envelope) : Outcome String := do
  (← outcome).decodeResult .string

/-- What a caller gets who asked the node to end a subscription. -/
def ended (outcome : Outcome Envelope) : Outcome Bool := do
  (← outcome).decodeResult .boolean

/-! ### Frames -/

/-- The id of the subscription that an answer begins. -/
def begun? (awaited : Awaited) (answer : Envelope) : Option (String × Subscription) :=
  match awaited.subscription, answer.result with
  | some subscription, some (.string id) => some (id, subscription)
  | _, _ => none

/-- Enters a subscription; a session that is dead keeps none. -/
def enter (id : String) (subscription : Subscription) (session : Session) : Session :=
  match session.phase with
  | .dead => { session with feeds := session.feeds.remove id }
  | _ => { session with feeds := session.feeds.insert id subscription }

/-- Gives an answer to the call that waits for it, if there is one. The answer to a call that
subscribes begins the subscription first. -/
def resolve (answer : Envelope) (session : Session) : Session :=
  match answer.validId.bind fun id => session.pending[id]? with
  | none => session
  | some awaited =>
    let session := (begun? awaited answer).elim session fun entry => session.enter entry.1 entry.2
    session.settle awaited.call (.finished (.ok answer))

/-- Gives the value of a notification to the subscriber. Only methods of subscriptions count. -/
def notify (message : Envelope) (session : Session) : Session :=
  if Method.isSubscription message.methodName then
    match message.notification with
    | .ok notification =>
      { session with
        feeds := session.feeds.dispatch notification.subscription notification.result }
    | .error _ => session
  else session

/-- Takes in a frame. What can not be read, or is neither an answer nor a notification, is dropped.
-/
def frame (bytes : Bytes) (session : Session) : Session :=
  match Envelope.decode bytes with
  | .error _ => session
  | .ok message =>
    match message.kind with
    | .response => session.resolve message
    | .notification => session.notify message
    | .unrecognized => session

/-! ### Teardown -/

/-- Tears the session down, because it is stopped or the connection has come to its end. Whoever
waits for an answer or a dial learns it, and all subscriptions are forgotten. -/
def teardown (session : Session) : Session :=
  match session.phase with
  | .dead => session
  | _ =>
    { session with
      phase := .dead
      pending := ∅
      feeds := session.feeds.clear
      calls := session.calls.map CallState.close
      starts := proceed .dead (session.starts.map StartState.close) }

end Session

end RpcTransport
