import RpcTransport.TransportError

/-!
Inbound messages. Every message is read as an `Envelope`; which of its members are there decides
whether it answers a call, notifies a subscriber, or neither.
-/

namespace RpcTransport

/-- A message as it was read. A null result is kept apart from no result; for the other members null
counts as absent. -/
structure Envelope where
  jsonrpc : String
  id : Option Json
  method : Option String
  params : Option Json
  result : Option Json
  error : Option RpcError
  /-- The bytes that the message was read from. -/
  raw : Bytes

/-- What a message is. -/
inductive MessageKind
  /-- The answer to a call: a usable id, no method and no parameters. -/
  | response
  /-- A push by the node: a method and no id. -/
  | notification
  | unrecognized
  deriving DecidableEq

/-- The parameters of a subscription's notification. -/
structure Notification where
  subscription : String
  result : Json

namespace Notification

/-- The text of a notification's parameters. -/
def render (notification : Notification) : Bytes :=
  Json.braced
    [("subscription", Json.Quoted.render notification.subscription),
      ("result", notification.result.render)]

/-- What has been read of a notification's parameters. -/
structure Draft where
  subscription : Option String := none
  result : Option Json := none

/-- The fields of a notification's parameters; both may be missing. -/
def record : Json.Record Draft Notification where
  title := "struct Notification"
  blank := {}
  fields :=
    [.of "subscription" .string (·.subscription) fun d x => { d with subscription := some x },
      .of "result" .any (·.result) fun d x => { d with result := some x }]
  finish d := .ok ⟨d.subscription.getD "", d.result.getD .null⟩

/-- How a notification's parameters are read. -/
def shape : Json.Shape Notification :=
  record.shape

end Notification

namespace Envelope

/-- What has been read of a message. -/
structure Draft where
  jsonrpc : Option String := none
  id : Option (Option Json) := none
  method : Option (Option String) := none
  params : Option (Option Json) := none
  result : Option Json := none
  error : Option (Option RpcError) := none

/-- The message of a draft; its bytes are added by the caller. -/
def Draft.finish (d : Draft) : Except String Envelope :=
  .ok ⟨d.jsonrpc.getD "", d.id.join, d.method.join, d.params.join, d.result, d.error.join, []⟩

/-- The members of a message, none of them required. -/
def record : Json.Record Draft Envelope where
  title := "struct Envelope"
  blank := {}
  fields :=
    [.of "jsonrpc" .string (·.jsonrpc) fun d x => { d with jsonrpc := some x },
      .of "id" (.optional .any) (·.id) fun d x => { d with id := some x },
      .of "method" (.optional .string) (·.method) fun d x => { d with method := some x },
      .of "params" (.optional .any) (·.params) fun d x => { d with params := some x },
      .of "result" .any (·.result) fun d x => { d with result := some x },
      .of "error" (.optional RpcError.shape) (·.error) fun d x => { d with error := some x }]
  finish := Draft.finish

/-- How a message is read. -/
def shape : Json.Shape Envelope :=
  record.shape

/-- The members of a message's text; what is absent is left out. -/
def members (e : Envelope) : List (String × Bytes) :=
  [("jsonrpc", Json.Quoted.render e.jsonrpc)]
  ++ (e.id.map fun x => ("id", x.render)).toList
  ++ (e.method.map fun x => ("method", Json.Quoted.render x)).toList
  ++ (e.params.map fun x => ("params", x.render)).toList
  ++ (e.result.map fun x => ("result", x.render)).toList
  ++ (e.error.map fun x => ("error", x.render)).toList

/-- The text of a message. -/
def render (e : Envelope) : Bytes :=
  Json.braced e.members

/-- Whether a string can be told from the text of an array or object, and is not empty. -/
def isUsableId (s : String) : Bool :=
  match s.toList with
  | [] => false
  | c :: _ => c != '{' && c != '['

/-- The id by which a message is matched to a call: a usable string, or the text of a number. -/
def validId (e : Envelope) : Option String :=
  match e.id with
  | some (.string s) => if isUsableId s then some s else none
  | some (.number n) => some n.render
  | _ => none

/-- Whether the message has no id, or null or the empty string for one. -/
def idIsEmpty (e : Envelope) : Bool :=
  match e.id with
  | none | some .null => true
  | some (.string s) => s == ""
  | _ => false

/-- The method, or the empty string. -/
def methodName (e : Envelope) : String :=
  e.method.getD ""

/-- Whether the message answers a call. -/
def isResponse (e : Envelope) : Bool :=
  e.validId.isSome && e.methodName == "" && e.params.isNone

/-- Whether the message is a push by the node. -/
def isNotification (e : Envelope) : Bool :=
  e.idIsEmpty && e.methodName != ""

/-- What the message is. -/
def kind (e : Envelope) : MessageKind :=
  if e.isResponse then .response
  else if e.isNotification then .notification
  else .unrecognized

/-- The subscription and value that a notification carries. -/
def notification (e : Envelope) : Outcome Notification := do
  let some params := e.params | .error (.protocol .missingParams)
  let notification ←
    (Notification.shape.value params).mapError fun error =>
      .protocol (.undecodableNotification error)
  if notification.subscription = "" then .error (.protocol .missingSubscription)
  else return notification

/-- The error of a call that the node reports as failed. -/
def errorOf (error : RpcError) : TransportError :=
  if error.code = RpcError.vmExecutionCode then .vmExecution error.code error.details
  else .rpc error

/-- The result of the call that the message answers. A null result comes first, then an error, then
any other result. -/
def intoResult (e : Envelope) : Outcome Json :=
  match e.result, e.error with
  | some .null, _ => .error .nilResult
  | _, some error => .error (errorOf error)
  | some result, none => .ok result
  | none, none => .error (.protocol .emptyResponse)

/-- The result of the call that the message answers, as the wanted type. -/
def decodeResult (shape : Json.Shape α) (e : Envelope) : Outcome α := do
  let result ← e.intoResult
  (shape.value result).mapError fun error => .deserialization (.unreadable error)

/-- A message from its text. -/
def decode (text : Bytes) : Outcome Envelope := do
  let e ← (shape.parse text).mapError fun error => .protocol (.undecodableMessage error)
  return { e with raw := text }

/-- The messages of a batch, in the order of the array. A text that is no array is one message. -/
def decodeBatch (text : Bytes) : Outcome (List Envelope) :=
  if (text.find? fun b => !Ascii.isSpace b) = some Ascii.openBracket then do
    let elements ← (Json.slices text).mapError fun error => .protocol (.undecodableBatch error)
    elements.mapM decode
  else do
    let e ← decode text
    return [e]

end Envelope

end RpcTransport
