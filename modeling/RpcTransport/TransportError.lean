import RpcTransport.Message.RpcError
import RpcTransport.Url.Fault

/-!
What can go wrong with a call. Each kind of error carries its cause; the wording is in one function
per type. `stated` stands for a reason that another program gave in words.
-/

namespace RpcTransport

/-- Why a transport can not be built. -/
inductive ConfigFault
  | malformedUrl (url : String) (fault : Url.Fault)
  /-- A scheme for which there is no transport. -/
  | unsupportedScheme (scheme : String)
  | notHttp (scheme : String)
  | notWebSocket (scheme : String)
  | negativeBatchSize
  | waitTooShort
  | zeroKeepalive
  | zeroQueueCapacity
  | stated (text : String)

/-- A reason in words. -/
def ConfigFault.message : ConfigFault → String
  | .malformedUrl url fault => "malformed URL " ++ url ++ ": " ++ fault.message
  | .unsupportedScheme scheme =>
    "unsupported URL scheme " ++ Escaped.quote scheme ++ ", expected http(s) or ws(s)"
  | .notHttp scheme => "unsupported scheme for HTTP transport: " ++ scheme
  | .notWebSocket scheme => "unsupported scheme for WebSocket transport: " ++ scheme
  | .negativeBatchSize => "maximum batch size can not be negative"
  | .waitTooShort => "minimum wait time must be at least 1 millisecond"
  | .zeroKeepalive => "keepalive interval must be positive"
  | .zeroQueueCapacity => "send queue capacity must be positive"
  | .stated text => text

/-- Why an HTTP exchange failed. -/
inductive HttpFault
  /-- The request could not be sent, or was not answered. -/
  | unanswered (target : String)
  /-- The target is no URI, so that there is no request to be sent. -/
  | unsendable (target : String)
  /-- The answer ends before its end. -/
  | truncatedBody
  /-- The answer has a status that is no success. -/
  | status (code : Nat) (body : String)
  /-- The task that was to fetch a batch has died. -/
  | abandoned
  | stated (text : String)

/-- A reason in words. -/
def HttpFault.message : HttpFault → String
  | .unanswered target => "error sending request for url (" ++ target ++ ")"
  | .unsendable target => "builder error for url (" ++ target ++ ")"
  | .truncatedBody => "error decoding response body"
  | .status code body => "HTTP " ++ decimalOfNat code ++ ": " ++ body
  | .abandoned => "batch dispatch abandoned"
  | .stated text => text

/-- Why a message of the node can not be understood. -/
inductive ProtocolFault
  | undecodableMessage (error : Json.Error)
  | undecodableBatch (error : Json.Error)
  | missingParams
  | undecodableNotification (error : Json.Error)
  | missingSubscription
  /-- A response with neither result nor error. -/
  | emptyResponse
  /-- One answer without id to a batch of several requests. -/
  | singleResponse
  | noResponse (id : String)
  | noResponseAt (position : Nat)
  | stated (text : String)

/-- A reason in words. -/
def ProtocolFault.message : ProtocolFault → String
  | .undecodableMessage error => "decode rpc message: " ++ error.message
  | .undecodableBatch error => "decode rpc batch: " ++ error.message
  | .missingParams => "notification without params"
  | .undecodableNotification error => "invalid subscription message: " ++ error.message
  | .missingSubscription => "notification without subscription id"
  | .emptyResponse => "response carries neither result nor error"
  | .singleResponse => "unexpected single response to batch"
  | .noResponse id => "no response for request id " ++ id
  | .noResponseAt position => "no response at batch position " ++ decimalOfNat position
  | .stated text => text

/-- Why a result can not be taken as the wanted type. -/
inductive ResultFault
  | unreadable (error : Json.Error)
  | stated (text : String)

/-- A reason in words. -/
def ResultFault.message : ResultFault → String
  | .unreadable error => error.message
  | .stated text => text

/-- Why a call, or the building of a transport, failed. -/
inductive TransportError
  | config (fault : ConfigFault)
  | http (fault : HttpFault)
  | webSocket (text : String)
  | protocol (fault : ProtocolFault)
  /-- The node reports that the call failed. -/
  | rpc (error : RpcError)
  /-- The node's virtual machine failed to execute the call. -/
  | vmExecution (code : Int64) (details : String)
  /-- The node answered null. -/
  | nilResult
  /-- There is no connection, or it was torn down. -/
  | connectionClosed
  /-- Subscriptions need a duplex connection. -/
  | subscriptionsUnsupported
  | deserialization (fault : ResultFault)

namespace TransportError

/-- An error in words. -/
def message : TransportError → String
  | .config fault => "configuration error: " ++ fault.message
  | .http fault => "HTTP error: " ++ fault.message
  | .webSocket text => "WebSocket error: " ++ text
  | .protocol fault => "protocol error: " ++ fault.message
  | .rpc error => "RPC error " ++ decimalOfInt error.code.toInt ++ ": " ++ error.message
  | .vmExecution _ details => "VM execution error " ++ details
  | .nilResult => "Result is null"
  | .connectionClosed => "Websocket connection closed"
  | .subscriptionsUnsupported => "subscriptions not supported over http, please use websockets"
  | .deserialization fault => "Deserialization error: " ++ fault.message

/-- Whether the same call may succeed when it is made again. -/
def isRetryable : TransportError → Bool
  | .http _ | .webSocket _ => true
  | _ => false

/-- Whether the node reported that the call failed. -/
def isExecutionError : TransportError → Bool
  | .rpc _ | .vmExecution .. => true
  | _ => false

/-- Whether the connection is gone. -/
def isConnectionClosed : TransportError → Bool
  | .connectionClosed => true
  | _ => false

end TransportError

/-- A result, or why there is none. -/
abbrev Outcome (α : Type) := Except TransportError α

end RpcTransport
