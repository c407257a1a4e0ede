import RpcTransport.TransportError
import RpcTransport.Url.Basic

/-!
Which transport a URL asks for.
-/

namespace RpcTransport

/-- The URL that a text is, or why it is none. -/
def Url.ofText (text : String) : Outcome Url :=
  (Url.parse text).mapError fun fault => .config (.malformedUrl text fault)

/-- Whether a scheme is spoken over HTTP. -/
def isHttpScheme (scheme : String) : Bool :=
  scheme == "http" || scheme == "https"

/-- Whether a scheme is spoken over a WebSocket. -/
def isWebSocketScheme (scheme : String) : Bool :=
  scheme == "ws" || scheme == "wss"

/-- The ways to speak to a node. -/
inductive Transport
  /-- Each call is an exchange of its own. -/
  | http
  /-- One connection for all calls and notifications. -/
  | webSocket
  deriving DecidableEq

/-- The transport for a scheme. -/
def Transport.ofScheme (scheme : String) : Outcome Transport :=
  if isHttpScheme scheme then .ok .http
  else if isWebSocketScheme scheme then .ok .webSocket
  else .error (.config (.unsupportedScheme scheme))

/-- The transport that a URL asks for by its scheme. -/
def Transport.ofUrl (text : String) : Outcome Transport := do
  let url ← Url.ofText text
  ofScheme url.schemeName

end RpcTransport
