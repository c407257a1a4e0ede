import RpcTransport.Endpoint.Http
import RpcTransport.Session.Basic

/-!
Endpoints: what is built from a configuration to speak to a node.
-/

namespace RpcTransport

/-- An endpoint of either transport. A session has yet to be started. -/
inductive Endpoint
  | http (endpoint : HttpEndpoint)
  | webSocket (session : Session)

/-- The endpoint for a configuration; the scheme of its URL selects the transport. -/
def Endpoint.ofConfig (config : ProviderConfig) : Outcome Endpoint := do
  match ← Transport.ofUrl config.url with
  | .http => return .http (← HttpEndpoint.make config.url config.http)
  | .webSocket => return .webSocket (← Session.make config.url config.webSocket)

end RpcTransport
