import RpcTransport.Config.Duration
import RpcTransport.TransportError

/-!
Configurations: what can be set, what is set when nothing is said, and which settings can not work.
Times are whole milliseconds.
-/

namespace RpcTransport

/-- How calls are gathered into batches. -/
structure BatchConfig where
  /-- A batch is sent when it has this many requests. Zero sets no limit. -/
  maxBatchSize : Int64 := 0
  /-- A batch is sent this long after its first request. -/
  waitMs : UInt64 := 4
  deriving DecidableEq

namespace BatchConfig

/-- Batches of at most so many requests that wait so long. -/
def make (maxBatchSize : Int64) (wait : Duration) : BatchConfig :=
  ⟨maxBatchSize, UInt64.ofNat wait.millis⟩

/-- How long a batch waits. -/
def wait (config : BatchConfig) : Nat :=
  config.waitMs.toNat

/-- The greatest number of requests in a batch, if it has one. -/
def sizeLimit (config : BatchConfig) : Option Nat :=
  if config.maxBatchSize ≤ 0 then none else some config.maxBatchSize.toInt.toNat

/-- Refuses a negative size and a wait of no time. -/
def validate (config : BatchConfig) : Outcome Unit :=
  if config.maxBatchSize < 0 then .error (.config .negativeBatchSize)
  else if config.wait < 1 then .error (.config .waitTooShort)
  else .ok ()

end BatchConfig

/-- How an HTTP endpoint is used. -/
structure HttpConfig where
  /-- How long an exchange may take. -/
  requestTimeoutMs : UInt64 := 30000
  /-- How calls are gathered, if they are. -/
  batch : Option BatchConfig := none
  deriving DecidableEq

/-- How a WebSocket endpoint is used. -/
structure WebSocketConfig where
  /-- Whether a failed dial is tried again. -/
  reconnect : Bool := true
  /-- The pause between two dials. -/
  reconnectDelayMs : UInt64 := 1000
  /-- The shortest time between two warnings about failed dials. -/
  dialWarnIntervalMs : UInt64 := 60000
  /-- How long it may take to write a frame. -/
  writeTimeoutMs : UInt64 := 60000
  /-- How long it may take until the next frame comes, if that is limited. -/
  readTimeoutMs : Option UInt64 := none
  /-- The time between two pings. -/
  keepaliveIntervalMs : UInt64 := 54000
  /-- How many frames may wait to be written. -/
  sendQueueCapacity : UInt64 := 1024
  deriving DecidableEq

/-- Refuses pings without pause and a queue without room. -/
def WebSocketConfig.validate (config : WebSocketConfig) : Outcome Unit :=
  if config.keepaliveIntervalMs = 0 then .error (.config .zeroKeepalive)
  else if config.sendQueueCapacity = 0 then .error (.config .zeroQueueCapacity)
  else .ok ()

/-- What is needed to use an endpoint. The scheme of the URL selects the transport. -/
structure ProviderConfig where
  url : String
  http : HttpConfig := {}
  webSocket : WebSocketConfig := {}
  deriving DecidableEq

namespace ProviderConfig

/-- The same with calls gathered into batches. -/
def withBatch (batch : BatchConfig) (config : ProviderConfig) : ProviderConfig :=
  { config with http := { config.http with batch := some batch } }

/-- The same with failed dials tried again or not. -/
def withReconnect (reconnect : Bool) (config : ProviderConfig) : ProviderConfig :=
  { config with webSocket := { config.webSocket with reconnect := reconnect } }

end ProviderConfig

end RpcTransport
