import RpcTransport.Config.Basic

/-!
Configurations as JSON. A text is an overlay on the defaults: what it leaves out has its default.
Writing leaves out options that are not set.
-/

namespace RpcTransport

/-- A natural number as JSON. -/
def renderUnsigned (n : UInt64) : Bytes :=
  bytesOf (decimalOfNat n.toNat)

namespace BatchConfig

/-- The members of a configuration's text. -/
def members (config : BatchConfig) : List (String × Bytes) :=
  [("max_batch_size", bytesOf (decimalOfInt config.maxBatchSize.toInt)),
    ("wait_ms", renderUnsigned config.waitMs)]

/-- The text of a configuration. -/
def render (config : BatchConfig) : Bytes :=
  Json.braced config.members

/-- What a text says about batches. -/
structure Draft where
  maxBatchSize : Option Int64 := none
  waitMs : Option UInt64 := none

/-- The settings of a draft, over the defaults. -/
def Draft.overlay (d : Draft) : BatchConfig :=
  let base : BatchConfig := {}
  ⟨d.maxBatchSize.getD base.maxBatchSize, d.waitMs.getD base.waitMs⟩

/-- The settings for batches. -/
def record : Json.Record Draft BatchConfig where
  title := "struct BatchConfig"
  blank := {}
  fields :=
    [.of "max_batch_size" .int64 (·.maxBatchSize) fun d x => { d with maxBatchSize := some x },
      .of "wait_ms" .uint64 (·.waitMs) fun d x => { d with waitMs := some x }]
  finish d := .ok d.overlay

/-- How settings for batches are read. -/
def shape : Json.Shape BatchConfig :=
  record.shape

end BatchConfig

namespace HttpConfig

/-- The members of a configuration's text; no batch if there is none. -/
def members (config : HttpConfig) : List (String × Bytes) :=
  [("request_timeout_ms", renderUnsigned config.requestTimeoutMs)]
  ++ (config.batch.map fun batch => ("batch", batch.render)).toList

/-- The text of a configuration. -/
def render (config : HttpConfig) : Bytes :=
  Json.braced config.members

/-- What a text says about an HTTP endpoint. -/
structure Draft where
  requestTimeoutMs : Option UInt64 := none
  batch : Option (Option BatchConfig) := none

/-- The settings of a draft, over the defaults. -/
def Draft.overlay (d : Draft) : HttpConfig :=
  let base : HttpConfig := {}
  ⟨d.requestTimeoutMs.getD base.requestTimeoutMs, d.batch.getD base.batch⟩

/-- The settings for an HTTP endpoint. -/
def record : Json.Record Draft HttpConfig where
  title := "struct HttpConfig"
  blank := {}
  fields :=
    [.of "request_timeout_ms" .uint64 (·.requestTimeoutMs)
        fun d x => { d with requestTimeoutMs := some x },
      .of "batch" (.optional BatchConfig.shape) (·.batch) fun d x => { d with batch := some x }]
  finish d := .ok d.overlay

/-- How settings for an HTTP endpoint are read. -/
def shape : Json.Shape HttpConfig :=
  record.shape

end HttpConfig

namespace WebSocketConfig

/-- The members of a configuration's text; no limit for frames to come if there is none. -/
def members (config : WebSocketConfig) : List (String × Bytes) :=
  [("reconnect", Json.render (.bool config.reconnect)),
    ("reconnect_delay_ms", renderUnsigned config.reconnectDelayMs),
    ("dial_warn_interval_ms", renderUnsigned config.dialWarnIntervalMs),
    ("write_timeout_ms", renderUnsigned config.writeTimeoutMs)]
  ++ (config.readTimeoutMs.map fun ms => ("read_timeout_ms", renderUnsigned ms)).toList
  ++ [("keepalive_interval_ms", renderUnsigned config.keepaliveIntervalMs),
    ("send_queue_capacity", renderUnsigned config.sendQueueCapacity)]

/-- The text of a configuration. -/
def render (config : WebSocketConfig) : Bytes :=
  Json.braced config.members

/-- What a text says about a WebSocket endpoint. -/
structure Draft where
  reconnect : Option Bool := none
  reconnectDelayMs : Option UInt64 := none
  dialWarnIntervalMs : Option UInt64 := none
  writeTimeoutMs : Option UInt64 := none
  readTimeoutMs : Option (Option UInt64) := none
  keepaliveIntervalMs : Option UInt64 := none
  sendQueueCapacity : Option UInt64 := none

/-- The settings of a draft, over the defaults. -/
def Draft.overlay (d : Draft) : WebSocketConfig :=
  let base : WebSocketConfig := {}
  { reconnect := d.reconnect.getD base.reconnect
    reconnectDelayMs := d.reconnectDelayMs.getD base.reconnectDelayMs
    dialWarnIntervalMs := d.dialWarnIntervalMs.getD base.dialWarnIntervalMs
    writeTimeoutMs := d.writeTimeoutMs.getD base.writeTimeoutMs
    readTimeoutMs := d.readTimeoutMs.getD base.readTimeoutMs
    keepaliveIntervalMs := d.keepaliveIntervalMs.getD base.keepaliveIntervalMs
    sendQueueCapacity := d.sendQueueCapacity.getD base.sendQueueCapacity }

/-- The settings for a WebSocket endpoint. -/
def record : Json.Record Draft WebSocketConfig where
  title := "struct WsConfig"
  blank := {}
  fields :=
    [.of "reconnect" .boolean (·.reconnect) fun d x => { d with reconnect := some x },
      .of "reconnect_delay_ms" .uint64 (·.reconnectDelayMs)
        fun d x => { d with reconnectDelayMs := some x },
      .of "dial_warn_interval_ms" .uint64 (·.dialWarnIntervalMs)
        fun d x => { d with dialWarnIntervalMs := some x },
      .of "write_timeout_ms" .uint64 (·.writeTimeoutMs)
        fun d x => { d with writeTimeoutMs := some x },
      .of "read_timeout_ms" (.optional .uint64) (·.readTimeoutMs)
        fun d x => { d with readTimeoutMs := some x },
      .of "keepalive_interval_ms" .uint64 (·.keepaliveIntervalMs)
        fun d x => { d with keepaliveIntervalMs := some x },
      .of "send_queue_capacity" (.unsigned "usize") (·.sendQueueCapacity)
        fun d x => { d with sendQueueCapacity := some x }]
  finish d := .ok d.overlay

/-- How settings for a WebSocket endpoint are read. -/
def shape : Json.Shape WebSocketConfig :=
  record.shape

end WebSocketConfig

namespace ProviderConfig

/-- The members of a configuration's text. -/
def members (config : ProviderConfig) : List (String × Bytes) :=
  [("url", Json.Quoted.render config.url),
    ("http", config.http.render),
    ("ws", config.webSocket.render)]

/-- The text of a configuration. -/
def render (config : ProviderConfig) : Bytes :=
  Json.braced config.members

/-- What a text says about an endpoint. -/
structure Draft where
  url : Option String := none
  http : Option HttpConfig := none
  webSocket : Option WebSocketConfig := none

/-- The settings of a draft, over the defaults. The URL has no default. -/
def Draft.overlay (d : Draft) : Except String ProviderConfig :=
  match d.url with
  | none => .error "url"
  | some url => .ok ⟨url, d.http.getD {}, d.webSocket.getD {}⟩

/-- The settings for an endpoint. -/
def record : Json.Record Draft ProviderConfig where
  title := "struct ProviderConfig"
  blank := {}
  fields :=
    [.of "url" .string (·.url) fun d x => { d with url := some x },
      .of "http" HttpConfig.shape (·.http) fun d x => { d with http := some x },
      .of "ws" WebSocketConfig.shape (·.webSocket) fun d x => { d with webSocket := some x }]
  finish := Draft.overlay

/-- How settings for an endpoint are read. -/
def shape : Json.Shape ProviderConfig :=
  record.shape

end ProviderConfig

end RpcTransport
