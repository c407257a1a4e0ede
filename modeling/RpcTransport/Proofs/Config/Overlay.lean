import RpcTransport.Config.Text
import RpcTransport.Proofs.Json.Overlays

/-!
Configurations as texts over the defaults. A text that lists the settings of a configuration, in any
order and with whatever else, is read as this configuration; what it leaves out has its default.
-/

namespace RpcTransport

open Json Json.Record

/-! ### Settings -/

/-- The text of a natural number. -/
def IsUnsigned (n : UInt64) (text : Bytes) : Prop :=
  text = renderUnsigned n

/-- A text lists the settings for batches. -/
structure BatchConfig.ListedBy (config : BatchConfig) (members : List (String × Bytes)) :
    Prop where
  maxBatchSize : Gives members "max_batch_size"
    (· = bytesOf (decimalOfInt config.maxBatchSize.toInt))
    (config.maxBatchSize = ({} : BatchConfig).maxBatchSize)
  waitMs : Gives members "wait_ms" (IsUnsigned config.waitMs)
    (config.waitMs = ({} : BatchConfig).waitMs)

/-- A text lists the settings for an HTTP endpoint. -/
structure HttpConfig.ListedBy (config : HttpConfig) (members : List (String × Bytes)) : Prop where
  requestTimeoutMs : Gives members "request_timeout_ms" (IsUnsigned config.requestTimeoutMs)
    (config.requestTimeoutMs = ({} : HttpConfig).requestTimeoutMs)
  batch : Gives members "batch" (IsOption (fun batch => IsTextOf batch.ListedBy) config.batch)
    (config.batch = none)

/-- A text lists the settings for a WebSocket endpoint. -/
structure WebSocketConfig.ListedBy (config : WebSocketConfig) (members : List (String × Bytes)) :
    Prop where
  reconnect : Gives members "reconnect" (· = Json.render (.bool config.reconnect))
    (config.reconnect = ({} : WebSocketConfig).reconnect)
  reconnectDelayMs : Gives members "reconnect_delay_ms" (IsUnsigned config.reconnectDelayMs)
    (config.reconnectDelayMs = ({} : WebSocketConfig).reconnectDelayMs)
  dialWarnIntervalMs : Gives members "dial_warn_interval_ms" (IsUnsigned config.dialWarnIntervalMs)
    (config.dialWarnIntervalMs = ({} : WebSocketConfig).dialWarnIntervalMs)
  writeTimeoutMs : Gives members "write_timeout_ms" (IsUnsigned config.writeTimeoutMs)
    (config.writeTimeoutMs = ({} : WebSocketConfig).writeTimeoutMs)
  readTimeoutMs : Gives members "read_timeout_ms" (IsOption IsUnsigned config.readTimeoutMs)
    (config.readTimeoutMs = none)
  keepaliveIntervalMs : Gives members "keepalive_interval_ms"
    (IsUnsigned config.keepaliveIntervalMs)
    (config.keepaliveIntervalMs = ({} : WebSocketConfig).keepaliveIntervalMs)
  sendQueueCapacity : Gives members "send_queue_capacity" (IsUnsigned config.sendQueueCapacity)
    (config.sendQueueCapacity = ({} : WebSocketConfig).sendQueueCapacity)

/-- A text lists the settings for an endpoint. The URL can not be left out. -/
structure ProviderConfig.ListedBy (config : ProviderConfig) (members : List (String × Bytes)) :
    Prop where
  url : Gives members "url" (fun text => IsString text ∧ saying? text = some config.url) False
  http : Gives members "http" (IsTextOf config.http.ListedBy) (config.http = {})
  webSocket : Gives members "ws" (IsTextOf config.webSocket.ListedBy) (config.webSocket = {})

/-! ### Numbers -/

section Numbers

variable {depth : Nat} {text : Bytes}

theorem IsUnsigned.outcome {n : UInt64} (isUnsigned : IsUnsigned n text) (name : String) :
    ((Shape.unsigned name).text depth).outcome text = some n :=
  isUnsigned ▸ Shape.unsigned_outcome name n

theorem IsUnsigned.ne_null {n : UInt64} (isUnsigned : IsUnsigned n text) :
    text ≠ bytesOf "null" := by
  rintro rfl
  cases (isUnsigned.outcome "u64" : (Shape.uint64.text 0).outcome _ = _)

end Numbers

theorem isText_renderUnsigned (n : UInt64) : IsText .value (renderUnsigned n) :=
  isText_decimalOfInt (fits64_toNat n)

/-! ### Batches -/

namespace BatchConfig

variable {config : BatchConfig} {members : List (String × Bytes)} {depth : Nat} {text : Bytes}

theorem record_orderly : record.Orderly where
  faithful := by
    intro field member
    simp only [record, List.mem_cons, List.not_mem_nil, or_false] at member
    rcases member with rfl | rfl
    · exact .of .int64
    · exact .of .uint64
  commutes := by
    simp only [record, List.pairwise_cons, List.forall_mem_cons, List.not_mem_nil, false_implies,
      implies_true, and_true, List.Pairwise.nil]
    exact .of (fun _ _ => rfl) (fun _ _ => rfl) (fun _ _ _ => rfl)
  distinct := by decide

theorem ListedBy.once (listed : config.ListedBy members) :
    ∀ field ∈ record.fields, (members.map Prod.fst).count field.name ≤ 1 := by
  intro field member
  simp only [record, List.mem_cons, List.not_mem_nil, or_false] at member
  rcases member with rfl | rfl
  · exact listed.maxBatchSize.once
  · exact listed.waitMs.once

theorem ListedBy.made (listed : config.ListedBy members) :
    record.madeOf depth members = some config := by
  obtain ⟨size, foundSize, isSize⟩ := listed.maxBatchSize.found depth .int64
    (fun _ _ isSize => isSize ▸ Shape.int64_outcome config.maxBatchSize) id
  obtain ⟨wait, foundWait, isWait⟩ := listed.waitMs.found depth .uint64
    (fun _ _ isWait => isWait.outcome "u64") id
  have filled : record.fields.foldlM (Record.putMember depth members) record.blank =
      some ⟨size, wait⟩ := by
    refine (foldlM_putMember_of_found foundSize (Draft.mk · none) rfl rfl fun _ => rfl).trans ?_
    exact foldlM_putMember_of_found foundWait (Draft.mk size ·) rfl rfl fun _ => rfl
  rw [Record.madeOf, filled]
  exact congrArg some (congrArg₂ BatchConfig.mk isSize isWait)

/-- Settings for batches are read from every text of them. -/
theorem outcome_of_isTextOf (isTextOf : IsTextOf config.ListedBy text) :
    (shape.text (depth + 1)).outcome text = some config :=
  isTextOf.outcome record_orderly (fun _ listed => listed.once) fun _ listed _ => listed.made

theorem parse_of_isTextOf (isTextOf : IsTextOf config.ListedBy text) :
    shape.parse text = .ok config :=
  isTextOf.parse record_orderly (fun _ listed => listed.once) fun _ listed _ => listed.made

theorem isText_members (config : BatchConfig) : ∀ m ∈ config.members, IsText .value m.2 := by
  simp only [BatchConfig.members, List.forall_mem_cons]
  exact ⟨isText_decimalOfInt (fits64_toInt _), isText_renderUnsigned _, List.forall_mem_nil _⟩

theorem listedBy_members (config : BatchConfig) : config.ListedBy config.members :=
  have once := List.nodup_iff_count_le_one.mp record_orderly.distinct
  ⟨⟨once _, rfl⟩, ⟨once _, rfl⟩⟩

theorem isTextOf_render (config : BatchConfig) : IsTextOf config.ListedBy config.render :=
  ⟨config.members, isObjectOf_braced config.isText_members, config.listedBy_members⟩

end BatchConfig

/-! ### HTTP endpoints -/

namespace HttpConfig

variable {config : HttpConfig} {members : List (String × Bytes)} {depth : Nat} {text : Bytes}

theorem record_orderly : record.Orderly where
  faithful := by
    intro field member
    simp only [record, List.mem_cons, List.not_mem_nil, or_false] at member
    rcases member with rfl | rfl
    · exact .of .uint64
    · exact .of BatchConfig.record_orderly.shape_faithful.optional
  commutes := by
    simp only [record, List.pairwise_cons, List.forall_mem_cons, List.not_mem_nil, false_implies,
      implies_true, and_true, List.Pairwise.nil]
    exact .of (fun _ _ => rfl) (fun _ _ => rfl) (fun _ _ _ => rfl)
  distinct := by decide

theorem ListedBy.once (listed : config.ListedBy members) :
    ∀ field ∈ record.fields, (members.map Prod.fst).count field.name ≤ 1 := by
  intro field member
  simp only [record, List.mem_cons, List.not_mem_nil, or_false] at member
  rcases member with rfl | rfl
  · exact listed.requestTimeoutMs.once
  · exact listed.batch.once

theorem ListedBy.made (listed : config.ListedBy members)
    (areTexts : ∀ m ∈ members, IsText .value m.2) :
    record.madeOf (depth + 1) members = some config := by
  obtain ⟨timeout, foundTimeout, isTimeout⟩ := listed.requestTimeoutMs.found (depth + 1) .uint64
    (fun _ _ isTimeout => isTimeout.outcome "u64") id
  obtain ⟨batch, foundBatch, isBatch⟩ := listed.batch.found (depth + 1)
    (.optional BatchConfig.shape) (fun text member isBatch =>
      isBatch.outcome BatchConfig.record_orderly.shape_faithful (areTexts _ member)
        fun batch isText =>
          have made := BatchConfig.outcome_of_isTextOf isText
          ⟨ne_null_of_outcome made, made⟩) id
  have filled : record.fields.foldlM (Record.putMember (depth + 1) members) record.blank =
      some ⟨timeout, batch⟩ := by
    refine (foldlM_putMember_of_found foundTimeout (Draft.mk · none) rfl rfl fun _ => rfl).trans ?_
    exact foldlM_putMember_of_found foundBatch (Draft.mk timeout ·) rfl rfl fun _ => rfl
  rw [Record.madeOf, filled]
  exact congrArg some (congrArg₂ HttpConfig.mk isTimeout isBatch)

theorem outcome_of_isTextOf (isTextOf : IsTextOf config.ListedBy text) :
    (shape.text (depth + 2)).outcome text = some config :=
  isTextOf.outcome record_orderly (fun _ listed => listed.once) fun _ listed => listed.made

theorem parse_of_isTextOf (isTextOf : IsTextOf config.ListedBy text) :
    shape.parse text = .ok config :=
  isTextOf.parse record_orderly (fun _ listed => listed.once) fun _ listed => listed.made

theorem isText_members (config : HttpConfig) : ∀ m ∈ config.members, IsText .value m.2 := by
  intro m member
  simp only [HttpConfig.members, List.mem_append, List.mem_singleton, Option.mem_toList,
    Option.map_eq_some_iff] at member
  obtain rfl | ⟨batch, _, rfl⟩ := member
  · exact isText_renderUnsigned _
  · exact isText_braced batch.isText_members

theorem sublist_members (config : HttpConfig) :
    (config.members.map Prod.fst).Sublist (record.fields.map Field.name) := by
  rw [HttpConfig.members, List.map_append]
  exact (List.Sublist.refl ["request_timeout_ms"]).append (sublist_optional "batch" _ _)

theorem listedBy_members (config : HttpConfig) : config.ListedBy config.members := by
  have once := count_le_one_of_sublist config.sublist_members record_orderly.distinct
  obtain ⟨timeout, _ | batch⟩ := config
  · exact ⟨⟨once _, rfl⟩, ⟨once _, rfl⟩⟩
  · exact ⟨⟨once _, rfl⟩, ⟨once _, batch.isTextOf_render⟩⟩

theorem isTextOf_render (config : HttpConfig) : IsTextOf config.ListedBy config.render :=
  ⟨config.members, isObjectOf_braced config.isText_members, config.listedBy_members⟩

end HttpConfig

/-! ### WebSocket endpoints -/

namespace WebSocketConfig

variable {config : WebSocketConfig} {members : List (String × Bytes)} {depth : Nat} {text : Bytes}

theorem record_orderly : record.Orderly where
  faithful := by
    intro field member
    simp only [record, List.mem_cons, List.not_mem_nil, or_false] at member
    rcases member with rfl | rfl | rfl | rfl | rfl | rfl | rfl
    · exact .of .boolean
    · exact .of .uint64
    · exact .of .uint64
    · exact .of .uint64
    · exact .of (.optional .uint64)
    · exact .of .uint64
    · exact .of (.unsigned "usize")
  commutes := by
    simp only [record, List.pairwise_cons, List.forall_mem_cons, List.not_mem_nil, false_implies,
      implies_true, and_true, List.Pairwise.nil]
    refine ⟨⟨?_, ?_, ?_, ?_, ?_, ?_⟩, ⟨?_, ?_, ?_, ?_, ?_⟩, ⟨?_, ?_, ?_, ?_⟩, ⟨?_, ?_, ?_⟩,
      ⟨?_, ?_⟩, ?_⟩
    all_goals exact .of (fun _ _ => rfl) (fun _ _ => rfl) (fun _ _ _ => rfl)
  distinct := by decide

theorem ListedBy.once (listed : config.ListedBy members) :
    ∀ field ∈ record.fields, (members.map Prod.fst).count field.name ≤ 1 := by
  intro field member
  simp only [record, List.mem_cons, List.not_mem_nil, or_false] at member
  rcases member with rfl | rfl | rfl | rfl | rfl | rfl | rfl
  · exact listed.reconnect.once
  · exact listed.reconnectDelayMs.once
  · exact listed.dialWarnIntervalMs.once
  · exact listed.writeTimeoutMs.once
  · exact listed.readTimeoutMs.once
  · exact listed.keepaliveIntervalMs.once
  · exact listed.sendQueueCapacity.once

theorem ListedBy.made (listed : config.ListedBy members)
    (areTexts : ∀ m ∈ members, IsText .value m.2) :
    record.madeOf depth members = some config := by
  obtain ⟨reconnect, foundReconnect, isReconnect⟩ := listed.reconnect.found depth .boolean
    (fun _ _ isReconnect => isReconnect ▸ Shape.boolean_outcome config.reconnect) id
  obtain ⟨delay, foundDelay, isDelay⟩ := listed.reconnectDelayMs.found depth .uint64
    (fun _ _ isDelay => isDelay.outcome "u64") id
  obtain ⟨warn, foundWarn, isWarn⟩ := listed.dialWarnIntervalMs.found depth .uint64
    (fun _ _ isWarn => isWarn.outcome "u64") id
  obtain ⟨write, foundWrite, isWrite⟩ := listed.writeTimeoutMs.found depth .uint64
    (fun _ _ isWrite => isWrite.outcome "u64") id
  obtain ⟨read, foundRead, isRead⟩ := listed.readTimeoutMs.found depth (.optional .uint64)
    (fun _ member isRead => isRead.outcome .uint64 (areTexts _ member) fun _ isUnsigned =>
      ⟨isUnsigned.ne_null, isUnsigned.outcome "u64"⟩) id
  obtain ⟨keepalive, foundKeepalive, isKeepalive⟩ :=
    listed.keepaliveIntervalMs.found depth .uint64
      (fun _ _ isKeepalive => isKeepalive.outcome "u64") id
  obtain ⟨capacity, foundCapacity, isCapacity⟩ :=
    listed.sendQueueCapacity.found depth (.unsigned "usize")
      (fun _ _ isCapacity => isCapacity.outcome "usize") id
  have filled : record.fields.foldlM (Record.putMember depth members) record.blank =
      some ⟨reconnect, delay, warn, write, read, keepalive, capacity⟩ := by
    refine (foldlM_putMember_of_found foundReconnect
      (Draft.mk · none none none none none none) rfl rfl fun _ => rfl).trans ?_
    refine (foldlM_putMember_of_found foundDelay
      (Draft.mk reconnect · none none none none none) rfl rfl fun _ => rfl).trans ?_
    refine (foldlM_putMember_of_found foundWarn
      (Draft.mk reconnect delay · none none none none) rfl rfl fun _ => rfl).trans ?_
    refine (foldlM_putMember_of_found foundWrite
      (Draft.mk reconnect delay warn · none none none) rfl rfl fun _ => rfl).trans ?_
    refine (foldlM_putMember_of_found foundRead
      (Draft.mk reconnect delay warn write · none none) rfl rfl fun _ => rfl).trans ?_
    refine (foldlM_putMember_of_found foundKeepalive
      (Draft.mk reconnect delay warn write read · none) rfl rfl fun _ => rfl).trans ?_
    exact foldlM_putMember_of_found foundCapacity
      (Draft.mk reconnect delay warn write read keepalive ·) rfl rfl fun _ => rfl
  have overlaid : Draft.overlay ⟨reconnect, delay, warn, write, read, keepalive, capacity⟩ =
      config := by
    simp only [Draft.overlay, isReconnect, isDelay, isWarn, isWrite, isRead, isKeepalive,
      isCapacity]
  rw [Record.madeOf, filled]
  exact congrArg some overlaid

theorem outcome_of_isTextOf (isTextOf : IsTextOf config.ListedBy text) :
    (shape.text (depth + 1)).outcome text = some config :=
  isTextOf.outcome record_orderly (fun _ listed => listed.once) fun _ listed => listed.made

theorem parse_of_isTextOf (isTextOf : IsTextOf config.ListedBy text) :
    shape.parse text = .ok config :=
  isTextOf.parse record_orderly (fun _ listed => listed.once) fun _ listed => listed.made

theorem isText_members (config : WebSocketConfig) : ∀ m ∈ config.members, IsText .value m.2 := by
  intro m member
  simp only [WebSocketConfig.members, List.mem_append, List.mem_cons, List.not_mem_nil, or_false,
    Option.mem_toList, Option.map_eq_some_iff] at member
  obtain ((rfl | rfl | rfl | rfl) | ⟨ms, _, rfl⟩) | rfl | rfl := member
  · exact (IsPlain.bool _).isText
  all_goals exact isText_renderUnsigned _

theorem sublist_members (config : WebSocketConfig) :
    (config.members.map Prod.fst).Sublist (record.fields.map Field.name) := by
  simp only [WebSocketConfig.members, List.map_append]
  exact ((List.Sublist.refl ["reconnect", "reconnect_delay_ms", "dial_warn_interval_ms",
    "write_timeout_ms"]).append (sublist_optional "read_timeout_ms" _ _)).append
    (List.Sublist.refl ["keepalive_interval_ms", "send_queue_capacity"])

theorem listedBy_members (config : WebSocketConfig) : config.ListedBy config.members := by
  have once := count_le_one_of_sublist config.sublist_members record_orderly.distinct
  obtain ⟨reconnect, delay, warn, write, _ | read, keepalive, capacity⟩ := config
  all_goals
    exact ⟨⟨once _, rfl⟩, ⟨once _, rfl⟩, ⟨once _, rfl⟩, ⟨once _, rfl⟩, ⟨once _, rfl⟩,
      ⟨once _, rfl⟩, ⟨once _, rfl⟩⟩

theorem isTextOf_render (config : WebSocketConfig) : IsTextOf config.ListedBy config.render :=
  ⟨config.members, isObjectOf_braced config.isText_members, config.listedBy_members⟩

end WebSocketConfig

/-! ### Endpoints -/

namespace ProviderConfig

variable {config : ProviderConfig} {members : List (String × Bytes)} {depth : Nat} {text : Bytes}

theorem record_orderly : record.Orderly where
  faithful := by
    intro field member
    simp only [record, List.mem_cons, List.not_mem_nil, or_false] at member
    rcases member with rfl | rfl | rfl
    · exact .of .string
    · exact .of HttpConfig.record_orderly.shape_faithful
    · exact .of WebSocketConfig.record_orderly.shape_faithful
  commutes := by
    simp only [record, List.pairwise_cons, List.forall_mem_cons, List.not_mem_nil, false_implies,
      implies_true, and_true, List.Pairwise.nil]
    refine ⟨⟨?_, ?_⟩, ?_⟩
    all_goals exact .of (fun _ _ => rfl) (fun _ _ => rfl) (fun _ _ _ => rfl)
  distinct := by decide

theorem ListedBy.once (listed : config.ListedBy members) :
    ∀ field ∈ record.fields, (members.map Prod.fst).count field.name ≤ 1 := by
  intro field member
  simp only [record, List.mem_cons, List.not_mem_nil, or_false] at member
  rcases member with rfl | rfl | rfl
  · exact listed.url.once
  · exact listed.http.once
  · exact listed.webSocket.once

theorem ListedBy.made (listed : config.ListedBy members) :
    record.madeOf (depth + 2) members = some config := by
  have foundUrl := listed.url.found_required (depth + 2) .string
    fun _ isUrl => Shape.string_outcome isUrl.1 isUrl.2
  obtain ⟨http, foundHttp, isHttp⟩ := listed.http.found (depth + 2) HttpConfig.shape
    (fun _ _ isHttp => HttpConfig.outcome_of_isTextOf isHttp) id
  obtain ⟨webSocket, foundWebSocket, isWebSocket⟩ :=
    listed.webSocket.found (depth + 2) WebSocketConfig.shape
      (fun _ _ isWebSocket => WebSocketConfig.outcome_of_isTextOf isWebSocket) id
  have filled : record.fields.foldlM (Record.putMember (depth + 2) members) record.blank =
      some ⟨some config.url, http, webSocket⟩ := by
    refine (foldlM_putMember_of_found foundUrl (Draft.mk · none none) rfl rfl fun _ => rfl).trans ?_
    refine (foldlM_putMember_of_found foundHttp (Draft.mk (some config.url) · none)
      rfl rfl fun _ => rfl).trans ?_
    exact foldlM_putMember_of_found foundWebSocket (Draft.mk (some config.url) http ·)
      rfl rfl fun _ => rfl
  rw [Record.madeOf, filled]
  exact congrArg some (congrArg₂ (ProviderConfig.mk config.url) isHttp isWebSocket)

theorem parse_of_isTextOf (isTextOf : IsTextOf config.ListedBy text) :
    shape.parse text = .ok config :=
  isTextOf.parse record_orderly (fun _ listed => listed.once) fun _ listed _ => listed.made

theorem isText_members (config : ProviderConfig) : ∀ m ∈ config.members, IsText .value m.2 := by
  simp only [ProviderConfig.members, List.forall_mem_cons]
  exact ⟨isText_render _, isText_braced config.http.isText_members,
    isText_braced config.webSocket.isText_members, List.forall_mem_nil _⟩

theorem listedBy_members (config : ProviderConfig) : config.ListedBy config.members :=
  have once := List.nodup_iff_count_le_one.mp record_orderly.distinct
  ⟨⟨once _, render_quoted config.url⟩, ⟨once _, config.http.isTextOf_render⟩,
    ⟨once _, config.webSocket.isTextOf_render⟩⟩

theorem isTextOf_render (config : ProviderConfig) : IsTextOf config.ListedBy config.render :=
  ⟨config.members, isObjectOf_braced config.isText_members, config.listedBy_members⟩

/-- A configuration is read from every text that lists its settings over the defaults, at any level
and in any order, with blanks and other members. What is written is read again as it was. -/
theorem reads_overlays :
    (∀ (config : ProviderConfig) (text : Bytes), IsTextOf config.ListedBy text →
      shape.parse text = .ok config) ∧
    (∀ config : ProviderConfig, shape.parse config.render = .ok config) ∧
    (∀ config : HttpConfig, HttpConfig.shape.parse config.render = .ok config) ∧
    (∀ config : WebSocketConfig, WebSocketConfig.shape.parse config.render = .ok config) ∧
    ∀ config : BatchConfig, BatchConfig.shape.parse config.render = .ok config :=
  ⟨fun _ _ isTextOf => parse_of_isTextOf isTextOf,
    fun config => parse_of_isTextOf config.isTextOf_render,
    fun config => HttpConfig.parse_of_isTextOf config.isTextOf_render,
    fun config => WebSocketConfig.parse_of_isTextOf config.isTextOf_render,
    fun config => BatchConfig.parse_of_isTextOf config.isTextOf_render⟩

/-- Pings every five milliseconds, no limit for frames to come, and defaults otherwise. -/
theorem reads_overlays_of_short_keepalive :
    let config : ProviderConfig := { url := "a", webSocket := { keepaliveIntervalMs := 5 } }
    let settings := [("keepalive_interval_ms", bytesOf "5"), ("read_timeout_ms", bytesOf "null")]
    let members := [("x", bytesOf "true"), ("ws", braced settings), ("url", bytesOf "\"a\"")]
    let text := [0x20] ++ braced members ++ [0x0A]
    IsTextOf config.ListedBy text ∧ shape.parse text = .ok config := by
  intro config settings members text
  have isFive : IsUnsigned 5 (bytesOf "5") :=
    ((bytesOf_decimalOfNat 5).trans (digitBytes_of_small (by decide))).symm
  have areSettings : ∀ m ∈ settings, IsText .value m.2 := by
    simp only [settings, List.forall_mem_cons]
    exact ⟨isFive ▸ isText_renderUnsigned 5, .null, List.forall_mem_nil _⟩
  have areMembers : ∀ m ∈ members, IsText .value m.2 := by
    simp only [members, List.forall_mem_cons]
    exact ⟨.true, isText_braced areSettings, isText_render "a", List.forall_mem_nil _⟩
  have once : (settings.map Prod.fst).Nodup ∧ (members.map Prod.fst).Nodup := by decide
  rw [List.nodup_iff_count_le_one, List.nodup_iff_count_le_one] at once
  have webSocket : config.webSocket.ListedBy settings :=
    ⟨⟨once.1 _, rfl⟩, ⟨once.1 _, rfl⟩, ⟨once.1 _, rfl⟩, ⟨once.1 _, rfl⟩, ⟨once.1 _, rfl⟩,
      ⟨once.1 _, isFive⟩, ⟨once.1 _, rfl⟩⟩
  have listed : config.ListedBy members :=
    ⟨⟨once.2 _, render_quoted "a"⟩, ⟨once.2 _, rfl⟩,
      ⟨once.2 _, settings, isObjectOf_braced areSettings, webSocket⟩⟩
  have isTextOf : IsTextOf config.ListedBy text :=
    ⟨members, (isObjectOf_braced areMembers).padded (by decide) (by decide), listed⟩
  exact ⟨isTextOf, reads_overlays.1 config text isTextOf⟩

end ProviderConfig

end RpcTransport
