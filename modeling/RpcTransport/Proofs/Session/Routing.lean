import RpcTransport.Gathering.Correlation
import RpcTransport.Proofs.Message.Kinds
import RpcTransport.Proofs.Session.Frames

/-!
Which messages reach the call that waits under their id. An answer does, unless it has parameters:
then it is of no use, and the call waits on. In a reply to a batch such an answer is handed out as
any other.
-/

namespace RpcTransport.Session

variable {session : Session} {bytes : Bytes} {message : Envelope} {id : String} {awaited : Awaited}

/-- An answer without parameters ends the call that waits under its id. -/
theorem Linked.outcome_of_plain (linked : session.Linked)
    (read : Envelope.decode bytes = .ok message) (hasId : message.HasId id)
    (noMethod : message.LacksMethod) (noParams : message.params = none)
    (registered : session.pending[id]? = some awaited) :
    (session.frame bytes).outcome? awaited.call = some (.ok message) := by
  have isResponse : message.kind = .response := by
    rw [Envelope.kind_eq_response, Envelope.isResponse_iff]
    exact ⟨⟨id, hasId⟩, noMethod, noParams⟩
  have holds : answerIn? id bytes = some message :=
    answerIn?_eq_some.mpr ⟨read, isResponse, Envelope.validId_eq_some.mpr hasId⟩
  exact (linked.resolves ⟨holds, registered⟩).received.1

/-- A message with an id and with parameters changes nothing. -/
theorem frame_of_params (read : Envelope.decode bytes = .ok message) (hasId : message.HasId id)
    (params : message.params ≠ none) : session.frame bytes = session := by
  apply frame_of_misses
  apply misses_of_unusable
  intro other otherRead
  cases read.symm.trans otherRead
  exact Envelope.kind_of_params hasId params

/-- A call that waits has no outcome yet. -/
theorem Linked.outcome?_of_pending (linked : session.Linked)
    (registered : session.pending[id]? = some awaited) :
    session.outcome? awaited.call = none := by
  simp only [outcome?, linked.waiting registered]

/-- What becomes of a message that comes in a frame. -/
structure Routed (before : Session) (bytes : Bytes) (message : Envelope) : Prop where
  /-- It is an answer if it has a usable id, no method and no parameters, -/
  response : message.kind = .response ↔
    (∃ id, message.HasId id) ∧ message.LacksMethod ∧ message.params = none
  /-- a push if it has a method and no id, -/
  notification : message.kind = .notification ↔ message.LacksId ∧ ¬ message.LacksMethod
  /-- and nothing of use otherwise. -/
  unrecognized : message.kind = .unrecognized ↔
    message.kind ≠ .response ∧ message.kind ≠ .notification
  /-- So parameters are all that keeps it from being what its id and its method say. -/
  rule : message.FollowsRule ↔
    ((∃ id, message.HasId id) → message.LacksMethod → message.params = none)
  /-- With the id of a call that waits, and without a method, it reaches the call if it has no
  parameters. -/
  reaches : ∀ id awaited, message.HasId id → message.LacksMethod →
    before.pending[id]? = some awaited →
    ((before.frame bytes).outcome? awaited.call = some (.ok message) ↔ message.params = none)
  /-- Otherwise it is lost, and the call waits on. -/
  lost : ∀ id, message.HasId id → message.params ≠ none → before.frame bytes = before

/-- An answer reaches the call that waits under its id if and only if it has no parameters. -/
theorem answers_reach_calls_unless_params {url : String} {config : WebSocketConfig}
    (made : make url config = .ok session) (events : List Event)
    (read : Envelope.decode bytes = .ok message) :
    Routed (session.run events) bytes message := by
  have linked : (session.run events).Linked := (linked_of_make made).run events
  refine
    { response := Envelope.kind_eq_response.trans Envelope.isResponse_iff
      notification := Envelope.kind_eq_notification.trans Envelope.isNotification_iff
      unrecognized := Envelope.kind_eq_unrecognized
      rule := Envelope.followsRule_iff
      reaches := ?_
      lost := fun id hasId params => frame_of_params read hasId params }
  intro id awaited hasId noMethod registered
  constructor
  · intro received
    by_contra params
    rw [frame_of_params read hasId params, linked.outcome?_of_pending registered] at received
    cases received
  · exact fun noParams => linked.outcome_of_plain read hasId noMethod noParams registered

/-- A call is made under the id 1. -/
def callingOnce : List Event :=
  connecting ++ [.call "1" "eth_call" []]

/-- An answer to the call. -/
def plainAnswer : Bytes :=
  bytesOf "\x7b\"id\":1,\"result\":true\x7d"

/-- An answer to the call that has parameters, too. -/
def answerWithParams : Bytes :=
  bytesOf "\x7b\"id\":\"1\",\"params\":[],\"result\":true\x7d"

/-- Of two answers under one id the one without parameters reaches the call. -/
theorem answers_reach_calls_unless_params_of_one :
    make "ws://node" {} = .ok idleSession ∧
      ∃ plain withParams, Envelope.decode plainAnswer = .ok plain ∧
        Envelope.decode answerWithParams = .ok withParams ∧
        ((idleSession.run callingOnce).frame plainAnswer).outcome? 0 = some (.ok plain) ∧
        ((idleSession.run callingOnce).frame answerWithParams).outcome? 0 ≠
          some (.ok withParams) := by
  have made : make "ws://node" {} = .ok idleSession := rfl
  have readPlain : ∃ message, Envelope.decode plainAnswer = .ok message ∧
      message.validId = some "1" ∧ message.method = none ∧ message.params = none :=
    ⟨_, rfl, by decide +kernel, rfl, rfl⟩
  have readOther : ∃ message, Envelope.decode answerWithParams = .ok message ∧
      message.validId = some "1" ∧ message.method = none ∧ message.params = some (.array []) :=
    ⟨_, rfl, by decide +kernel, rfl, rfl⟩
  obtain ⟨plain, isPlain, plainId, plainMethod, noParams⟩ := readPlain
  obtain ⟨other, isOther, otherId, otherMethod, params⟩ := readOther
  have waits : (idleSession.run callingOnce).pending["1"]? = some ⟨0, none⟩ := rfl
  have routed := answers_reach_calls_unless_params made callingOnce isPlain
  have otherRouted := answers_reach_calls_unless_params made callingOnce isOther
  have hasId := Envelope.validId_eq_some.mp plainId
  have otherHasId := Envelope.validId_eq_some.mp otherId
  refine ⟨made, plain, other, isPlain, isOther, ?_, ?_⟩
  · exact (routed.reaches "1" _ hasId (Or.inl plainMethod) waits).mpr noParams
  · intro received
    have none := (otherRouted.reaches "1" _ otherHasId (Or.inl otherMethod) waits).mp received
    cases params.symm.trans none

/-- A message with the id of a call that waits, and without a method, is of no use because it has
parameters, and the call waits on. In the reply to a batch the same message is handed out. -/
theorem params_hide_answer :
    make "ws://node" {} = .ok idleSession ∧
      (idleSession.run callingOnce).pending["1"]? = some ⟨0, none⟩ ∧
      (∃ message, Envelope.decode answerWithParams = .ok message ∧ message.HasId "1" ∧
        message.LacksMethod ∧ message.kind = .unrecognized ∧ ¬ message.FollowsRule ∧
        (idleSession.run callingOnce).frame answerWithParams = idleSession.run callingOnce) ∧
      (Gathering.settle (Gathering.ofReply [.make "1" "eth_call" []]
        (.ok (bytesOf "[" ++ answerWithParams ++ bytesOf "]"))) 0).toOption =
          some answerWithParams := by
  refine ⟨rfl, rfl, ?_, by decide +kernel⟩
  have read : ∃ message, Envelope.decode answerWithParams = .ok message ∧
      message.validId = some "1" ∧ message.method = none ∧ message.params = some (.array []) :=
    ⟨_, rfl, by decide +kernel, rfl, rfl⟩
  obtain ⟨message, read, validId, noMethod, isParams⟩ := read
  have hasId : message.HasId "1" := Envelope.validId_eq_some.mp validId
  have params : message.params ≠ none := by
    rw [isParams]
    exact nofun
  refine ⟨message, read, hasId, Or.inl noMethod, Envelope.kind_of_params hasId params, ?_,
    frame_of_params read hasId params⟩
  exact fun follows => params (Envelope.followsRule_iff.mp follows ⟨_, hasId⟩ (Or.inl noMethod))

end RpcTransport.Session
