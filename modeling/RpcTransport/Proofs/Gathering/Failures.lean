import RpcTransport.Proofs.Gathering.Entitlement
import RpcTransport.Proofs.Gathering.Isolation

/-!
How batches fail. A batch fails as a whole if there is no reply, if the reply can not be read, or if
one message without id is all that comes for several requests. Then all its callers get one error.
Else each of them gets its own message, also one in which the node reports an error, or learns that
there is none.
-/

namespace RpcTransport.Gathering

/-! ### Failures of whole batches -/

/-- Why a batch fails as a whole, and with which error. -/
inductive FailsWith (requests : List Request) : Outcome Bytes → TransportError → Prop
  /-- There is no reply, -/
  | unfetched (error : TransportError) : FailsWith requests (.error error) error
  /-- it can not be read as messages, -/
  | unread {body : Bytes} {fault : ProtocolFault}
    (unread : Envelope.decodeBatch body = .error (.protocol fault)) :
    FailsWith requests (.ok body) (.protocol fault)
  /-- it is one message without id for several requests, and no result, -/
  | rejected {body : Bytes} {element : Envelope} {error : TransportError}
    (several : 1 < requests.length) (read : Envelope.decodeBatch body = .ok [element])
    (anonymous : ∀ id, ¬ element.HasId id) (refusal : element.intoResult = .error error) :
    FailsWith requests (.ok body) error
  /-- or it is such a message with a result. -/
  | misplaced {body : Bytes} {element : Envelope} {result : Json}
    (several : 1 < requests.length) (read : Envelope.decodeBatch body = .ok [element])
    (anonymous : ∀ id, ¬ element.HasId id) (isResult : element.intoResult = .ok result) :
    FailsWith requests (.ok body) (.protocol .singleResponse)

section Failing

variable {requests : List Request} {elements : List Envelope} {reply : Outcome Bytes}
  {error : TransportError} {position place : Nat}

/-- Only one message without id makes several requests fail. -/
theorem ofElements_eq_error : ofElements requests elements = .error error ↔
    ∃ element, elements = [element] ∧ 1 < requests.length ∧ (∀ id, ¬ element.HasId id) ∧
      rejection element = error := by
  have unidentified : ∀ element : Envelope,
      element.validId.isNone = true ↔ ∀ id, ¬ element.HasId id := by
    intro element
    rw [Option.isNone_iff_eq_none, ← Option.not_isSome_iff_eq_none, Envelope.isSome_validId,
      not_exists]
  constructor
  · intro failed
    unfold ofElements at failed
    split at failed
    · next element =>
        split at failed
        · next lone =>
            obtain ⟨several, anonymous⟩ := Bool.and_eq_true_iff.mp lone
            exact ⟨element, rfl, of_decide_eq_true several, (unidentified element).mp anonymous,
              Except.error.inj failed⟩
        · cases failed
    · cases failed
  · rintro ⟨element, rfl, several, anonymous, rfl⟩
    refine if_pos (Bool.and_eq_true_iff.mpr ⟨decide_eq_true several, ?_⟩)
    exact (unidentified element).mpr anonymous

/-- A batch fails as a whole for these reasons, with these errors, and for no others. -/
theorem ofReply_eq_error : ofReply requests reply = .error error ↔
    FailsWith requests reply error := by
  constructor
  · intro failed
    rcases bind_eq_error.mp failed with unfetched | ⟨body, rfl, taken⟩
    · rw [unfetched]
      exact .unfetched error
    · rcases bind_eq_error.mp taken with unread | ⟨elements, read, rejected⟩
      · obtain ⟨fault, rfl⟩ := Envelope.exists_fault_of_decodeBatch unread
        exact .unread unread
      · obtain ⟨element, rfl, several, anonymous, rfl⟩ := ofElements_eq_error.mp rejected
        unfold rejection
        split
        · next refusal => exact .rejected several read anonymous refusal
        · next isResult => exact .misplaced several read anonymous isResult
  · intro fails
    cases fails with
    | unfetched => rfl
    | unread unread => exact bind_eq_error.mpr (Or.inr ⟨_, rfl, bind_eq_error.mpr (Or.inl unread)⟩)
    | rejected several read anonymous refusal =>
        refine bind_eq_error.mpr (Or.inr ⟨_, rfl, bind_eq_error.mpr (Or.inr ⟨_, read, ?_⟩)⟩)
        refine ofElements_eq_error.mpr ⟨_, rfl, several, anonymous, ?_⟩
        simp only [rejection, refusal]
    | misplaced several read anonymous isResult =>
        refine bind_eq_error.mpr (Or.inr ⟨_, rfl, bind_eq_error.mpr (Or.inr ⟨_, read, ?_⟩)⟩)
        refine ofElements_eq_error.mpr ⟨_, rfl, several, anonymous, ?_⟩
        simp only [rejection, isResult]

/-- A batch that does not fail as a whole is handed the messages of its reply. -/
theorem exists_elements (stands : ∀ error, ¬ FailsWith requests reply error) :
    ∃ body elements, reply = .ok body ∧ Envelope.decodeBatch body = .ok elements ∧
      ofReply requests reply = .ok (correlate requests elements) := by
  cases outcome : ofReply requests reply with
  | error error => exact absurd (ofReply_eq_error.mp outcome) (stands error)
  | ok results =>
      obtain ⟨body, rfl, taken⟩ := bind_eq_ok.mp outcome
      obtain ⟨elements, read, done⟩ := bind_eq_ok.mp taken
      exact ⟨body, elements, rfl, read, by rw [ofElements_eq_ok done]⟩

/-- No message says that a position has no response. -/
theorem intoResult_ne_noResponseAt (e : Envelope) :
    e.intoResult ≠ .error (.protocol (.noResponseAt place)) := by
  intro failed
  rcases Envelope.failure_of_intoResult failed with isNil | isEmpty | ⟨_, _, isVm | isRpc⟩
  · cases isNil
  · cases isEmpty
  · cases isVm
  · cases isRpc

/-- A whole batch fails for want of a response at a position only if the fetch says so. -/
theorem FailsWith.noResponseAt (fails : FailsWith requests reply (.protocol (.noResponseAt place))) :
    reply = .error (.protocol (.noResponseAt place)) := by
  cases fails with
  | unfetched => rfl
  | unread unread => cases Envelope.saysUnreadable_of_decodeBatch unread
  | rejected _ _ _ refusal => exact absurd refusal (intoResult_ne_noResponseAt _)

end Failing

/-! ### Shares in a reply -/

/-- What the callers of a batch get, by their positions, of the messages of a reply. -/
structure Shared (requests : List Request) (elements : List Envelope)
    (outcome : Nat → Outcome Bytes) : Prop where
  /-- Each gets the result at its own position. -/
  own : ∀ position < requests.length,
    (correlate requests elements)[position]? = some (outcome position)
  /-- It is the text of a message, or an error with the id of the caller's own request. -/
  text : ∀ (position : Nat) (request : Request), requests[position]? = some request →
    (∃ element ∈ elements, outcome position = .ok element.raw) ∨
      outcome position = .error (.protocol (.noResponse request.id))
  /-- The first caller of an id gets what it is entitled to: -/
  entitled : ∀ position request, AsksFirst requests position request →
    Entitled requests elements position request (outcome position)
  /-- the text of the last message with its id, whether the node reports a result in it or an
  error. -/
  answered : ∀ position request, AsksFirst requests position request →
    ∀ element, LastWith request.id elements element → outcome position = .ok element.raw
  /-- Nobody else gets this message. -/
  alone : ∃ place, Assigned requests elements (correlate requests elements) place

section Shared

variable {results : List (Outcome Bytes)} {result : Outcome Bytes} {position : Nat}

theorem settle_of_there (there : results[position]? = some result) :
    settle (.ok results) position = result := by
  show results[position]?.getD _ = _
  rw [there, Option.getD_some]

/-- The callers of a batch share the messages that its requests are handed. -/
theorem shared_correlate (requests : List Request) (elements : List Envelope) :
    Shared requests elements (settle (.ok (correlate requests elements))) := by
  have assigned := assigned_correlate requests elements
  have own : ∀ position < requests.length, (correlate requests elements)[position]? =
      some (settle (.ok (correlate requests elements)) position) := by
    intro position bound
    have there := List.getElem?_eq_getElem (assigned.counted ▸ bound)
    rw [settle_of_there there, there]
  have entitled : ∀ position request, AsksFirst requests position request →
      Entitled requests elements position request
        (settle (.ok (correlate requests elements)) position) := by
    intro position request asksFirst
    obtain ⟨outcome, got, isEntitled⟩ := asksFirst.exists_entitled elements
    rwa [settle_of_there got]
  refine ⟨own, ?_, entitled, ?_, _, assigned⟩
  · intro position request isRequest
    have got := own position (List.getElem?_eq_some_iff.mp isRequest).1
    refine (text_or_noResponse got).imp_right ?_
    rintro ⟨choice, isChoice, isError⟩
    rw [getElem?_choices, isRequest, Option.map_some] at isChoice
    cases isChoice
    exact isError
  · intro position request asksFirst element last
    exact (entitled position request asksFirst).unique (.byId last)

end Shared

/-- What a batch comes to: one error for all its callers, or a share in the messages for each. -/
structure Settled (requests : List Request) (reply : Outcome Bytes) : Prop where
  /-- The batch fails as a whole for just these reasons. -/
  fails : ∀ error, ofReply requests reply = .error error ↔ FailsWith requests reply error
  /-- Then all callers get the error as it is. -/
  together : ∀ error, FailsWith requests reply error →
    ∀ position, settle (ofReply requests reply) position = .error error
  /-- Else they share the messages of the reply. -/
  apart : (∀ error, ¬ FailsWith requests reply error) →
    ∃ body elements, reply = .ok body ∧ Envelope.decodeBatch body = .ok elements ∧
      ofReply requests reply = .ok (correlate requests elements) ∧
      Shared requests elements (settle (ofReply requests reply))
  /-- No caller learns that its position has no response, unless the fetch has failed with just
  these words. -/
  placed : ∀ position < requests.length, ∀ place,
    settle (ofReply requests reply) position = .error (.protocol (.noResponseAt place)) →
    reply = .error (.protocol (.noResponseAt place))

theorem settled_ofReply (requests : List Request) (reply : Outcome Bytes) :
    Settled requests reply := by
  have together : ∀ error, FailsWith requests reply error →
      ∀ position, settle (ofReply requests reply) position = .error error := by
    intro error fails position
    rw [ofReply_eq_error.mpr fails]
    rfl
  refine ⟨fun error => ofReply_eq_error, together, ?_, ?_⟩
  · intro stands
    obtain ⟨body, elements, isReply, read, outcome⟩ := exists_elements stands
    refine ⟨body, elements, isReply, read, outcome, ?_⟩
    rw [outcome]
    exact shared_correlate requests elements
  · intro position bound place missing
    by_cases failed : ∃ error, FailsWith requests reply error
    · obtain ⟨error, fails⟩ := failed
      rw [together error fails position] at missing
      cases missing
      exact fails.noResponseAt
    · obtain ⟨_, elements, _, _, outcome⟩ := exists_elements (not_exists.mp failed)
      rw [outcome] at missing
      have isRequest := List.getElem?_eq_getElem bound
      rcases (shared_correlate requests elements).text position _ isRequest with
        ⟨element, _, isText⟩ | unanswered
      · cases isText.symm.trans missing
      · cases unanswered.symm.trans missing

/-- A batch fails as a whole, with one error for all, or every caller gets its own share of the
reply. And every caller of a run that does not give up is answered: for each of its tickets it gets
what the reply to the ticket's window comes to at the ticket's position. -/
theorem fails_together_or_answers_each (limits : Limits) (schedule : List Step) (node : Node) :
    let execution := Execution.run limits schedule
    (∀ requests reply, Settled requests reply) ∧
      (∀ n caller, execution.callers[n]? = some caller → n ∉ leavers schedule →
        ∃ result, (execution.results node)[n]? = some result ∧
          List.Forall₂ (fun ticket value => ∃ m dispatch,
              ticket.SentIn execution.timeline.dispatches m dispatch ∧
                ticket.position < dispatch.requests.length ∧
                ∀ reply, (node m dispatch).2 = .replied reply →
                  value = settle (ofReply dispatch.requests reply) ticket.position)
            caller.demand.tickets (Loading.value result)) ∧
      ProtocolFault.singleResponse.message = "unexpected single response to batch" ∧
      ∀ id, (ProtocolFault.noResponse id).message = "no response for request id " ++ id := by
  refine ⟨settled_ofReply, ?_, rfl, fun _ => rfl⟩
  intro n caller isCaller stays
  obtain ⟨result, isResult, each⟩ :=
    Execution.exists_result_held limits schedule node isCaller stays
  refine ⟨result, isResult, each.imp ?_⟩
  rintro ticket value ⟨m, dispatch, sentIn, held, rfl⟩
  refine ⟨m, dispatch, sentIn, held, fun reply replied => ?_⟩
  rw [replied, Fetched.outcome]

/-- One message without id for several requests. -/
def loneRefusal : Bytes :=
  bytesOf "\x7b\"id\":null,\"error\":\x7b\"code\":-32600,\"message\":\"too many\"\x7d\x7d"

theorem fails_of_loneRefusal : FailsWith [ping "a", ping "b"] (.ok loneRefusal)
    (.rpc ⟨-32600, "too many", none⟩) := by
  have lone : ∃ element, Envelope.decodeBatch loneRefusal = .ok [element] ∧ element.id = none ∧
      element.intoResult = .error (.rpc ⟨-32600, "too many", none⟩) := ⟨_, rfl, rfl, rfl⟩
  obtain ⟨element, read, noId, refusal⟩ := lone
  exact .rejected (by decide) read (fun id hasId => hasId.not_lacksId (Or.inl noId)) refusal

/-- An error that the node reports for one request. -/
def ownRefusal : Bytes :=
  bytesOf "\x7b\"id\":\"d\",\"error\":\x7b\"code\":3,\"message\":\"reverted\"\x7d\x7d"

theorem exists_ownRefusal : ∃ element,
    Envelope.decodeBatch (bytesOf "[" ++ ownRefusal ++ bytesOf "]") = .ok [element] ∧
      element.HasId "d" ∧ element.raw = ownRefusal := by
  refine ⟨_, rfl, ?_, rfl⟩
  exact .string rfl (by decide +kernel) (by decide +kernel) (by decide +kernel)

/-- A node that refuses the first batch, and one request of the second. -/
def refusingNode : Node := fun n _ =>
  if n = 0 then (3, .replied (.ok loneRefusal))
  else (0, .replied (.ok (bytesOf "[" ++ ownRefusal ++ bytesOf "]")))

/-- The requests of two batches. -/
def refusedSchedule : List Step :=
  [⟨0, .load [ping "a", ping "b"]⟩, ⟨1, .load [ping "c", ping "d"]⟩]

/-- The second caller of the first batch gets the error of its whole batch; the second caller of the
other batch gets the message with its own error as a success, though the first one gets none. -/
theorem fails_together_or_answers_each_of_refusals :
    let results := (Execution.run ⟨5, some 2⟩ refusedSchedule).results refusingNode
    (∃ result, results[1]? = some result ∧
      Loading.value result = [.error (.rpc ⟨-32600, "too many", none⟩)]) ∧
    (∃ result, results[3]? = some result ∧ Loading.value result = [.ok ownRefusal]) ∧
    ∃ element, Envelope.decode ownRefusal = .ok element ∧
      element.intoResult = .error (.rpc ⟨3, "reverted", none⟩) := by
  intro results
  obtain ⟨settled, answered, _⟩ :=
    fails_together_or_answers_each ⟨5, some 2⟩ refusedSchedule refusingNode
  have sent : (Execution.run ⟨5, some 2⟩ refusedSchedule).timeline.dispatches =
      [⟨0, 0, [ping "a", ping "b"]⟩, ⟨1, 1, [ping "c", ping "d"]⟩] := rfl
  rw [sent] at answered
  refine ⟨?_, ?_, _, rfl, rfl⟩
  · obtain ⟨result, isResult, each⟩ := answered 1 ⟨0, .one ⟨0, 1⟩, none⟩ rfl (by decide)
    refine ⟨result, isResult, ?_⟩
    obtain ⟨value, _, ⟨m, dispatch, ⟨atPlace, own⟩, _, settles⟩, noMore, isValue⟩ :=
      List.forall₂_cons_left_iff.mp each
    cases noMore
    match m with
    | 0 =>
        cases atPlace
        rw [isValue, settles _ rfl, (settled _ _).together _ fails_of_loneRefusal]
    | 1 =>
        cases atPlace
        cases own
  · obtain ⟨result, isResult, each⟩ := answered 3 ⟨1, .one ⟨1, 1⟩, none⟩ rfl (by decide)
    refine ⟨result, isResult, ?_⟩
    obtain ⟨value, _, ⟨m, dispatch, ⟨atPlace, own⟩, _, settles⟩, noMore, isValue⟩ :=
      List.forall₂_cons_left_iff.mp each
    cases noMore
    obtain ⟨element, read, hasId, raw⟩ := exists_ownRefusal
    have stands : ∀ error, ¬ FailsWith [ping "c", ping "d"]
        (.ok (bytesOf "[" ++ ownRefusal ++ bytesOf "]")) error := by
      intro error fails
      cases fails with
      | unread unread => cases unread.symm.trans read
      | rejected _ again anonymous | misplaced _ again anonymous =>
          cases again.symm.trans read
          exact anonymous "d" hasId
    obtain ⟨_, elements, isReply, again, _, shared⟩ := (settled _ _).apart stands
    cases isReply
    cases again.symm.trans read
    have asksFirst : AsksFirst [ping "c", ping "d"] 1 (ping "d") := by
      refine ⟨rfl, ?_⟩
      intro earlier before previous isPrevious
      obtain rfl := Nat.lt_one_iff.mp before
      cases isPrevious
      decide +kernel
    have last : LastWith "d" [element] element := ⟨[], [], rfl, hasId, nofun⟩
    match m with
    | 0 =>
        cases atPlace
        cases own
    | 1 =>
        cases atPlace
        rw [isValue, settles _ rfl, shared.answered 1 (ping "d") asksFirst element last, raw]

end RpcTransport.Gathering
