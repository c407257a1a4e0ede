import Mathlib.Data.Set.Card
import RpcTransport.Proofs.Message.Results
import RpcTransport.Proofs.Session.Subscriptions

/-!
How a call that subscribes ends. It should be all or nothing: the caller gets the id under which its
subscription is entered, or an error, and nothing is entered. It is, unless the answer holds both an
error and a string for a result.
-/

namespace RpcTransport

namespace Session

variable {session before after : Session} {number : Nat} {id : String} {event : Event}

/-! ### Registrations -/

/-- Calls are never forgotten. -/
theorem Linked.length_calls_le (linked : session.Linked) (event : Event) :
    session.calls.length ≤ (session.step event).calls.length := by
  rcases linked.step_cases event with ⟨id, _, refuses | ⟨_, registers⟩ | clashes⟩ |
    ⟨number, id, state, _, ends, _⟩ | rfl | ⟨_, keeps⟩
  · rw [refuses.calls, List.length_append]
    exact Nat.le_add_right _ _
  · rw [registers.calls, List.length_append]
    exact Nat.le_add_right _ _
  · obtain ⟨⟨earlier, _, calls⟩, _⟩ := clashes
    rw [calls, List.length_append, List.length_set]
    exact Nat.le_add_right _ _
  · rw [ends.calls, List.length_set]
  · rw [step_teardown, linked.teardown_calls.1, List.length_map]
  · rw [keeps.calls]

/-- The end of another call leaves the registration of a call that waits. -/
theorem Linked.pending_erase (linked : session.Linked) {place : Nat} {other : String}
    (otherWaits : session.calls[place]? = some (.waiting other)) (different : place ≠ number)
    (waits : session.calls[number]? = some (.waiting id)) :
    (session.pending.erase other)[id]? = session.pending[id]? := by
  rw [CallTable.getElem?_erase, if_neg]
  rintro rfl
  exact different (linked.number_unique otherWaits waits)

/-- A call that still waits after an event has waited before, under the same registration. -/
theorem Linked.registration_step (linked : session.Linked) (old : number < session.calls.length)
    (waits : (session.step event).calls[number]? = some (.waiting id)) :
    session.calls[number]? = some (.waiting id) ∧
      (session.step event).pending[id]? = session.pending[id]? := by
  rcases linked.step_cases event with ⟨other, _, refuses | ⟨_, registers⟩ | clashes⟩ |
    ⟨place, other, ended, ending, ends, _⟩ | rfl | ⟨_, keeps⟩
  · rw [refuses.calls, List.getElem?_append_left old] at waits
    exact ⟨waits, by rw [refuses.pending]⟩
  · rw [registers.calls, List.getElem?_append_left old] at waits
    refine ⟨waits, ?_⟩
    rw [registers.pending, CallTable.getElem?_insert, if_neg]
    rintro rfl
    obtain ⟨_, registered⟩ := linked.registered waits
    cases registers.fresh.symm.trans registered
  · obtain ⟨⟨earlier, earlierWaits, calls⟩, pending, _⟩ := clashes
    rw [calls, List.getElem?_append_left (by rwa [List.length_set])] at waits
    obtain ⟨different, waited⟩ := waits_of_set (fun _ => finished_ne_waiting) waits
    exact ⟨waited, pending ▸ linked.pending_erase earlierWaits different waited⟩
  · rw [ends.calls] at waits
    obtain ⟨different, waited⟩ := waits_of_set (fun _ => ending_ne_waiting ending) waits
    exact ⟨waited, ends.pending ▸ linked.pending_erase ends.waited different waited⟩
  · exact absurd waits linked.teardown_ne_waiting
  · rw [keeps.calls] at waits
    exact ⟨waits, by rw [keeps.pending]⟩

theorem Linked.registration_run (linked : session.Linked) (old : number < session.calls.length)
    {events : List Event} (waits : (session.run events).calls[number]? = some (.waiting id)) :
    session.calls[number]? = some (.waiting id) ∧
      (session.run events).pending[id]? = session.pending[id]? := by
  induction events generalizing session with
  | nil => exact ⟨waits, rfl⟩
  | cons event rest inductionHypothesis =>
      have stillOld := Nat.lt_of_lt_of_le old (linked.length_calls_le event)
      obtain ⟨waitsAfter, registration⟩ := inductionHypothesis (linked.step event) stillOld waits
      obtain ⟨waited, sameRegistration⟩ := linked.registration_step old waitsAfter
      exact ⟨waited, registration.trans sameRegistration⟩

/-- A request begins a call. If the call waits, it is registered. -/
theorem Linked.registered_of_send (linked : session.Linked) (request : Request)
    (subscription : Option Subscription) :
    let sent := (session.send request subscription).2
    session.calls.length < sent.calls.length ∧
      (sent.calls[session.calls.length]? = some (.waiting id) →
        sent.pending[request.id]? = some ⟨session.calls.length, subscription⟩) := by
  intro sent
  have refused : ∀ {calls : List CallState}, calls.length = session.calls.length →
      sent.calls = calls ++ [closed] → session.calls.length < sent.calls.length ∧
        (sent.calls[session.calls.length]? = some (.waiting id) →
          sent.pending[request.id]? = some ⟨session.calls.length, subscription⟩) := by
    intro calls same isSent
    rw [isSent, ← same, List.getElem?_concat_length]
    exact ⟨by simp, fun waits => nomatch waits⟩
  rcases linked.send_cases request subscription with refuses | registers | ⟨⟨_, _, calls⟩, _⟩
  · exact refused rfl refuses.calls
  · rw [show sent.calls = _ from registers.calls, show sent.pending = _ from registers.pending,
      CallTable.getElem?_insert]
    exact ⟨by simp, fun _ => if_pos rfl⟩
  · exact refused List.length_set calls

/-- A call that subscribes and still waits is registered with its subscription. -/
theorem Linked.registered_of_subscribe (linked : session.Linked)
    {method name : String} {params : List Json} {sink : Nat} {later : List Event}
    (waits : (session.run (.subscribe id method name params sink :: later)).calls[
      session.calls.length]? = some (.waiting id)) :
    (session.run (.subscribe id method name params sink :: later)).pending[id]? =
      some ⟨session.calls.length, some ⟨method, sink⟩⟩ := by
  obtain ⟨began, registers⟩ :=
    linked.registered_of_send (.make id method (.string name :: params)) (some ⟨method, sink⟩)
  obtain ⟨waitsFirst, registration⟩ :=
    (linked.step (.subscribe id method name params sink)).registration_run began waits
  exact registration.trans (registers waitsFirst)

/-! ### Senders -/

/-- The values of a table are those that its keys lead to. -/
theorem values_any {α : Type} (table : Std.ExtTreeMap String α) (p : α → Bool) :
    table.values.any p = true ↔
      ∃ (key : String) (value : α), table[key]? = some value ∧ p value = true := by
  have values : table.values = table.toList.map Prod.snd := by
    obtain ⟨⟨entries⟩⟩ := table
    induction entries using Quotient.ind with
    | _ entries =>
        show Std.DTreeMap.Internal.Impl.values entries.inner =
          (Std.DTreeMap.Internal.Impl.Const.toList entries.inner).map Prod.snd
        rw [Std.DTreeMap.Internal.Impl.values_eq_map_snd,
          Std.DTreeMap.Internal.Impl.Const.toList_eq_toListModel_map, List.map_map]
        rfl
  rw [values, List.any_map, List.any_eq_true]
  constructor
  · rintro ⟨⟨key, value⟩, member, holds⟩
    exact ⟨key, value, Std.ExtTreeMap.mem_toList_iff_getElem?_eq_some.mp member, holds⟩
  · rintro ⟨key, value, found, holds⟩
    exact ⟨(key, value), Std.ExtTreeMap.mem_toList_iff_getElem?_eq_some.mpr found, holds⟩

/-- A table has as many entries as there are keys that lead anywhere. -/
theorem size_eq_ncard {α : Type} (table : Std.ExtTreeMap String α) :
    table.size = {key : String | table[key]?.isSome}.ncard := by
  have keys : {key : String | table[key]?.isSome} = (table.keys.toFinset : Set String) := by
    ext key
    rw [Finset.mem_coe, List.mem_toFinset, Std.ExtTreeMap.mem_keys,
      Std.ExtTreeMap.mem_iff_isSome_getElem?]
    rfl
  rw [keys, Set.ncard_coe_finset, List.toFinset_card_of_nodup Std.ExtTreeMap.nodup_keys,
    Std.ExtTreeMap.length_keys]

/-- Who can hold a sender of a mailbox: a subscription, under its id, or a call that subscribes,
under the id of its request. -/
inductive Holder
  | subscription (id : String)
  | call (id : String)

/-- Whether somebody holds a sender of a mailbox. -/
def Holds (session : Session) (sink : Nat) : Holder → Prop
  | .subscription id => ∃ entry, session.feeds.table[id]? = some entry ∧ entry.sink = sink
  | .call id => ∃ awaited, session.pending[id]? = some awaited ∧ awaited.sink? = some sink

/-- A mailbox is served as long as somebody holds a sender of it. -/
theorem serves_iff {sink : Nat} : session.serves sink = true ↔ ∃ holder, session.Holds sink holder := by
  rw [serves, Feeds.serves, Bool.or_eq_true, values_any, values_any]
  constructor
  · rintro (⟨id, entry, found, same⟩ | ⟨id, awaited, found, same⟩)
    · exact ⟨.subscription id, entry, found, eq_of_beq same⟩
    · exact ⟨.call id, awaited, found, eq_of_beq same⟩
  · rintro ⟨id | id, held⟩
    · obtain ⟨entry, found, same⟩ := held
      exact Or.inl ⟨id, entry, found, beq_iff_eq.mpr same⟩
    · obtain ⟨awaited, found, same⟩ := held
      exact Or.inr ⟨id, awaited, found, beq_iff_eq.mpr same⟩

/-! ### All or nothing -/

/-- The id of a subscription is a string for a result, without an error. -/
theorem subscribed_eq_ok {message : Envelope} {subscribed : String} :
    Session.subscribed (.ok message) = .ok subscribed ↔
      message.result = some (.string subscribed) ∧ message.error = none := by
  show message.decodeResult .string = _ ↔ _
  constructor
  · intro read
    obtain ⟨value, succeeded, isString⟩ := bind_eq_ok.mp read
    have noError := Envelope.error_eq_none_of_intoResult succeeded
    obtain ⟨result, _⟩ := ((Envelope.surfaces_of_noError noError).success noError value).mp succeeded
    cases value with
    | string text =>
        cases isString
        exact ⟨result, noError⟩
    | _ => cases isString
  · rintro ⟨result, noError⟩
    have succeeded := ((Envelope.surfaces_of_noError noError).success noError (.string subscribed)).mpr
      ⟨result, fun same => nomatch same⟩
    exact bind_eq_ok.mpr ⟨_, succeeded, rfl⟩

/-- Between two moments a call gives up its sender of a mailbox, and nothing else changes about who
holds one. From then on the mailbox is served by the others only. -/
structure Releases (before after : Session) (id : String) (sink : Nat) : Prop where
  holds : ∀ holder, after.Holds sink holder ↔ before.Holds sink holder ∧ holder ≠ .call id
  serves : after.serves sink = true ↔ ∃ holder, before.Holds sink holder ∧ holder ≠ .call id

/-- When a call is over and nothing was entered, its sender is gone, and all others are there. -/
theorem releases_of_erase (pending : after.pending = before.pending.erase id)
    (table : after.feeds.table = before.feeds.table) (sink : Nat) :
    Releases before after id sink := by
  have holds : ∀ holder,
      after.Holds sink holder ↔ before.Holds sink holder ∧ holder ≠ .call id := by
    intro holder
    cases holder with
    | subscription other =>
        rw [Holds, Holds, table]
        exact (and_iff_left fun same => nomatch same).symm
    | call other =>
        rw [Holds, Holds, pending, CallTable.getElem?_erase]
        by_cases same : id = other
        · subst same
          simp
        · rw [if_neg same, and_iff_left]
          intro sameHolder
          exact same (Holder.call.inj sameHolder).symm
  exact ⟨holds, serves_iff.trans (exists_congr holds)⟩

/-- A call that subscribes ends with the id under which its subscription has been entered, and no
other id has changed; or it ends with an error, no id has changed, and its sender is gone. -/
def AllOrNothing (before after : Session) (id : String) (subscription : Subscription) :
    Outcome String → Prop
  | .ok subscribed => ∀ other : String, after.feeds.table[other]? =
      if other = subscribed then some subscription else before.feeds.table[other]?
  | .error _ => after.feeds.table = before.feeds.table ∧
      Releases before after id subscription.sink

/-- What the answer to a call that subscribes does to the subscriptions. -/
theorem Linked.table_of_answer (linked : session.Linked) {subscription : Subscription}
    (registered : session.pending[id]? = some ⟨number, some subscription⟩) {bytes : Bytes}
    {message : Envelope} (answers : answerIn? id bytes = some message) :
    (∃ subscribed, message.result = some (.string subscribed) ∧
      (session.frame bytes).feeds.table = session.feeds.table.insert subscribed subscription) ∨
    (∀ subscribed, message.result ≠ some (.string subscribed)) ∧
      (session.frame bytes).feeds.table = session.feeds.table := by
  have feeds := linked.frame_feeds_of_answer registered answers
  by_cases begins : ∃ subscribed, message.result = some (.string subscribed)
  · obtain ⟨subscribed, result⟩ := begins
    refine Or.inl ⟨subscribed, result, ?_⟩
    rw [feeds, begun?_eq_some.mpr ⟨rfl, result⟩]
    rfl
  · refine Or.inr ⟨fun subscribed result => begins ⟨subscribed, result⟩, ?_⟩
    rw [feeds]
    cases begun : begun? ⟨number, some subscription⟩ message with
    | none => rfl
    | some entry => exact absurd ⟨_, (begun?_eq_some.mp begun).2⟩ begins

/-- A call that subscribes comes to what its answer says. -/
theorem Linked.outcome_of_answer (linked : session.Linked)
    (waits : session.calls[number]? = some (.waiting id)) {bytes : Bytes} {message : Envelope}
    (answers : answerIn? id bytes = some message) :
    ((session.frame bytes).outcome? number).map subscribed = some (subscribed (.ok message)) := by
  have ends := linked.frame_of_answer waits answers
  obtain ⟨bound, _⟩ := List.getElem?_eq_some_iff.mp waits
  have finished : (session.frame bytes).outcome? number = some (.ok message) := by
    rw [outcome?_eq_some, ends.calls, List.getElem?_set_self bound]
  rw [finished, Option.map_some]

/-- An answer makes all or nothing of a subscription just if it holds no error next to a string for
a result, or the string has led to this subscription anyway. -/
theorem Linked.allOrNothing_iff (linked : session.Linked) {subscription : Subscription}
    (registered : session.pending[id]? = some ⟨number, some subscription⟩) {bytes : Bytes}
    {message : Envelope} (answers : answerIn? id bytes = some message) :
    AllOrNothing session (session.frame bytes) id subscription (subscribed (.ok message)) ↔
      message.error = none ∨ ∀ subscribed : String, message.result = some (.string subscribed) →
        session.feeds.table[subscribed]? = some subscription := by
  have ends := linked.frame_of_answer (linked.waiting registered) answers
  rcases linked.table_of_answer registered answers with ⟨entered, result, table⟩ | ⟨noId, table⟩
  · by_cases noError : message.error = none
    · rw [subscribed_eq_ok.mpr ⟨result, noError⟩]
      refine iff_of_true ?_ (Or.inl noError)
      intro other
      rw [table, SubscriptionTable.getElem?_insert]
      exact if_congr eq_comm rfl rfl
    · cases outcome : Session.subscribed (.ok message) with
      | ok other => exact absurd (subscribed_eq_ok.mp outcome).2 noError
      | error failure =>
          constructor
          · rintro ⟨same, _⟩
            refine Or.inr fun other isResult => ?_
            cases result.symm.trans isResult
            rw [← same, table, SubscriptionTable.getElem?_insert, if_pos rfl]
          · intro visible
            have there := (visible.resolve_left noError) entered result
            have same : (session.frame bytes).feeds.table = session.feeds.table := by
              rw [table, SubscriptionTable.insert_eq_self there]
            exact ⟨same, releases_of_erase ends.pending same _⟩
  · refine iff_of_true ?_ (Or.inr fun other isResult => absurd isResult (noId other))
    cases outcome : Session.subscribed (.ok message) with
    | ok other => exact absurd (subscribed_eq_ok.mp outcome).1 (noId other)
    | error failure => exact ⟨table, releases_of_erase ends.pending table _⟩

/-- Subscribing is all or nothing, unless the answer holds an error next to a string for a result.
Then the caller gets the error, and its subscription is entered all the same. -/
theorem subscribing_all_or_nothing_iff {url : String} {config : WebSocketConfig}
    (made : make url config = .ok session) {earlier later : List Event}
    {id method name : String} {params : List Json} {sink : Nat}
    (waits : (session.run (earlier ++ .subscribe id method name params sink :: later)).calls[
      (session.run earlier).calls.length]? = some (.waiting id))
    {bytes : Bytes} {message : Envelope} (answers : answerIn? id bytes = some message) :
    let before := session.run (earlier ++ .subscribe id method name params sink :: later)
    let after := before.frame bytes
    let subscription : Subscription := ⟨method, sink⟩
    ∃ outcome,
      (after.outcome? (session.run earlier).calls.length).map subscribed = some outcome ∧
      (AllOrNothing before after id subscription outcome ↔
        message.error = none ∨ ∀ subscribed : String, message.result = some (.string subscribed) →
          before.feeds.table[subscribed]? = some subscription) ∧
      ∀ (error : RpcError) (subscribed : String), message.error = some error →
        message.result = some (.string subscribed) →
        outcome = .error (Envelope.errorOf error) ∧
          after.feeds.table[subscribed]? = some subscription := by
  intro before after subscription
  have linked : before.Linked := (linked_of_make made).run _
  have registered : before.pending[id]? =
      some ⟨(session.run earlier).calls.length, some subscription⟩ := by
    have split : before = (session.run earlier).run (.subscribe id method name params sink :: later) :=
      run_append _ _ _
    have waitsHere : before.calls[(session.run earlier).calls.length]? = some (.waiting id) := waits
    rw [split] at waitsHere ⊢
    exact ((linked_of_make made).run earlier).registered_of_subscribe waitsHere
  refine ⟨subscribed (.ok message), linked.outcome_of_answer waits answers,
    linked.allOrNothing_iff registered answers, ?_⟩
  intro error subscribed reports result
  constructor
  · have notNull : message.result ≠ some .null := by
      rw [result]
      exact fun same => nomatch same
    exact Envelope.decodeResult_of_intoResult_error
      (Envelope.intoResult_of_error reports notNull) .string
  · have begins : Begins before (.frame bytes) subscribed subscription :=
      ⟨bytes, id, _, message, rfl, registered, answers, result⟩
    have feeds : after.feeds = before.feeds.insert subscribed subscription :=
      linked.feeds_of_begins begins
    rw [feeds, Feeds.insert, SubscriptionTable.getElem?_insert, if_pos rfl]

/-- A session comes into use. -/
def connecting : List Event :=
  [.start, .dialSucceeded 0, .launch 0, .openMailbox 1]

/-- Then somebody subscribes. -/
def subscribing : List Event :=
  connecting ++ [.subscribe "s" "eth_subscribe" "newHeads" [] 0]

/-- An answer that holds a string for a result, and no error. -/
def answeredWithId : Bytes :=
  bytesOf "\x7b\"id\":\"s\",\"result\":\"0xh\"\x7d"

/-- It makes all of the subscription. -/
theorem subscribing_all_or_nothing_of_answer :
    make "ws://node" {} = .ok idleSession ∧
      (idleSession.run subscribing).calls[0]? = some (.waiting "s") ∧
      ∃ message, answerIn? "s" answeredWithId = some message ∧
        ∃ outcome, (((idleSession.run subscribing).frame answeredWithId).outcome? 0).map subscribed =
            some outcome ∧
          AllOrNothing (idleSession.run subscribing)
            ((idleSession.run subscribing).frame answeredWithId) "s" ⟨"eth_subscribe", 0⟩
            outcome := by
  have made : make "ws://node" {} = .ok idleSession := rfl
  have waits : (idleSession.run (connecting ++
      .subscribe "s" "eth_subscribe" "newHeads" [] 0 :: [])).calls[
        (idleSession.run connecting).calls.length]? = some (.waiting "s") := rfl
  obtain ⟨message, answers, noError⟩ : ∃ message, answerIn? "s" answeredWithId = some message ∧
      message.error = none := ⟨_, rfl, rfl⟩
  obtain ⟨outcome, isOutcome, exact, _⟩ := subscribing_all_or_nothing_iff made waits answers
  exact ⟨made, waits, message, answers, outcome, isOutcome, exact.mpr (Or.inl noError)⟩

/-- An answer that holds an error, and a string for a result. -/
def failedWithId : Bytes :=
  bytesOf "\x7b\"id\":\"s\",\"result\":\"0xh\",\"error\":\x7b\"code\":-32000,\"message\":\"busy\"\x7d\x7d"

/-- The caller gets the error, but its subscription is entered. -/
theorem failed_subscribing_enters :
    make "ws://node" {} = .ok idleSession ∧
      (idleSession.run subscribing).calls[0]? = some (.waiting "s") ∧
      (idleSession.run subscribing).feeds.table["0xh"]? = none ∧
      ((idleSession.run subscribing).frame failedWithId).feeds.table["0xh"]? =
        some ⟨"eth_subscribe", 0⟩ ∧
      ∃ failure, (((idleSession.run subscribing).frame failedWithId).outcome? 0).map subscribed =
          some (.error failure) ∧
        ¬ AllOrNothing (idleSession.run subscribing)
          ((idleSession.run subscribing).frame failedWithId) "s" ⟨"eth_subscribe", 0⟩
          (.error failure) := by
  have absent : (idleSession.run subscribing).feeds.table["0xh"]? = none := rfl
  have entered : ((idleSession.run subscribing).frame failedWithId).feeds.table["0xh"]? =
      some ⟨"eth_subscribe", 0⟩ := rfl
  refine ⟨rfl, rfl, absent, entered, _, rfl, ?_⟩
  rintro ⟨same, _⟩
  rw [same, absent] at entered
  cases entered

end Session

end RpcTransport
