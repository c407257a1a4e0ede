import RpcTransport.Proofs.Session.Subscribing

/-!
What reaches subscribers. The value of a notification arrives in the mailbox to which its id leads
at that moment, if the mailbox is open and has room. What a subscriber has read, and after it what
still waits in its mailbox, is what has arrived, in the order in which it came. A subscriber that
goes away is one that takes no more values and reads no more.
-/

namespace RpcTransport

namespace Mailboxes

variable {boxes : Mailboxes} {sink place : Nat}

/-- A mailbox is open and has room for another value. -/
def HasRoom (boxes : Mailboxes) (sink : Nat) : Prop :=
  ∃ box, boxes[sink]? = some box ∧ box.isOpen = true ∧ box.queue.length < box.capacity

/-- Values are delivered where there is room. -/
theorem answer_eq_delivered : boxes.answer sink = .delivered ↔ boxes.HasRoom sink := by
  rw [HasRoom, answer]
  cases boxes[sink]? with
  | none => simp
  | some box =>
      simp only [Option.elim_some, Mailbox.answer, Mailbox.isFull, Option.some.injEq,
        exists_eq_left']
      cases box.isOpen <;> simp

instance : Decidable (boxes.HasRoom sink) :=
  decidable_of_iff (boxes.answer sink = .delivered) answer_eq_delivered

theorem unread_modify_ne (different : place ≠ sink) (f : Mailbox → Mailbox) :
    Mailboxes.unread sink (boxes.modify place f) = boxes.unread sink := by
  rw [unread, unread, List.getElem?_modify_ne _ _ different]

theorem unread_close : (boxes.close place).unread sink = boxes.unread sink := by
  rw [close, unread, unread, List.getElem?_modify]
  cases boxes[sink]? with
  | none => rfl
  | some box =>
      by_cases here : place = sink
      · simp [here, Mailbox.close]
      · simp [here]

theorem unread_add (capacity : Nat) : (boxes.add capacity).2.unread sink = boxes.unread sink := by
  rw [add, unread, unread]
  rcases Nat.lt_trichotomy sink boxes.length with before | rfl | after
  · rw [List.getElem?_append_left before]
  · rw [List.getElem?_concat_length, List.getElem?_eq_none (Nat.le_refl _)]
    rfl
  · rw [List.getElem?_eq_none (Nat.le_of_lt after), List.getElem?_eq_none]
    rw [List.length_append]
    exact after

/-- A value that finds room comes last, and all others are lost. -/
theorem unread_push (value : Json) : (boxes.push sink value).unread sink =
    boxes.unread sink ++ if boxes.HasRoom sink then [value] else [] := by
  rw [← if_congr answer_eq_delivered rfl rfl, push, unread, unread, List.getElem?_modify_eq, Mailboxes.answer]
  cases boxes[sink]? with
  | none => rfl
  | some box =>
      show (box.push value).queue = box.queue ++ if box.answer = .delivered then [value] else []
      unfold Mailbox.push
      split
      · rfl
      · exact (List.append_nil _).symm

end Mailboxes

/-- The value that a subscriber sees, if it sees one. -/
def Received.value? : Received → Option Json
  | .item value => some value
  | .nothing | .disconnected => none

/-- Whoever reads takes away the first value. -/
theorem Mailboxes.receive_unread (boxes : Mailboxes) (hasSender : Bool) (sink : Nat) :
    (boxes.receive hasSender sink).1.value?.toList ++ (boxes.receive hasSender sink).2.unread sink =
      boxes.unread sink := by
  cases waiting : boxes.unread sink with
  | nil =>
      simp only [receive, waiting]
      split <;> rfl
  | cons value rest =>
      simp only [receive, waiting, Received.value?, Option.toList_some, List.singleton_append]
      obtain ⟨box, found⟩ : ∃ box, boxes[sink]? = some box := by
        refine Option.ne_none_iff_exists'.mp fun absent => ?_
        rw [unread, absent] at waiting
        cases waiting
      rw [unread, List.getElem?_modify_eq, found]
      rfl

/-- A value for an id that leads to a subscription comes into the mailbox of the subscription, if
there is room, and into no other. -/
theorem Feeds.dispatch_unread {feeds : Feeds} {id : String} {value : Json}
    {subscription : Subscription} (leads : feeds.table[id]? = some subscription) {sink : Nat} :
    (feeds.dispatch id value).mailboxes.unread sink = feeds.mailboxes.unread sink ++
      if subscription.sink = sink ∧ feeds.mailboxes.HasRoom sink then [value] else [] := by
  simp only [dispatch, leads]
  by_cases here : subscription.sink = sink
  · subst here
    split
    · next closed =>
        have noRoom : ¬ feeds.mailboxes.HasRoom subscription.sink := by
          intro room
          rw [Mailboxes.answer_eq_delivered.mpr room] at closed
          cases closed
        rw [if_neg fun both => noRoom both.2, List.append_nil]
        rfl
    · simp only [Mailboxes.unread_push, true_and]
  · have nothing : ¬ (subscription.sink = sink ∧ feeds.mailboxes.HasRoom sink) :=
      fun both => here both.1
    rw [if_neg nothing, List.append_nil]
    split
    · rfl
    · exact Mailboxes.unread_modify_ne here _

namespace Session

variable {session : Session} {event : Event} {subscription : Subscription} {sink : Nat}

/-! ### What an event brings -/

/-- The value that an event brings into a mailbox: the event is a frame that holds a notification,
the id leads to the mailbox, and the mailbox is open and has room. -/
def arrival? (sink : Nat) (session : Session) : Event → Option Json
  | .frame bytes => do
    let notice ← noticeIn? bytes
    let subscription ← session.feeds.table[notice.subscription]?
    if subscription.sink = sink ∧ session.feeds.mailboxes.HasRoom sink then some notice.result
    else none
  | _ => none

/-- The value that the subscriber of a mailbox reads by an event. -/
def reading? (sink : Nat) (session : Session) : Event → Option Json
  | .receive other =>
    if other = sink then
      (session.feeds.mailboxes.receive (session.serves sink) sink).1.value?
    else none
  | _ => none

/-- What it takes for a value to arrive in a mailbox. -/
theorem arrival?_eq_some {value : Json} : arrival? sink session event = some value ↔
    ∃ bytes notice subscription, event = .frame bytes ∧ noticeIn? bytes = some notice ∧
      session.feeds.table[notice.subscription]? = some subscription ∧ subscription.sink = sink ∧
      session.feeds.mailboxes.HasRoom sink ∧ notice.result = value := by
  constructor
  · intro arrives
    cases event with
    | frame bytes =>
        obtain ⟨notice, holds, arrives⟩ := Option.bind_eq_some_iff.mp arrives
        obtain ⟨subscription, leads, arrives⟩ := Option.bind_eq_some_iff.mp arrives
        split at arrives
        · next here =>
            cases arrives
            exact ⟨bytes, notice, subscription, rfl, holds, leads, here.1, here.2, rfl⟩
        · cases arrives
    | _ => cases arrives
  · rintro ⟨bytes, notice, subscription, rfl, holds, leads, here, room, rfl⟩
    simp [arrival?, holds, leads, here, room]

/-- A notification does not arrive where its id does not lead. -/
theorem arrival?_eq_none {bytes : Bytes} {notice : Notification}
    (holds : noticeIn? bytes = some notice)
    (elsewhere : ∀ subscription, session.feeds.table[notice.subscription]? = some subscription →
      subscription.sink ≠ sink) :
    arrival? sink session (.frame bytes) = none := by
  refine Option.eq_none_iff_forall_ne_some.mpr fun value arrives => ?_
  obtain ⟨_, other, subscription, same, otherHolds, leads, here, _⟩ := arrival?_eq_some.mp arrives
  cases same
  cases holds.symm.trans otherHolds
  exact elsewhere subscription leads here

/-! ### The balance of a mailbox -/

/-- What waits in a mailbox after a frame is what waited there, and then what the frame brings. -/
theorem Linked.frame_unread (linked : session.Linked) (bytes : Bytes) (sink : Nat) :
    (session.frame bytes).feeds.mailboxes.unread sink =
      session.feeds.mailboxes.unread sink ++ (arrival? sink session (.frame bytes)).toList := by
  cases holds : noticeIn? bytes with
  | none =>
      -- an answer may enter a subscription, but it puts nothing into a mailbox
      have mailboxes : (session.frame bytes).feeds.mailboxes = session.feeds.mailboxes := by
        by_cases begun : ∃ id subscription, Begins session (.frame bytes) id subscription
        · obtain ⟨id, subscription, begins⟩ := begun
          show (session.step (.frame bytes)).feeds.mailboxes = _
          rw [linked.feeds_of_begins begins, Feeds.insert]
        · rw [linked.frame_feeds_of_other holds fun id subscription begins =>
            begun ⟨id, subscription, begins⟩]
      rw [mailboxes]
      simp [arrival?, holds]
  | some notice =>
      rw [frame_of_notice holds]
      simp only [arrival?, holds, Option.bind_eq_bind, Option.bind_some]
      cases leads : session.feeds.table[notice.subscription]? with
      | none =>
          simp only [Feeds.dispatch, leads, Option.bind_none, Option.toList_none, List.append_nil]
      | some subscription =>
          rw [Feeds.dispatch_unread leads, Option.bind_some, apply_ite Option.toList]
          rfl

theorem teardown_mailboxes (session : Session) :
    session.teardown.feeds.mailboxes = session.feeds.mailboxes := by
  unfold teardown
  split <;> rfl

/-- What is read by an event and what waits after it is what waited before and what the event
brings. -/
theorem Linked.balance_step (linked : session.Linked) (sink : Nat) (event : Event) :
    (reading? sink session event).toList ++ (session.step event).feeds.mailboxes.unread sink =
      session.feeds.mailboxes.unread sink ++ (arrival? sink session event).toList := by
  have untouched : (session.step event).feeds.mailboxes.unread sink =
        session.feeds.mailboxes.unread sink →
      [] ++ (session.step event).feeds.mailboxes.unread sink =
        session.feeds.mailboxes.unread sink ++ [] := by
    intro same
    rw [List.nil_append, List.append_nil, same]
  cases event with
  | frame bytes => exact linked.frame_unread bytes sink
  | receive other =>
      by_cases here : other = sink
      · subst here
        rw [reading?, if_pos rfl, show arrival? other session (.receive other) = none from rfl,
          Option.toList_none, List.append_nil]
        exact Mailboxes.receive_unread _ _ _
      · rw [reading?, if_neg here]
        refine untouched ?_
        show Mailboxes.unread sink (Mailboxes.receive _ _ _).2 = _
        unfold Mailboxes.receive
        split
        · exact Mailboxes.unread_modify_ne here _
        · rfl
  | openMailbox capacity => exact untouched (Mailboxes.unread_add capacity)
  | closeMailbox other => exact untouched Mailboxes.unread_close
  | unsubscribe id subscribed =>
      exact untouched (congrArg _ (unsubscribe_feeds id subscribed).1)
  | teardown => exact untouched (congrArg _ session.teardown_mailboxes)
  | _ => exact untouched (congrArg (·.mailboxes.unread sink) (step_feeds rfl))

/-- What the events of a run yield, one after the other. -/
def yields (yield? : Session → Event → Option Json) (session : Session) : List Event → List Json
  | [] => []
  | event :: rest => (yield? session event).toList ++ yields yield? (session.step event) rest

/-- The values that arrive in a mailbox during a run. -/
def arrivals (sink : Nat) (session : Session) (events : List Event) : List Json :=
  session.yields (arrival? sink) events

/-- The values that are read from a mailbox during a run. -/
def reads (sink : Nat) (session : Session) (events : List Event) : List Json :=
  session.yields (reading? sink) events

theorem yields_append {yield? : Session → Event → Option Json} {earlier later : List Event} :
    session.yields yield? (earlier ++ later) =
      session.yields yield? earlier ++ (session.run earlier).yields yield? later := by
  induction earlier generalizing session with
  | nil => rfl
  | cons event rest inductionHypothesis =>
      rw [List.cons_append, yields, yields, inductionHypothesis, List.append_assoc]
      rfl

/-- What is read during a run and what waits after it is what waited before and what has arrived. -/
theorem Linked.balance_run (linked : session.Linked) (sink : Nat) (events : List Event) :
    session.reads sink events ++ (session.run events).feeds.mailboxes.unread sink =
      session.feeds.mailboxes.unread sink ++ session.arrivals sink events := by
  induction events generalizing session with
  | nil => exact (List.append_nil _).symm
  | cons event rest inductionHypothesis =>
      have later := inductionHypothesis (linked.step event)
      calc (reading? sink session event).toList ++ (session.step event).reads sink rest ++
            ((session.step event).run rest).feeds.mailboxes.unread sink
        _ = (reading? sink session event).toList ++
              (session.step event).feeds.mailboxes.unread sink ++
              (session.step event).arrivals sink rest := by
            rw [List.append_assoc, later, List.append_assoc]
        _ = session.feeds.mailboxes.unread sink ++ ((arrival? sink session event).toList ++
              (session.step event).arrivals sink rest) := by
            rw [linked.balance_step, List.append_assoc]

/-- Nothing arrives after a teardown. -/
theorem Torn.arrivals_eq_nil (torn : session.Torn) (sink : Nat) (events : List Event) :
    session.arrivals sink events = [] := by
  induction events generalizing session with
  | nil => rfl
  | cons event rest inductionHypothesis =>
      have nothing : arrival? sink session event = none := by
        refine Option.eq_none_iff_forall_ne_some.mpr fun value arrives => ?_
        obtain ⟨_, _, _, _, _, leads, _⟩ := arrival?_eq_some.mp arrives
        rw [torn.table] at leads
        simp at leads
      rw [arrivals, yields, nothing]
      exact inductionHypothesis (torn.step event).1

/-! ### Delivery -/

/-- How values reach the subscribers of a session, whatever happens. -/
structure Delivers (session : Session) : Prop where
  /-- What has been read from a mailbox, and then what waits in it, is what has arrived in it. -/
  exact : ∀ sink events,
    session.reads sink events ++ (session.run events).feeds.mailboxes.unread sink =
      session.arrivals sink events
  /-- A value arrives in one mailbox at most. -/
  once : ∀ events event sink value other otherValue,
    arrival? sink (session.run events) event = some value →
    arrival? other (session.run events) event = some otherValue → sink = other
  /-- Once an answer has begun a subscription, notifications that find room arrive, from the first
  one after the answer until the id is begun anew or ended. -/
  prompt : ∀ earlier opening middle subscription bytes notice,
    Begins (session.run earlier) opening notice.subscription subscription →
    (session.run (earlier ++ [opening])).Undisturbed middle notice.subscription →
    noticeIn? bytes = some notice →
    (session.run (earlier ++ opening :: middle)).feeds.mailboxes.HasRoom subscription.sink →
    arrival? subscription.sink (session.run (earlier ++ opening :: middle)) (.frame bytes) =
      some notice.result
  /-- A notification under an id that was never given to a subscription of this mailbox does not
  arrive in it. -/
  separate : ∀ sink events bytes notice, noticeIn? bytes = some notice →
    session.Throughout (fun session event => ∀ subscription,
      Begins session event notice.subscription subscription → subscription.sink ≠ sink) events →
    arrival? sink (session.run events) (.frame bytes) = none
  /-- After an id was given anew, its notifications arrive in no other mailbox than the new one. -/
  newest : ∀ sink earlier opening middle newer bytes notice,
    Begins (session.run earlier) opening notice.subscription newer →
    (session.run (earlier ++ [opening])).Unbegun middle notice.subscription →
    noticeIn? bytes = some notice → sink ≠ newer.sink →
    arrival? sink (session.run (earlier ++ opening :: middle)) (.frame bytes) = none
  /-- After somebody has unsubscribed, notifications under the id do not arrive, as long as the id
  was not given anew. -/
  unsubscribed : ∀ sink earlier id middle bytes notice,
    (session.run (earlier ++ [.unsubscribe id notice.subscription])).Unbegun middle
      notice.subscription →
    noticeIn? bytes = some notice →
    arrival? sink (session.run (earlier ++ .unsubscribe id notice.subscription :: middle))
      (.frame bytes) = none
  /-- After a teardown nothing arrives anywhere. -/
  torn : ∀ sink earlier later,
    session.arrivals sink (earlier ++ .teardown :: later) = session.arrivals sink earlier

/-- Subscribers get the notifications under their ids, in order and once, while their mailboxes take
them. -/
theorem subscribers_get_notifications {url : String} {config : WebSocketConfig}
    (made : make url config = .ok session) : session.Delivers := by
  have reached := reached_of_make made
  have noTable : session.feeds.table = ∅ := by rw [make_eq_ok made]
  have nothingYet : ∀ sink, session.feeds.mailboxes.unread sink = [] := by
    rw [make_eq_ok made]
    exact fun _ => rfl
  constructor
  case exact =>
    intro sink events
    rw [reached.linked.balance_run, nothingYet, List.nil_append]
  case once =>
    intro events event sink value other otherValue arrives otherArrives
    obtain ⟨_, notice, _, rfl, holds, leads, here, _⟩ := arrival?_eq_some.mp arrives
    obtain ⟨_, _, _, same, otherHolds, otherLeads, otherHere, _⟩ := arrival?_eq_some.mp otherArrives
    cases same
    cases holds.symm.trans otherHolds
    cases leads.symm.trans otherLeads
    exact here.symm.trans otherHere
  case prompt =>
    intro earlier opening middle subscription bytes notice begins undisturbed holds room
    have leads := (reached.mapped_iff noTable).mpr
      ⟨earlier, opening, middle, rfl, begins, undisturbed⟩
    exact arrival?_eq_some.mpr ⟨bytes, notice, subscription, rfl, holds, leads, rfl, room, rfl⟩
  case separate =>
    intro sink events bytes notice holds never
    refine arrival?_eq_none holds fun subscription leads => ?_
    obtain ⟨earlier, opening, later, split, begins, _⟩ := (reached.mapped_iff noTable).mp leads
    exact never earlier opening later split subscription begins
  case newest =>
    intro sink earlier opening middle newer bytes notice begins unbegun holds different
    refine arrival?_eq_none holds fun subscription leads => ?_
    -- the id can only lead where the answer has let it lead
    rw [run_append_cons] at leads
    have still := (reached.run (earlier ++ [opening])).mapped_of_unbegun unbegun leads
    have entered := (reached.mapped_iff noTable).mpr
      ⟨earlier, opening, [], rfl, begins, throughout_nil⟩
    cases entered.symm.trans still
    exact different.symm
  case unsubscribed =>
    intro sink earlier id middle bytes notice unbegun holds
    refine arrival?_eq_none holds fun subscription leads => ?_
    rw [run_append_cons] at leads
    have still := (reached.run _).mapped_of_unbegun unbegun leads
    have closes : Closes (session.run earlier) (.unsubscribe id notice.subscription)
        notice.subscription := Or.inl ⟨id, rfl⟩
    rw [run_concat] at still
    cases ((reached.run earlier).table_of_closes closes).symm.trans still
  case torn =>
    intro sink earlier later
    have torn := (reached.run earlier).linked.torn_teardown (reached.run earlier).torn
    calc session.arrivals sink (earlier ++ .teardown :: later)
      _ = session.arrivals sink earlier ++ (session.run earlier).teardown.arrivals sink later :=
          yields_append
      _ = session.arrivals sink earlier := by
          rw [torn.arrivals_eq_nil, List.append_nil]

/-- A notification under the id of the subscription, whose value is a text. -/
def headNotice (value : String) : Bytes :=
  bytesOf ("\x7b\"method\":\"eth_subscription\",\"params\":\x7b\"subscription\":\"0xh\",\"result\":\"" ++
    value ++ "\"\x7d\x7d")

/-- The mailbox has room for one value; one is read, and in the end somebody unsubscribes. -/
def delivering : List Event :=
  subscribing ++ [.frame answeredWithId, .frame (headNotice "a"), .frame (headNotice "b"),
    .receive 0, .frame (headNotice "c"), .unsubscribe "u" "0xh", .frame (headNotice "d")]

/-- The second value finds no room, and the last one no subscription. -/
theorem subscribers_get_notifications_with_room :
    make "ws://node" {} = .ok idleSession ∧
      idleSession.reads 0 delivering = [.string "a"] ∧
      idleSession.reads 0 delivering ++
        (idleSession.run delivering).feeds.mailboxes.unread 0 = [.string "a", .string "c"] := by
  have made : make "ws://node" {} = .ok idleSession := rfl
  refine ⟨made, rfl, ?_⟩
  calc idleSession.reads 0 delivering ++ (idleSession.run delivering).feeds.mailboxes.unread 0
    _ = idleSession.arrivals 0 delivering := (subscribers_get_notifications made).exact 0 delivering
    _ = [.string "a", .string "c"] := rfl

end Session

end RpcTransport
