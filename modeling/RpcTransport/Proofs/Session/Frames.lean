import RpcTransport.Proofs.Session.Delivery

/-!
What a single frame changes. A frame that answers a call ends this call and enters one subscription
at most; a frame that notifies a subscription changes its mailbox, or forgets its id; and every
other frame changes nothing.
-/

namespace RpcTransport

namespace Mailboxes

variable {boxes : Mailboxes} {sink : Nat} {box : Mailbox}

theorem answer_of_full (found : boxes[sink]? = some box) (isOpen : box.isOpen = true)
    (noRoom : box.capacity ≤ box.queue.length) : boxes.answer sink = .full := by
  simp [answer, found, Mailbox.answer, Mailbox.isFull, isOpen, noRoom]

/-- Values are refused where nobody takes them any more. -/
theorem answer_eq_closed :
    boxes.answer sink = .closed ↔ ∀ box, boxes[sink]? = some box → box.isOpen = false := by
  rw [answer]
  cases boxes[sink]? with
  | none => simp
  | some box =>
      simp only [Option.elim_some, Mailbox.answer, Option.some.injEq, forall_eq']
      cases box.isOpen with
      | false => simp
      | true => cases box.isFull <;> simp

/-- A value finds room, or a full mailbox, or nobody who takes it. -/
theorem answer_cases (boxes : Mailboxes) (sink : Nat) :
    boxes.HasRoom sink ∨ boxes.answer sink = .full ∨ boxes.answer sink = .closed := by
  rw [← answer_eq_delivered, answer]
  cases boxes[sink]? with
  | none => exact Or.inr (Or.inr rfl)
  | some box =>
      simp only [Option.elim_some, Mailbox.answer]
      cases box.isOpen with
      | false => exact Or.inr (Or.inr rfl)
      | true => cases box.isFull <;> simp

theorem push_of_found (found : boxes[sink]? = some box) (value : Json) :
    boxes.push sink value = boxes.set sink (box.push value) := by
  rw [push, List.modify_eq_set_getElem?, found]
  rfl

/-- A value that finds room comes last in its mailbox. -/
theorem push_of_room (found : boxes[sink]? = some box) (isOpen : box.isOpen = true)
    (room : box.queue.length < box.capacity) (value : Json) :
    boxes.push sink value = boxes.set sink { box with queue := box.queue ++ [value] } := by
  have delivered : box.answer = .delivered := by
    simp [Mailbox.answer, Mailbox.isFull, isOpen, room]
  rw [push_of_found found, Mailbox.push, if_pos delivered]

/-- A value that finds no room is lost. -/
theorem push_of_full (full : boxes.answer sink = .full) (value : Json) :
    boxes.push sink value = boxes := by
  cases found : boxes[sink]? with
  | none =>
      rw [answer, found] at full
      cases full
  | some box =>
      rw [answer, found, Option.elim_some] at full
      obtain ⟨bound, rfl⟩ := List.getElem?_eq_some_iff.mp found
      have notDelivered : boxes[sink].answer ≠ .delivered := by
        rw [full]
        decide
      rw [push_of_found found, Mailbox.push, if_neg notDelivered, List.set_getElem_self]

end Mailboxes

namespace Feeds

variable {feeds : Feeds} {id : String} {subscription : Subscription}

/-- A value for an id that leads to a full mailbox is lost. -/
theorem dispatch_of_full (leads : feeds.table[id]? = some subscription)
    (full : feeds.mailboxes.answer subscription.sink = .full) (value : Json) :
    feeds.dispatch id value = feeds := by
  simp [dispatch, leads, full, Mailboxes.push_of_full full]

theorem dispatch_of_room (leads : feeds.table[id]? = some subscription)
    (room : feeds.mailboxes.HasRoom subscription.sink) (value : Json) :
    feeds.dispatch id value =
      { feeds with mailboxes := feeds.mailboxes.push subscription.sink value } := by
  simp [dispatch, leads, Mailboxes.answer_eq_delivered.mpr room]

/-- An id whose subscriber takes no more values is forgotten. -/
theorem dispatch_of_closed (leads : feeds.table[id]? = some subscription)
    (closed : feeds.mailboxes.answer subscription.sink = .closed) (value : Json) :
    feeds.dispatch id value = feeds.remove id := by
  simp [dispatch, leads, closed]

theorem dispatch_of_unknown (unknown : feeds.table[id]? = none) (value : Json) :
    feeds.dispatch id value = feeds := by
  simp [dispatch, unknown]

end Feeds

namespace Session

variable {session before after : Session} {bytes : Bytes} {id : String} {awaited : Awaited}
  {message : Envelope} {notice : Notification} {subscription : Subscription}

/-! ### What frames are for -/

/-- A frame answers a call: it holds an answer, and the call waits under the id of the answer. -/
structure Answers (session : Session) (bytes : Bytes) (id : String) (awaited : Awaited)
    (message : Envelope) : Prop where
  holds : answerIn? id bytes = some message
  registered : session.pending[id]? = some awaited

/-- A frame notifies a subscription: it holds a notification whose id leads to the subscription. -/
structure Notifies (session : Session) (bytes : Bytes) (notice : Notification)
    (subscription : Subscription) : Prop where
  holds : noticeIn? bytes = some notice
  leads : session.feeds.table[notice.subscription]? = some subscription

/-- A frame answers no call and notifies no subscription. -/
structure Misses (session : Session) (bytes : Bytes) : Prop where
  noAnswer : ∀ id awaited message, ¬ session.Answers bytes id awaited message
  noNotice : ∀ notice subscription, ¬ session.Notifies bytes notice subscription

theorem use_cases (session : Session) (bytes : Bytes) :
    (∃ id awaited message, session.Answers bytes id awaited message) ∨
      (∃ notice subscription, session.Notifies bytes notice subscription) ∨
        session.Misses bytes := by
  by_cases answers : ∃ id awaited message, session.Answers bytes id awaited message
  · exact Or.inl answers
  by_cases notifies : ∃ notice subscription, session.Notifies bytes notice subscription
  · exact Or.inr (Or.inl notifies)
  · exact Or.inr (Or.inr
      ⟨fun id awaited message holds => answers ⟨id, awaited, message, holds⟩,
        fun notice subscription holds => notifies ⟨notice, subscription, holds⟩⟩)

/-- A frame that holds an answer holds no notification. -/
theorem noticeIn?_of_answer (answers : answerIn? id bytes = some message) :
    noticeIn? bytes = none := by
  obtain ⟨read, isResponse, _⟩ := answerIn?_eq_some.mp answers
  refine Option.eq_none_iff_forall_ne_some.mpr fun notice holds => ?_
  obtain ⟨other, _, otherRead, isNotification, _⟩ := noticeIn?_eq_some.mp holds
  cases read.symm.trans otherRead
  cases isResponse.symm.trans isNotification

/-! ### Answers -/

/-- The subscriptions after the answer to a call. -/
def entering (awaited : Awaited) (message : Envelope) (feeds : Feeds) : Feeds :=
  (begun? awaited message).elim feeds fun entry => feeds.insert entry.1 entry.2

/-- An answer ends its call and takes it out of the calls that wait; a call that subscribes may
enter its subscription. -/
theorem Linked.frame_of_answers (linked : session.Linked)
    (answers : session.Answers bytes id awaited message) :
    session.frame bytes =
      { session with
        calls := session.calls.set awaited.call (.finished (.ok message))
        pending := session.pending.erase id
        feeds := entering awaited message session.feeds } := by
  obtain ⟨read, isResponse, hasId⟩ := answerIn?_eq_some.mp answers.holds
  have waits := linked.waiting answers.registered
  have connected := linked.connected waits
  simp only [frame, read, isResponse, resolve, hasId, Option.bind_some, answers.registered,
    entering]
  cases begun? awaited message with
  | none => simp only [Option.elim_none, settle, waits]
  | some entry => simp only [Option.elim_some, enter, connected, settle, waits]

theorem entering_eq (awaited : Awaited) (message : Envelope) (feeds : Feeds) :
    entering awaited message feeds =
      { feeds with table := (entering awaited message feeds).table } := by
  unfold entering
  cases begun? awaited message <;> rfl

theorem entering_of_begun {subscribed : String}
    (begun : begun? awaited message = some (subscribed, subscription)) (feeds : Feeds) :
    entering awaited message feeds = feeds.insert subscribed subscription := by
  rw [entering, begun]
  rfl

theorem entering_of_not_begun (notBegun : begun? awaited message = none) (feeds : Feeds) :
    entering awaited message feeds = feeds := by
  rw [entering, notBegun]
  rfl

/-- What an answer does: it ends the one call that waits for it, which gets the message, and it
changes the subscriptions at the id that it brings, if the call subscribes. -/
structure Resolves (before after : Session) (bytes : Bytes) (id : String) (awaited : Awaited)
    (message : Envelope) : Prop where
  waited : before.calls[awaited.call]? = some (.waiting id)
  received : after.outcome? awaited.call = some (.ok message) ∧ message.raw = bytes
  only : after =
    { before with
      calls := before.calls.set awaited.call (.finished (.ok message))
      pending := before.pending.erase id
      feeds := { before.feeds with table := after.feeds.table } }
  entered : ∀ subscription subscribed, awaited.subscription = some subscription →
    message.result = some (.string subscribed) → ∀ other : String, after.feeds.table[other]? =
      if other = subscribed then some subscription else before.feeds.table[other]?
  kept : (awaited.subscription = none ∨ ∀ subscribed, message.result ≠ some (.string subscribed)) →
    after.feeds.table = before.feeds.table

theorem Linked.resolves (linked : session.Linked)
    (answers : session.Answers bytes id awaited message) :
    Resolves session (session.frame bytes) bytes id awaited message := by
  have waits := linked.waiting answers.registered
  obtain ⟨bound, _⟩ := List.getElem?_eq_some_iff.mp waits
  have effect := linked.frame_of_answers answers
  have feeds : (session.frame bytes).feeds = entering awaited message session.feeds := by
    rw [effect]
  refine ⟨waits, ⟨?_, Envelope.raw_of_decode (answerIn?_eq_some.mp answers.holds).1⟩, ?_, ?_, ?_⟩
  · rw [outcome?_eq_some, effect]
    exact List.getElem?_set_self bound
  · rw [feeds, ← entering_eq]
    exact effect
  · intro subscription subscribed wants result other
    rw [feeds, entering_of_begun (begun?_eq_some.mpr ⟨wants, result⟩), Feeds.insert,
      SubscriptionTable.getElem?_insert]
    exact if_congr eq_comm rfl rfl
  · intro noEntry
    rw [feeds]
    cases begun : begun? awaited message with
    | none => rw [entering_of_not_begun begun]
    | some entry =>
        obtain ⟨wants, result⟩ := begun?_eq_some.mp begun
        rcases noEntry with unwanted | noId
        · cases unwanted.symm.trans wants
        · exact absurd result (noId entry.1)

/-! ### Notifications -/

/-- What a notification does: its value comes into the mailbox of its subscription; it is lost if
the mailbox is full, and the id is forgotten if nobody takes values there any more. -/
structure Notified (before after : Session) (notice : Notification) (subscription : Subscription) :
    Prop where
  room : ∀ box, before.feeds.mailboxes[subscription.sink]? = some box → box.isOpen = true →
    box.queue.length < box.capacity →
    after =
      { before with
        feeds :=
          { before.feeds with
            mailboxes := before.feeds.mailboxes.set subscription.sink
              { box with queue := box.queue ++ [notice.result] } } }
  full : ∀ box, before.feeds.mailboxes[subscription.sink]? = some box → box.isOpen = true →
    box.capacity ≤ box.queue.length → after = before
  gone : (∀ box, before.feeds.mailboxes[subscription.sink]? = some box → box.isOpen = false) →
    after =
      { before with
        feeds := { before.feeds with table := before.feeds.table.erase notice.subscription } }

theorem notified_of_notifies (notifies : session.Notifies bytes notice subscription) :
    Notified session (session.frame bytes) notice subscription := by
  obtain ⟨holds, leads⟩ := notifies
  rw [frame_of_notice holds]
  refine ⟨?_, ?_, ?_⟩
  · intro box found isOpen room
    rw [Feeds.dispatch_of_room leads ⟨box, found, isOpen, room⟩,
      Mailboxes.push_of_room found isOpen room]
  · intro box found isOpen noRoom
    rw [Feeds.dispatch_of_full leads (Mailboxes.answer_of_full found isOpen noRoom)]
  · intro gone
    rw [Feeds.dispatch_of_closed leads (Mailboxes.answer_eq_closed.mpr gone)]
    rfl

/-! ### All other frames -/

/-- A frame that has no use is dropped. -/
theorem frame_of_misses (misses : session.Misses bytes) : session.frame bytes = session := by
  cases holds : noticeIn? bytes with
  | some notice =>
      have unknown : session.feeds.table[notice.subscription]? = none := by
        refine Option.eq_none_iff_forall_ne_some.mpr fun subscription leads => ?_
        exact misses.noNotice notice subscription ⟨holds, leads⟩
      rw [frame_of_notice holds, Feeds.dispatch_of_unknown unknown]
  | none =>
      unfold frame
      split
      · rfl
      · next message read =>
          split
          · next isResponse =>
              unfold resolve
              split
              · rfl
              · next awaited registered =>
                  obtain ⟨id, hasId, registered⟩ := Option.bind_eq_some_iff.mp registered
                  have answers := answerIn?_eq_some.mpr ⟨read, isResponse, hasId⟩
                  exact absurd ⟨answers, registered⟩ (misses.noAnswer id awaited message)
          · next isNotification => exact notify_eq_self read isNotification holds
          · rfl

/-- What is no message, or no answer and no notification, has no use, -/
theorem misses_of_unusable
    (unusable : ∀ message, Envelope.decode bytes = .ok message → message.kind = .unrecognized) :
    session.Misses bytes := by
  refine ⟨?_, ?_⟩
  · rintro id awaited message ⟨holds, _⟩
    obtain ⟨read, isResponse, _⟩ := answerIn?_eq_some.mp holds
    cases isResponse.symm.trans (unusable message read)
  · rintro notice subscription ⟨holds, _⟩
    obtain ⟨message, _, read, isNotification, _⟩ := noticeIn?_eq_some.mp holds
    cases isNotification.symm.trans (unusable message read)

/-- nor has an answer for which no call waits, -/
theorem misses_of_late (holds : answerIn? id bytes = some message)
    (late : session.pending[id]? = none) : session.Misses bytes := by
  refine ⟨?_, ?_⟩
  · rintro other awaited otherMessage ⟨otherHolds, registered⟩
    cases answerIn?_unique holds otherHolds
    cases late.symm.trans registered
  · rintro notice subscription ⟨otherHolds, _⟩
    cases (noticeIn?_of_answer holds).symm.trans otherHolds

/-- nor a notification for nobody. -/
theorem misses_of_unknown (holds : noticeIn? bytes = some notice)
    (unknown : session.feeds.table[notice.subscription]? = none) : session.Misses bytes := by
  refine ⟨?_, ?_⟩
  · rintro id awaited message ⟨otherHolds, _⟩
    cases (noticeIn?_of_answer otherHolds).symm.trans holds
  · rintro other subscription ⟨otherHolds, leads⟩
    cases holds.symm.trans otherHolds
    cases unknown.symm.trans leads

/-- A notification is of no use if its method is none of subscriptions, or its parameters can not be
read. -/
theorem misses_of_malformed (read : Envelope.decode bytes = .ok message)
    (isNotification : message.kind = .notification)
    (malformed : Method.isSubscription message.methodName = false ∨
      ∃ error, message.notification = .error error) : session.Misses bytes := by
  refine ⟨?_, ?_⟩
  · rintro id awaited other ⟨holds, _⟩
    obtain ⟨otherRead, isResponse, _⟩ := answerIn?_eq_some.mp holds
    cases read.symm.trans otherRead
    cases isNotification.symm.trans isResponse
  · rintro notice subscription ⟨holds, _⟩
    rw [noticeIn?, read] at holds
    dsimp only at holds
    split at holds
    · next usable =>
        rcases malformed with otherMethod | ⟨error, unread⟩
        · cases otherMethod.symm.trans usable.2
        · rw [unread] at holds
          cases holds
    · cases holds

/-! ### Every frame -/

/-- A frame leaves the connection as it is. -/
theorem frame_connection (bytes : Bytes) :
    (session.frame bytes).phase = session.phase ∧
      (session.frame bytes).outbound = session.outbound := by
  obtain ⟨_, _, _, changed⟩ := session.frame_eq_with bytes
  rw [changed]
  exact ⟨rfl, rfl⟩

/-- What a frame does, and that it does nothing else. -/
structure TouchesOne (before : Session) (bytes : Bytes) : Prop where
  connection : (before.frame bytes).phase = before.phase ∧
    (before.frame bytes).outbound = before.outbound
  /-- An answer changes its own call, and the id under which it begins a subscription, -/
  answer : ∀ id awaited message, before.Answers bytes id awaited message →
    Resolves before (before.frame bytes) bytes id awaited message
  /-- a notification changes its own subscription, -/
  notice : ∀ notice subscription, before.Notifies bytes notice subscription →
    Notified before (before.frame bytes) notice subscription
  /-- and every other frame changes nothing: -/
  nothing : before.Misses bytes → before.frame bytes = before
  /-- what is no message, -/
  undecodable : ∀ error, Envelope.decode bytes = .error error → before.frame bytes = before
  /-- what is neither an answer nor a notification, -/
  unrecognized : ∀ message, Envelope.decode bytes = .ok message → message.kind = .unrecognized →
    before.frame bytes = before
  /-- answers under ids that no call waits for, -/
  late : ∀ message, Envelope.decode bytes = .ok message → message.kind = .response →
    (∀ id, message.validId = some id → before.pending[id]? = none) → before.frame bytes = before
  /-- notifications that are none of subscriptions, -/
  malformed : ∀ message, Envelope.decode bytes = .ok message → message.kind = .notification →
    (Method.isSubscription message.methodName = false ∨
      ∃ error, message.notification = .error error) → before.frame bytes = before
  /-- and notifications under ids that lead nowhere. -/
  unknown : ∀ message notice, Envelope.decode bytes = .ok message →
    message.kind = .notification → message.notification = .ok notice →
    before.feeds.table[notice.subscription]? = none → before.frame bytes = before

/-- A frame touches one call or one subscription at most, and never the connection. -/
theorem frame_touches_one {url : String} {config : WebSocketConfig}
    (made : make url config = .ok session) (events : List Event) (bytes : Bytes) :
    TouchesOne (session.run events) bytes := by
  have linked : (session.run events).Linked := (linked_of_make made).run events
  exact
    { connection := frame_connection bytes
      answer := fun _ _ _ => linked.resolves
      notice := fun _ _ => notified_of_notifies
      nothing := frame_of_misses
      undecodable := by
        intro error unread
        apply frame_of_misses
        apply misses_of_unusable
        intro message read
        cases unread.symm.trans read
      unrecognized := by
        intro message read kind
        apply frame_of_misses
        apply misses_of_unusable
        intro other otherRead
        cases read.symm.trans otherRead
        exact kind
      late := by
        intro message read isResponse late
        cases hasId : message.validId with
        | none => rw [frame, read]; simp only [isResponse, resolve, hasId, Option.bind_none]
        | some id =>
            apply frame_of_misses
            exact misses_of_late (answerIn?_eq_some.mpr ⟨read, isResponse, hasId⟩) (late id hasId)
      malformed := by
        intro message read isNotification malformed
        apply frame_of_misses
        exact misses_of_malformed read isNotification malformed
      unknown := by
        intro message notice read isNotification found unknown
        apply frame_of_misses
        cases method : Method.isSubscription message.methodName with
        | false => exact misses_of_malformed read isNotification (Or.inl method)
        | true =>
            have holds : noticeIn? bytes = some notice := by
              rw [noticeIn?, read]
              exact (if_pos ⟨isNotification, method⟩).trans (toOption_eq_some.mpr found)
            exact misses_of_unknown holds unknown }

/-- The answer to a call that subscribes ends the call and enters its subscription; a notification
then comes into the one mailbox. -/
theorem frame_touches_one_of_head :
    make "ws://node" {} = .ok idleSession ∧
      (∃ message, (idleSession.run subscribing).Answers answeredWithId "s"
        ⟨0, some ⟨"eth_subscribe", 0⟩⟩ message ∧
        Resolves (idleSession.run subscribing) ((idleSession.run subscribing).frame answeredWithId)
          answeredWithId "s" ⟨0, some ⟨"eth_subscribe", 0⟩⟩ message) ∧
      ((idleSession.run (subscribing ++ [.frame answeredWithId])).frame
        (headNotice "a")).feeds.mailboxes = [⟨1, [.string "a"], true⟩] := by
  have made : make "ws://node" {} = .ok idleSession := rfl
  have first := frame_touches_one made subscribing answeredWithId
  have second := frame_touches_one made (subscribing ++ [.frame answeredWithId]) (headNotice "a")
  have notified := second.notice ⟨"0xh", .string "a"⟩ ⟨"eth_subscribe", 0⟩ ⟨rfl, rfl⟩
  refine ⟨made, ⟨_, ⟨rfl, rfl⟩, first.answer _ _ _ ⟨rfl, rfl⟩⟩, ?_⟩
  rw [notified.room ⟨1, [], true⟩ rfl rfl (by decide)]
  rfl

end Session

end RpcTransport
