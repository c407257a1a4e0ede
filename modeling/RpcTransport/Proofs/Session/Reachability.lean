import RpcTransport.Proofs.Message.Notifications
import RpcTransport.Proofs.Session.Frames
import RpcTransport.Proofs.Session.Lifecycle
import RpcTransport.Proofs.Session.Subscribing

/-!
Whether the node can reach a subscriber. It can, under every id that leads to a subscription, from
every namespace and with every value that is read as it was written; unless the id is empty. An
answer may well give the empty id, and its subscriber is told so, but never gets a notification.
-/

namespace RpcTransport.Session

variable {session before after : Session} {notice : Notification} {subscription : Subscription}
  {id : String}

/-- A notification comes to the subscriber of its id: its value goes to the end of the mailbox, or
is lost since the mailbox is full, or nobody takes values any more and the id is forgotten. -/
inductive Reaches (before after : Session) (notice : Notification) (subscription : Subscription) :
    Prop
  | delivered (box : Mailbox) (found : before.feeds.mailboxes[subscription.sink]? = some box)
    (isOpen : box.isOpen = true) (room : box.queue.length < box.capacity)
    (pushed : after =
      { before with
        feeds :=
          { before.feeds with
            mailboxes := before.feeds.mailboxes.set subscription.sink
              { box with queue := box.queue ++ [notice.result] } } })
  | full (box : Mailbox) (found : before.feeds.mailboxes[subscription.sink]? = some box)
    (isOpen : box.isOpen = true) (noRoom : box.capacity ≤ box.queue.length) (same : after = before)
  | gone (nobody : ∀ box, before.feeds.mailboxes[subscription.sink]? = some box →
      box.isOpen = false)
    (forgotten : after =
      { before with
        feeds := { before.feeds with table := before.feeds.table.erase notice.subscription } })

/-- What notifies a subscription reaches its subscriber, one way or another. -/
theorem reaches_of_notified (notified : Notified before after notice subscription) :
    Reaches before after notice subscription := by
  cases found : before.feeds.mailboxes[subscription.sink]? with
  | none =>
      have nobody : ∀ box, before.feeds.mailboxes[subscription.sink]? = some box →
          box.isOpen = false := by
        intro box isBox
        cases found.symm.trans isBox
      exact .gone nobody (notified.gone nobody)
  | some box =>
      cases isOpen : box.isOpen with
      | false =>
          have nobody : ∀ other, before.feeds.mailboxes[subscription.sink]? = some other →
              other.isOpen = false := by
            intro other isOther
            cases found.symm.trans isOther
            exact isOpen
          exact .gone nobody (notified.gone nobody)
      | true =>
          rcases Nat.lt_or_ge box.queue.length box.capacity with room | noRoom
          · exact .delivered box found isOpen room (notified.room box found isOpen room)
          · exact .full box found isOpen noRoom (notified.full box found isOpen noRoom)

/-- The notification that the text of a notification holds: this one, unless its id is empty. -/
theorem noticeIn?_text (ns : String) (plain : notice.result.IsPlain)
    (shallow : notice.result.nesting + 2 ≤ Json.depthLimit) :
    noticeIn? (Notification.text ns notice) =
      if notice.subscription = "" then none else some notice := by
  have named : Method.isSubscription (Notification.message ns notice).methodName = true := by
    refine List.isSuffixOf_iff_suffix.mpr ?_
    show _ <:+ (ns ++ Method.subscriptionSuffix).toList
    rw [String.toList_append]
    exact List.suffix_append _ _
  unfold noticeIn?
  rw [Notification.decode_text ns plain shallow]
  dsimp only
  rw [if_pos ⟨Notification.kind_message ns notice, named⟩,
    Notification.notification_message ns plain]
  split <;> rfl

/-- Ids lead somewhere only over a connection. -/
theorem Orderly.connected_of_leads (orderly : session.Orderly) (empty : session.feeds.table = ∅)
    {events : List Event} (leads : (session.run events).feeds.table[id]? = some subscription) :
    (session.run events).phase = .connected := by
  obtain ⟨earlier, opening, later, rfl, begins, _⟩ := (orderly.toReached.mapped_iff empty).mp leads
  obtain ⟨_, _, _, _, _, registered, _⟩ := begins
  have before := orderly.run earlier
  have inUse := before.used (before.linked.connected (before.linked.waiting registered))
  have stillInUse := before.inUse_run (opening :: later) inUse
  rw [← run_append] at stillInUse
  have now := orderly.run (earlier ++ opening :: later)
  cases phase : (session.run (earlier ++ opening :: later)).phase with
  | connected => rfl
  | disconnected => exact absurd (now.unused phase) stillInUse
  | dead =>
      rw [(now.torn phase).table] at leads
      simp at leads

/-- Every subscription that is live can be reached, over the connection that the session then has: a
notification under its id, from any namespace and with any value, comes to its subscriber; unless
the id is empty, for then the notification changes nothing. -/
theorem live_subscriptions_are_reached_unless_empty {url : String} {config : WebSocketConfig}
    (made : make url config = .ok session) (events : List Event)
    (leads : (session.run events).feeds.table[id]? = some subscription) :
    (session.run events).phase = .connected ∧
      ∀ (ns : String) (value : Json), value.IsPlain → value.nesting + 2 ≤ Json.depthLimit →
        (id ≠ "" → Reaches (session.run events)
          ((session.run events).frame (Notification.text ns ⟨id, value⟩)) ⟨id, value⟩
          subscription) ∧
        (id = "" → (session.run events).frame (Notification.text ns ⟨id, value⟩) =
          session.run events) := by
  have empty : session.feeds.table = ∅ := by rw [make_eq_ok made]
  refine ⟨(orderly_of_make made).connected_of_leads empty leads, ?_⟩
  intro ns value plain shallow
  have holds : noticeIn? (Notification.text ns ⟨id, value⟩) =
      if id = "" then none else some ⟨id, value⟩ :=
    noticeIn?_text ns plain shallow
  refine ⟨?_, ?_⟩
  · intro notEmpty
    rw [if_neg notEmpty] at holds
    exact reaches_of_notified (notified_of_notifies ⟨holds, leads⟩)
  · intro isEmpty
    rw [if_pos isEmpty] at holds
    apply frame_of_misses
    refine misses_of_malformed (Notification.decode_text ns plain shallow)
      (Notification.kind_message ns _) (Or.inr ?_)
    rw [Notification.notification_message ns plain, if_pos isEmpty]
    exact ⟨_, rfl⟩

/-- A value comes to a subscriber under the id that the answer has given. -/
theorem live_subscriptions_are_reached_unless_empty_of_head :
    make "ws://node" {} = .ok idleSession ∧
      let before := idleSession.run (subscribing ++ [.frame answeredWithId])
      before.feeds.table["0xh"]? = some ⟨"eth_subscribe", 0⟩ ∧
        Reaches before (before.frame (Notification.text "eth" ⟨"0xh", .bool true⟩))
          ⟨"0xh", .bool true⟩ ⟨"eth_subscribe", 0⟩ := by
  have made : make "ws://node" {} = .ok idleSession := rfl
  have leads : (idleSession.run (subscribing ++ [.frame answeredWithId])).feeds.table["0xh"]? =
      some ⟨"eth_subscribe", 0⟩ := rfl
  obtain ⟨_, each⟩ := live_subscriptions_are_reached_unless_empty made _ leads
  exact ⟨made, leads, (each "eth" (.bool true) (.bool true) (by decide)).1 (by decide)⟩

/-- An answer that gives the empty id. -/
def answeredWithoutId : Bytes :=
  bytesOf "\x7b\"id\":\"s\",\"result\":\"\"\x7d"

/-- Its subscriber is told that the id is empty, and the id leads to it; but no notification under
the id reaches it, though there is room. -/
theorem empty_id_is_never_reached :
    make "ws://node" {} = .ok idleSession ∧
      let before := idleSession.run (subscribing ++ [.frame answeredWithoutId])
      (before.outcome? 0).map subscribed = some (.ok "") ∧
        before.feeds.table[""]? = some ⟨"eth_subscribe", 0⟩ ∧
        before.feeds.mailboxes[0]? = some ⟨1, [], true⟩ ∧
        ¬ Reaches before (before.frame (Notification.text "eth" ⟨"", .bool true⟩))
          ⟨"", .bool true⟩ ⟨"eth_subscribe", 0⟩ := by
  have mailbox : (idleSession.run (subscribing ++ [.frame answeredWithoutId])).feeds.mailboxes[0]? =
      some ⟨1, [], true⟩ := rfl
  have unread : ((idleSession.run (subscribing ++ [.frame answeredWithoutId])).frame
      (Notification.text "eth" ⟨"", .bool true⟩)).feeds.mailboxes.unread 0 = [] := rfl
  refine ⟨rfl, rfl, rfl, mailbox, ?_⟩
  intro reaches
  cases reaches with
  | delivered box found isOpen room pushed =>
      cases mailbox.symm.trans found
      rw [pushed] at unread
      cases unread
  | full box found isOpen noRoom same =>
      cases mailbox.symm.trans found
      exact absurd noRoom (by decide)
  | gone nobody forgotten => cases nobody _ mailbox

end RpcTransport.Session
