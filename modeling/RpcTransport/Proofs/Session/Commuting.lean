import Mathlib.Data.List.Perm.Basic
import RpcTransport.Proofs.Session.Frames

/-!
Frames in another order. Two frames that answer different calls, concern different subscriptions and
bring no values into one mailbox have the same effect in either order; so the frames of a block of
which no two have to do with each other can come in any order.
-/

namespace RpcTransport

/-! ### Tables -/

namespace Tables

variable {α : Type} (table : Std.ExtTreeMap String α) {id other : String}

theorem erase_comm (id other : String) :
    (table.erase id).erase other = (table.erase other).erase id := by
  apply Std.ExtTreeMap.ext_getElem?
  intro key
  simp only [Std.ExtTreeMap.getElem?_erase]
  split <;> split <;> rfl

theorem insert_comm (different : id ≠ other) (first second : α) :
    (table.insert id first).insert other second = (table.insert other second).insert id first := by
  apply Std.ExtTreeMap.ext_getElem?
  intro key
  simp only [Std.ExtTreeMap.getElem?_insert, Std.LawfulEqCmp.compare_eq_iff_eq]
  split
  · next same => rw [if_neg (same ▸ different)]
  · rfl

theorem erase_insert_comm (different : id ≠ other) (value : α) :
    (table.insert id value).erase other = (table.erase other).insert id value := by
  apply Std.ExtTreeMap.ext_getElem?
  intro key
  simp only [Std.ExtTreeMap.getElem?_erase, Std.ExtTreeMap.getElem?_insert,
    Std.LawfulEqCmp.compare_eq_iff_eq]
  split
  · next same => rw [if_neg (same ▸ different)]
  · rfl

end Tables

namespace Mailboxes

variable {boxes : Mailboxes} {sink place : Nat}

theorem answer_push_ne (different : place ≠ sink) (value : Json) :
    (boxes.push place value).answer sink = boxes.answer sink := by
  rw [answer, answer, push, List.getElem?_modify_ne _ _ different]

theorem push_comm (different : place ≠ sink) (first second : Json) :
    (boxes.push place first).push sink second = (boxes.push sink second).push place first :=
  List.modify_modify_ne _ _ _ different

/-- After a value has come there is no more room than before. -/
theorem hasRoom_of_push {value : Json} (room : (boxes.push place value).HasRoom sink) :
    boxes.HasRoom sink := by
  by_cases here : place = sink
  · subst here
    obtain ⟨after, found, isOpen, less⟩ := room
    rw [push, List.getElem?_modify_eq] at found
    obtain ⟨box, isBox, rfl⟩ := Option.map_eq_some_iff.mp found
    unfold Mailbox.push at isOpen less
    split at less
    · next delivered =>
        rw [if_pos delivered] at isOpen
        simp only [List.length_append, List.length_singleton] at less
        exact ⟨box, isBox, isOpen, Nat.lt_of_succ_lt less⟩
    · next notDelivered =>
        rw [if_neg notDelivered] at isOpen
        exact ⟨box, isBox, isOpen, less⟩
  · rw [← answer_eq_delivered, answer_push_ne here] at room
    exact answer_eq_delivered.mp room

end Mailboxes

namespace Feeds

variable {feeds : Feeds} {id other : String} {subscription first second : Subscription}

/-- Where other ids lead is not changed by a value. -/
theorem dispatch_table_ne (different : id ≠ other) (value : Json) :
    (feeds.dispatch id value).table[other]? = feeds.table[other]? := by
  cases leads : feeds.table[id]? with
  | none => rw [dispatch_of_unknown leads]
  | some subscription =>
      rcases feeds.mailboxes.answer_cases subscription.sink with room | full | closed
      · rw [dispatch_of_room leads room]
      · rw [dispatch_of_full leads full]
      · rw [dispatch_of_closed leads closed, remove, SubscriptionTable.getElem?_erase,
          if_neg different]

theorem hasRoom_of_dispatch {value : Json} {sink : Nat}
    (room : (feeds.dispatch id value).mailboxes.HasRoom sink) : feeds.mailboxes.HasRoom sink := by
  cases leads : feeds.table[id]? with
  | none => rwa [dispatch_of_unknown leads] at room
  | some subscription =>
      rcases feeds.mailboxes.answer_cases subscription.sink with free | full | closed
      · rw [dispatch_of_room leads free] at room
        exact Mailboxes.hasRoom_of_push room
      · rwa [dispatch_of_full leads full] at room
      · rwa [dispatch_of_closed leads closed] at room

/-- A value changes only what can become of values for the mailbox into which it comes. -/
theorem answer_dispatch (leads : feeds.table[id]? = some subscription) {sink : Nat}
    (apart : ¬ (subscription.sink = sink ∧ feeds.mailboxes.HasRoom sink)) (value : Json) :
    (feeds.dispatch id value).mailboxes.answer sink = feeds.mailboxes.answer sink := by
  rcases feeds.mailboxes.answer_cases subscription.sink with room | full | closed
  · rw [dispatch_of_room leads room]
    apply Mailboxes.answer_push_ne
    rintro rfl
    exact apart ⟨rfl, room⟩
  · rw [dispatch_of_full leads full]
  · rw [dispatch_of_closed leads closed]
    rfl

theorem insert_comm (different : id ≠ other) (feeds : Feeds) :
    (feeds.insert id first).insert other second = (feeds.insert other second).insert id first := by
  simp only [insert, Tables.insert_comm _ different]

/-- A value finds its mailbox whether or not another id is entered before. -/
theorem dispatch_insert (different : id ≠ other) (value : Json) :
    (feeds.insert id first).dispatch other value =
      (feeds.dispatch other value).insert id first := by
  have same : (feeds.insert id first).table[other]? = feeds.table[other]? := by
    rw [insert, SubscriptionTable.getElem?_insert, if_neg different]
  cases leads : feeds.table[other]? with
  | none => rw [dispatch_of_unknown leads, dispatch_of_unknown (same.trans leads)]
  | some subscription =>
      rcases feeds.mailboxes.answer_cases subscription.sink with room | full | closed
      · rw [dispatch_of_room leads room, dispatch_of_room (same.trans leads) room]
        rfl
      · rw [dispatch_of_full leads full, dispatch_of_full (same.trans leads) full]
      · rw [dispatch_of_closed leads closed, dispatch_of_closed (same.trans leads) closed, remove,
          remove, insert, insert, Tables.erase_insert_comm _ different]

/-- The effect of a value, given where its id leads and what becomes of it. -/
def deliver (delivery : Delivery) (id : String) (sink : Nat) (value : Json) (feeds : Feeds) :
    Feeds :=
  match delivery with
  | .delivered => { feeds with mailboxes := feeds.mailboxes.push sink value }
  | .closed => feeds.remove id
  | .full | .unknown => feeds

theorem dispatch_eq_deliver (leads : feeds.table[id]? = some subscription) (value : Json) :
    feeds.dispatch id value =
      feeds.deliver (feeds.mailboxes.answer subscription.sink) id subscription.sink value := by
  rcases feeds.mailboxes.answer_cases subscription.sink with room | full | closed
  · rw [dispatch_of_room leads room, Mailboxes.answer_eq_delivered.mpr room, deliver]
  · rw [dispatch_of_full leads full, full, deliver]
  · rw [dispatch_of_closed leads closed, closed, deliver]

theorem deliver_comm {one two : Delivery} {sink place : Nat}
    (apart : one = .delivered → two = .delivered → sink ≠ place) (value otherValue : Json) :
    (feeds.deliver one id sink value).deliver two other place otherValue =
      (feeds.deliver two other place otherValue).deliver one id sink value := by
  cases one with
  | full | unknown => rfl
  | closed =>
      cases two with
      | closed => simp only [deliver, remove, Tables.erase_comm _ id other]
      | _ => rfl
  | delivered =>
      cases two with
      | delivered => simp only [deliver, Mailboxes.push_comm (apart rfl rfl)]
      | _ => rfl

/-- Values under different ids can come in either order, if they do not both come into one mailbox.
-/
theorem dispatch_comm (different : id ≠ other)
    (apart : ∀ sink, ¬ ((∃ first, feeds.table[id]? = some first ∧ first.sink = sink) ∧
      (∃ second, feeds.table[other]? = some second ∧ second.sink = sink) ∧
        feeds.mailboxes.HasRoom sink)) (value otherValue : Json) :
    (feeds.dispatch id value).dispatch other otherValue =
      (feeds.dispatch other otherValue).dispatch id value := by
  have leadsAfter : (feeds.dispatch id value).table[other]? = feeds.table[other]? :=
    dispatch_table_ne different value
  have otherLeadsAfter : (feeds.dispatch other otherValue).table[id]? = feeds.table[id]? :=
    dispatch_table_ne different.symm otherValue
  cases leads : feeds.table[id]? with
  | none =>
      rw [dispatch_of_unknown leads, dispatch_of_unknown (otherLeadsAfter.trans leads)]
  | some first =>
      cases otherLeads : feeds.table[other]? with
      | none =>
          rw [dispatch_of_unknown otherLeads, dispatch_of_unknown (leadsAfter.trans otherLeads)]
      | some second =>
          have firstApart : ¬ (first.sink = second.sink ∧ feeds.mailboxes.HasRoom second.sink) :=
            fun both => apart second.sink
              ⟨⟨first, leads, both.1⟩, ⟨second, otherLeads, rfl⟩, both.2⟩
          have secondApart : ¬ (second.sink = first.sink ∧ feeds.mailboxes.HasRoom first.sink) :=
            fun both => apart first.sink
              ⟨⟨first, leads, rfl⟩, ⟨second, otherLeads, both.1⟩, both.2⟩
          rw [dispatch_eq_deliver (leadsAfter.trans otherLeads),
            answer_dispatch leads firstApart, dispatch_eq_deliver leads,
            dispatch_eq_deliver (otherLeadsAfter.trans leads),
            answer_dispatch otherLeads secondApart, dispatch_eq_deliver otherLeads]
          apply deliver_comm
          intro _ delivered same
          exact firstApart ⟨same, Mailboxes.answer_eq_delivered.mp delivered⟩

end Feeds

namespace Session

variable {session : Session} {first second third bytes : Bytes} {id : String} {awaited : Awaited}
  {message : Envelope}

/-! ### Frames that have nothing to do with each other -/

/-- A frame concerns the id of a subscription: it begins a subscription under the id, or holds a
notification for it. -/
def Concerns (session : Session) (bytes : Bytes) (subscribed : String) : Prop :=
  (∃ subscription, Begins session (.frame bytes) subscribed subscription) ∨
    ∃ notice, noticeIn? bytes = some notice ∧ notice.subscription = subscribed

/-- Two frames have nothing to do with each other: they do not answer the same call, concern the
same subscription, or both bring a value into the same mailbox. -/
structure Independent (session : Session) (first second : Bytes) : Prop where
  calls : ∀ id awaited, session.pending[id]? = some awaited →
    answerIn? id first = none ∨ answerIn? id second = none
  ids : ∀ subscribed, ¬ (session.Concerns first subscribed ∧ session.Concerns second subscribed)
  sinks : ∀ sink, arrival? sink session (.frame first) = none ∨
    arrival? sink session (.frame second) = none

theorem Independent.symm (independent : session.Independent first second) :
    session.Independent second first where
  calls id awaited registered := (independent.calls id awaited registered).symm
  ids subscribed both := independent.ids subscribed both.symm
  sinks sink := (independent.sinks sink).symm

/-- A frame concerns the id under which it begins a subscription. -/
theorem concerns_of_begun (answers : session.Answers bytes id awaited message)
    {subscribed : String} {subscription : Subscription}
    (begun : begun? awaited message = some (subscribed, subscription)) :
    session.Concerns bytes subscribed := by
  obtain ⟨wants, result⟩ := begun?_eq_some.mp begun
  obtain ⟨number, wanted⟩ := awaited
  cases wants
  exact Or.inl
    ⟨subscription, bytes, id, number, message, rfl, answers.registered, answers.holds, result⟩

/-! ### What other frames leave -/

theorem Linked.frame (linked : session.Linked) (bytes : Bytes) : (session.frame bytes).Linked :=
  linked.step (.frame bytes)

/-- A frame registers no call. -/
theorem Linked.pending_of_frame (linked : session.Linked)
    (registered : (session.frame bytes).pending[id]? = some awaited) :
    session.pending[id]? = some awaited := by
  rcases session.use_cases bytes with
    ⟨other, _, _, answers⟩ | ⟨notice, subscription, notifies⟩ | misses
  · rw [linked.frame_of_answers answers, CallTable.getElem?_erase] at registered
    split at registered
    · cases registered
    · exact registered
  · rwa [frame_of_notice notifies.holds] at registered
  · rwa [frame_of_misses misses] at registered

/-- A frame leaves the registrations of calls that it does not answer. -/
theorem Linked.pending_of_unanswered (linked : session.Linked)
    (unanswered : answerIn? id bytes = none) :
    (session.frame bytes).pending[id]? = session.pending[id]? := by
  rcases session.use_cases bytes with
    ⟨other, _, _, answers⟩ | ⟨notice, subscription, notifies⟩ | misses
  · rw [linked.frame_of_answers answers, CallTable.getElem?_erase, if_neg]
    rintro rfl
    cases unanswered.symm.trans answers.holds
  · rw [frame_of_notice notifies.holds]
  · rw [frame_of_misses misses]

/-- A frame leaves ids that it does not concern. -/
theorem Linked.table_of_unconcerned (linked : session.Linked) {subscribed : String}
    (unconcerned : ¬ session.Concerns bytes subscribed) :
    (session.frame bytes).feeds.table[subscribed]? = session.feeds.table[subscribed]? := by
  rcases session.use_cases bytes with
    ⟨id, awaited, message, answers⟩ | ⟨notice, subscription, notifies⟩ | misses
  · rw [linked.frame_of_answers answers]
    cases begun : begun? awaited message with
    | none => rw [entering_of_not_begun begun]
    | some entry =>
        obtain ⟨entered, subscription⟩ := entry
        rw [entering_of_begun begun, Feeds.insert, SubscriptionTable.getElem?_insert, if_neg]
        rintro rfl
        exact unconcerned (concerns_of_begun answers begun)
  · rw [frame_of_notice notifies.holds]
    apply Feeds.dispatch_table_ne
    intro same
    exact unconcerned (Or.inr ⟨notice, notifies.holds, same⟩)
  · rw [frame_of_misses misses]

theorem Linked.hasRoom_of_frame (linked : session.Linked) {sink : Nat}
    (room : (session.frame bytes).feeds.mailboxes.HasRoom sink) :
    session.feeds.mailboxes.HasRoom sink := by
  rcases session.use_cases bytes with
    ⟨id, awaited, message, answers⟩ | ⟨notice, subscription, notifies⟩ | misses
  · rw [linked.frame_of_answers answers] at room
    dsimp only at room
    rwa [entering_eq] at room
  · rw [frame_of_notice notifies.holds] at room
    exact Feeds.hasRoom_of_dispatch room
  · rwa [frame_of_misses misses] at room

/-- A frame that has nothing to do with another one does what it would do without it. -/
theorem Linked.answers_of_independent (linked : session.Linked)
    (independent : session.Independent first second) :
    (session.frame first).Answers second id awaited message ↔
      session.Answers second id awaited message := by
  constructor
  · rintro ⟨holds, registered⟩
    exact ⟨holds, linked.pending_of_frame registered⟩
  · rintro ⟨holds, registered⟩
    rcases independent.calls id awaited registered with unanswered | noAnswer
    · exact ⟨holds, (linked.pending_of_unanswered unanswered).trans registered⟩
    · cases noAnswer.symm.trans holds

theorem Linked.notifies_of_independent (linked : session.Linked)
    (independent : session.Independent first second) {notice : Notification}
    {subscription : Subscription} :
    (session.frame first).Notifies second notice subscription ↔
      session.Notifies second notice subscription := by
  have same : noticeIn? second = some notice →
      (session.frame first).feeds.table[notice.subscription]? =
        session.feeds.table[notice.subscription]? := by
    intro holds
    apply linked.table_of_unconcerned
    intro concerns
    exact independent.ids notice.subscription ⟨concerns, Or.inr ⟨notice, holds, rfl⟩⟩
  constructor
  · rintro ⟨holds, leads⟩
    exact ⟨holds, (same holds).symm.trans leads⟩
  · rintro ⟨holds, leads⟩
    exact ⟨holds, (same holds).trans leads⟩

theorem Linked.misses_of_independent (linked : session.Linked)
    (independent : session.Independent first second) (misses : session.Misses second) :
    (session.frame first).Misses second where
  noAnswer id awaited message answers :=
    misses.noAnswer id awaited message ((linked.answers_of_independent independent).mp answers)
  noNotice notice subscription notifies :=
    misses.noNotice notice subscription ((linked.notifies_of_independent independent).mp notifies)

/-- Frames that have nothing to do with each other still have nothing to do with each other after a
third one that has nothing to do with either. -/
theorem Linked.independent_frame (linked : session.Linked)
    (withFirst : session.Independent bytes first) (withSecond : session.Independent bytes second)
    (independent : session.Independent first second) :
    (session.frame bytes).Independent first second := by
  have concerns : ∀ {other subscribed}, (session.frame bytes).Concerns other subscribed →
      session.Concerns other subscribed := by
    rintro other subscribed (⟨subscription, _, id, number, message, same, registered, rest⟩ |
      notice)
    · exact Or.inl ⟨subscription, _, id, number, message, same,
        linked.pending_of_frame registered, rest⟩
    · exact Or.inr notice
  have arrives : ∀ {other : Bytes} {sink : Nat}, session.Independent bytes other →
      arrival? sink session (.frame other) = none →
      arrival? sink (session.frame bytes) (.frame other) = none := by
    intro other sink independent nothing
    refine Option.eq_none_iff_forall_ne_some.mpr fun value arrives => ?_
    obtain ⟨_, notice, subscription, same, holds, leads, here, room, isValue⟩ :=
      arrival?_eq_some.mp arrives
    cases same
    obtain ⟨_, ledBefore⟩ := (linked.notifies_of_independent independent).mp ⟨holds, leads⟩
    have arrived : arrival? sink session (.frame other) = some value := arrival?_eq_some.mpr
      ⟨_, notice, subscription, rfl, holds, ledBefore, here, linked.hasRoom_of_frame room, isValue⟩
    cases nothing.symm.trans arrived
  refine ⟨?_, ?_, ?_⟩
  · intro id awaited registered
    exact independent.calls id awaited (linked.pending_of_frame registered)
  · rintro subscribed ⟨firstConcerns, secondConcerns⟩
    exact independent.ids subscribed ⟨concerns firstConcerns, concerns secondConcerns⟩
  · intro sink
    exact (independent.sinks sink).imp (arrives withFirst) (arrives withSecond)

/-! ### Two frames -/

/-- The subscriptions after two answers that begin different ones. -/
theorem entering_comm {other : Awaited} {otherMessage : Envelope}
    (apart : ∀ subscribed one two, begun? awaited message = some (subscribed, one) →
      begun? other otherMessage ≠ some (subscribed, two)) (feeds : Feeds) :
    entering other otherMessage (entering awaited message feeds) =
      entering awaited message (entering other otherMessage feeds) := by
  cases begun : begun? awaited message with
  | none => rw [entering_of_not_begun begun, entering_of_not_begun begun]
  | some entry =>
      cases otherBegun : begun? other otherMessage with
      | none => rw [entering_of_not_begun otherBegun, entering_of_not_begun otherBegun]
      | some otherEntry =>
          rw [entering_of_begun begun, entering_of_begun otherBegun, entering_of_begun begun,
            entering_of_begun otherBegun]
          apply Feeds.insert_comm
          intro same
          apply apart entry.1 entry.2 otherEntry.2 begun
          rw [otherBegun, same]

/-- The subscriptions after an answer and a value for another id. -/
theorem dispatch_entering {subscribed : String}
    (apart : ∀ subscription, begun? awaited message ≠ some (subscribed, subscription))
    (value : Json) (feeds : Feeds) :
    (entering awaited message feeds).dispatch subscribed value =
      entering awaited message (feeds.dispatch subscribed value) := by
  cases begun : begun? awaited message with
  | none => rw [entering_of_not_begun begun, entering_of_not_begun begun]
  | some entry =>
      rw [entering_of_begun begun, entering_of_begun begun]
      apply Feeds.dispatch_insert
      intro same
      exact apart entry.2 (by rw [begun, ← same])

/-- Answers to different calls can come in either order. -/
theorem Linked.answers_comm (linked : session.Linked)
    (independent : session.Independent first second)
    (answers : session.Answers first id awaited message) {other : String} {otherAwaited : Awaited}
    {otherMessage : Envelope}
    (otherAnswers : session.Answers second other otherAwaited otherMessage) :
    (session.frame first).frame second = (session.frame second).frame first := by
  have different : awaited.call ≠ otherAwaited.call := by
    intro same
    have waits := linked.waiting answers.registered
    rw [same, linked.waiting otherAnswers.registered] at waits
    cases waits
    rcases independent.calls id awaited answers.registered with unanswered | unanswered
    · cases unanswered.symm.trans answers.holds
    · cases unanswered.symm.trans otherAnswers.holds
  have answersLater := (linked.answers_of_independent independent.symm).mpr answers
  have otherLater := (linked.answers_of_independent independent).mpr otherAnswers
  have apart : ∀ subscribed one two, begun? awaited message = some (subscribed, one) →
      begun? otherAwaited otherMessage ≠ some (subscribed, two) := by
    intro subscribed one two begun otherBegun
    exact independent.ids subscribed
      ⟨concerns_of_begun answers begun, concerns_of_begun otherAnswers otherBegun⟩
  rw [(linked.frame first).frame_of_answers otherLater,
    (linked.frame second).frame_of_answers answersLater,
    linked.frame_of_answers answers, linked.frame_of_answers otherAnswers]
  simp only [List.set_comm _ _ different, Tables.erase_comm _ id other, entering_comm apart]

/-- An answer and a notification that concern different subscriptions can come in either order. -/
theorem Linked.answer_notice_comm (linked : session.Linked)
    (independent : session.Independent first second)
    (answers : session.Answers first id awaited message) {notice : Notification}
    (holds : noticeIn? second = some notice) :
    (session.frame first).frame second = (session.frame second).frame first := by
  have answersLater := (linked.answers_of_independent independent.symm).mpr answers
  have apart : ∀ subscription,
      begun? awaited message ≠ some (notice.subscription, subscription) := by
    intro subscription begun
    exact independent.ids notice.subscription
      ⟨concerns_of_begun answers begun, Or.inr ⟨notice, holds, rfl⟩⟩
  rw [frame_of_notice holds, (linked.frame second).frame_of_answers answersLater,
    linked.frame_of_answers answers, frame_of_notice holds]
  simp only [dispatch_entering apart]

/-- Notifications for different subscriptions can come in either order, if they do not both bring a
value into one mailbox. -/
theorem notices_comm (independent : session.Independent first second) {notice other : Notification}
    (holds : noticeIn? first = some notice) (otherHolds : noticeIn? second = some other) :
    (session.frame first).frame second = (session.frame second).frame first := by
  have different : notice.subscription ≠ other.subscription := by
    intro same
    exact independent.ids notice.subscription
      ⟨Or.inr ⟨notice, holds, rfl⟩, Or.inr ⟨other, otherHolds, same.symm⟩⟩
  rw [frame_of_notice otherHolds, frame_of_notice holds, frame_of_notice holds,
    frame_of_notice otherHolds]
  have apart : ∀ sink, ¬ ((∃ subscription,
      session.feeds.table[notice.subscription]? = some subscription ∧ subscription.sink = sink) ∧
      (∃ subscription,
        session.feeds.table[other.subscription]? = some subscription ∧ subscription.sink = sink) ∧
        session.feeds.mailboxes.HasRoom sink) := by
    rintro sink ⟨⟨subscription, leads, here⟩, ⟨otherSubscription, otherLeads, otherHere⟩, room⟩
    have arrives : arrival? sink session (.frame first) = some notice.result :=
      arrival?_eq_some.mpr ⟨first, notice, subscription, rfl, holds, leads, here, room, rfl⟩
    have otherArrives : arrival? sink session (.frame second) = some other.result :=
      arrival?_eq_some.mpr
        ⟨second, other, otherSubscription, rfl, otherHolds, otherLeads, otherHere, room, rfl⟩
    rcases independent.sinks sink with nothing | nothing
    · cases nothing.symm.trans arrives
    · cases nothing.symm.trans otherArrives
  simp only [Feeds.dispatch_comm different apart]

/-- Frames that have nothing to do with each other can come in either order. -/
theorem Linked.frame_comm (linked : session.Linked)
    (independent : session.Independent first second) :
    (session.frame first).frame second = (session.frame second).frame first := by
  rcases session.use_cases first with
    ⟨id, awaited, message, answers⟩ | ⟨notice, subscription, notifies⟩ | misses
  · rcases session.use_cases second with
      ⟨other, otherAwaited, otherMessage, otherAnswers⟩ | ⟨notice, subscription, notifies⟩ | misses
    · exact linked.answers_comm independent answers otherAnswers
    · exact linked.answer_notice_comm independent answers notifies.holds
    · rw [frame_of_misses misses, frame_of_misses (linked.misses_of_independent independent misses)]
  · rcases session.use_cases second with
      ⟨id, awaited, message, answers⟩ | ⟨other, otherSubscription, otherNotifies⟩ | misses
    · exact (linked.answer_notice_comm independent.symm answers notifies.holds).symm
    · exact notices_comm independent notifies.holds otherNotifies.holds
    · rw [frame_of_misses misses, frame_of_misses (linked.misses_of_independent independent misses)]
  · rw [frame_of_misses misses,
      frame_of_misses (linked.misses_of_independent independent.symm misses)]

/-! ### Blocks of frames -/

/-- The frames of a block of which no two have to do with each other can come in any order. -/
theorem Linked.run_perm (linked : session.Linked) {block other : List Bytes}
    (permuted : block.Perm other) (independent : block.Pairwise session.Independent) :
    session.run (block.map .frame) = session.run (other.map .frame) := by
  induction permuted generalizing session with
  | nil => rfl
  | cons bytes rest inductionHypothesis =>
      obtain ⟨withRest, independent⟩ := List.pairwise_cons.mp independent
      apply inductionHypothesis (linked.frame bytes)
      refine independent.imp_of_mem ?_
      intro one two oneMember twoMember
      exact linked.independent_frame (withRest one oneMember) (withRest two twoMember)
  | swap first second rest =>
      have apart := (List.pairwise_cons.mp independent).1 first List.mem_cons_self
      have exchanged := linked.frame_comm apart
      show ((session.frame second).frame first).run _ = ((session.frame first).frame second).run _
      rw [exchanged]
  | trans first second firstHypothesis secondHypothesis =>
      have between := (first.pairwise_iff Independent.symm).mp independent
      exact (firstHypothesis linked independent).trans (secondHypothesis linked between)

/-- Answers to different calls that do not subscribe have nothing to do with each other. -/
theorem independent_of_answers {number otherNumber : Nat} {other : String} {otherMessage : Envelope}
    (answers : session.Answers first id ⟨number, none⟩ message)
    (otherAnswers : session.Answers second other ⟨otherNumber, none⟩ otherMessage)
    (different : id ≠ other) : session.Independent first second := by
  have unconcerned : ∀ {bytes key place} {answer : Envelope} {subscribed : String},
      session.Answers bytes key ⟨place, none⟩ answer → ¬ session.Concerns bytes subscribed := by
    rintro bytes key place answer subscribed ⟨holds, registered⟩
      (⟨subscription, _, otherKey, _, _, same, otherRegistered, otherHolds, _⟩ |
        ⟨notice, noticed, _⟩)
    · cases same
      cases answerIn?_unique holds otherHolds
      cases registered.symm.trans otherRegistered
    · cases (noticeIn?_of_answer holds).symm.trans noticed
  refine ⟨?_, ?_, ?_⟩
  · intro key awaited _
    by_cases own : key = id
    · subst own
      refine Or.inr (Option.eq_none_iff_forall_ne_some.mpr fun found holds => ?_)
      exact different (answerIn?_unique holds otherAnswers.holds)
    · refine Or.inl (Option.eq_none_iff_forall_ne_some.mpr fun found holds => ?_)
      exact own (answerIn?_unique holds answers.holds)
  · exact fun subscribed both => unconcerned answers both.1
  · intro sink
    refine Or.inl (Option.eq_none_iff_forall_ne_some.mpr fun value arrives => ?_)
    obtain ⟨_, notice, _, same, noticed, _⟩ := arrival?_eq_some.mp arrives
    cases same
    cases (noticeIn?_of_answer answers.holds).symm.trans noticed

/-- Frames that have nothing to do with each other can come in either order, and so can the answers
of a block to different calls that do not subscribe, in any order: all calls, mailboxes and
subscriptions come out the same. -/
theorem independent_frames_commute {url : String} {config : WebSocketConfig}
    (made : make url config = .ok session) (events : List Event) :
    (∀ first second, (session.run events).Independent first second →
      session.run (events ++ [.frame first, .frame second]) =
        session.run (events ++ [.frame second, .frame first])) ∧
    ∀ block other : List Bytes, block.Perm other →
      (∀ bytes ∈ block, ∃ id number message,
        (session.run events).Answers bytes id ⟨number, none⟩ message) →
      block.Pairwise (fun first second => ∀ id, answerIn? id first = none ∨
        answerIn? id second = none) →
      session.run (events ++ block.map .frame) = session.run (events ++ other.map .frame) := by
  have linked : (session.run events).Linked := (linked_of_make made).run events
  constructor
  · intro first second independent
    rw [run_append, run_append]
    exact linked.frame_comm independent
  · intro block other permuted answer distinct
    rw [run_append, run_append]
    apply linked.run_perm permuted
    refine distinct.imp_of_mem ?_
    intro first second firstMember secondMember apart
    obtain ⟨id, number, message, answers⟩ := answer first firstMember
    obtain ⟨otherId, otherNumber, otherMessage, otherAnswers⟩ := answer second secondMember
    refine independent_of_answers answers otherAnswers ?_
    rintro rfl
    rcases apart id with unanswered | unanswered
    · cases unanswered.symm.trans answers.holds
    · cases unanswered.symm.trans otherAnswers.holds

/-- One subscription is there, and somebody subscribes again. -/
def subscribingAgain : List Event :=
  subscribing ++ [.frame answeredWithId, .openMailbox 1,
    .subscribe "t" "eth_subscribe" "logs" [] 1]

/-- The answer for the second subscription. -/
def answeredAgain : Bytes :=
  bytesOf "\x7b\"id\":\"t\",\"result\":\"0xk\"\x7d"

/-- The answer for the second subscription has nothing to do with a notification for the first. -/
theorem independent_answeredAgain :
    (idleSession.run subscribingAgain).Independent answeredAgain (headNotice "a") := by
  obtain ⟨message, holds, result⟩ : ∃ message, answerIn? "t" answeredAgain = some message ∧
      message.result = some (.string "0xk") := ⟨_, rfl, rfl⟩
  have notice : noticeIn? (headNotice "a") = some ⟨"0xh", .string "a"⟩ := rfl
  have noAnswer : ∀ id, answerIn? id (headNotice "a") = none := by
    intro id
    refine Option.eq_none_iff_forall_ne_some.mpr fun found answers => ?_
    cases notice.symm.trans (noticeIn?_of_answer answers)
  have noNotice := noticeIn?_of_answer holds
  refine ⟨fun id _ _ => Or.inr (noAnswer id), ?_, ?_⟩
  · rintro subscribed ⟨concerns, ⟨_, _, id, _, _, same, _, answers, _⟩ | ⟨other, found, rfl⟩⟩
    · cases same
      cases (noAnswer id).symm.trans answers
    · cases notice.symm.trans found
      rcases concerns with ⟨_, _, id, _, found, same, _, answers, begins⟩ | ⟨other, found, _⟩
      · cases same
        cases answerIn?_unique holds answers
        cases holds.symm.trans answers
        have same := Json.string.inj (Option.some.inj (result.symm.trans begins))
        exact absurd same (by decide)
      · cases noNotice.symm.trans found
  · intro sink
    refine Or.inl (Option.eq_none_iff_forall_ne_some.mpr fun value arrives => ?_)
    obtain ⟨_, other, _, same, found, _⟩ := arrival?_eq_some.mp arrives
    cases same
    cases noNotice.symm.trans found

/-- Two calls wait over one connection. -/
def calling : List Event :=
  connecting ++ [.call "a" "eth_chainId" [], .call "b" "eth_call" []]

/-- The answer to a call, without a subscription. -/
def answeredWithOne (id : String) : Bytes :=
  bytesOf ("\x7b\"id\":\"" ++ id ++ "\",\"result\":1\x7d")

/-- The second subscription begins before or after the value for the first; and the second call is
answered before or after the first. -/
theorem independent_frames_commute_of_two :
    make "ws://node" {} = .ok idleSession ∧
      idleSession.run (subscribingAgain ++ [.frame answeredAgain, .frame (headNotice "a")]) =
        idleSession.run (subscribingAgain ++ [.frame (headNotice "a"), .frame answeredAgain]) ∧
      idleSession.run (calling ++ [answeredWithOne "a", answeredWithOne "b"].map .frame) =
        idleSession.run (calling ++ [answeredWithOne "b", answeredWithOne "a"].map .frame) := by
  have made : make "ws://node" {} = .ok idleSession := rfl
  obtain ⟨two, block⟩ := independent_frames_commute made subscribingAgain
  refine ⟨made, two _ _ independent_answeredAgain, ?_⟩
  obtain ⟨first, firstHolds⟩ : ∃ message, answerIn? "a" (answeredWithOne "a") = some message :=
    ⟨_, rfl⟩
  obtain ⟨second, secondHolds⟩ : ∃ message, answerIn? "b" (answeredWithOne "b") = some message :=
    ⟨_, rfl⟩
  apply (independent_frames_commute made calling).2
  · exact List.Perm.swap _ _ _
  · intro bytes member
    rcases List.mem_pair.mp member with rfl | rfl
    · exact ⟨"a", 0, first, firstHolds, rfl⟩
    · exact ⟨"b", 1, second, secondHolds, rfl⟩
  · refine List.pairwise_pair.mpr fun id => ?_
    by_cases own : id = "a"
    · refine Or.inr (Option.eq_none_iff_forall_ne_some.mpr fun found answers => ?_)
      exact absurd (own.symm.trans (answerIn?_unique answers secondHolds)) (by decide)
    · refine Or.inl (Option.eq_none_iff_forall_ne_some.mpr fun found answers => ?_)
      exact own (answerIn?_unique answers firstHolds)

end Session

end RpcTransport
