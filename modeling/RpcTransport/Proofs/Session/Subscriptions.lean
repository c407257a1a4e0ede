import RpcTransport.Proofs.Session.Answers
import RpcTransport.Proofs.Session.Teardown

/-!
Where subscription ids lead. An id leads to the subscription that the last answer has begun under
it, as long as nothing has ended it: nobody has unsubscribed, there was no teardown, and no
notification found that its subscriber takes no more values.
-/

namespace RpcTransport

namespace SubscriptionTable

variable (table : SubscriptionTable) (id other : String)

theorem getElem?_insert (subscription : Subscription) :
    (table.insert id subscription)[other]? =
      if id = other then some subscription else table[other]? := by
  simp [Std.ExtTreeMap.getElem?_insert]

theorem getElem?_erase :
    (table.erase id)[other]? = if id = other then none else table[other]? := by
  simp [Std.ExtTreeMap.getElem?_erase]

/-- Entering what is there changes nothing. -/
theorem insert_eq_self {table : SubscriptionTable} {id : String} {subscription : Subscription}
    (there : table[id]? = some subscription) : table.insert id subscription = table := by
  refine Std.ExtTreeMap.ext_getElem? fun other => ?_
  rw [getElem?_insert]
  split
  · next same => rw [← same, there]
  · rfl

end SubscriptionTable

namespace Session

variable {session : Session} {number : Nat} {id : String} {event : Event}
  {subscription : Subscription}

/-! ### Sessions that have come about -/

/-- What every session is that has come about by events. -/
structure Reached (session : Session) : Prop where
  linked : session.Linked
  torn : session.phase = .dead → session.Torn

theorem reached_of_make {url : String} {config : WebSocketConfig}
    (made : make url config = .ok session) : session.Reached where
  linked := linked_of_make made
  torn := by
    rw [make_eq_ok made]
    intro dead
    cases dead

theorem Reached.run (reached : session.Reached) (events : List Event) :
    (session.run events).Reached :=
  ⟨reached.linked.run events, reached.linked.torn_run reached.torn events⟩

/-! ### Notifications in frames -/

/-- The notification that a frame holds for subscribers, if it does. -/
def noticeIn? (bytes : Bytes) : Option Notification :=
  match Envelope.decode bytes with
  | .ok message =>
    if message.kind = .notification ∧ Method.isSubscription message.methodName = true then
      message.notification.toOption
    else none
  | .error _ => none

/-- A notification has a subscription's id, which is not empty, and a value for its parameters. -/
theorem notification_eq_ok {message : Envelope} {notice : Notification} :
    message.notification = .ok notice ↔ ∃ params, message.params = some params ∧
      Notification.shape.value params = .ok notice ∧ notice.subscription ≠ "" := by
  unfold Envelope.notification
  cases message.params with
  | none => simp
  | some params =>
      simp only [Option.some.injEq, exists_eq_left']
      cases Notification.shape.value params with
      | error error => simp [Except.mapError, bind, Except.bind]
      | ok found =>
          show (if found.subscription = "" then _ else Except.ok found) = _ ↔ _
          split
          · next empty =>
              simp only [reduceCtorEq, Except.ok.injEq, false_iff]
              rintro ⟨rfl, notEmpty⟩
              exact notEmpty empty
          · next notEmpty =>
              constructor
              · intro same
                cases same
                exact ⟨rfl, notEmpty⟩
              · rintro ⟨same, _⟩
                cases same
                rfl

/-- What it takes for a frame to hold a notification: it is read as a notification, its method ends
like those of subscriptions, and its parameters hold the id of a subscription and a value. -/
theorem noticeIn?_eq_some {bytes : Bytes} {notice : Notification} :
    noticeIn? bytes = some notice ↔ ∃ message params, Envelope.decode bytes = .ok message ∧
      message.kind = .notification ∧
      Method.subscriptionSuffix.toList <:+ message.methodName.toList ∧
      message.params = some params ∧ Notification.shape.value params = .ok notice ∧
      notice.subscription ≠ "" := by
  unfold noticeIn?
  cases Envelope.decode bytes with
  | error error => simp
  | ok message =>
      have suffix : Method.isSubscription message.methodName = true ↔
          Method.subscriptionSuffix.toList <:+ message.methodName.toList :=
        List.isSuffixOf_iff_suffix
      simp only [Except.ok.injEq, exists_and_left, exists_eq_left', ← suffix, ← notification_eq_ok]
      split
      · next isNotice => simp only [isNotice, toOption_eq_some, true_and]
      · next noNotice =>
          simp only [reduceCtorEq, false_iff]
          rintro ⟨kind, method, _⟩
          exact noNotice ⟨kind, method⟩

/-! ### Beginnings and ends -/

/-- An event begins a subscription under an id: it is a frame that answers a call that waits and
subscribes, and the result is the id. -/
def Begins (session : Session) (event : Event) (subscribed : String) (subscription : Subscription) :
    Prop :=
  ∃ bytes id number message, event = .frame bytes ∧
    session.pending[id]? = some ⟨number, some subscription⟩ ∧
    answerIn? id bytes = some message ∧ message.result = some (.string subscribed)

/-- An event ends the subscription of an id: somebody unsubscribes, or the session is torn down, or
a notification finds that the subscriber takes no more values. -/
def Closes (session : Session) (event : Event) (subscribed : String) : Prop :=
  (∃ id, event = .unsubscribe id subscribed) ∨ event = .teardown ∨
    ∃ bytes notice subscription, event = .frame bytes ∧ noticeIn? bytes = some notice ∧
      notice.subscription = subscribed ∧
      session.feeds.table[subscribed]? = some subscription ∧
      session.feeds.mailboxes.answer subscription.sink = .closed

/-- An answer begins a subscription if the call subscribes and the result is a string. -/
theorem begun?_eq_some {awaited : Awaited} {message : Envelope} {subscribed : String} :
    begun? awaited message = some (subscribed, subscription) ↔
      awaited.subscription = some subscription ∧ message.result = some (.string subscribed) := by
  unfold begun?
  split
  · next wants result =>
      rw [wants, result]
      constructor
      · intro same
        cases same
        exact ⟨rfl, rfl⟩
      · rintro ⟨sameSubscription, sameResult⟩
        cases sameSubscription
        cases sameResult
        rfl
  · next other =>
      constructor
      · intro same
        cases same
      · rintro ⟨wants, result⟩
        exact (other _ _ wants result).elim

theorem settle_feeds (number : Nat) (state : CallState) (session : Session) :
    (session.settle number state).feeds = session.feeds := by
  unfold settle
  split <;> rfl

/-- An answer for a call enters the subscription that it begins, if it begins one. -/
theorem Linked.frame_feeds_of_answer (linked : session.Linked) {awaited : Awaited}
    (registered : session.pending[id]? = some awaited) {bytes : Bytes} {message : Envelope}
    (answers : answerIn? id bytes = some message) :
    (session.frame bytes).feeds = (begun? awaited message).elim session.feeds
      fun entry => session.feeds.insert entry.1 entry.2 := by
  obtain ⟨read, isResponse, hasId⟩ := answerIn?_eq_some.mp answers
  have connected := linked.connected (linked.waiting registered)
  simp only [frame, read, isResponse, resolve, hasId, Option.bind_some, registered, settle_feeds]
  cases begun? awaited message with
  | none => rfl
  | some entry => simp only [Option.elim_some, enter, connected]

/-- A frame that begins a subscription enters it. -/
theorem Linked.feeds_of_begins (linked : session.Linked) {subscribed : String}
    (begins : Begins session event subscribed subscription) :
    (session.step event).feeds = session.feeds.insert subscribed subscription := by
  obtain ⟨bytes, id, number, message, rfl, registered, answers, result⟩ := begins
  show (session.frame bytes).feeds = _
  rw [linked.frame_feeds_of_answer registered answers, begun?_eq_some.mpr ⟨rfl, result⟩]
  rfl

/-- A frame that holds a notification brings its value to the subscriber. -/
theorem frame_of_notice {bytes : Bytes} {notice : Notification}
    (holds : noticeIn? bytes = some notice) :
    session.frame bytes =
      { session with feeds := session.feeds.dispatch notice.subscription notice.result } := by
  obtain ⟨message, params, read, kind, suffix, held, isNotice, notEmpty⟩ :=
    noticeIn?_eq_some.mp holds
  have method : Method.isSubscription message.methodName = true :=
    List.isSuffixOf_iff_suffix.mpr suffix
  have found := notification_eq_ok.mpr ⟨params, held, isNotice, notEmpty⟩
  simp only [frame, read, kind, notify, method, if_true, found]

theorem notify_eq_self {bytes : Bytes} {message : Envelope}
    (read : Envelope.decode bytes = .ok message) (kind : message.kind = .notification)
    (noNotice : noticeIn? bytes = none) : session.notify message = session := by
  unfold notify
  split
  · next method =>
      split
      · next notice found =>
          have holds : noticeIn? bytes = some notice := by
            rw [noticeIn?, read]
            exact (if_pos ⟨kind, method⟩).trans (toOption_eq_some.mpr found)
          cases noNotice.symm.trans holds
      · rfl
  · rfl

/-- All other frames leave the subscriptions as they are. -/
theorem Linked.frame_feeds_of_other (linked : session.Linked) {bytes : Bytes}
    (noNotice : noticeIn? bytes = none)
    (noBeginning : ∀ subscribed subscription,
      ¬ Begins session (.frame bytes) subscribed subscription) :
    (session.frame bytes).feeds = session.feeds := by
  cases read : Envelope.decode bytes with
  | error error => rw [frame, read]
  | ok message =>
      cases kind : message.kind with
      | unrecognized => simp only [frame, read, kind]
      | notification => simp only [frame, read, kind, notify_eq_self read kind noNotice]
      | response =>
          cases registered : message.validId.bind fun id => session.pending[id]? with
          | none => simp only [frame, read, kind, resolve, registered]
          | some awaited =>
              obtain ⟨id, hasId, registered⟩ := Option.bind_eq_some_iff.mp registered
              have answers := answerIn?_eq_some.mpr ⟨read, kind, hasId⟩
              rw [linked.frame_feeds_of_answer registered answers]
              cases begun : begun? awaited message with
              | none => rfl
              | some entry =>
                  obtain ⟨subscribed, subscription⟩ := entry
                  obtain ⟨number, wanted⟩ := awaited
                  obtain ⟨rfl, result⟩ := begun?_eq_some.mp begun
                  exact absurd ⟨bytes, id, number, message, rfl, registered, answers, result⟩
                    (noBeginning subscribed subscription)

/-! ### One event -/

/-- The end of a call changes calls only. -/
theorem settle_eq_with (number : Nat) (state : CallState) (session : Session) :
    ∃ pending calls, session.settle number state =
      { session with pending := pending, calls := calls } := by
  unfold settle
  split
  · exact ⟨_, _, rfl⟩
  · exact ⟨session.pending, session.calls, rfl⟩

/-- A frame changes calls and subscriptions only. -/
theorem frame_eq_with (bytes : Bytes) (session : Session) :
    ∃ pending feeds calls, session.frame bytes =
      { session with pending := pending, feeds := feeds, calls := calls } := by
  have same : ∃ pending feeds calls, session =
      { session with pending := pending, feeds := feeds, calls := calls } :=
    ⟨session.pending, session.feeds, session.calls, rfl⟩
  unfold frame
  split
  · exact same
  · next message _ =>
      split
      · unfold resolve
        split
        · exact same
        · next awaited _ =>
            cases begun? awaited message with
            | none =>
                obtain ⟨pending, calls, settled⟩ :=
                  settle_eq_with awaited.call (.finished (.ok message)) session
                exact ⟨pending, session.feeds, calls, settled⟩
            | some entry =>
                obtain ⟨pending, calls, settled⟩ := settle_eq_with awaited.call
                  (.finished (.ok message)) (session.enter entry.1 entry.2)
                refine ⟨pending, (session.enter entry.1 entry.2).feeds, calls, ?_⟩
                rw [Option.elim_some, settled]
                unfold enter
                split <;> rfl
      · unfold notify
        split
        · split
          · exact ⟨session.pending, _, session.calls, rfl⟩
          · exact same
        · exact same
      · exact same

theorem send_feeds (request : Request) (subscription : Option Subscription) :
    (session.send request subscription).2.feeds = session.feeds := by
  unfold send
  dsimp only
  split
  · split
    · rfl
    · simp only [settle_feeds]
  · rfl

/-- Whether an event has to do with subscriptions or mailboxes at all. -/
def Event.concernsFeeds : Event → Bool
  | .openMailbox _ | .receive _ | .closeMailbox _ => true
  | .frame _ | .unsubscribe _ _ | .teardown => true
  | _ => false

/-- Starts, new calls and callers that give up leave subscriptions and mailboxes as they are. -/
theorem step_feeds (elsewhere : event.concernsFeeds = false) :
    (session.step event).feeds = session.feeds := by
  cases event with
  | openMailbox | receive | closeMailbox | frame | unsubscribe | teardown => cases elsewhere
  | start => rfl
  | dialFailed start text =>
      simp only [step, dialFailed]
      split
      · split <;> rfl
      · rfl
  | redial start | dialSucceeded start =>
      simp only [step, redial, dialSucceeded]
      split <;> rfl
  | launch start =>
      simp only [step, launch]
      split
      · split <;> rfl
      · rfl
      · rfl
  | abandonStart start =>
      simp only [step, abandonStart]
      split <;> rfl
  | call id method params => exact send_feeds _ _
  | subscribe id method event params sink => exact send_feeds _ _
  | abandon caller => exact settle_feeds _ _ _

/-- Whoever unsubscribes forgets the id, and changes nothing else of the subscriptions. -/
theorem unsubscribe_feeds (id subscribed : String) :
    (session.unsubscribe id subscribed).2.feeds.mailboxes = session.feeds.mailboxes ∧
      (session.unsubscribe id subscribed).2.feeds.table = session.feeds.table.erase subscribed := by
  unfold unsubscribe
  split
  · next unknown =>
      refine ⟨rfl, Std.ExtTreeMap.ext_getElem? fun other => ?_⟩
      rw [SubscriptionTable.getElem?_erase]
      split
      · next same =>
          rw [← same]
          exact Option.map_eq_none_iff.mp unknown
      · rfl
  · dsimp only
    split
    · exact ⟨rfl, rfl⟩
    · dsimp only [call]
      rw [send_feeds]
      exact ⟨rfl, rfl⟩

theorem Reached.table_teardown (reached : session.Reached) : session.teardown.feeds.table = ∅ :=
  (reached.linked.torn_teardown reached.torn).table

/-- An id whose subscription is ended leads nowhere. -/
theorem Reached.table_of_closes (reached : session.Reached) {subscribed : String}
    (closes : Closes session event subscribed) :
    (session.step event).feeds.table[subscribed]? = none := by
  rcases closes with ⟨id, rfl⟩ | rfl | ⟨bytes, notice, subscription, rfl, holds, rfl, leads, closed⟩
  · rw [Session.step, (unsubscribe_feeds id subscribed).2, SubscriptionTable.getElem?_erase, if_pos rfl]
  · rw [Session.step, reached.table_teardown]
    simp
  · rw [Session.step, frame_of_notice holds]
    simp only [Feeds.dispatch, leads, closed, if_true, Feeds.remove]
    rw [SubscriptionTable.getElem?_erase, if_pos rfl]

/-- Where no subscription of an id is begun or ended, the id leads where it led. -/
theorem Reached.table_of_untouched (reached : session.Reached) {subscribed : String}
    (noBeginning : ∀ other, ¬ Begins session event subscribed other)
    (noEnd : ¬ Closes session event subscribed) :
    (session.step event).feeds.table[subscribed]? = session.feeds.table[subscribed]? := by
  by_cases begun : ∃ otherId other, Begins session event otherId other
  · obtain ⟨otherId, other, begins⟩ := begun
    rw [reached.linked.feeds_of_begins begins, Feeds.insert, SubscriptionTable.getElem?_insert,
      if_neg]
    rintro rfl
    exact noBeginning other begins
  have noBeginning : ∀ otherId other, ¬ Begins session event otherId other :=
    fun otherId other begins => begun ⟨otherId, other, begins⟩
  cases event with
  | frame bytes =>
      show (session.frame bytes).feeds.table[subscribed]? = _
      cases holds : noticeIn? bytes with
      | none => rw [reached.linked.frame_feeds_of_other holds noBeginning]
      | some notice =>
          rw [frame_of_notice holds]
          simp only [Feeds.dispatch]
          split
          · rfl
          · next subscription leads =>
              split
              · next closed =>
                  rw [Feeds.remove, SubscriptionTable.getElem?_erase, if_neg]
                  intro same
                  exact noEnd (Or.inr (Or.inr
                    ⟨bytes, notice, subscription, rfl, holds, same, same ▸ leads, closed⟩))
              · rfl
  | unsubscribe id otherId =>
      rw [Session.step, (unsubscribe_feeds id otherId).2, SubscriptionTable.getElem?_erase, if_neg]
      rintro rfl
      exact noEnd (Or.inl ⟨id, rfl⟩)
  | teardown => exact absurd (Or.inr (Or.inl rfl)) noEnd
  | openMailbox | receive | closeMailbox => rfl
  | _ => rw [step_feeds rfl]

/-- After an event an id leads to a subscription if the event has begun it, or if it led there
before and the event has neither begun another one nor ended it. -/
theorem Reached.table_step (reached : session.Reached) {subscribed : String} :
    (session.step event).feeds.table[subscribed]? = some subscription ↔
      Begins session event subscribed subscription ∨
        (∀ other, ¬ Begins session event subscribed other) ∧ ¬ Closes session event subscribed ∧
          session.feeds.table[subscribed]? = some subscription := by
  have entered : ∀ {other : Subscription}, Begins session event subscribed other →
      (session.step event).feeds.table[subscribed]? = some other := by
    intro other begins
    rw [reached.linked.feeds_of_begins begins, Feeds.insert, SubscriptionTable.getElem?_insert,
      if_pos rfl]
  constructor
  · intro leads
    by_cases begun : ∃ other, Begins session event subscribed other
    · obtain ⟨other, begins⟩ := begun
      cases (entered begins).symm.trans leads
      exact Or.inl begins
    have noBeginning : ∀ other, ¬ Begins session event subscribed other :=
      fun other begins => begun ⟨other, begins⟩
    by_cases closes : Closes session event subscribed
    · cases (reached.table_of_closes closes).symm.trans leads
    · rw [reached.table_of_untouched noBeginning closes] at leads
      exact Or.inr ⟨noBeginning, closes, leads⟩
  · rintro (begins | ⟨noBeginning, noEnd, leads⟩)
    · exact entered begins
    · rw [reached.table_of_untouched noBeginning noEnd, leads]

/-! ### Whole runs -/

theorem run_concat (session : Session) (events : List Event) (event : Event) :
    session.run (events ++ [event]) = (session.run events).step event :=
  List.foldl_concat step session event events

theorem run_append_cons (session : Session) (earlier middle : List Event) (event : Event) :
    session.run (earlier ++ event :: middle) = (session.run (earlier ++ [event])).run middle := by
  rw [← run_append, List.append_assoc]
  rfl

section During

variable {State Moment Entry : Type} {advance : State → Moment → State}
  {P : State → Moment → Prop} {state : State} {moments : List Moment} {moment : Moment}

/-- Something holds at every moment of a run, whatever it is that runs. -/
def During (advance : State → Moment → State) (P : State → Moment → Prop) (state : State)
    (moments : List Moment) : Prop :=
  ∀ earlier moment later, moments = earlier ++ moment :: later →
    P (earlier.foldl advance state) moment

theorem during_nil : During advance P state [] := by
  intro earlier moment later split
  simp at split

theorem during_concat :
    During advance P state (moments ++ [moment]) ↔
      During advance P state moments ∧ P (moments.foldl advance state) moment := by
  constructor
  · intro holds
    refine ⟨?_, holds moments moment [] rfl⟩
    intro earlier last later split
    exact holds earlier last (later ++ [moment]) (by rw [split, List.append_assoc]; rfl)
  · rintro ⟨holds, atEnd⟩ earlier last later split
    rcases List.eq_nil_or_concat later with rfl | ⟨middle, final, rfl⟩
    · obtain ⟨rfl, same⟩ := List.append_inj' split rfl
      cases same
      exact atEnd
    · rw [List.concat_eq_append, ← List.cons_append, ← List.append_assoc] at split
      exact holds earlier last middle (List.append_inj' split rfl).1

theorem During.drop {earlier later : List Moment}
    (holds : During advance P state (earlier ++ later)) :
    During advance P (earlier.foldl advance state) later := by
  intro before moment after split
  rw [← List.foldl_append]
  exact holds (earlier ++ before) moment after (by rw [split, List.append_assoc])

/-- An entry that every moment opens, or shuts, or leaves alone is what the last moment has made of
it that opened it, if none has shut it since. -/
theorem entry_iff (lookup : State → Option Entry) (Opens : State → Moment → Entry → Prop)
    (Shuts : State → Moment → Prop) (empty : lookup state = none)
    (law : ∀ (earlier : List Moment) moment entry,
      lookup (advance (earlier.foldl advance state) moment) = some entry ↔
        Opens (earlier.foldl advance state) moment entry ∨
          (∀ other, ¬ Opens (earlier.foldl advance state) moment other) ∧
            ¬ Shuts (earlier.foldl advance state) moment ∧
              lookup (earlier.foldl advance state) = some entry) {entry : Entry} :
    lookup (moments.foldl advance state) = some entry ↔
      ∃ earlier opening later, moments = earlier ++ opening :: later ∧
        Opens (earlier.foldl advance state) opening entry ∧
        During advance (fun state moment =>
            (∀ other, ¬ Opens state moment other) ∧ ¬ Shuts state moment)
          ((earlier ++ [opening]).foldl advance state) later := by
  have advanced : ∀ (earlier : List Moment) opening middle,
      (earlier ++ opening :: middle).foldl advance state =
        middle.foldl advance ((earlier ++ [opening]).foldl advance state) := by
    intro earlier opening middle
    rw [List.append_cons, List.foldl_append]
  -- from the end of the run, since its last moment decides first
  induction moments using List.reverseRecOn with
  | nil =>
      rw [List.foldl_nil, empty]
      simp
  | append_singleton moments moment inductionHypothesis =>
      rw [List.foldl_concat, law]
      simp only [inductionHypothesis]
      constructor
      · rintro (opens | ⟨notOpened, notShut, earlier, opening, middle, rfl, opens, rest⟩)
        · exact ⟨moments, moment, [], rfl, opens, during_nil⟩
        · refine ⟨earlier, opening, middle ++ [moment], by simp, opens, ?_⟩
          refine during_concat.mpr ⟨rest, ?_⟩
          rw [← advanced]
          exact ⟨notOpened, notShut⟩
      · rintro ⟨earlier, opening, rest, split, opens, undisturbed⟩
        rcases List.eq_nil_or_concat rest with rfl | ⟨middle, final, rfl⟩
        · obtain ⟨rfl, same⟩ := List.append_inj' split rfl
          cases same
          exact Or.inl opens
        · rw [List.concat_eq_append] at split undisturbed
          rw [← List.cons_append, ← List.append_assoc] at split
          obtain ⟨rfl, same⟩ := List.append_inj' split rfl
          cases same
          obtain ⟨quiet, notOpened, notShut⟩ := during_concat.mp undisturbed
          rw [← advanced] at notOpened notShut
          exact Or.inr ⟨notOpened, notShut, earlier, opening, middle, rfl, opens, quiet⟩

end During

/-- Something holds of every event of a run, when it happens. -/
def Throughout (P : Session → Event → Prop) (session : Session) (events : List Event) : Prop :=
  ∀ earlier event later, events = earlier ++ event :: later → P (session.run earlier) event

theorem throughout_nil {P : Session → Event → Prop} : session.Throughout P [] :=
  during_nil

theorem throughout_concat {P : Session → Event → Prop} {events : List Event} :
    session.Throughout P (events ++ [event]) ↔
      session.Throughout P events ∧ P (session.run events) event :=
  during_concat

/-- Some events begin no subscription under an id. -/
def Unbegun (session : Session) (events : List Event) (subscribed : String) : Prop :=
  session.Throughout (fun session event => ∀ other, ¬ Begins session event subscribed other) events

/-- Some events neither begin nor end a subscription of an id. -/
def Undisturbed (session : Session) (events : List Event) (subscribed : String) : Prop :=
  session.Throughout (fun session event =>
    (∀ other, ¬ Begins session event subscribed other) ∧ ¬ Closes session event subscribed) events

/-- Where nothing new has begun under an id, the id leads to nothing new. -/
theorem Reached.mapped_of_unbegun (reached : session.Reached) {events : List Event}
    {subscribed : String} (unbegun : session.Unbegun events subscribed)
    (leads : (session.run events).feeds.table[subscribed]? = some subscription) :
    session.feeds.table[subscribed]? = some subscription := by
  induction events using List.reverseRecOn with
  | nil => exact leads
  | append_singleton events event inductionHypothesis =>
      obtain ⟨before, atEnd⟩ := throughout_concat.mp unbegun
      rw [run_concat, (reached.run events).table_step] at leads
      rcases leads with begins | ⟨_, _, leads⟩
      · exact absurd begins (atEnd subscription)
      · exact inductionHypothesis before leads

/-- An id leads to a subscription just if an answer has begun it under the id, and since then
nothing has begun another one or ended it. -/
theorem Reached.mapped_iff (reached : session.Reached) (empty : session.feeds.table = ∅)
    {events : List Event} {subscribed : String} :
    (session.run events).feeds.table[subscribed]? = some subscription ↔
      ∃ earlier opening later, events = earlier ++ opening :: later ∧
        Begins (session.run earlier) opening subscribed subscription ∧
        (session.run (earlier ++ [opening])).Undisturbed later subscribed := by
  have absent : session.feeds.table[subscribed]? = none := by
    rw [empty]
    simp
  exact entry_iff (fun session : Session => session.feeds.table[subscribed]?)
    (fun session event other => Begins session event subscribed other)
    (fun session event => Closes session event subscribed) absent
    fun earlier _ _ => (reached.run earlier).table_step

end Session

end RpcTransport
