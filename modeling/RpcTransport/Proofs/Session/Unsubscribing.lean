import RpcTransport.Proofs.Session.Frames
import RpcTransport.Proofs.Session.Leaving
import RpcTransport.Proofs.Session.Subscribing

/-!
Ends of subscriptions. Whoever unsubscribes has an effect once: the id is forgotten before anything
else happens, and the node is asked by one request, if there is a method for that. What others do
between the two steps makes no difference.
-/

namespace RpcTransport

/-! ### Names of methods -/

namespace Method

theorem dropEnding?_eq_some {ending text rest : List Char} :
    dropEnding? ending text = some rest ↔ text = rest ++ ending := by
  unfold dropEnding?
  split
  · next isEnding =>
      obtain ⟨before, rfl⟩ := List.isSuffixOf_iff_suffix.mp isEnding
      simp
  · next notEnding =>
      constructor
      · intro same
        cases same
      · rintro rfl
        exact absurd (List.isSuffixOf_iff_suffix.mpr (List.suffix_append rest ending)) notEnding

/-- Only a method of the form `<ns>_subscribe` with some namespace has one that ends its
subscriptions, and that is `<ns>_unsubscribe`. -/
theorem unsubscribeOf?_eq_some {method ending : String} :
    unsubscribeOf? method = some ending ↔
      ∃ ns : String, ns ≠ "" ∧ method = ns ++ "_subscribe" ∧ ending = ns ++ "_unsubscribe" := by
  constructor
  · intro isEnding
    unfold unsubscribeOf? at isEnding
    split at isEnding
    · cases isEnding
    · cases isEnding
    · next ns notNil found =>
        cases isEnding
        refine ⟨String.ofList ns, ?_, ?_, rfl⟩
        · intro empty
          exact notNil (by rw [← String.toList_ofList (l := ns), empty]; rfl)
        · rw [← String.toList_inj, String.toList_append, String.toList_ofList]
          exact dropEnding?_eq_some.mp found
  · rintro ⟨ns, notEmpty, rfl, rfl⟩
    have found : dropEnding? "_subscribe".toList (ns ++ "_subscribe").toList = some ns.toList :=
      dropEnding?_eq_some.mpr String.toList_append
    unfold unsubscribeOf?
    rw [found]
    cases chars : ns.toList with
    | nil => exact absurd (String.toList_eq_nil_iff.mp chars) notEmpty
    | cons first rest =>
        have same : String.ofList (first :: rest) = ns := by rw [← chars, String.ofList_toList]
        show some (String.ofList (first :: rest) ++ "_unsubscribe") = _
        rw [same]

end Method

namespace Scene

open Session (Event During during_concat answerIn?)

variable {scene : Scene} {moment : Moment} {moments : List Moment} {number : Nat}
  {id subscription : String}

/-! ### Answers -/

/-- The events among some moments. -/
def eventsOf (moments : List Moment) : List Event :=
  moments.filterMap Moment.event?

theorem eventsOf_concat (moments : List Moment) (moment : Moment) :
    eventsOf (moments ++ [moment]) = eventsOf moments ++ eventsOf [moment] :=
  List.filterMap_append

/-- No request is sent under the id of a call that waits. -/
def Fresh (scene : Scene) (moment : Moment) : Prop :=
  ∀ id, moment.requestId? scene.leavers scene.session = some id →
    ∀ number : Nat, scene.session.calls[number]? ≠ some (.waiting id)

/-- Throughout a run, ids differ among the calls in flight. -/
def DistinctIds (scene : Scene) (moments : List Moment) : Prop :=
  During step Fresh scene moments

/-- At a moment an event happens to the calls, or they stay as they are. -/
theorem step_calls_cases (scene : Scene) (moment : Moment) :
    (∃ event, (scene.step moment).session.calls = (scene.session.step event).calls ∧
      (scene.Fresh moment → scene.session.Fresh event) ∧
      ∀ number state, (eventsOf [moment]).foldl (CallState.after number) state =
        state.after number event) ∨
    (scene.step moment).session.calls = scene.session.calls ∧ eventsOf [moment] = [] := by
  rcases scene.step_session_cases moment with ⟨event, rfl, same⟩ | ⟨other, rfl, same⟩ |
    ⟨place, id, rfl, ⟨_, same⟩ | ⟨leaver, isLeaver, same⟩⟩
  · exact Or.inl ⟨event, congrArg Session.calls same, fun fresh => fresh, fun _ _ => rfl⟩
  · refine Or.inr ⟨?_, rfl⟩
    rw [same, Session.leave_session]
  · exact Or.inr ⟨congrArg Session.calls same, rfl⟩
  · rcases scene.session.inform_cases id leaver.subscription leaver.state with
      ⟨ending, yetToAsk, asks⟩ | ⟨_, unchanged⟩
    · refine Or.inl ⟨.call id ending [.string leaver.subscription], by rw [same, asks], ?_, ?_⟩
      · intro fresh other sends
        cases sends
        refine fresh id ?_
        show (scene.leavers[place]?.bind Leaver.ending?).map _ = _
        rw [isLeaver, Option.bind_some, yetToAsk, Option.map_some]
      · intro number state
        cases state <;> rfl
    · exact Or.inr ⟨by rw [same, unchanged], rfl⟩

/-- A moment takes every call along its own way. -/
theorem calls_step (linked : scene.session.Linked) (fresh : scene.Fresh moment) {state : CallState}
    (found : scene.session.calls[number]? = some state) :
    (scene.step moment).session.calls[number]? =
      some ((eventsOf [moment]).foldl (CallState.after number) state) := by
  rcases scene.step_calls_cases moment with ⟨event, same, freshEvent, alike⟩ | ⟨same, quiet⟩
  · rw [same, alike]
    exact linked.calls_step (freshEvent fresh) found
  · rw [same, quiet]
    exact found

/-- A call that is over stays as it is at every moment, -/
theorem calls_step_over (linked : scene.session.Linked) {state : CallState}
    (isOver : ∀ id, state ≠ .waiting id) (found : scene.session.calls[number]? = some state) :
    (scene.step moment).session.calls[number]? = some state := by
  rcases scene.step_calls_cases moment with ⟨event, same, _⟩ | ⟨same, _⟩
  · rw [same]
    exact linked.calls_step_over isOver found
  · rw [same]
    exact found

/-- and so throughout a run. -/
theorem calls_run_over (orderly : scene.session.Orderly) {state : CallState}
    (isOver : ∀ id, state ≠ .waiting id) (found : scene.session.calls[number]? = some state)
    (moments : List Moment) : (scene.run moments).session.calls[number]? = some state := by
  induction moments generalizing scene with
  | nil => exact found
  | cons moment rest inductionHypothesis =>
      exact inductionHypothesis (orderly_step orderly moment)
        (calls_step_over orderly.linked isOver found)

/-- A whole run takes every call along its own way. -/
theorem calls_run (orderly : scene.session.Orderly) (distinct : scene.DistinctIds moments)
    {state : CallState} (found : scene.session.calls[number]? = some state) :
    (scene.run moments).session.calls[number]? =
      some ((eventsOf moments).foldl (CallState.after number) state) := by
  induction moments using List.reverseRecOn with
  | nil => exact found
  | append_singleton moments moment inductionHypothesis =>
      obtain ⟨before, fresh⟩ := during_concat.mp distinct
      have earlier := inductionHypothesis before
      rw [run_concat, calls_step (orderly_run orderly moments).linked fresh earlier,
        eventsOf_concat, List.foldl_append]

/-- What somebody gets who has unsubscribed. -/
def result? (number : Nat) (scene : Scene) : Option (Outcome Bool) :=
  match scene.leavers[number]? with
  | some ⟨_, .finished (.known existed)⟩ => some (.ok existed)
  | some ⟨_, .finished (.asked call)⟩ => (scene.session.outcome? call).map Session.ended
  | _ => none

theorem result?_of_asked {call : Nat}
    (found : scene.leavers[number]? = some ⟨subscription, .finished (.asked call)⟩) :
    scene.result? number = (scene.session.outcome? call).map Session.ended := by
  unfold result?
  rw [found]

/-- What the events after a request bring to its caller, who asked for a boolean: the first answer
for its id, or a teardown before that, as long as the caller has not given up. -/
def Concludes (id : String) (call : Nat) (events : List Event) (outcome : Outcome Bool) : Prop :=
  ∃ middle event later, events = middle ++ event :: later ∧
    ((∀ bytes, .frame bytes ∈ middle → answerIn? id bytes = none) ∧ .abandon call ∉ middle ∧
      .teardown ∉ middle) ∧
    ((∃ bytes message, event = .frame bytes ∧ answerIn? id bytes = some message ∧
        outcome = message.decodeResult .boolean) ∨
      event = .teardown ∧ outcome = .error .connectionClosed)

/-- A call that waits concludes with what the first event brings that ends it. -/
theorem concludes_iff {call : Nat} {events : List Event} {outcome : Outcome Bool} :
    (∃ ending, events.foldl (CallState.after call) (.waiting id) = .finished ending ∧
      Session.ended ending = outcome) ↔ Concludes id call events outcome := by
  constructor
  · rintro ⟨ending, isOver, rfl⟩
    obtain ⟨middle, event, later, split, quiet, ends⟩ :=
      (CallState.foldl_after_eq fun _ => Session.finished_ne_waiting).mp isOver
    refine ⟨middle, event, later, split, Session.forall_ending?_eq_none.mp quiet, ?_⟩
    cases ending with
    | ok message =>
        obtain ⟨bytes, isFrame, answers⟩ := Session.ending?_eq_ok.mp ends
        exact Or.inl ⟨bytes, message, isFrame, answers, rfl⟩
    | error error =>
        obtain ⟨isTeardown, rfl⟩ := Session.ending?_eq_error.mp ends
        exact Or.inr ⟨isTeardown, rfl⟩
  · rintro ⟨middle, event, later, split, quiet, conclusion⟩
    have isOver : ∀ {ending}, event.ending? call id = some (.finished ending) →
        events.foldl (CallState.after call) (.waiting id) = .finished ending := fun ends =>
      (CallState.foldl_after_eq fun _ => Session.finished_ne_waiting).mpr
        ⟨middle, event, later, split, Session.forall_ending?_eq_none.mpr quiet, ends⟩
    rcases conclusion with ⟨bytes, message, isFrame, answers, rfl⟩ | ⟨isTeardown, rfl⟩
    · exact ⟨.ok message, isOver (Session.ending?_eq_ok.mpr ⟨bytes, isFrame, answers⟩), rfl⟩
    · exact ⟨.error .connectionClosed, isOver (Session.ending?_eq_error.mpr ⟨isTeardown, rfl⟩),
        rfl⟩

end Scene

namespace Session

open Scene (Concludes)

variable {session : Session} {id subscription : String} {state : LeaveState}

theorem settle_outbound (number : Nat) (state : CallState) (session : Session) :
    (session.settle number state).outbound = session.outbound := by
  unfold settle
  split <;> rfl

/-- A request over a connection hands one text to it; under a new id the call waits. -/
theorem send_of_connected (connected : session.phase = .connected) {texts : List Bytes}
    (inUse : session.outbound = some texts) (request : Request)
    (subscription : Option Subscription) :
    (session.send request subscription).2.outbound = some (texts ++ [request.encode]) ∧
      (session.pending[request.id]? = none →
        (session.send request subscription).2.calls = session.calls ++ [.waiting request.id]) := by
  unfold send
  rw [connected, inUse]
  dsimp only
  split
  · next free =>
      exact ⟨rfl, fun _ => rfl⟩
  · next earlier registered =>
      refine ⟨?_, fun free => nomatch free.symm.trans registered⟩
      simp only [settle_outbound]

/-- A session after some moments, with those who have unsubscribed. -/
def scene (session : Session) (moments : List Moment) : Scene :=
  Scene.run { session := session } moments

/-- From when somebody unsubscribes the id leads nowhere, until an answer gives it anew. -/
theorem table_of_left_unopened {scene : Scene} {moment : Moment} {middle : List Moment}
    (orderly : ∀ moments, (scene.run moments).session.Orderly) (leaves : moment.left? = some id)
    (unopened : (scene.step moment).Unopened middle id) :
    ((scene.step moment).run middle).session.feeds.table[id]? = none :=
  Scene.table_of_unopened (orderly [moment]) unopened (Scene.table_of_left (orderly []) leaves)

/-- Somebody has forgotten an id: its entry is gone, and with it its sender, and nothing else has
changed. -/
structure Forgets (before after : Scene) (id : String) (entry : Subscription) : Prop where
  leavers : after.leavers = before.leavers ++ [⟨id, .forgotten entry.method⟩]
  session : after.session =
    { before.session with
      feeds := { before.session.feeds with table := before.session.feeds.table.erase id } }
  table : ∀ other : String, after.session.feeds.table[other]? =
    if other = id then none else before.session.feeds.table[other]?
  senders : ∀ sink holder, after.session.Holds sink holder ↔
    before.session.Holds sink holder ∧ holder ≠ .subscription id

/-- Somebody has asked the node to end a subscription: one text was handed to the connection. -/
structure Asks (before after : Scene) (number : Nat) (request id ending : String) : Prop where
  leavers : after.leavers =
    before.leavers.set number ⟨id, .finished (.asked before.session.calls.length)⟩
  texts : ∃ texts, before.session.outbound = some texts ∧ after.session.outbound =
    some (texts ++ [(Request.make request ending [.string id]).encode])

/-- Nobody who unsubscribes has an effect more than once, whatever happens between the steps. -/
structure UnsubscribesOnce (session : Session) : Prop where
  /-- To a session it makes no difference that we watch those who unsubscribe. -/
  whole : ∀ events, (session.scene (events.map .event)).session = session.run events
  /-- Whoever is not interrupted takes both steps, one after the other. -/
  steps : ∀ earlier request id later,
    session.scene (earlier ++ .event (.unsubscribe request id) :: later) =
      session.scene (earlier ++
        .leave id :: .inform (session.scene earlier).leavers.length request :: later)
  /-- An id leads to the subscription that the last answer under it has begun, until somebody
  unsubscribes or the subscription ends otherwise. -/
  latest : ∀ moments (id : String) subscription,
    (session.scene moments).session.feeds.table[id]? = some subscription ↔
      ∃ earlier opening later, moments = earlier ++ opening :: later ∧
        (session.scene earlier).Opens opening id subscription ∧
        During Scene.step (fun scene moment =>
            (∀ other, ¬ scene.Opens moment id other) ∧ ¬ scene.Shuts moment id)
          (session.scene (earlier ++ [opening])) later
  /-- Whoever finds the id forgets it first of all, -/
  forgets : ∀ moments (id : String) entry,
    (session.scene moments).session.feeds.table[id]? = some entry →
    Forgets (session.scene moments) (session.scene (moments ++ [.leave id])) id entry
  /-- and whoever does not find it changes nothing, and gets to know that. -/
  unknown : ∀ moments (id : String), (session.scene moments).session.feeds.table[id]? = none →
    session.scene (moments ++ [.leave id]) =
      { session.scene moments with
        leavers := (session.scene moments).leavers ++ [⟨id, .finished (.known false)⟩] }
  /-- From then on, until an answer gives the id anew, nobody is served under the id, and its
  notifications change nothing. -/
  silent : ∀ earlier moment middle id, moment.left? = some id →
    (session.scene (earlier ++ [moment])).Unopened middle id →
    (∀ sink, ¬ (session.scene (earlier ++ moment :: middle)).session.Holds sink
      (.subscription id)) ∧
    ∀ bytes notice, noticeIn? bytes = some notice → notice.subscription = id →
      (session.scene (earlier ++ moment :: middle)).session.frame bytes =
        (session.scene (earlier ++ moment :: middle)).session
  /-- The second step waits for whoever is to take it. -/
  waits : ∀ earlier later number leaver, (session.scene earlier).leavers[number]? = some leaver →
    (∀ request, .inform number request ∉ later) →
    (session.scene (earlier ++ later)).leavers[number]? = some leaver
  /-- Over a connection, one request asks the node to end a subscription that a method
  `<ns>_subscribe` has begun. -/
  asks : ∀ moments number request id ns, ns ≠ "" →
    (session.scene moments).leavers[number]? = some ⟨id, .forgotten (ns ++ "_subscribe")⟩ →
    (session.scene moments).session.phase = .connected →
    Asks (session.scene moments) (session.scene (moments ++ [.inform number request])) number
      request id (ns ++ "_unsubscribe")
  /-- The caller gets what the answer says. -/
  answered : ∀ earlier number request later id ns outcome,
    ns ≠ "" →
    (session.scene earlier).leavers[number]? = some ⟨id, .forgotten (ns ++ "_subscribe")⟩ →
    (session.scene earlier).session.phase = .connected →
    Scene.DistinctIds { session := session } (earlier ++ .inform number request :: later) →
    ((session.scene (earlier ++ .inform number request :: later)).result? number = some outcome ↔
      Concludes request (session.scene earlier).session.calls.length (Scene.eventsOf later) outcome)
  /-- Without a connection no text is handed over, and the caller gets to know that. -/
  refused : ∀ earlier number request later id ns,
    ns ≠ "" →
    (session.scene earlier).leavers[number]? = some ⟨id, .forgotten (ns ++ "_subscribe")⟩ →
    (session.scene earlier).session.phase ≠ .connected →
    (session.scene (earlier ++ [.inform number request])).session.outbound =
        (session.scene earlier).session.outbound ∧
      (session.scene (earlier ++ .inform number request :: later)).result? number =
        some (.error .connectionClosed)
  /-- Nobody is asked about a subscription that any other method has begun. -/
  unpaired : ∀ moments number request id method,
    (∀ ns : String, ns ≠ "" → method ≠ ns ++ "_subscribe") →
    (session.scene moments).leavers[number]? = some ⟨id, .forgotten method⟩ →
    session.scene (moments ++ [.inform number request]) =
      { session.scene moments with
        leavers := (session.scene moments).leavers.set number ⟨id, .finished (.known true)⟩ }
  /-- There is no third step, -/
  finished : ∀ moments number id outcome,
    (session.scene moments).leavers[number]? = some ⟨id, .finished outcome⟩ →
    (∀ request, session.scene (moments ++ [.inform number request]) = session.scene moments) ∧
      ∀ later, (session.scene (moments ++ later)).leavers[number]? = some ⟨id, .finished outcome⟩
  /-- and of all who unsubscribe between two answers that give the id, one at most finds it,
  whatever happens later. -/
  once : ∀ earlier middle later id first second leaver other,
    (session.scene earlier).Unopened middle id →
    (session.scene earlier).leavers.length ≤ first →
    first < (session.scene (earlier ++ middle)).leavers.length →
    (session.scene earlier).leavers.length ≤ second →
    second < (session.scene (earlier ++ middle)).leavers.length →
    (session.scene (earlier ++ middle ++ later)).leavers[first]? = some leaver →
    (session.scene (earlier ++ middle ++ later)).leavers[second]? = some other →
    leaver.subscription = id → other.subscription = id →
    leaver.state.found = true → other.state.found = true → first = second

theorem scene_append (session : Session) (earlier later : List Moment) :
    session.scene (earlier ++ later) = (session.scene earlier).run later :=
  Scene.run_append _ earlier later

theorem scene_concat (session : Session) (moments : List Moment) (moment : Moment) :
    session.scene (moments ++ [moment]) = (session.scene moments).step moment :=
  Scene.run_concat _ moments moment

theorem scene_events (session : Session) (events : List Event) :
    (session.scene (events.map .event)).session = session.run events := by
  induction events using List.reverseRecOn with
  | nil => rfl
  | append_singleton events event inductionHypothesis =>
      rw [List.map_append, List.map_singleton, scene_concat, Scene.step_event_session,
        inductionHypothesis, run_concat]

/-- What forgetting an id does to a scene in which the id is known. -/
theorem forgets_of_known {scene : Scene} {entry : Subscription}
    (leads : scene.session.feeds.table[id]? = some entry) :
    Forgets scene (scene.step (.leave id)) id entry := by
  have known : scene.session.feeds.methodOf? id = some entry.method := by
    rw [Feeds.methodOf?, leads]
    rfl
  have left : scene.session.leave id =
      (.forgotten entry.method,
        { scene.session with feeds := scene.session.feeds.remove id }) := by
    rw [leave, known]
  have stepped : scene.step (.leave id) =
      { session := { scene.session with feeds := scene.session.feeds.remove id }
        leavers := scene.leavers ++ [⟨id, .forgotten entry.method⟩] } := by
    show scene.leave id = _
    rw [Scene.leave, left]
  rw [stepped]
  have table : ∀ other : String, (scene.session.feeds.table.erase id)[other]? =
      if other = id then none else scene.session.feeds.table[other]? := by
    intro other
    rw [SubscriptionTable.getElem?_erase]
    exact if_congr eq_comm rfl rfl
  refine ⟨rfl, rfl, table, ?_⟩
  intro sink holder
  cases holder with
  | call request =>
      refine (and_iff_left ?_).symm
      intro same
      cases same
  | subscription other =>
      show (∃ entry, (scene.session.feeds.table.erase id)[other]? = some entry ∧ _) ↔
        (∃ entry, scene.session.feeds.table[other]? = some entry ∧ _) ∧ _
      rw [table]
      by_cases here : other = id
      · simp [here]
      · simp [here]

/-- What forgetting an id does to a scene in which the id is not known. -/
theorem leave_of_unknown {scene : Scene} (unknown : scene.session.feeds.table[id]? = none) :
    scene.step (.leave id) =
      { scene with leavers := scene.leavers ++ [⟨id, .finished (.known false)⟩] } := by
  have absent : scene.session.feeds.methodOf? id = none := by
    rw [Feeds.methodOf?, unknown]
    rfl
  show scene.leave id = _
  rw [Scene.leave, leave, absent]

/-- What the second step does that asks the node. -/
theorem inform_of_ending {scene : Scene} {number : Nat} {method ending : String}
    (found : scene.leavers[number]? = some ⟨id, .forgotten method⟩)
    (paired : Method.unsubscribeOf? method = some ending) (request : String) :
    scene.step (.inform number request) =
      { session := (scene.session.send (.make request ending [.string id]) none).2
        leavers :=
          scene.leavers.set number ⟨id, .finished (.asked scene.session.calls.length)⟩ } := by
  show scene.inform number request = _
  rw [Scene.inform_of_leaver found]
  rcases scene.session.inform_cases request id (.forgotten method) with
    ⟨other, isEnding, asks⟩ | ⟨noEnding, _⟩
  · cases paired.symm.trans isEnding
    simp only [asks]
    rfl
  · cases paired.symm.trans noEnding

/-- Nobody is asked about the subscription of a method that is paired with none. -/
theorem inform_of_unpaired {scene : Scene} {number : Nat} {method : String} (request : String)
    (notPaired : ∀ ns : String, ns ≠ "" → method ≠ ns ++ "_subscribe")
    (found : scene.leavers[number]? = some ⟨id, .forgotten method⟩) :
    scene.step (.inform number request) =
      { scene with leavers := scene.leavers.set number ⟨id, .finished (.known true)⟩ } := by
  have noEnding : Method.unsubscribeOf? method = none := by
    refine Option.eq_none_iff_forall_ne_some.mpr fun ending isEnding => ?_
    obtain ⟨ns, notEmpty, same, _⟩ := Method.unsubscribeOf?_eq_some.mp isEnding
    exact notPaired ns notEmpty same
  show scene.inform number request = _
  rw [Scene.inform_of_leaver found, inform]
  simp only [noEnding]

/-- Who has taken both steps takes no other one. -/
theorem inform_of_over {scene : Scene} {number : Nat} {outcome : Unsubscribed}
    (found : scene.leavers[number]? = some ⟨id, .finished outcome⟩) (request : String) :
    scene.step (.inform number request) = scene := by
  obtain ⟨bound, same⟩ := List.getElem?_eq_some_iff.mp found
  show scene.inform number request = _
  rw [Scene.inform_of_leaver found, inform]
  simp only [← same, List.set_getElem_self]

/-- No call waits under a fresh id. -/
theorem pending_of_fresh {scene : Scene} {number : Nat} {method ending request : String}
    (orderly : scene.session.Orderly)
    (found : scene.leavers[number]? = some ⟨id, .forgotten method⟩)
    (paired : Method.unsubscribeOf? method = some ending)
    (fresh : scene.Fresh (.inform number request)) : scene.session.pending[request]? = none := by
  refine Option.eq_none_iff_forall_ne_some.mpr fun awaited registered => ?_
  refine fresh request ?_ _ (orderly.linked.waiting registered)
  show (scene.leavers[number]?.bind Leaver.ending?).map _ = _
  rw [found, Option.bind_some]
  exact congrArg (Option.map _) paired

/-- Whoever has once unsubscribed was there from then on. -/
theorem exists_past_leaver {scene : Scene} {later : List Moment} {number : Nat} {leaver : Leaver}
    (bound : number < scene.leavers.length)
    (found : (scene.run later).leavers[number]? = some leaver) :
    ∃ past, scene.leavers[number]? = some past ∧ past.Becomes leaver := by
  have wasThere := List.getElem?_eq_getElem bound
  obtain ⟨after, same, becomes⟩ := Scene.run_becomes wasThere later
  cases same.symm.trans found
  exact ⟨_, wasThere, becomes⟩

/-- Whoever asks the node is to get what becomes of the call that begins with it. -/
theorem asked_of_inform {scene : Scene} {number : Nat} {method ending request : String}
    {call : CallState} (found : scene.leavers[number]? = some ⟨id, .forgotten method⟩)
    (paired : Method.unsubscribeOf? method = some ending)
    (sent : (scene.session.send (.make request ending [.string id]) none).2.calls =
      scene.session.calls ++ [call]) :
    (scene.step (.inform number request)).leavers[number]? =
        some ⟨id, .finished (.asked scene.session.calls.length)⟩ ∧
      (scene.step (.inform number request)).session.calls[scene.session.calls.length]? =
        some call := by
  obtain ⟨bound, _⟩ := List.getElem?_eq_some_iff.mp found
  rw [inform_of_ending found paired]
  refine ⟨List.getElem?_set_self bound, ?_⟩
  rw [sent]
  exact List.getElem?_concat_length

/-- What somebody gets who has asked the node is what becomes of the call. -/
theorem result?_of_inform {scene : Scene} {number : Nat} {method ending request : String}
    {later : List Moment} {call : CallState}
    (orderly : scene.session.Orderly)
    (found : scene.leavers[number]? = some ⟨id, .forgotten method⟩)
    (paired : Method.unsubscribeOf? method = some ending)
    (distinct : scene.DistinctIds (.inform number request :: later))
    (sent : (scene.session.send (.make request ending [.string id]) none).2.calls =
      scene.session.calls ++ [call]) {outcome : Outcome Bool} :
    (scene.run (.inform number request :: later)).result? number = some outcome ↔
      ∃ end_, (Scene.eventsOf later).foldl (CallState.after scene.session.calls.length) call =
        .finished end_ ∧ ended end_ = outcome := by
  obtain ⟨asked, begun⟩ := asked_of_inform found paired sent
  have distinctLater : (scene.step (.inform number request)).DistinctIds later := by
    rw [← List.singleton_append] at distinct
    exact During.drop distinct
  have asLater : scene.run (.inform number request :: later) =
    (scene.step (.inform number request)).run later := rfl
  rw [asLater, Scene.result?_of_asked (Scene.run_over asked later), Option.map_eq_some_iff]
  simp only [outcome?_eq_some,
    Scene.calls_run (Scene.orderly_step orderly _) distinctLater begun, Option.some.injEq]

/-- Unsubscribing has its effects once, however many unsubscribe and whatever happens between their
steps. -/
theorem unsubscribes_once {url : String} {config : WebSocketConfig}
    (made : make url config = .ok session) : session.UnsubscribesOnce := by
  have orderlyFirst : session.Orderly := orderly_of_make made
  have empty : session.feeds.table = ∅ := by rw [make_eq_ok made]
  have orderly : ∀ moments, (session.scene moments).session.Orderly :=
    fun moments => Scene.orderly_run orderlyFirst moments
  have paired : ∀ {ns : String}, ns ≠ "" →
      Method.unsubscribeOf? (ns ++ "_subscribe") = some (ns ++ "_unsubscribe") :=
    fun notEmpty => Method.unsubscribeOf?_eq_some.mpr ⟨_, notEmpty, rfl, rfl⟩
  constructor
  case whole => exact session.scene_events
  case steps =>
    intro earlier request id later
    rw [scene_append, scene_append]
    rfl
  case latest =>
    intro moments id subscription
    exact Scene.table_iff orderlyFirst empty
  case forgets =>
    intro moments id entry leads
    rw [scene_concat]
    exact forgets_of_known leads
  case unknown =>
    intro moments id unknown
    rw [scene_concat, leave_of_unknown unknown]
  case silent =>
    intro earlier moment middle id leaves unopened
    have after : ∀ moments, ((session.scene earlier).run moments).session.Orderly := by
      intro moments
      rw [← scene_append]
      exact orderly (earlier ++ moments)
    rw [scene_concat] at unopened
    have unknown := table_of_left_unopened after leaves unopened
    rw [← scene_concat, ← scene_append, ← List.append_cons] at unknown
    refine ⟨?_, ?_⟩
    · rintro sink ⟨entry, leads, _⟩
      cases unknown.symm.trans leads
    · rintro bytes notice holds rfl
      exact frame_of_misses (misses_of_unknown holds unknown)
  case waits =>
    intro earlier later number leaver found notInformed
    rw [scene_append]
    exact Scene.run_keeps found notInformed
  case asks =>
    intro moments number request id ns notEmpty found connected
    obtain ⟨texts, inUse⟩ := Option.ne_none_iff_exists'.mp ((orderly moments).used connected)
    rw [scene_concat, inform_of_ending found (paired notEmpty)]
    exact ⟨rfl, texts, inUse, (send_of_connected connected inUse _ _).1⟩
  case answered =>
    intro earlier number request later id ns outcome notEmpty found connected distinct
    obtain ⟨texts, inUse⟩ := Option.ne_none_iff_exists'.mp ((orderly earlier).used connected)
    have distinctNow := During.drop distinct
    have free := pending_of_fresh (orderly earlier) found (paired notEmpty)
      (distinctNow [] (.inform number request) later rfl)
    have waits := (send_of_connected connected inUse
      (.make request (ns ++ "_unsubscribe") [.string id]) none).2 free
    rw [scene_append, result?_of_inform (orderly earlier) found (paired notEmpty) distinctNow waits]
    exact Scene.concludes_iff
  case refused =>
    intro earlier number request later id ns notEmpty found notConnected
    have refused := send_of_notConnected notConnected
      (.make request (ns ++ "_unsubscribe") [.string id]) none
    refine ⟨?_, ?_⟩
    · rw [scene_concat, inform_of_ending found (paired notEmpty), refused]
    · obtain ⟨asked, begun⟩ := asked_of_inform found (paired notEmpty)
        (congrArg (fun sent => sent.2.calls) refused)
      have isOver := Scene.calls_run_over (Scene.orderly_step (orderly earlier) _)
        (fun _ => finished_ne_waiting) begun later
      rw [scene_append]
      refine (Scene.result?_of_asked (Scene.run_over asked later)).trans ?_
      rw [outcome?_eq_some.mpr isOver]
      rfl
  case unpaired =>
    intro moments number request id method notPaired found
    rw [scene_concat, inform_of_unpaired request notPaired found]
  case finished =>
    intro moments number id outcome found
    refine ⟨fun request => ?_, fun later => ?_⟩
    · rw [scene_concat, inform_of_over found request]
    · rw [scene_append]
      exact Scene.run_over found later
  case once =>
    intro earlier middle later id first second leaver other unopened firstLate firstBefore
      secondLate secondBefore found otherFound leaves otherLeaves finds otherFinds
    rw [scene_append] at found otherFound
    obtain ⟨_, wasThere, becomes⟩ := exists_past_leaver firstBefore found
    obtain ⟨_, otherWasThere, otherBecomes⟩ := exists_past_leaver secondBefore otherFound
    rw [scene_append] at wasThere otherWasThere
    exact Scene.finder_unique (orderly earlier) unopened firstLate secondLate wasThere otherWasThere
      (becomes.subscription.symm.trans leaves) (otherBecomes.subscription.symm.trans otherLeaves)
      (becomes.found.symm.trans finds) (otherBecomes.found.symm.trans otherFinds)

/-- Two unsubscribe from one subscription; both have taken the first step. -/
def leaving : List Moment :=
  (subscribing ++ [Event.frame answeredWithId]).map .event ++ [.leave "0xh", .leave "0xh"]

/-- The first one asks the node, and gets its answer; the second one finds nothing. -/
theorem unsubscribes_once_of_two :
    make "ws://node" {} = .ok idleSession ∧
      Asks (idleSession.scene leaving) (idleSession.scene (leaving ++ [.inform 0 "u"])) 0 "u" "0xh"
        "eth_unsubscribe" ∧
      let answered := idleSession.scene (leaving ++ [.inform 0 "u", .inform 1 "v",
        .event (.frame (bytesOf "\x7b\"id\":\"u\",\"result\":true\x7d"))])
      answered.result? 0 = some (.ok true) ∧ answered.result? 1 = some (.ok false) := by
  have made : make "ws://node" {} = .ok idleSession := rfl
  have asks := (unsubscribes_once made).asks leaving 0 "u" "0xh" "eth" (by decide) rfl rfl
  exact ⟨made, asks, rfl, rfl⟩

end Session

end RpcTransport
