import RpcTransport.Proofs.Session.Starts

/-!
Those who unsubscribe. They take two steps: first the id is forgotten, then the node is asked to end
the subscription, too. Between the two anything can happen: an answer may give the id anew, others
may unsubscribe, the session may be torn down. Still, of all who unsubscribe between two answers
that give an id, one at most finds it.
-/

namespace RpcTransport

/-! ### The two steps -/

/-- How far somebody has come who unsubscribes. -/
inductive LeaveState
  /-- The id is forgotten, and the node not asked yet. The id led to a subscription by this method.
  -/
  | forgotten (method : String)
  /-- Nothing is left to do. -/
  | finished (outcome : Session.Unsubscribed)

/-- Whether the id led to a subscription. -/
def LeaveState.found : LeaveState → Bool
  | .finished (.known existed) => existed
  | _ => true

/-- Somebody who unsubscribes, and from what. -/
structure Leaver where
  subscription : String
  state : LeaveState

/-- What may become of somebody who unsubscribes: it is settled already whether the id was known,
and who has nothing left to do stays so. -/
structure Leaver.Becomes (before after : Leaver) : Prop where
  subscription : after.subscription = before.subscription
  found : after.state.found = before.state.found
  finished : ∀ outcome, before.state = .finished outcome → after.state = .finished outcome

theorem Leaver.Becomes.refl (leaver : Leaver) : leaver.Becomes leaver :=
  ⟨rfl, rfl, fun _ same => same⟩

theorem Leaver.Becomes.trans {before between after : Leaver} (first : before.Becomes between)
    (second : between.Becomes after) : before.Becomes after where
  subscription := second.subscription.trans first.subscription
  found := second.found.trans first.found
  finished outcome isOver := second.finished outcome (first.finished outcome isOver)

/-- The method of the request by which the node is yet to be asked. -/
def Leaver.ending? (leaver : Leaver) : Option String :=
  match leaver.state with
  | .forgotten method => Method.unsubscribeOf? method
  | .finished _ => none

namespace Session

variable {session : Session} {id subscription : String} {state : LeaveState}

/-- The first step: the id is forgotten, if it is known. -/
def leave (subscription : String) (session : Session) : LeaveState × Session :=
  match session.feeds.methodOf? subscription with
  | none => (.finished (.known false), session)
  | some method =>
    (.forgotten method, { session with feeds := session.feeds.remove subscription })

/-- The second step: the node is asked to end the subscription, too, if there is a method for that.
-/
def inform (id subscription : String) (state : LeaveState) (session : Session) :
    LeaveState × Session :=
  match state with
  | .finished _ => (state, session)
  | .forgotten method =>
    match Method.unsubscribeOf? method with
    | none => (.finished (.known true), session)
    | some ending =>
      let (number, session) := session.call id ending [.string subscription]
      (.finished (.asked number), session)

/-- Whoever takes both steps at once unsubscribes. -/
theorem inform_leave (id subscription : String) (session : Session) :
    (session.leave subscription).2.inform id subscription (session.leave subscription).1 =
      (.finished (session.unsubscribe id subscription).1,
        (session.unsubscribe id subscription).2) := by
  unfold leave unsubscribe
  cases session.feeds.methodOf? subscription with
  | none => rfl
  | some method =>
      simp only [inform]
      cases Method.unsubscribeOf? method with
      | none => rfl
      | some ending => rfl

/-- Whoever leaves forgets the id and changes nothing else. -/
theorem leave_session (subscription : String) (session : Session) :
    (session.leave subscription).2 =
      { session with feeds := session.feeds.remove subscription } := by
  unfold leave
  split
  · next unknown =>
      have absent : session.feeds.table[subscription]? = none := Option.map_eq_none_iff.mp unknown
      have same : session.feeds.table.erase subscription = session.feeds.table := by
        refine Std.ExtTreeMap.ext_getElem? fun other => ?_
        rw [SubscriptionTable.getElem?_erase]
        split
        · next here => rw [← here, absent]
        · rfl
      rw [Feeds.remove, same]
  · rfl

/-- Whether the id was known is seen in the first step. -/
theorem leave_found (subscription : String) (session : Session) :
    (session.leave subscription).1.found = session.feeds.table[subscription]?.isSome := by
  unfold leave Feeds.methodOf?
  cases session.feeds.table[subscription]? with
  | none => rfl
  | some entry => rfl

theorem inform_found (id subscription : String) (state : LeaveState) (session : Session) :
    (session.inform id subscription state).1.found = state.found := by
  unfold inform
  split
  · rfl
  · split <;> rfl

theorem inform_feeds (id subscription : String) (state : LeaveState) (session : Session) :
    (session.inform id subscription state).2.feeds = session.feeds := by
  unfold inform
  split
  · rfl
  · split
    · rfl
    · exact send_feeds _ _

/-- The second step sends a request, or changes nothing. -/
theorem inform_cases (id subscription : String) (state : LeaveState) (session : Session) :
    (∃ ending, Leaver.ending? ⟨subscription, state⟩ = some ending ∧
      session.inform id subscription state =
        (.finished (.asked session.calls.length),
          session.step (.call id ending [.string subscription]))) ∨
    Leaver.ending? ⟨subscription, state⟩ = none ∧
      (session.inform id subscription state).2 = session := by
  unfold inform Leaver.ending?
  cases state with
  | finished outcome => exact Or.inr ⟨rfl, rfl⟩
  | forgotten method =>
      dsimp only
      cases Method.unsubscribeOf? method with
      | none => exact Or.inr ⟨rfl, rfl⟩
      | some ending =>
          refine Or.inl ⟨ending, rfl, ?_⟩
          have number :
              (session.call id ending [.string subscription]).1 = session.calls.length := by
            unfold call send
            dsimp only
            split
            · split <;> rfl
            · rfl
          show (LeaveState.finished
            (.asked (session.call id ending [.string subscription]).1), _) = _
          rw [number]
          rfl

theorem Orderly.leave (orderly : session.Orderly) (subscription : String) :
    (session.leave subscription).2.Orderly := by
  rw [leave_session]
  refine ⟨⟨orderly.linked.of_keeps ⟨rfl, rfl, Or.inl rfl⟩, ?_⟩, orderly.lined, orderly.proceeded,
    orderly.used, orderly.unused, orderly.idle⟩
  intro dead
  have torn := orderly.torn dead
  refine ⟨torn.phase, torn.pending, ?_, torn.calls, torn.starts, torn.proceeded⟩
  show session.feeds.table.erase subscription = ∅
  rw [torn.table]
  simp

theorem Orderly.inform (orderly : session.Orderly) (id subscription : String) (state : LeaveState) :
    (session.inform id subscription state).2.Orderly := by
  rcases session.inform_cases id subscription state with ⟨ending, _, asks⟩ | ⟨_, same⟩
  · rw [asks]
    exact orderly.step (.call id ending [.string subscription])
  · rwa [same]

end Session

/-! ### Several who unsubscribe -/

/-- A session and all who have unsubscribed from it, by number. -/
structure Scene where
  session : Session
  leavers : List Leaver := []

/-- What can happen: an event, or a step of somebody who unsubscribes. Whoever unsubscribes in one
event takes both steps at once. -/
inductive Moment
  | event (event : Session.Event)
  | leave (subscription : String)
  | inform (leaver : Nat) (id : String)

/-- The id that somebody forgets at a moment. -/
def Moment.left? : Moment → Option String
  | .leave subscription => some subscription
  | .event (.unsubscribe _ subscription) => some subscription
  | _ => none

/-- The event of a moment, if it is one. -/
def Moment.event? : Moment → Option Session.Event
  | .event e => some e
  | _ => none

/-- The id of the request that is sent at a moment. -/
def Moment.requestId? (leavers : List Leaver) (session : Session) : Moment → Option String
  | .event e => e.requestId? session
  | .leave _ => none
  | .inform number id => (leavers[number]?.bind Leaver.ending?).map fun _ => id

namespace Scene

open Session (Event Begins Closes During during_concat entry_iff answerIn? noticeIn?)

variable {scene : Scene} {moment : Moment} {moments : List Moment} {number : Nat}
  {leaver : Leaver} {id subscription : String}

/-- Somebody takes the first step. -/
def leave (subscription : String) (scene : Scene) : Scene :=
  let (state, session) := scene.session.leave subscription
  { session := session, leavers := scene.leavers ++ [⟨subscription, state⟩] }

/-- Somebody takes the second step. -/
def inform (number : Nat) (id : String) (scene : Scene) : Scene :=
  match scene.leavers[number]? with
  | none => scene
  | some leaver =>
    let (state, session) := scene.session.inform id leaver.subscription leaver.state
    { session := session, leavers := scene.leavers.set number ⟨leaver.subscription, state⟩ }

/-- The scene after a moment. -/
def step (scene : Scene) : Moment → Scene
  | .event (.unsubscribe id subscription) =>
    (scene.leave subscription).inform scene.leavers.length id
  | .event event => { scene with session := scene.session.step event }
  | .leave subscription => scene.leave subscription
  | .inform number id => scene.inform number id

/-- The scene after some moments. -/
def run (scene : Scene) (moments : List Moment) : Scene :=
  moments.foldl step scene

theorem run_append (scene : Scene) (earlier later : List Moment) :
    scene.run (earlier ++ later) = (scene.run earlier).run later :=
  List.foldl_append

theorem run_concat (scene : Scene) (moments : List Moment) (moment : Moment) :
    scene.run (moments ++ [moment]) = (scene.run moments).step moment :=
  List.foldl_concat step scene moment moments

theorem inform_of_leaver (found : scene.leavers[number]? = some leaver) (id : String) :
    scene.inform number id =
      { session := (scene.session.inform id leaver.subscription leaver.state).2
        leavers := scene.leavers.set number ⟨leaver.subscription,
          (scene.session.inform id leaver.subscription leaver.state).1⟩ } := by
  unfold inform
  rw [found]

/-- To the session it makes no difference who watches. -/
theorem step_event_session (scene : Scene) (event : Event) :
    (scene.step (.event event)).session = scene.session.step event := by
  cases event with
  | unsubscribe id subscription =>
      have newcomer : (scene.leave subscription).leavers[scene.leavers.length]? =
          some ⟨subscription, (scene.session.leave subscription).1⟩ := List.getElem?_concat_length
      show ((scene.leave subscription).inform scene.leavers.length id).session = _
      rw [inform_of_leaver newcomer]
      exact congrArg Prod.snd (Session.inform_leave id subscription scene.session)
  | _ => rfl

/-- What happens to the session at a moment. -/
theorem step_session_cases (scene : Scene) (moment : Moment) :
    (∃ event, moment = .event event ∧ (scene.step moment).session = scene.session.step event) ∨
    (∃ subscription, moment = .leave subscription ∧
      (scene.step moment).session = (scene.session.leave subscription).2) ∨
    ∃ number id, moment = .inform number id ∧
      (scene.leavers[number]? = none ∧ (scene.step moment).session = scene.session ∨
        ∃ leaver, scene.leavers[number]? = some leaver ∧ (scene.step moment).session =
          (scene.session.inform id leaver.subscription leaver.state).2) := by
  cases moment with
  | event event => exact Or.inl ⟨event, rfl, scene.step_event_session event⟩
  | leave subscription => exact Or.inr (Or.inl ⟨subscription, rfl, rfl⟩)
  | inform number id =>
      refine Or.inr (Or.inr ⟨number, id, rfl, ?_⟩)
      cases found : scene.leavers[number]? with
      | none =>
          refine Or.inl ⟨rfl, ?_⟩
          show (scene.inform number id).session = _
          rw [inform, found]
      | some leaver =>
          refine Or.inr ⟨leaver, rfl, ?_⟩
          exact congrArg Scene.session (inform_of_leaver found id)

theorem orderly_step (orderly : scene.session.Orderly) (moment : Moment) :
    (scene.step moment).session.Orderly := by
  rcases scene.step_session_cases moment with ⟨event, _, same⟩ | ⟨subscription, _, same⟩ |
    ⟨number, id, _, ⟨_, same⟩ | ⟨leaver, _, same⟩⟩
  · exact same ▸ orderly.step event
  · exact same ▸ orderly.leave subscription
  · exact same ▸ orderly
  · exact same ▸ orderly.inform id leaver.subscription leaver.state

theorem orderly_run (orderly : scene.session.Orderly) (moments : List Moment) :
    (scene.run moments).session.Orderly := by
  induction moments generalizing scene with
  | nil => exact orderly
  | cons moment rest inductionHypothesis => exact inductionHypothesis (orderly_step orderly moment)

/-! ### Those who unsubscribe -/

/-- The second step of somebody concerns nobody else. -/
theorem inform_keeps (found : scene.leavers[number]? = some leaver) {other : Nat}
    (different : other ≠ number) (id : String) :
    (scene.inform other id).leavers[number]? = some leaver := by
  unfold inform
  split
  · exact found
  · exact (List.getElem?_set_ne different).trans found

/-- Whoever has taken the first step is there until the second one. -/
theorem step_keeps (found : scene.leavers[number]? = some leaver)
    (notInformed : ∀ id, moment ≠ .inform number id) :
    (scene.step moment).leavers[number]? = some leaver := by
  obtain ⟨bound, _⟩ := List.getElem?_eq_some_iff.mp found
  have left : ∀ subscription, (scene.leave subscription).leavers[number]? = some leaver :=
    fun _ => (List.getElem?_append_left bound).trans found
  cases moment with
  | event event =>
      cases event with
      | unsubscribe id subscription =>
          exact inform_keeps (left subscription) (Nat.ne_of_gt bound) id
      | _ => exact found
  | leave subscription => exact left subscription
  | inform other id =>
      refine inform_keeps found ?_ id
      rintro rfl
      exact notInformed id rfl

theorem inform_becomes (found : scene.leavers[number]? = some leaver) (id : String) :
    ∃ after, (scene.inform number id).leavers[number]? = some after ∧ leaver.Becomes after := by
  obtain ⟨bound, _⟩ := List.getElem?_eq_some_iff.mp found
  rw [inform_of_leaver found]
  refine ⟨_, List.getElem?_set_self bound, rfl, Session.inform_found _ _ _ _, ?_⟩
  intro outcome isOver
  rw [isOver]
  rfl

theorem step_becomes (found : scene.leavers[number]? = some leaver) (moment : Moment) :
    ∃ after, (scene.step moment).leavers[number]? = some after ∧ leaver.Becomes after := by
  by_cases informed : ∃ id, moment = .inform number id
  · obtain ⟨id, rfl⟩ := informed
    exact inform_becomes found id
  · exact ⟨leaver, step_keeps found fun id same => informed ⟨id, same⟩, .refl leaver⟩

theorem run_becomes (found : scene.leavers[number]? = some leaver) (moments : List Moment) :
    ∃ after, (scene.run moments).leavers[number]? = some after ∧ leaver.Becomes after := by
  induction moments generalizing scene leaver with
  | nil => exact ⟨leaver, found, .refl leaver⟩
  | cons moment rest inductionHypothesis =>
      obtain ⟨between, foundThen, first⟩ := step_becomes found moment
      obtain ⟨after, foundLast, second⟩ := inductionHypothesis foundThen
      exact ⟨after, foundLast, first.trans second⟩

/-- Who has nothing left to do stays so. -/
theorem run_over {outcome : Session.Unsubscribed}
    (found : scene.leavers[number]? = some ⟨id, .finished outcome⟩) (moments : List Moment) :
    (scene.run moments).leavers[number]? = some ⟨id, .finished outcome⟩ := by
  obtain ⟨⟨subscription, state⟩, foundLater, becomes⟩ := run_becomes found moments
  cases becomes.subscription
  cases becomes.finished outcome rfl
  exact foundLater

theorem run_keeps (found : scene.leavers[number]? = some leaver)
    (notInformed : ∀ id, .inform number id ∉ moments) :
    (scene.run moments).leavers[number]? = some leaver := by
  induction moments generalizing scene with
  | nil => exact found
  | cons moment rest inductionHypothesis =>
      refine inductionHypothesis (step_keeps found ?_) ?_
      · rintro id rfl
        exact notInformed id List.mem_cons_self
      · exact fun id member => notInformed id (List.mem_cons_of_mem _ member)

/-- Somebody new is the last one, and has just taken the first step. -/
theorem step_newcomer (late : scene.leavers.length ≤ number)
    (found : (scene.step moment).leavers[number]? = some leaver) :
    number = scene.leavers.length ∧ moment.left? = some leaver.subscription ∧
      leaver.state.found = scene.session.feeds.table[leaver.subscription]?.isSome := by
  have absent : scene.leavers[number]? = none := List.getElem?_eq_none late
  have alone : ∀ subscription, (scene.leave subscription).leavers.length =
      scene.leavers.length + 1 := fun _ => List.length_append
  have newcomer : ∀ subscription, (scene.leave subscription).leavers[scene.leavers.length]? =
      some ⟨subscription, (scene.session.leave subscription).1⟩ :=
    fun _ => List.getElem?_concat_length
  cases moment with
  | event event =>
      cases event with
      | unsubscribe id subscription =>
          have found : ((scene.leave subscription).inform scene.leavers.length id).leavers[
              number]? = some leaver := found
          rw [inform_of_leaver (newcomer subscription)] at found
          have bound := (List.getElem?_eq_some_iff.mp found).1
          rw [List.length_set, alone] at bound
          obtain rfl : number = scene.leavers.length := by omega
          obtain ⟨after, same, becomes⟩ := inform_becomes (newcomer subscription) id
          rw [inform_of_leaver (newcomer subscription)] at same
          cases same.symm.trans found
          rw [becomes.subscription, becomes.found]
          exact ⟨rfl, rfl, Session.leave_found _ _⟩
      | _ => cases absent.symm.trans found
  | leave subscription =>
      have found : (scene.leave subscription).leavers[number]? = some leaver := found
      have bound := (List.getElem?_eq_some_iff.mp found).1
      rw [alone] at bound
      obtain rfl : number = scene.leavers.length := by omega
      cases (newcomer subscription).symm.trans found
      exact ⟨rfl, rfl, Session.leave_found _ _⟩
  | inform other id =>
      have found : (scene.inform other id).leavers[number]? = some leaver := found
      unfold inform at found
      split at found
      · cases absent.symm.trans found
      · rw [List.getElem?_eq_none (by rwa [List.length_set])] at found
        cases found

/-! ### Where ids lead -/

/-- A moment begins a subscription under an id. -/
def Opens (scene : Scene) (moment : Moment) (id : String) (subscription : Subscription) : Prop :=
  ∃ event, moment = .event event ∧ Begins scene.session event id subscription

/-- A moment ends the subscription of an id. -/
def Shuts (scene : Scene) (moment : Moment) (id : String) : Prop :=
  moment.left? = some id ∨ ∃ event, moment = .event event ∧ Closes scene.session event id

/-- No moment begins a subscription under an id. -/
def Unopened (scene : Scene) (moments : List Moment) (id : String) : Prop :=
  During step (fun scene moment => ∀ subscription, ¬ scene.Opens moment id subscription) scene
    moments

/-- Whoever unsubscribes in one event ends a subscription by it. -/
theorem shuts_event {event : Event} :
    scene.Shuts (.event event) id ↔ Closes scene.session event id := by
  constructor
  · rintro (leaves | ⟨_, same, closes⟩)
    · cases event with
      | unsubscribe request subscription =>
          cases leaves
          exact Or.inl ⟨request, rfl⟩
      | _ => cases leaves
    · cases same
      exact closes
  · exact fun closes => Or.inr ⟨event, rfl, closes⟩

/-- After a moment an id leads to a subscription if the moment has begun it, or if it led there
before and the moment has neither begun another one nor ended it. -/
theorem table_step (orderly : scene.session.Orderly) {subscription : Subscription} :
    (scene.step moment).session.feeds.table[id]? = some subscription ↔
      scene.Opens moment id subscription ∨
        (∀ other, ¬ scene.Opens moment id other) ∧ ¬ scene.Shuts moment id ∧
          scene.session.feeds.table[id]? = some subscription := by
  rcases scene.step_session_cases moment with ⟨event, rfl, same⟩ | ⟨other, rfl, same⟩ |
    ⟨number, request, rfl, informed⟩
  · have opens : ∀ other, scene.Opens (.event event) id other ↔
        Begins scene.session event id other := by
      intro other
      constructor
      · rintro ⟨_, sameEvent, begins⟩
        cases sameEvent
        exact begins
      · exact fun begins => ⟨event, rfl, begins⟩
    simp only [same, orderly.toReached.table_step, opens, shuts_event]
  · have notOpened : ∀ entry, ¬ scene.Opens (.leave other) id entry := by
      rintro entry ⟨_, same, _⟩
      cases same
    have shuts : scene.Shuts (.leave other) id ↔ other = id := by
      constructor
      · rintro (leaves | ⟨_, same, _⟩)
        · exact Option.some.inj leaves
        · cases same
      · rintro rfl
        exact Or.inl rfl
    rw [same, Session.leave_session]
    show (scene.session.feeds.table.erase other)[id]? = _ ↔ _
    rw [SubscriptionTable.getElem?_erase, shuts]
    by_cases here : other = id
    · subst here
      simp [notOpened]
    · simp [here, notOpened]
  · have notOpened : ∀ entry, ¬ scene.Opens (.inform number request) id entry := by
      rintro entry ⟨_, same, _⟩
      cases same
    have notShut : ¬ scene.Shuts (.inform number request) id := by
      rintro (leaves | ⟨_, same, _⟩)
      · cases leaves
      · cases same
    have table : (scene.step (.inform number request)).session.feeds.table =
        scene.session.feeds.table := by
      rcases informed with ⟨_, same⟩ | ⟨leaver, _, same⟩
      · rw [same]
      · rw [same, Session.inform_feeds]
    rw [table]
    simp [notOpened, notShut]

/-- An id leads to a subscription just if an answer has begun it under the id, and since then
nothing has begun another one or ended it. -/
theorem table_iff (orderly : scene.session.Orderly) (empty : scene.session.feeds.table = ∅)
    {subscription : Subscription} :
    (scene.run moments).session.feeds.table[id]? = some subscription ↔
      ∃ earlier opening later, moments = earlier ++ opening :: later ∧
        (scene.run earlier).Opens opening id subscription ∧
        During step (fun scene moment =>
            (∀ other, ¬ scene.Opens moment id other) ∧ ¬ scene.Shuts moment id)
          (scene.run (earlier ++ [opening])) later := by
  have absent : scene.session.feeds.table[id]? = none := by
    rw [empty]
    simp
  exact entry_iff (fun scene : Scene => scene.session.feeds.table[id]?)
    (fun scene moment other => scene.Opens moment id other)
    (fun scene moment => scene.Shuts moment id) absent
    fun earlier _ _ => table_step (orderly_run orderly earlier)

/-- Where nothing has begun under an id that led nowhere, it still leads nowhere. -/
theorem table_of_unopened (orderly : scene.session.Orderly) (unopened : scene.Unopened moments id)
    (unknown : scene.session.feeds.table[id]? = none) :
    (scene.run moments).session.feeds.table[id]? = none := by
  induction moments using List.reverseRecOn with
  | nil => exact unknown
  | append_singleton moments moment inductionHypothesis =>
      obtain ⟨before, atEnd⟩ := during_concat.mp unopened
      refine Option.eq_none_iff_forall_ne_some.mpr fun subscription leads => ?_
      rw [run_concat, table_step (orderly_run orderly moments)] at leads
      rcases leads with opens | ⟨_, _, leads⟩
      · exact atEnd subscription opens
      · cases (inductionHypothesis before).symm.trans leads

/-- An id that somebody has just forgotten leads nowhere. -/
theorem table_of_left (orderly : scene.session.Orderly) (leaves : moment.left? = some id) :
    (scene.step moment).session.feeds.table[id]? = none := by
  have notOpened : ∀ subscription, ¬ scene.Opens moment id subscription := by
    rintro subscription ⟨event, rfl, bytes, _, _, _, rfl, _⟩
    cases leaves
  refine Option.eq_none_iff_forall_ne_some.mpr fun subscription leads => ?_
  rcases (table_step orderly).mp leads with opens | ⟨_, notShut, _⟩
  · exact notOpened subscription opens
  · exact notShut (Or.inl leaves)

/-! ### Between two answers -/

/-- Among moments that begin nothing under an id, the id leads nowhere once somebody has forgotten
it. -/
theorem table_of_leaver (orderly : scene.session.Orderly) (unopened : scene.Unopened moments id)
    (late : scene.leavers.length ≤ number)
    (found : (scene.run moments).leavers[number]? = some leaver)
    (leaves : leaver.subscription = id) :
    (scene.run moments).session.feeds.table[id]? = none := by
  induction moments using List.reverseRecOn generalizing leaver with
  | nil =>
      rw [show scene.run [] = scene from rfl, List.getElem?_eq_none late] at found
      cases found
  | append_singleton moments moment inductionHypothesis =>
      obtain ⟨before, atEnd⟩ := during_concat.mp unopened
      have orderlyThen := orderly_run orderly moments
      rw [run_concat] at found ⊢
      rcases Nat.lt_or_ge number (scene.run moments).leavers.length with old | new
      · have wasThere := List.getElem?_eq_getElem old
        obtain ⟨after, same, becomes⟩ := step_becomes wasThere moment
        cases same.symm.trans found
        have unknown := inductionHypothesis before wasThere (becomes.subscription.symm.trans leaves)
        have once : (scene.run moments).Unopened ([] ++ [moment]) id :=
          during_concat.mpr ⟨Session.during_nil, atEnd⟩
        exact table_of_unopened orderlyThen once unknown
      · obtain ⟨_, leavesNow, _⟩ := step_newcomer new found
        exact table_of_left orderlyThen (leaves ▸ leavesNow)

/-- Who comes later finds nothing. -/
theorem newcomer_finds_nothing (orderly : scene.session.Orderly)
    (unopened : scene.Unopened moments id) {newcomer : Nat} {late : Leaver}
    (first : scene.leavers.length ≤ number) (old : number < (scene.run moments).leavers.length)
    (leaves : (scene.run moments).leavers[number].subscription = id)
    (new : (scene.run moments).leavers.length ≤ newcomer)
    (found : ((scene.run moments).step moment).leavers[newcomer]? = some late)
    (leavesToo : late.subscription = id) : late.state.found = false := by
  have unknown := table_of_leaver orderly unopened first (List.getElem?_eq_getElem old) leaves
  obtain ⟨_, _, sees⟩ := step_newcomer new found
  rw [sees, leavesToo, unknown]
  rfl

/-- Among moments that begin nothing under an id, one at most of those who forget it finds it. -/
theorem finder_unique (orderly : scene.session.Orderly) (unopened : scene.Unopened moments id)
    {other : Nat} {otherLeaver : Leaver}
    (late : scene.leavers.length ≤ number) (otherLate : scene.leavers.length ≤ other)
    (found : (scene.run moments).leavers[number]? = some leaver)
    (otherFound : (scene.run moments).leavers[other]? = some otherLeaver)
    (leaves : leaver.subscription = id) (otherLeaves : otherLeaver.subscription = id)
    (finds : leaver.state.found = true) (otherFinds : otherLeaver.state.found = true) :
    number = other := by
  induction moments using List.reverseRecOn generalizing leaver otherLeaver with
  | nil =>
      rw [show scene.run [] = scene from rfl, List.getElem?_eq_none late] at found
      cases found
  | append_singleton moments moment inductionHypothesis =>
      obtain ⟨before, _⟩ := during_concat.mp unopened
      rw [run_concat] at found otherFound
      have wasThere : ∀ {place : Nat} {now : Leaver}
          (_ : ((scene.run moments).step moment).leavers[place]? = some now)
          (old : place < (scene.run moments).leavers.length),
          (scene.run moments).leavers[place].Becomes now := by
        intro place now isNow old
        obtain ⟨after, same, becomes⟩ := step_becomes (List.getElem?_eq_getElem old) moment
        cases same.symm.trans isNow
        exact becomes
      rcases Nat.lt_or_ge number (scene.run moments).leavers.length with old | new
      · have becomes := wasThere found old
        have left := becomes.subscription.symm.trans leaves
        rcases Nat.lt_or_ge other (scene.run moments).leavers.length with otherOld | otherNew
        · have otherBecomes := wasThere otherFound otherOld
          exact inductionHypothesis before (List.getElem?_eq_getElem old)
            (List.getElem?_eq_getElem otherOld) left
            (otherBecomes.subscription.symm.trans otherLeaves)
            (becomes.found.symm.trans finds) (otherBecomes.found.symm.trans otherFinds)
        · have nothing := newcomer_finds_nothing orderly before late old left otherNew otherFound
            otherLeaves
          cases nothing.symm.trans otherFinds
      · rcases Nat.lt_or_ge other (scene.run moments).leavers.length with otherOld | otherNew
        · have left := (wasThere otherFound otherOld).subscription.symm.trans otherLeaves
          have nothing := newcomer_finds_nothing orderly before otherLate otherOld left new found
            leaves
          cases nothing.symm.trans finds
        · exact (step_newcomer new found).1.trans (step_newcomer otherNew otherFound).1.symm

end Scene

end RpcTransport
