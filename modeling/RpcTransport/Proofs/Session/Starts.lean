import RpcTransport.Proofs.Session.Subscriptions

/-!
Starts, one after another. At most one start is under way, and those that came after it wait. What
happens to a session moves the start that is under way on, or takes a start out of the line; then
those that wait may have their turn.
-/

namespace RpcTransport

namespace StartState

/-- Whether a start is over. -/
def isOver : StartState → Bool
  | .finished _ | .abandoned => true
  | .queued | .dialing | .pausing | .dialed => false

/-- A start behind one that is not over waits, or is given up. -/
def IsBehind (state : StartState) : Prop :=
  state = .queued ∨ state = .abandoned

/-- What becomes of a start whose caller gives up. -/
def giveUp : StartState → StartState
  | .finished outcome => .finished outcome
  | _ => .abandoned

/-- What a failed dial makes of a start. -/
def failed (reconnect : Bool) (text : String) : StartState :=
  if reconnect then .pausing else .finished (.error (.webSocket text))

/-- What comes of a start when its connection is put into use. -/
def launched : Phase → StartState
  | .disconnected => .finished (.ok ())
  | .connected | .dead => refused

/-- A start is queued, under way, or over. -/
theorem isUnderWay_eq_false_of_isOver {state : StartState} (isOver : state.isOver = true) :
    state.isUnderWay = false := by
  cases state with
  | finished | abandoned => rfl
  | queued | dialing | pausing | dialed => cases isOver

theorem IsBehind.idle {state : StartState} (behind : state.IsBehind) :
    state.isUnderWay = false := by
  rcases behind with rfl | rfl <;> rfl

theorem isUnderWay_launched (phase : Phase) : (launched phase).isUnderWay = false := by
  cases phase <;> rfl

/-- A turn that comes while a session has been connected, or dead, is over at once. -/
theorem isUnderWay_turn {phase : Phase} (notDisconnected : phase ≠ .disconnected) :
    (turn phase).isUnderWay = false := by
  cases phase with
  | disconnected => exact absurd rfl notDisconnected
  | connected | dead => rfl

end StartState

namespace Session

variable {session before after : Session} {starts : List StartState} {number : Nat}
  {state old : StartState} {event : Event}

/-! ### The line -/

/-- Behind a start that is not over, all others wait. -/
def Lined (starts : List StartState) : Prop :=
  starts.Pairwise fun first second => first.isOver = true ∨ second.IsBehind

theorem Lined.proceed (lined : Lined starts) (phase : Phase) : Lined (proceed phase starts) := by
  induction starts with
  | nil => exact lined
  | cons start rest inductionHypothesis =>
      obtain ⟨behind, rest⟩ := List.pairwise_cons.mp lined
      cases start with
      | queued =>
          cases phase with
          | disconnected => exact List.pairwise_cons.mpr ⟨behind, rest⟩
          | connected | dead =>
              exact List.pairwise_cons.mpr ⟨fun _ _ => Or.inl rfl, inductionHypothesis rest⟩
      | dialing | pausing | dialed => exact lined
      | finished | abandoned =>
          exact List.pairwise_cons.mpr ⟨fun _ _ => Or.inl rfl, inductionHypothesis rest⟩

/-- No two starts are under way. -/
theorem Lined.underWay_unique (lined : Lined starts) {first second : Nat} {one other : StartState}
    (isFirst : starts[first]? = some one) (isSecond : starts[second]? = some other)
    (firstUnderWay : one.isUnderWay = true) (secondUnderWay : other.isUnderWay = true) :
    first = second := by
  have ordered : ∀ {first second : Nat} {one other : StartState}, starts[first]? = some one →
      starts[second]? = some other → one.isUnderWay = true → other.isUnderWay = true →
      ¬ first < second := by
    intro first second one other isFirst isSecond firstUnderWay secondUnderWay less
    obtain ⟨firstBound, rfl⟩ := List.getElem?_eq_some_iff.mp isFirst
    obtain ⟨secondBound, rfl⟩ := List.getElem?_eq_some_iff.mp isSecond
    rcases List.pairwise_iff_getElem.mp lined first second firstBound secondBound less with
      isOver | behind
    · rw [StartState.isUnderWay_eq_false_of_isOver isOver] at firstUnderWay
      cases firstUnderWay
    · rw [behind.idle] at secondUnderWay
      cases secondUnderWay
  have notLess := ordered isFirst isSecond firstUnderWay secondUnderWay
  have notGreater := ordered isSecond isFirst secondUnderWay firstUnderWay
  omega

/-- If no start is under way, none is after those that wait have had their turn with a session that
need not be dialed. -/
theorem idle_proceed {phase : Phase} (notDisconnected : phase ≠ .disconnected)
    (idle : ∀ start ∈ starts, start.isUnderWay = false) :
    ∀ start ∈ proceed phase starts, start.isUnderWay = false := by
  intro start member
  rcases mem_proceed member with old | rfl
  · exact idle start old
  · exact StartState.isUnderWay_turn notDisconnected

/-! ### What an event makes of a start -/

/-- Whether an event is about a start. A teardown is about all of them. -/
def Event.isAbout (number : Nat) : Event → Bool
  | .dialFailed other _ | .redial other | .dialSucceeded other | .launch other
  | .abandonStart other => other == number
  | .teardown => true
  | _ => false

/-- What an event makes of a start that it is about. -/
def Event.moved (session : Session) : Event → StartState → StartState
  | .dialFailed _ text, .dialing => .failed session.config.reconnect text
  | .redial _, .pausing => .dialing
  | .dialSucceeded _, .dialing => .dialed
  | .launch _, .dialed => .launched session.phase
  | .abandonStart _, state => state.giveUp
  | .teardown, state => state.close
  | _, state => state

/-- What an event makes of any start. -/
def Event.moves (session : Session) (event : Event) (number : Nat) (state : StartState) :
    StartState :=
  if event.isAbout number then event.moved session state else state

/-- The starts that come with an event. -/
def Event.newcomers : Event → List StartState
  | .start => [.queued]
  | _ => []

/-- All starts after an event, before those that wait have their turn. -/
def Event.startsAfter (session : Session) (event : Event) : List StartState :=
  session.starts.mapIdx (event.moves session) ++ event.newcomers

theorem Event.moved_of_isOver (isOver : state.isOver = true) :
    event.moved session state = state := by
  cases state with
  | finished | abandoned => cases event <;> rfl
  | queued | dialing | pausing | dialed => cases isOver

/-- A start that waits goes on waiting, unless its caller gives up. -/
theorem Event.moved_queued :
    event.moved session .queued = .queued ∨
      event.moved session .queued = .abandoned ∧ ∃ number, event = .abandonStart number := by
  cases event with
  | abandonStart number => exact Or.inr ⟨rfl, number, rfl⟩
  | _ => exact Or.inl rfl

theorem Event.moves_of_isOver (isOver : state.isOver = true) :
    event.moves session number state = state := by
  rw [moves, moved_of_isOver isOver, ite_self]

theorem Event.moves_queued :
    event.moves session number .queued = .queued ∨
      event.moves session number .queued = .abandoned ∧ event = .abandonStart number := by
  unfold moves
  split
  · next about =>
      rcases @moved_queued session event with same | ⟨givenUp, other, rfl⟩
      · exact Or.inl same
      · exact Or.inr ⟨givenUp, congrArg Event.abandonStart (beq_iff_eq.mp about)⟩
  · exact Or.inl rfl

theorem Event.moves_isBehind (behind : state.IsBehind) :
    (event.moves session number state).IsBehind := by
  rcases behind with rfl | rfl
  · rcases moves_queued with same | ⟨givenUp, _⟩
    · exact Or.inl same
    · exact Or.inr givenUp
  · rw [moves_of_isOver rfl]
    exact Or.inr rfl

/-- Nobody gets under way by an event alone. -/
theorem Event.idle_moves (idle : state.isUnderWay = false) :
    (event.moves session number state).isUnderWay = false := by
  cases state with
  | queued => exact (Event.moves_isBehind (Or.inl rfl)).idle
  | finished | abandoned => rwa [Event.moves_of_isOver rfl]
  | dialing | pausing | dialed => cases idle

/-- Nobody comes to wait who has not waited before. -/
theorem Event.moves_ne_queued (notQueued : state ≠ .queued) :
    event.moves session number state ≠ .queued := by
  have moved : event.moved session state ≠ .queued := by
    cases state with
    | queued => exact absurd rfl notQueued
    | finished | abandoned =>
        rw [Event.moved_of_isOver rfl]
        exact notQueued
    | dialing =>
        cases event with
        | dialFailed other text =>
            show StartState.failed _ _ ≠ _
            unfold StartState.failed
            split <;> exact fun same => nomatch same
        | _ => exact fun same => nomatch same
    | pausing => cases event <;> exact fun same => nomatch same
    | dialed =>
        cases event with
        | launch other =>
            show StartState.launched _ ≠ _
            cases session.phase <;> exact fun same => nomatch same
        | _ => exact fun same => nomatch same
  unfold moves
  split
  · exact moved
  · exact notQueued

/-- What an event makes of starts keeps them in line. -/
theorem Lined.startsAfter (lined : Lined session.starts) (event : Event) :
    Lined (event.startsAfter session) := by
  refine List.pairwise_append.mpr ⟨?_, ?_, ?_⟩
  · refine List.pairwise_iff_getElem.mpr ?_
    intro first second firstBound secondBound less
    rw [List.length_mapIdx] at firstBound secondBound
    rw [List.getElem_mapIdx, List.getElem_mapIdx]
    rcases List.pairwise_iff_getElem.mp lined first second firstBound secondBound less with
      isOver | behind
    · rw [Event.moves_of_isOver isOver]
      exact Or.inl isOver
    · exact Or.inr (Event.moves_isBehind behind)
  · cases event with
    | start => exact List.pairwise_singleton _ _
    | _ => exact List.Pairwise.nil
  · intro first _ second isNew
    cases event with
    | start =>
        rw [List.mem_singleton.mp isNew]
        exact Or.inr (Or.inl rfl)
    | _ => cases isNew

/-- What an event makes of one start, if it is about no other. -/
theorem Event.startsAfter_eq_set (found : session.starts[number]? = some old)
    (about : ∀ other, event.isAbout other = true ↔ other = number)
    (noNew : event.newcomers = []) :
    event.startsAfter session = session.starts.set number (event.moved session old) := by
  rw [startsAfter, noNew, List.append_nil]
  apply List.ext_getElem?
  intro other
  rw [List.getElem?_mapIdx, List.getElem?_set]
  split
  · next same =>
      subst same
      obtain ⟨bound, _⟩ := List.getElem?_eq_some_iff.mp found
      rw [found, Option.map_some, if_pos bound, moves, if_pos ((about number).mpr rfl)]
  · next different =>
      have notAbout : ¬ event.isAbout other = true := fun isAbout =>
        different ((about other).mp isAbout).symm
      rw [show event.moves session other = id from funext fun state => if_neg notAbout,
        Option.map_id, id_eq]

/-- An event that has nothing to do with starts as they are leaves them. -/
theorem Event.startsAfter_eq_append
    (same : ∀ (number : Nat) state, session.starts[number]? = some state →
      event.isAbout number = true → event.moved session state = state) :
    event.startsAfter session = session.starts ++ event.newcomers := by
  rw [startsAfter]
  congr 1
  apply List.ext_getElem?
  intro number
  rw [List.getElem?_mapIdx]
  cases found : session.starts[number]? with
  | none => rfl
  | some state =>
      rw [Option.map_some, moves]
      split
      · next about => rw [same number state found about]
      · rfl

/-! ### What an event makes of a session -/

/-- A session goes on as it was, with its place for texts, if it had one. -/
structure Stays (before after : Session) : Prop where
  phase : after.phase = before.phase
  config : after.config = before.config
  unused : after.outbound = none ↔ before.outbound = none

/-- A session goes on as it was, with its starts. -/
structure StaysWhole (before after : Session) : Prop extends Stays before after where
  starts : after.starts = before.starts

theorem staysWhole_with (session : Session) (pending : CallTable) (feeds : Feeds)
    (calls : List CallState) :
    StaysWhole session { session with pending := pending, feeds := feeds, calls := calls } :=
  ⟨⟨rfl, rfl, Iff.rfl⟩, rfl⟩

theorem StaysWhole.trans {between : Session} (first : StaysWhole before between)
    (second : StaysWhole between after) : StaysWhole before after where
  phase := second.phase.trans first.phase
  config := second.config.trans first.config
  unused := second.unused.trans first.unused
  starts := second.starts.trans first.starts

theorem settle_staysWhole (number : Nat) (state : CallState) (session : Session) :
    StaysWhole session (session.settle number state) := by
  obtain ⟨_, _, changed⟩ := settle_eq_with number state session
  rw [changed]
  exact staysWhole_with session _ _ _

/-- A request leaves a session as it was, but for the text that is handed to the connection. -/
theorem send_staysWhole (request : Request) (subscription : Option Subscription) :
    StaysWhole session (session.send request subscription).2 := by
  unfold send
  dsimp only
  split
  · next texts _ inUse =>
      have handed : ∀ calls pending, StaysWhole session
          { session with
            outbound := some (texts ++ [request.encode])
            calls := calls
            pending := pending } := by
        intro calls pending
        refine ⟨⟨rfl, rfl, ?_⟩, rfl⟩
        simp [inUse]
      split
      · exact handed _ _
      · exact (handed _ _).trans ((settle_staysWhole _ _ _).trans (settle_staysWhole _ _ _))
  · exact staysWhole_with session _ _ _

/-- Events that are not about starts leave a session as it was. -/
theorem step_staysWhole (elsewhere : ∀ number, event.isAbout number = false)
    (noNew : event.newcomers = []) : StaysWhole session (session.step event) := by
  cases event with
  | openMailbox | receive | closeMailbox => exact staysWhole_with session _ _ _
  | start => cases noNew
  | dialFailed number | redial number | dialSucceeded number | launch number
  | abandonStart number =>
      have about : (number == number) = false := elsewhere number
      rw [beq_self_eq_true] at about
      cases about
  | call | subscribe => exact send_staysWhole _ _
  | unsubscribe id subscription =>
      rw [step, unsubscribe]
      split
      · exact staysWhole_with session _ _ _
      · dsimp only
        split
        · exact staysWhole_with session _ _ _
        · exact (staysWhole_with session _ _ _).trans (send_staysWhole _ _)
  | abandon number => exact settle_staysWhole _ _ _
  | frame bytes =>
      obtain ⟨_, _, _, changed⟩ := session.frame_eq_with bytes
      rw [step, changed]
      exact staysWhole_with session _ _ _
  | teardown => cases elsewhere 0

/-- The phase after a connection was put into use. -/
def launchedPhase : Phase → Phase
  | .disconnected => .connected
  | .connected => .connected
  | .dead => .dead

/-- An event puts a connection into use. -/
def Launches (session : Session) (event : Event) : Prop :=
  ∃ number, event = .launch number ∧ session.starts[number]? = some .dialed

/-- A connection was put into use: from now on there is a place for texts. -/
structure Launched (before after : Session) : Prop where
  unused : before.outbound = none
  used : after.outbound = some []
  phase : after.phase = launchedPhase before.phase
  config : after.config = before.config

/-- What a session is like, as far as its starts go. -/
structure Orderly (session : Session) : Prop extends Reached session where
  lined : Lined session.starts
  /-- Whoever could have had a turn has had it. -/
  proceeded : proceed session.phase session.starts = session.starts
  used : session.phase = .connected → session.outbound ≠ none
  unused : session.phase = .disconnected → session.outbound = none
  /-- Nobody dials once a connection was put into use. -/
  idle : session.outbound ≠ none → ∀ start ∈ session.starts, start.isUnderWay = false

/-- The starts after an event are what it has made of them, and those that waited may have had their
turn. -/
def Follows (session : Session) (event : Event) : Prop :=
  (session.step event).starts =
    proceed (session.step event).phase (event.startsAfter session)

/-- An event moves one start on, or finds nothing to do. -/
def MovesOne (session : Session) (event : Event) (number : Nat) : Prop :=
  (∃ old, session.starts[number]? = some old ∧
    session.step event = session.moveStart number (event.moved session old)) ∨
  session.step event = session ∧
    ∀ old, session.starts[number]? = some old → event.moved session old = old

theorem Orderly.follows_of_movesOne (orderly : session.Orderly)
    (movesOne : session.MovesOne event number)
    (about : ∀ other, event.isAbout other = true ↔ other = number)
    (noNew : event.newcomers = []) :
    session.Follows event ∧ Stays session (session.step event) := by
  rcases movesOne with ⟨old, found, moved⟩ | ⟨stays, same⟩
  · rw [Follows, moved, Event.startsAfter_eq_set found about noNew]
    exact ⟨rfl, rfl, rfl, Iff.rfl⟩
  · rw [Follows, stays, Event.startsAfter_eq_append, noNew, List.append_nil]
    · exact ⟨orderly.proceeded.symm, rfl, rfl, Iff.rfl⟩
    · intro other state found isAbout
      rw [(about other).mp isAbout] at found
      exact same state found

theorem dialFailed_movesOne (number : Nat) (text : String) :
    session.MovesOne (.dialFailed number text) number := by
  rw [MovesOne, step, dialFailed]
  split
  · next dialing =>
      refine Or.inl ⟨.dialing, dialing, ?_⟩
      rw [Event.moved, StartState.failed]
      split <;> rfl
  · next other =>
      refine Or.inr ⟨rfl, ?_⟩
      intro old found
      cases old with
      | dialing => exact (other found).elim
      | _ => rfl

theorem redial_movesOne (number : Nat) : session.MovesOne (.redial number) number := by
  rw [MovesOne, step, redial]
  split
  · next pausing => exact Or.inl ⟨.pausing, pausing, rfl⟩
  · next other =>
      refine Or.inr ⟨rfl, ?_⟩
      intro old found
      cases old with
      | pausing => exact (other found).elim
      | _ => rfl

theorem dialSucceeded_movesOne (number : Nat) :
    session.MovesOne (.dialSucceeded number) number := by
  rw [MovesOne, step, dialSucceeded]
  split
  · next dialing => exact Or.inl ⟨.dialing, dialing, rfl⟩
  · next other =>
      refine Or.inr ⟨rfl, ?_⟩
      intro old found
      cases old with
      | dialing => exact (other found).elim
      | _ => rfl

theorem abandonStart_movesOne (number : Nat) : session.MovesOne (.abandonStart number) number := by
  rw [MovesOne, step, abandonStart]
  cases found : session.starts[number]? with
  | none =>
      refine Or.inr ⟨rfl, ?_⟩
      intro old isOld
      cases isOld
  | some old =>
      cases old with
      | finished | abandoned =>
          refine Or.inr ⟨rfl, ?_⟩
          intro old isOld
          cases isOld
          rfl
      | queued | dialing | pausing | dialed => exact Or.inl ⟨_, rfl, rfl⟩

theorem Orderly.unused_of_dialed (orderly : session.Orderly)
    (dialed : session.starts[number]? = some .dialed) : session.outbound = none := by
  refine Decidable.byContradiction fun inUse => ?_
  cases orderly.idle inUse _ (List.mem_of_getElem? dialed)

/-- A connection is put into use, or its start finds the session torn down; in either case there is
a place for texts then. -/
theorem Orderly.launch_of_dialed (orderly : session.Orderly)
    (dialed : session.starts[number]? = some .dialed) :
    session.launch number =
      { session with
        outbound := some []
        phase := launchedPhase session.phase
        starts := proceed (launchedPhase session.phase)
          (session.starts.set number (.launched session.phase)) } := by
  have unused := orderly.unused_of_dialed dialed
  simp only [launch, dialed, unused]
  cases phase : session.phase with
  | disconnected => rfl
  | connected => exact absurd unused (orderly.used phase)
  | dead => rfl

theorem launch_eq_self (notDialed : session.starts[number]? ≠ some .dialed) :
    session.launch number = session := by
  unfold launch
  split
  · next dialed _ => exact absurd dialed notDialed
  · next dialed _ => exact absurd dialed notDialed
  · rfl

theorem launch_movesOne (notDialed : session.starts[number]? ≠ some .dialed) :
    session.MovesOne (.launch number) number := by
  refine Or.inr ⟨launch_eq_self notDialed, ?_⟩
  intro old found
  cases old with
  | dialed => exact absurd found notDialed
  | _ => rfl

/-- A session was torn down: it is dead, and its place for texts is as it was. -/
structure Ended (before after : Session) : Prop where
  phase : after.phase = .dead
  outbound : after.outbound = before.outbound
  config : after.config = before.config

theorem Orderly.ended (orderly : session.Orderly) : Ended session session.teardown where
  phase := orderly.linked.teardown_calls.2.2
  outbound := teardown_outbound session
  config := by
    unfold teardown
    split <;> rfl

/-- What befalls a session by an event: it goes on as it was, a connection is put into use, or it is
torn down. -/
inductive Befalls (session : Session) (event : Event) : Prop
  | stays (notLaunching : ¬ session.Launches event) (stays : Stays session (session.step event))
  | launches (launches : session.Launches event) (launched : Launched session (session.step event))
  | ends (notLaunching : ¬ session.Launches event) (ended : Ended session (session.step event))

theorem Orderly.befalls_launch (orderly : session.Orderly) (launches : session.Launches event) :
    session.Follows event ∧ Launched session (session.step event) := by
  obtain ⟨number, rfl, dialed⟩ := launches
  have about : ∀ other, Event.isAbout other (.launch number) = true ↔ other = number :=
    fun _ => beq_iff_eq.trans eq_comm
  rw [Follows, Event.startsAfter_eq_set dialed about rfl, step, orderly.launch_of_dialed dialed]
  exact ⟨rfl, orderly.unused_of_dialed dialed, rfl, rfl, rfl⟩

theorem Orderly.befalls_elsewhere (orderly : session.Orderly)
    (elsewhere : ∀ number, event.isAbout number = false) (noNew : event.newcomers = []) :
    session.Follows event ∧ Stays session (session.step event) := by
  have whole : StaysWhole session (session.step event) := step_staysWhole elsewhere noNew
  refine ⟨?_, whole.toStays⟩
  rw [Follows, whole.starts, whole.phase, Event.startsAfter_eq_append, noNew, List.append_nil]
  · exact orderly.proceeded.symm
  · intro number _ _ isAbout
    rw [elsewhere number] at isAbout
    cases isAbout

/-- What becomes of a session and its starts. -/
theorem Orderly.befalls (orderly : session.Orderly) (event : Event) :
    session.Follows event ∧ session.Befalls event := by
  by_cases launches : session.Launches event
  · obtain ⟨follows, launched⟩ := orderly.befalls_launch launches
    exact ⟨follows, .launches launches launched⟩
  have staying : session.Follows event ∧ Stays session (session.step event) →
      session.Follows event ∧ session.Befalls event :=
    fun stays => ⟨stays.1, .stays launches stays.2⟩
  have about : ∀ {number : Nat} (other : Nat), (number == other) = true ↔ other = number :=
    fun _ => beq_iff_eq.trans eq_comm
  cases event with
  | start =>
      refine staying ⟨?_, rfl, rfl, Iff.rfl⟩
      have same : Event.startsAfter session .start = session.starts ++ [.queued] := by
        apply Event.startsAfter_eq_append
        intro _ _ _ isAbout
        cases isAbout
      rw [Follows, same]
      rfl
  | dialFailed number text =>
      exact staying (orderly.follows_of_movesOne (dialFailed_movesOne number text) about rfl)
  | redial number =>
      exact staying (orderly.follows_of_movesOne (redial_movesOne number) about rfl)
  | dialSucceeded number =>
      exact staying (orderly.follows_of_movesOne (dialSucceeded_movesOne number) about rfl)
  | abandonStart number =>
      exact staying (orderly.follows_of_movesOne (abandonStart_movesOne number) about rfl)
  | launch number =>
      have notDialed : session.starts[number]? ≠ some .dialed :=
        fun dialed => launches ⟨number, rfl, dialed⟩
      exact staying (orderly.follows_of_movesOne (launch_movesOne notDialed) about rfl)
  | teardown =>
      refine ⟨?_, .ends launches orderly.ended⟩
      have closed : Event.startsAfter session .teardown =
          session.starts.map StartState.close := by
        rw [Event.startsAfter, show Event.newcomers .teardown = [] from rfl, List.append_nil]
        apply List.ext_getElem?
        intro number
        rw [List.getElem?_mapIdx, List.getElem?_map]
        rfl
      rw [Follows, step, orderly.ended.phase, closed, teardown_starts orderly.torn]
  | openMailbox | receive | closeMailbox | call | subscribe | unsubscribe | abandon | frame =>
      exact staying (orderly.befalls_elsewhere (fun _ => rfl) rfl)

/-! ### Orderly sessions -/

theorem orderly_of_make {url : String} {config : WebSocketConfig}
    (made : make url config = .ok session) : session.Orderly := by
  refine ⟨reached_of_make made, ?_, ?_, ?_, ?_, ?_⟩
  · rw [make_eq_ok made]
    exact List.Pairwise.nil
  · rw [make_eq_ok made]
    rfl
  · rw [make_eq_ok made]
    exact fun connected => nomatch connected
  · rw [make_eq_ok made]
    exact fun _ => rfl
  · rw [make_eq_ok made]
    exact fun inUse => absurd rfl inUse

/-- Whoever is there after an event has been there before, or has come to wait. -/
theorem Event.startsAfter_cases (found : (event.startsAfter session)[number]? = some state) :
    (∃ old, session.starts[number]? = some old ∧ event.moves session number old = state) ∨
      state = .queued := by
  rw [startsAfter, List.getElem?_append] at found
  split at found
  · rw [List.getElem?_mapIdx] at found
    exact Or.inl (Option.map_eq_some_iff.mp found)
  · have new := List.mem_of_getElem? found
    cases event with
    | start => exact Or.inr (List.mem_singleton.mp new)
    | _ => cases new

/-- If nobody is under way who has been there, nobody is when others have come. -/
theorem idle_startsAfter
    (idle : ∀ (number : Nat) state, session.starts[number]? = some state →
      (event.moves session number state).isUnderWay = false) :
    ∀ start ∈ event.startsAfter session, start.isUnderWay = false := by
  intro start member
  obtain ⟨number, found⟩ := List.getElem?_of_mem member
  rcases Event.startsAfter_cases found with ⟨old, isOld, rfl⟩ | rfl
  · exact idle number old isOld
  · rfl

theorem launchedPhase_ne_disconnected (phase : Phase) : launchedPhase phase ≠ .disconnected := by
  cases phase <;> exact fun same => nomatch same

theorem Orderly.idle_step (orderly : session.Orderly) (event : Event)
    (inUse : (session.step event).outbound ≠ none) :
    ∀ start ∈ (session.step event).starts, start.isUnderWay = false := by
  have idleBefore : session.outbound ≠ none →
      ∀ start ∈ event.startsAfter session, start.isUnderWay = false := by
    intro inUse
    refine idle_startsAfter fun number state found => Event.idle_moves ?_
    exact orderly.idle inUse state (List.mem_of_getElem? found)
  obtain ⟨follows, befalls⟩ := orderly.befalls event
  rw [follows]
  cases befalls with
  | stays _ stays =>
      have inUse := mt stays.unused.mpr inUse
      refine idle_proceed ?_ (idleBefore inUse)
      rw [stays.phase]
      exact mt orderly.unused inUse
  | launches launches launched =>
      refine idle_proceed ?_ (idle_startsAfter ?_)
      · rw [launched.phase]
        exact launchedPhase_ne_disconnected _
      · -- only one start was under way, and that is the one that is over now
        obtain ⟨number, rfl, dialed⟩ := launches
        intro other state found
        cases underWay : state.isUnderWay with
        | false => exact Event.idle_moves underWay
        | true =>
            cases orderly.lined.underWay_unique dialed found rfl underWay
            cases dialed.symm.trans found
            rw [Event.moves, Event.isAbout, if_pos (beq_self_eq_true number)]
            exact StartState.isUnderWay_launched session.phase
  | ends _ ended =>
      refine idle_proceed ?_ (idleBefore (ended.outbound ▸ inUse))
      rw [ended.phase]
      decide

theorem Orderly.step (orderly : session.Orderly) (event : Event) :
    (session.step event).Orderly := by
  obtain ⟨follows, befalls⟩ := orderly.befalls event
  refine ⟨orderly.toReached.run [event], ?_, ?_, ?_, ?_, orderly.idle_step event⟩
  · rw [follows]
    exact (orderly.lined.startsAfter event).proceed _
  · rw [follows, proceed_proceed]
  · intro connected
    cases befalls with
    | stays _ stays =>
        exact mt stays.unused.mp (orderly.used (stays.phase.symm.trans connected))
    | launches _ launched =>
        rw [launched.used]
        exact Option.some_ne_none _
    | ends _ ended => cases connected.symm.trans ended.phase
  · intro disconnected
    cases befalls with
    | stays _ stays =>
        exact stays.unused.mpr (orderly.unused (stays.phase.symm.trans disconnected))
    | launches _ launched =>
        exact absurd (launched.phase.symm.trans disconnected) (launchedPhase_ne_disconnected _)
    | ends _ ended => cases disconnected.symm.trans ended.phase

theorem Orderly.run (orderly : session.Orderly) (events : List Event) :
    (session.run events).Orderly := by
  induction events generalizing session with
  | nil => exact orderly
  | cons event rest inductionHypothesis => exact inductionHypothesis (orderly.step event)

/-! ### One start -/

/-- Where the state of a start comes from. -/
theorem Orderly.start_origin (orderly : session.Orderly) (event : Event)
    (found : (session.step event).starts[number]? = some state) :
    (∃ old, session.starts[number]? = some old ∧ event.moves session number old = state) ∨
      state = .queued ∨ state = .turn (session.step event).phase := by
  rw [(orderly.befalls event).1] at found
  rcases getElem?_proceed (session.step event).phase (event.startsAfter session) number with
    same | ⟨_, hadTurn⟩
  · rcases Event.startsAfter_cases (same.symm.trans found) with old | queued
    · exact Or.inl old
    · exact Or.inr (Or.inl queued)
  · exact Or.inr (Or.inr (Option.some.inj (found.symm.trans hadTurn)))

/-- A start that was there is what the event has made of it, or has had its turn. -/
theorem Orderly.start_step (orderly : session.Orderly) (event : Event)
    (found : session.starts[number]? = some state) :
    (session.step event).starts[number]? = some (event.moves session number state) ∨
      event.moves session number state = .queued ∧
        (session.step event).starts[number]? = some (.turn (session.step event).phase) := by
  obtain ⟨bound, _⟩ := List.getElem?_eq_some_iff.mp found
  have made : (event.startsAfter session)[number]? = some (event.moves session number state) := by
    have stillThere : number < (session.starts.mapIdx (event.moves session)).length := by
      rwa [List.length_mapIdx]
    rw [Event.startsAfter, List.getElem?_append_left stillThere, List.getElem?_mapIdx, found]
    rfl
  rw [(orderly.befalls event).1]
  rcases getElem?_proceed (session.step event).phase (event.startsAfter session) number with
    same | ⟨waits, hadTurn⟩
  · exact Or.inl (same.trans made)
  · exact Or.inr ⟨Option.some.inj (made.symm.trans waits), hadTurn⟩

/-- A start that has had its turn is what the event has made of it. -/
theorem Orderly.start_moves (orderly : session.Orderly) (event : Event)
    (found : session.starts[number]? = some state) (notQueued : state ≠ .queued) :
    (session.step event).starts[number]? = some (event.moves session number state) := by
  rcases orderly.start_step event found with moves | ⟨waits, _⟩
  · exact moves
  · exact absurd waits (Event.moves_ne_queued notQueued)

/-- An event makes of the start that it is about what it makes of such starts. -/
theorem Orderly.start_moved (orderly : session.Orderly) (event : Event)
    (found : session.starts[number]? = some state) (notQueued : state ≠ .queued)
    (about : event.isAbout number = true) :
    (session.step event).starts[number]? = some (event.moved session state) := by
  rw [orderly.start_moves event found notQueued, Event.moves, if_pos about]

/-- A start that waits goes on waiting, is given up, or has its turn. -/
theorem Orderly.queued_step (orderly : session.Orderly) (event : Event)
    (queued : session.starts[number]? = some .queued) :
    (session.step event).starts[number]? = some .queued ∨
      (event = .abandonStart number ∧
        (session.step event).starts[number]? = some .abandoned) ∨
      (session.step event).starts[number]? = some (.turn (session.step event).phase) := by
  rcases orderly.start_step event queued with moves | ⟨_, hadTurn⟩
  · rcases Event.moves_queued with waits | ⟨givenUp, isAbandon⟩
    · exact Or.inl (moves.trans (congrArg some waits))
    · exact Or.inr (Or.inl ⟨isAbandon, moves.trans (congrArg some givenUp)⟩)
  · exact Or.inr (Or.inr hadTurn)

/-- A new start has its turn at once if nobody is under way. -/
theorem Orderly.start_idle (orderly : session.Orderly)
    (idle : ∀ start ∈ session.starts, start.isUnderWay = false) :
    session.start.2 = { session with starts := session.starts ++ [.turn session.phase] } := by
  rw [start, proceed_append idle orderly.proceeded]
  cases session.phase <;> rfl

end Session

end RpcTransport
