import RpcTransport.Proofs.Session.Starts

/-!
The life of a session. It is connected once at most, and never again after a teardown, however many
starts are made and in whatever order dials succeed and fail; and what a start comes to is told by
what it finds when its turn comes and by the outcome of its dial.
-/

namespace RpcTransport

/-- How the phase of a session may change. -/
inductive Phase.Becomes : Phase → Phase → Prop
  | same (phase : Phase) : Becomes phase phase
  | connected : Becomes .disconnected .connected
  | dead (phase : Phase) : Becomes phase .dead

/-- What a start may come to: with retries it never fails with its dial. -/
def StartState.IsFair (reconnect : Bool) (state : StartState) : Prop :=
  ∀ outcome, state = .finished outcome → outcome = .ok () ∨ outcome = .error .connectionClosed ∨
    reconnect = false ∧ ∃ text, outcome = .error (.webSocket text)

section

variable {reconnect : Bool}

theorem StartState.isFair_ok : (StartState.finished (.ok ())).IsFair reconnect := by
  intro outcome same
  cases same
  exact Or.inl rfl

theorem StartState.isFair_refused : refused.IsFair reconnect := by
  intro outcome same
  cases same
  exact Or.inr (Or.inl rfl)

theorem StartState.isFair_abandoned : StartState.abandoned.IsFair reconnect := by
  intro outcome same
  cases same

/-- A start that is not over may come to anything yet. -/
theorem StartState.isFair_of_not_isOver {state : StartState} (notOver : state.isOver = false) :
    state.IsFair reconnect := by
  rintro outcome rfl
  cases notOver

end

namespace Session

variable {session : Session} {number : Nat} {state : StartState} {event : Event}

/-- A start dials, or pauses between dials. -/
def Dials (session : Session) (number : Nat) : Prop :=
  session.starts[number]? = some .dialing ∨ session.starts[number]? = some .pausing

/-! ### Phases and the connection -/

theorem Orderly.phase_step (orderly : session.Orderly) (event : Event) :
    session.phase.Becomes (session.step event).phase := by
  cases (orderly.befalls event).2 with
  | stays _ stays =>
      rw [stays.phase]
      exact .same _
  | launches _ launched =>
      rw [launched.phase]
      cases session.phase with
      | disconnected => exact .connected
      | connected | dead => exact .same _
  | ends _ ended =>
      rw [ended.phase]
      exact .dead _

theorem Orderly.config_step (orderly : session.Orderly) (event : Event) :
    (session.step event).config = session.config := by
  cases (orderly.befalls event).2 with
  | stays _ stays => exact stays.config
  | launches _ launched => exact launched.config
  | ends _ ended => exact ended.config

/-- What makes a place for texts is the launch of a connection. -/
theorem Orderly.launches_iff (orderly : session.Orderly) :
    session.Launches event ↔ session.outbound = none ∧ (session.step event).outbound ≠ none := by
  cases (orderly.befalls event).2 with
  | stays notLaunching stays =>
      refine iff_of_false notLaunching ?_
      rintro ⟨unused, inUse⟩
      exact inUse (stays.unused.mpr unused)
  | launches launches launched =>
      refine iff_of_true launches ⟨launched.unused, ?_⟩
      rw [launched.used]
      exact Option.some_ne_none _
  | ends notLaunching ended =>
      refine iff_of_false notLaunching ?_
      rintro ⟨unused, inUse⟩
      exact inUse (ended.outbound.trans unused)

/-- A place for texts stays. -/
theorem Orderly.inUse_step (orderly : session.Orderly) (event : Event)
    (inUse : session.outbound ≠ none) : (session.step event).outbound ≠ none := by
  cases (orderly.befalls event).2 with
  | stays _ stays => exact mt stays.unused.mp inUse
  | launches _ launched => exact absurd launched.unused inUse
  | ends _ ended =>
      rw [ended.outbound]
      exact inUse

theorem Orderly.inUse_run (orderly : session.Orderly) (events : List Event)
    (inUse : session.outbound ≠ none) : (session.run events).outbound ≠ none := by
  induction events generalizing session with
  | nil => exact inUse
  | cons event rest inductionHypothesis =>
      exact inductionHypothesis (orderly.step event) (orderly.inUse_step event inUse)

/-- A connection is launched once at most. -/
theorem Orderly.launches_once (orderly : session.Orderly) {first second : Event}
    (launches : session.Launches first) (events : List Event) :
    ¬ (session.run (first :: events)).Launches second := by
  intro again
  have inUse := (orderly.launches_iff.mp launches).2
  have stillInUse := (orderly.step first).inUse_run events inUse
  exact stillInUse ((orderly.run (first :: events)).launches_iff.mp again).1

/-! ### Dialing -/

theorem Dials.found (dials : session.Dials number) : ∃ state : StartState,
    session.starts[number]? = some state ∧ (state = .dialing ∨ state = .pausing) := by
  rcases dials with dialing | pausing
  · exact ⟨_, dialing, Or.inl rfl⟩
  · exact ⟨_, pausing, Or.inr rfl⟩

theorem Orderly.notConnected_of_underWay (orderly : session.Orderly)
    (found : session.starts[number]? = some state) (underWay : state.isUnderWay = true) :
    session.phase ≠ .connected := by
  intro connected
  have idle := orderly.idle (orderly.used connected) state (List.mem_of_getElem? found)
  cases underWay.symm.trans idle

/-- Starts dial only while a session is disconnected. -/
theorem Orderly.disconnected_of_dials (orderly : session.Orderly)
    (dials : session.Dials number) : session.phase = .disconnected := by
  obtain ⟨state, found, isDialing⟩ := dials.found
  have underWay : state.isUnderWay = true := by rcases isDialing with rfl | rfl <;> rfl
  cases phase : session.phase with
  | disconnected => rfl
  | connected => exact absurd phase (orderly.notConnected_of_underWay found underWay)
  | dead =>
      have noDial := (orderly.torn phase).not_dialing number
      rcases dials with dialing | pausing
      · exact absurd dialing noDial.1
      · exact absurd pausing noDial.2

/-- What becomes of a start that dials if failed dials are tried again. -/
theorem Orderly.dials_step (orderly : session.Orderly) (retries : session.config.reconnect = true)
    (dials : session.Dials number) (event : Event) :
    (session.step event).Dials number ∨
      (event = .dialSucceeded number ∧
        (session.step event).starts[number]? = some .dialed) ∨
      (event = .teardown ∧ (session.step event).starts[number]? = some .refused) ∨
      (event = .abandonStart number ∧
        (session.step event).starts[number]? = some .abandoned) := by
  obtain ⟨state, found, isDialing⟩ := dials.found
  have notQueued : state ≠ .queued := by
    rcases isDialing with rfl | rfl <;> exact fun same => nomatch same
  have moves := orderly.start_moves event found notQueued
  unfold Dials
  rw [moves, Event.moves]
  cases about : event.isAbout number with
  | false => rcases isDialing with rfl | rfl <;> simp
  | true =>
      rw [if_pos rfl]
      cases event with
      | dialFailed other text =>
          refine Or.inl (Or.inr ?_)
          rcases isDialing with rfl | rfl
          · rw [Event.moved, StartState.failed, if_pos retries]
          · rfl
      | redial other =>
          refine Or.inl (Or.inl ?_)
          rcases isDialing with rfl | rfl <;> rfl
      | dialSucceeded other =>
          rcases isDialing with rfl | rfl
          · exact Or.inr (Or.inl ⟨congrArg _ (beq_iff_eq.mp about), rfl⟩)
          · exact Or.inl (Or.inr rfl)
      | launch other =>
          rcases isDialing with rfl | rfl
          · exact Or.inl (Or.inl rfl)
          · exact Or.inl (Or.inr rfl)
      | abandonStart other =>
          refine Or.inr (Or.inr (Or.inr ⟨congrArg _ (beq_iff_eq.mp about), ?_⟩))
          rcases isDialing with rfl | rfl <;> rfl
      | teardown =>
          refine Or.inr (Or.inr (Or.inl ⟨rfl, ?_⟩))
          rcases isDialing with rfl | rfl <;> rfl
      | _ => cases about

/-- Failed dials are tried again until a dial succeeds, unless the session is torn down or the
caller gives up. -/
theorem Orderly.dials_run (orderly : session.Orderly) (retries : session.config.reconnect = true)
    (dials : session.Dials number) {events : List Event}
    (noSuccess : .dialSucceeded number ∉ events) (noTeardown : .teardown ∉ events)
    (noAbandon : .abandonStart number ∉ events) : (session.run events).Dials number := by
  induction events generalizing session with
  | nil => exact dials
  | cons event rest inductionHypothesis =>
      rw [List.mem_cons, not_or] at noSuccess noTeardown noAbandon
      refine inductionHypothesis (orderly.step event) ?_ ?_ noSuccess.2 noTeardown.2 noAbandon.2
      · rw [orderly.config_step, retries]
      · rcases orderly.dials_step retries dials event with
          stillDials | ⟨isSuccess, _⟩ | ⟨isTeardown, _⟩ | ⟨isAbandon, _⟩
        · exact stillDials
        · exact absurd isSuccess.symm noSuccess.1
        · exact absurd isTeardown.symm noTeardown.1
        · exact absurd isAbandon.symm noAbandon.1

/-- What a dial that fails makes of its start. -/
theorem Orderly.dialFailed_starts (orderly : session.Orderly)
    (dialing : session.starts[number]? = some .dialing) (text : String) :
    (session.dialFailed number text).starts[number]? =
      some (.failed session.config.reconnect text) :=
  orderly.start_moved (.dialFailed number text) dialing nofun (beq_self_eq_true number)

theorem Orderly.redial_starts (orderly : session.Orderly)
    (pausing : session.starts[number]? = some .pausing) :
    (session.redial number).starts[number]? = some .dialing :=
  orderly.start_moved (.redial number) pausing nofun (beq_self_eq_true number)

theorem Orderly.dialSucceeded_starts (orderly : session.Orderly)
    (dialing : session.starts[number]? = some .dialing) :
    (session.dialSucceeded number).starts[number]? = some .dialed :=
  orderly.start_moved (.dialSucceeded number) dialing nofun (beq_self_eq_true number)

theorem Orderly.launch_starts (orderly : session.Orderly)
    (dialed : session.starts[number]? = some .dialed) :
    (session.launch number).starts[number]? = some (.launched session.phase) :=
  orderly.start_moved (.launch number) dialed nofun (beq_self_eq_true number)

/-! ### What starts come to -/

theorem Event.moved_isFair (fair : state.IsFair session.config.reconnect) :
    (event.moved session state).IsFair session.config.reconnect := by
  cases state with
  | queued =>
      rcases Event.moved_queued with same | ⟨givenUp, _⟩
      · rw [same]
        exact fair
      · rw [givenUp]
        exact StartState.isFair_abandoned
  | finished | abandoned => rwa [Event.moved_of_isOver rfl]
  | dialing =>
      cases event with
      | dialFailed other text =>
          show (StartState.failed _ text).IsFair _
          unfold StartState.failed
          split
          · exact StartState.isFair_of_not_isOver rfl
          · next once =>
              intro outcome same
              cases same
              exact Or.inr (Or.inr ⟨(Bool.not_eq_true _).mp once, text, rfl⟩)
      | teardown => exact StartState.isFair_refused
      | abandonStart other => exact StartState.isFair_abandoned
      | _ => exact StartState.isFair_of_not_isOver rfl
  | pausing =>
      cases event with
      | teardown => exact StartState.isFair_refused
      | abandonStart other => exact StartState.isFair_abandoned
      | _ => exact StartState.isFair_of_not_isOver rfl
  | dialed =>
      cases event with
      | launch other =>
          show (StartState.launched session.phase).IsFair _
          cases session.phase with
          | disconnected => exact StartState.isFair_ok
          | connected | dead => exact StartState.isFair_refused
      | abandonStart other => exact StartState.isFair_abandoned
      | _ => exact StartState.isFair_of_not_isOver rfl

theorem Orderly.isFair_step (orderly : session.Orderly) (event : Event)
    (fair : ∀ (number : Nat) state, session.starts[number]? = some state →
      state.IsFair session.config.reconnect) (number : Nat) (state : StartState)
    (found : (session.step event).starts[number]? = some state) :
    state.IsFair (session.step event).config.reconnect := by
  rw [orderly.config_step]
  rcases orderly.start_origin event found with ⟨old, isOld, rfl⟩ | rfl | rfl
  · rw [Event.moves]
    split
    · exact Event.moved_isFair (fair number old isOld)
    · exact fair number old isOld
  · exact StartState.isFair_of_not_isOver rfl
  · cases (session.step event).phase with
    | disconnected => exact StartState.isFair_of_not_isOver rfl
    | connected => exact StartState.isFair_ok
    | dead => exact StartState.isFair_refused

theorem Orderly.isFair_run (orderly : session.Orderly) (events : List Event)
    (fair : ∀ (number : Nat) state, session.starts[number]? = some state →
      state.IsFair session.config.reconnect) :
    ∀ (number : Nat) state, (session.run events).starts[number]? = some state →
      state.IsFair (session.run events).config.reconnect := by
  induction events generalizing session with
  | nil => exact fair
  | cons event rest inductionHypothesis =>
      exact inductionHypothesis (orderly.step event) (orderly.isFair_step event fair)

/-! ### Later starts -/

/-- A start that comes now may still succeed. -/
def MaySucceed (session : Session) : Prop :=
  ∃ events, (session.run (.start :: events)).phase = .connected ∧
    (session.run (.start :: events)).starts[session.start.1]? = some (.finished (.ok ()))

/-- A start has its chance: it is under way, or waits for one that is. -/
def Awaits (session : Session) (number before : Nat) : Prop :=
  session.phase = .disconnected ∧ (number = before ∨ session.starts[number]? = some .queued)

/-- A start that waits goes on waiting while the one before it is under way. -/
theorem Orderly.awaits_step (orderly : session.Orderly) {before : Nat}
    (awaits : session.Awaits number before) (event : Event)
    (stays : (session.step event).phase = session.phase)
    (notAbandoned : event ≠ .abandonStart number)
    (found : (session.step event).starts[before]? = some state)
    (underWay : state.isUnderWay = true) : (session.step event).Awaits number before := by
  obtain ⟨disconnected, chance⟩ := awaits
  refine ⟨stays.trans disconnected, ?_⟩
  rcases chance with same | queued
  · exact Or.inl same
  · rcases orderly.queued_step event queued with waits | ⟨isAbandon, _⟩ | hadTurn
    · exact Or.inr waits
    · exact absurd isAbandon notAbandoned
    · rw [stays, disconnected] at hadTurn
      exact Or.inl ((orderly.step event).lined.underWay_unique hadTurn found rfl underWay)

/-- A connection brings all starts that wait to a good end. -/
theorem Orderly.succeeds_of_dialed (orderly : session.Orderly) {before : Nat}
    (awaits : session.Awaits number before) (dialed : session.starts[before]? = some .dialed) :
    (session.launch before).phase = .connected ∧
      (session.launch before).starts[number]? = some (.finished (.ok ())) := by
  obtain ⟨disconnected, chance⟩ := awaits
  have after := orderly.launch_of_dialed dialed
  have connected : (session.launch before).phase = .connected := by
    rw [after, disconnected]
    rfl
  refine ⟨connected, ?_⟩
  rcases chance with rfl | queued
  · rw [orderly.launch_starts dialed, disconnected]
    rfl
  · rcases orderly.queued_step (.launch before) queued with waits | ⟨isAbandon, _⟩ | hadTurn
    · have next : (session.launch before).Orderly := orderly.step (.launch before)
      have idle := next.idle (next.used connected)
      exact absurd (List.mem_of_getElem? waits) (queued_notMem_of_proceeded idle next.proceeded)
    · cases isAbandon
    · exact hadTurn.trans (congrArg (fun phase => some (StartState.turn phase)) connected)

/-- Where a start is under way, it can succeed yet, and all that wait can with it. -/
theorem Orderly.exists_success (orderly : session.Orderly) {before : Nat}
    (awaits : session.Awaits number before) (found : session.starts[before]? = some state)
    (underWay : state.isUnderWay = true) :
    ∃ events, (session.run events).phase = .connected ∧
      (session.run events).starts[number]? = some (.finished (.ok ())) := by
  have ofDialing : ∀ {session : Session}, session.Orderly → session.Awaits number before →
      session.starts[before]? = some .dialing →
      (session.run [.dialSucceeded before, .launch before]).phase = .connected ∧
        (session.run [.dialSucceeded before, .launch before]).starts[number]? =
          some (.finished (.ok ())) := by
    intro session orderly awaits dialing
    have dialed := orderly.dialSucceeded_starts dialing
    have stays : (session.dialSucceeded before).phase = session.phase := by
      unfold dialSucceeded
      split <;> rfl
    have awaitsNext := orderly.awaits_step awaits (.dialSucceeded before) stays nofun dialed rfl
    exact (orderly.step (.dialSucceeded before)).succeeds_of_dialed awaitsNext dialed
  cases state with
  | dialed => exact ⟨[.launch before], orderly.succeeds_of_dialed awaits found⟩
  | dialing => exact ⟨_, ofDialing orderly awaits found⟩
  | pausing =>
      have dialing := orderly.redial_starts found
      have stays : (session.redial before).phase = session.phase := by
        unfold redial
        split <;> rfl
      have awaitsNext := orderly.awaits_step awaits (.redial before) stays nofun dialing rfl
      exact ⟨[.redial before, .dialSucceeded before, .launch before],
        ofDialing (orderly.step (.redial before)) awaitsNext dialing⟩
  | queued | finished | abandoned => cases underWay

/-- As long as a session is disconnected, a start that comes now may still succeed. -/
theorem Orderly.maySucceed (orderly : session.Orderly)
    (disconnected : session.phase = .disconnected) : session.MaySucceed := by
  have next : session.start.2.Orderly := orderly.step .start
  have isNew : (session.starts ++ [.queued])[session.start.1]? = some .queued :=
    List.getElem?_concat_length
  have starts : session.start.2.starts = proceed session.phase (session.starts ++ [.queued]) := rfl
  rcases getElem?_proceed session.phase (session.starts ++ [.queued]) session.start.1 with
    same | ⟨_, hadTurn⟩
  · have queued := same.trans isNew
    rw [← starts] at queued
    obtain ⟨before, state, _, found, underWay⟩ :=
      exists_underWay_of_queued next.proceeded queued
    exact next.exists_success ⟨disconnected, Or.inr queued⟩ found underWay
  · rw [← starts, disconnected] at hadTurn
    exact next.exists_success ⟨disconnected, Or.inl rfl⟩ hadTurn rfl

/-! ### A launch in two halves -/

/-- The first half of a launch: the connection gets a place for texts. -/
def install (session : Session) : Session :=
  { session with outbound := some [] }

section

variable (session)

@[simp]
theorem install_starts : session.install.starts = session.starts :=
  rfl

@[simp]
theorem install_phase : session.install.phase = session.phase :=
  rfl

@[simp]
theorem install_feeds : session.install.feeds = session.feeds :=
  rfl

@[simp]
theorem install_calls : session.install.calls = session.calls :=
  rfl

end

/-- The second half: the session is connected, unless it has been torn down in between. -/
def connect (number : Nat) (session : Session) : Session :=
  match session.phase with
  | .disconnected =>
    { session with phase := .connected }.moveStart number (.finished (.ok ()))
  | _ => session.moveStart number (.finished (.error .connectionClosed))

theorem launch_eq_connect (dialed : session.starts[number]? = some .dialed)
    (unused : session.outbound = none) :
    session.launch number = session.install.connect number := by
  simp only [launch, dialed, unused]
  rfl

theorem install_send (notConnected : session.phase ≠ .connected) (request : Request)
    (subscription : Option Subscription) :
    (session.install.send request subscription).2 =
      (session.send request subscription).2.install := by
  have stillNotConnected : session.install.phase ≠ .connected := notConnected
  rw [send_of_notConnected notConnected, send_of_notConnected stillNotConnected]
  rfl

theorem install_notify (message : Envelope) :
    session.install.notify message = (session.notify message).install := by
  simp only [notify]
  split
  · cases message.notification <;> rfl
  · rfl

/-- Nothing but a launch notices that a connection has got its place. -/
theorem install_step (linked : session.Linked) (notConnected : session.phase ≠ .connected)
    (notLaunching : ¬ session.Launches event) :
    session.install.step event = (session.step event).install := by
  cases event with
  | openMailbox | receive | closeMailbox | start => rfl
  | dialFailed number text =>
      simp only [step, dialFailed, install_starts]
      rcases session.starts[number]? with _ | _ | _ | _ | _ | _ | _
      case some.dialing =>
        by_cases retries : session.config.reconnect = true
        · have onInstall : session.install.config.reconnect = true := retries
          simp only [if_pos retries, if_pos onInstall]
          rfl
        · have onInstall : ¬ session.install.config.reconnect = true := retries
          simp only [if_neg retries, if_neg onInstall]
          rfl
      all_goals rfl
  | redial number =>
      simp only [step, redial, install_starts]
      rcases session.starts[number]? with _ | _ | _ | _ | _ | _ | _ <;> rfl
  | dialSucceeded number =>
      simp only [step, dialSucceeded, install_starts]
      rcases session.starts[number]? with _ | _ | _ | _ | _ | _ | _ <;> rfl
  | abandonStart number =>
      simp only [step, abandonStart, install_starts]
      rcases session.starts[number]? with _ | _ | _ | _ | _ | _ | _ <;> rfl
  | launch number =>
      have notDialed : session.starts[number]? ≠ some .dialed :=
        fun dialed => notLaunching ⟨number, rfl, dialed⟩
      rw [step, step, launch_eq_self notDialed]
      exact launch_eq_self notDialed
  | call | subscribe => exact install_send notConnected _ _
  | unsubscribe id subscription =>
      simp only [step, unsubscribe, install_feeds]
      cases session.feeds.methodOf? subscription with
      | none => rfl
      | some method =>
          dsimp only
          cases Method.unsubscribeOf? method with
          | none => rfl
          | some ending =>
              have stillNotConnected : ({ session with
                  feeds := session.feeds.remove subscription } : Session).phase ≠ .connected :=
                notConnected
              exact install_send stillNotConnected _ _
  | abandon number =>
      simp only [step, abandon, settle, install_calls]
      rcases session.calls[number]? with _ | _ | _ | _ <;> rfl
  | frame bytes =>
      simp only [step, frame]
      cases Envelope.decode bytes with
      | error error => rfl
      | ok message =>
          dsimp only
          cases message.kind with
          | response =>
              have nobodyWaits : session.install.pending = ∅ := linked.idle notConnected
              dsimp only
              rw [resolve_eq_self nobodyWaits, resolve_eq_self (linked.idle notConnected)]
          | notification => exact install_notify message
          | unrecognized => rfl
  | teardown =>
      simp only [step, teardown, install_phase]
      cases session.phase <;> rfl

/-- A start that has a connection keeps it until the connection is put into use. -/
theorem Event.moves_dialed (noLaunch : event ≠ .launch number)
    (noAbandon : event ≠ .abandonStart number) :
    event.moves session number .dialed = .dialed := by
  unfold Event.moves
  split
  · next about =>
      cases event with
      | launch other => exact absurd (congrArg Event.launch (beq_iff_eq.mp about)) noLaunch
      | abandonStart other =>
          exact absurd (congrArg Event.abandonStart (beq_iff_eq.mp about)) noAbandon
      | _ => rfl
  · rfl

theorem Orderly.install_run (orderly : session.Orderly)
    (dialed : session.starts[number]? = some .dialed) {events : List Event}
    (noLaunch : .launch number ∉ events) (noAbandon : .abandonStart number ∉ events) :
    session.install.run events = (session.run events).install ∧
      (session.run events).starts[number]? = some .dialed := by
  induction events generalizing session with
  | nil => exact ⟨rfl, dialed⟩
  | cons event rest inductionHypothesis =>
      rw [List.mem_cons, not_or] at noLaunch noAbandon
      have stillDialed := orderly.start_moves event dialed nofun
      rw [Event.moves_dialed (Ne.symm noLaunch.1) (Ne.symm noAbandon.1)] at stillDialed
      have notLaunching : ¬ session.Launches event := by
        rintro ⟨other, rfl, otherDialed⟩
        cases orderly.lined.underWay_unique dialed otherDialed rfl rfl
        exact noLaunch.1 rfl
      have installed := install_step orderly.linked
        (orderly.notConnected_of_underWay dialed rfl) notLaunching
      obtain ⟨same, dialedAtEnd⟩ :=
        inductionHypothesis (orderly.step event) stillDialed noLaunch.2 noAbandon.2
      exact ⟨(congrArg (Session.run · rest) installed).trans same, dialedAtEnd⟩

/-- Whatever comes between the halves of a launch might as well have come before both. -/
theorem Orderly.launch_in_halves (orderly : session.Orderly)
    (dialed : session.starts[number]? = some .dialed) {events : List Event}
    (noLaunch : .launch number ∉ events) (noAbandon : .abandonStart number ∉ events) :
    (session.install.run events).connect number = (session.run events).launch number := by
  obtain ⟨same, dialedAtEnd⟩ := orderly.install_run dialed noLaunch noAbandon
  rw [same, launch_eq_connect dialedAtEnd ((orderly.run events).unused_of_dialed dialedAtEnd)]

/-! ### Whole lives -/

/-- What comes of the launch of a connection. -/
theorem Orderly.launch_cases (orderly : session.Orderly)
    (dialed : session.starts[number]? = some .dialed) :
    (session.phase = .disconnected ∧ (session.launch number).phase = .connected ∧
        (session.launch number).starts[number]? = some (.finished (.ok ()))) ∨
      session.phase = .dead ∧ (session.launch number).phase = .dead ∧
        (session.launch number).starts[number]? =
          some (.finished (.error .connectionClosed)) := by
  have launched := orderly.launch_starts dialed
  have after := congrArg Session.phase (orderly.launch_of_dialed dialed)
  cases phase : session.phase with
  | disconnected =>
      rw [phase] at launched after
      exact Or.inl ⟨rfl, after, launched⟩
  | connected => exact absurd phase (orderly.notConnected_of_underWay dialed rfl)
  | dead =>
      rw [phase] at launched after
      exact Or.inr ⟨rfl, after, launched⟩

/-- How a session lives, from any moment on. -/
structure LivesOnce (session : Session) : Prop where
  /-- The phase only moves on. -/
  phase : ∀ event, session.phase.Becomes (session.step event).phase
  config : ∀ event, (session.step event).config = session.config
  /-- A connection is launched once at most. -/
  once : ∀ first events second, session.Launches first →
    ¬ (session.run (first :: events)).Launches second
  /-- This makes the place for texts, which nothing else does; the place stays, -/
  place : ∀ event, session.Launches event ↔
    session.outbound = none ∧ (session.step event).outbound ≠ none
  lasting : ∀ event, session.outbound ≠ none → (session.step event).outbound ≠ none
  /-- and a session that is connected has one. -/
  queue : session.phase = .connected → session.outbound ≠ none
  /-- No two starts are under way, -/
  single : ∀ (first second : Nat) one other, session.starts[first]? = some one →
    session.starts[second]? = some other → one.isUnderWay = true → other.isUnderWay = true →
    first = second
  /-- and whoever waits has one that is under way before it. -/
  waits : ∀ number : Nat, session.starts[number]? = some .queued →
    ∃ earlier state, earlier < number ∧ session.starts[earlier]? = some state ∧
      state.isUnderWay = true
  /-- Nobody dials unless the session is disconnected and no connection was launched. -/
  dials : ∀ number, session.Dials number →
    session.phase = .disconnected ∧ session.outbound = none
  /-- When the turn of a start has come, it has succeeded if the session is connected, and was
  refused if the session is dead; otherwise it dials. -/
  turn : ∀ (number : Nat) event, session.starts[number]? = some .queued →
    (session.step event).starts[number]? = some .queued ∨
      (event = .abandonStart number ∧
        (session.step event).starts[number]? = some .abandoned) ∨
      (session.step event).starts[number]? = some (.turn (session.step event).phase)
  /-- A start need not wait if the session is connected, or dead with no connection to come. -/
  onConnected : session.phase = .connected →
    session.start.2 = { session with starts := session.starts ++ [.finished (.ok ())] }
  onDead : session.phase = .dead → StartState.dialed ∉ session.starts →
    session.start.2 =
      { session with starts := session.starts ++ [.finished (.error .connectionClosed)] }
  outcomes : ∀ (number : Nat) outcome, session.starts[number]? = some (.finished outcome) →
    outcome = .ok () ∨ outcome = .error .connectionClosed ∨
      session.config.reconnect = false ∧ ∃ text, outcome = .error (.webSocket text)
  /-- Without retries, a failed dial is the end of its start, but not of the session. -/
  fails : session.config.reconnect = false → ∀ (number : Nat) text,
    session.starts[number]? = some .dialing →
    (session.dialFailed number text).starts[number]? =
        some (.finished (.error (.webSocket text))) ∧
      (session.dialFailed number text).phase = .disconnected ∧
      (session.dialFailed number text).MaySucceed
  /-- With retries, the next dial comes after a pause, -/
  pauses : session.config.reconnect = true → ∀ (number : Nat) text,
    session.starts[number]? = some .dialing →
    (session.dialFailed number text).starts[number]? = some .pausing
  redials : ∀ number : Nat, session.starts[number]? = some .pausing →
    (session.redial number).starts[number]? = some .dialing
  /-- until a dial succeeds, or the session is torn down, or the caller gives up. -/
  retries : session.config.reconnect = true → ∀ number event, session.Dials number →
    (session.step event).Dials number ∨
      (event = .dialSucceeded number ∧
        (session.step event).starts[number]? = some .dialed) ∨
      (event = .teardown ∧ (session.step event).starts[number]? =
        some (.finished (.error .connectionClosed))) ∨
      (event = .abandonStart number ∧
        (session.step event).starts[number]? = some .abandoned)
  persists : session.config.reconnect = true → ∀ number events, session.Dials number →
    .dialSucceeded number ∉ events → .teardown ∉ events → .abandonStart number ∉ events →
    (session.run events).Dials number
  succeeds : ∀ number : Nat, session.starts[number]? = some .dialing →
    (session.dialSucceeded number).starts[number]? = some .dialed
  /-- A connection is put into use just if there was no teardown, -/
  launch : ∀ number : Nat, session.starts[number]? = some .dialed →
    (session.phase = .disconnected ∧ (session.launch number).phase = .connected ∧
        (session.launch number).starts[number]? = some (.finished (.ok ()))) ∨
      session.phase = .dead ∧ (session.launch number).phase = .dead ∧
        (session.launch number).starts[number]? = some (.finished (.error .connectionClosed))
  /-- and a teardown that comes in the middle of this might as well have come before. -/
  halves : ∀ (number : Nat) events, session.starts[number]? = some .dialed →
    .launch number ∉ events → .abandonStart number ∉ events →
    (session.install.run events).connect number = (session.run events).launch number
  /-- After a teardown the session is dead for good, dials are aborted, and a start that has a
  connection is refused. -/
  dead : ∀ events, (session.run (.teardown :: events)).phase = .dead
  aborts : ∀ number events, session.Dials number →
    (session.run (.teardown :: events)).starts[number]? =
      some (.finished (.error .connectionClosed))
  late : ∀ (number : Nat) events outcome, session.starts[number]? = some .dialed →
    (session.run (.teardown :: events)).starts[number]? = some (.finished outcome) →
    outcome = .error .connectionClosed

/-- A session lives once, however starts, dials, stops and whatever else come after one another. -/
theorem lives_once {url : String} {config : WebSocketConfig}
    (made : make url config = .ok session) (events : List Event) :
    LivesOnce (session.run events) := by
  have fair : ∀ (number : Nat) state, session.starts[number]? = some state →
      state.IsFair session.config.reconnect := by
    rw [make_eq_ok made]
    intro number state found
    cases found
  have outcomes := (orderly_of_make made).isFair_run events fair
  have orderly : (session.run events).Orderly := (orderly_of_make made).run events
  generalize session.run events = session at outcomes orderly
  have after : ∀ events, (session.run (.teardown :: events)).Torn ∧
      Lasts session.teardown (session.run (.teardown :: events)) :=
    fun events => (orderly.linked.torn_teardown orderly.torn).run events
  exact
    { phase := orderly.phase_step
      config := orderly.config_step
      once := fun _ events _ launches => orderly.launches_once launches events
      place := fun _ => orderly.launches_iff
      lasting := orderly.inUse_step
      queue := orderly.used
      single := fun _ _ _ _ => orderly.lined.underWay_unique
      waits := fun _ => exists_underWay_of_queued orderly.proceeded
      dials := by
        intro number dials
        have disconnected := orderly.disconnected_of_dials dials
        exact ⟨disconnected, orderly.unused disconnected⟩
      turn := fun _ event => orderly.queued_step event
      onConnected := by
        intro connected
        rw [orderly.start_idle (orderly.idle (orderly.used connected)), connected]
        rfl
      onDead := by
        intro dead noConnection
        rw [orderly.start_idle ((orderly.torn dead).idle noConnection), dead]
        rfl
      outcomes := fun number outcome isOver => outcomes number _ isOver outcome rfl
      fails := by
        intro once number text dialing
        have failed := orderly.dialFailed_starts dialing text
        rw [once] at failed
        have disconnected : (session.dialFailed number text).phase = .disconnected := by
          rw [← orderly.disconnected_of_dials (Or.inl dialing)]
          unfold dialFailed
          split
          · split <;> rfl
          · rfl
        exact ⟨failed, disconnected,
          (orderly.step (.dialFailed number text)).maySucceed disconnected⟩
      pauses := by
        intro retries number text dialing
        rw [orderly.dialFailed_starts dialing, retries]
        rfl
      redials := fun _ => orderly.redial_starts
      retries := fun retries _ event dials => orderly.dials_step retries dials event
      persists := fun retries _ _ dials => orderly.dials_run retries dials
      succeeds := fun _ => orderly.dialSucceeded_starts
      launch := fun _ => orderly.launch_cases
      halves := fun _ _ dialed => orderly.launch_in_halves dialed
      dead := fun events => (after events).1.phase
      aborts := fun number events dials =>
        (after events).2.finished number _ (refused_teardown orderly.torn dials)
      late := by
        intro number events outcome dialed isOver
        have doomed := doomed_teardown orderly.torn fun other isOther =>
          nomatch dialed.symm.trans isOther
        rcases (after events).2.doomed number doomed _ isOver with
          queued | dialed | abandoned | isRefused
        · cases queued
        · cases dialed
        · cases abandoned
        · cases isRefused
          rfl }

/-- A start has dialed twice, another one waits for it, and the session is stopped in the middle of
the launch. -/
theorem lives_once_of_stop_in_launch :
    ∃ session, make "ws://node" {} = .ok session ∧
      let before : List Event :=
        [.start, .start, .dialFailed 0 "refused", .redial 0, .dialSucceeded 0]
      (session.run before).starts[0]? = some .dialed ∧ LivesOnce (session.run before) ∧
        (((session.run before).install.run [.teardown]).connect 0).phase = .dead := by
  have made : make "ws://node" {} = .ok idleSession := rfl
  have lives := lives_once made
    [.start, .start, .dialFailed 0 "refused", .redial 0, .dialSucceeded 0]
  refine ⟨_, made, rfl, lives, ?_⟩
  rw [lives.halves 0 [.teardown] rfl (by simp) (by simp)]
  exact lives.dead [.launch 0]

end Session

end RpcTransport
