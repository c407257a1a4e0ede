import RpcTransport.Proofs.Session.Calls

/-!
After a teardown. Nothing brings a session back: whoever waited has learned that no answer will
come, whoever comes later is refused, and nothing is handed to the connection any more.
-/

namespace RpcTransport

namespace StartState

/-- The end of a start that finds its session torn down. -/
abbrev refused : StartState :=
  .finished (.error .connectionClosed)

/-- What a start comes to when its turn comes. -/
def turn : Phase → StartState
  | .disconnected => .dialing
  | .connected => .finished (.ok ())
  | .dead => refused

/-- A start that is not over can only be refused, or given up. -/
def IsDoomed (state : StartState) : Prop :=
  state = .queued ∨ state = .dialed ∨ state = .abandoned ∨ state = refused

/-- A teardown leaves no dial and no pause. -/
theorem close_ne (state : StartState) : state.close ≠ .dialing ∧ state.close ≠ .pausing := by
  constructor
  · cases state <;> exact fun same => nomatch same
  · cases state <;> exact fun same => nomatch same

theorem isDoomed_refused : refused.IsDoomed :=
  Or.inr (Or.inr (Or.inr rfl))

/-- A start that can only be refused does not dial. -/
theorem IsDoomed.ne {state : StartState} (doomed : state.IsDoomed) :
    state ≠ .dialing ∧ state ≠ .pausing := by
  constructor
  · rcases doomed with rfl | rfl | rfl | rfl <;> exact fun same => nomatch same
  · rcases doomed with rfl | rfl | rfl | rfl <;> exact fun same => nomatch same

end StartState

namespace Session

open StartState (refused)

variable {session before after : Session}

/-! ### Starts -/

/-- A start stays as it is, or comes to what starts come to when their turn comes. -/
theorem getElem?_proceed (phase : Phase) (starts : List StartState) (number : Nat) :
    (proceed phase starts)[number]? = starts[number]? ∨
      starts[number]? = some .queued ∧ (proceed phase starts)[number]? = some (.turn phase) := by
  induction starts generalizing number with
  | nil => exact Or.inl rfl
  | cons start rest inductionHypothesis =>
      cases number with
      | zero =>
          cases start with
          | queued => cases phase <;> exact Or.inr ⟨rfl, rfl⟩
          | _ => exact Or.inl rfl
      | succ number =>
          cases start with
          | queued =>
              cases phase with
              | disconnected => exact Or.inl rfl
              | connected | dead => exact inductionHypothesis number
          | finished | abandoned => exact inductionHypothesis number
          | dialing | pausing | dialed => exact Or.inl rfl

theorem mem_proceed {phase : Phase} {starts : List StartState} {start : StartState}
    (member : start ∈ proceed phase starts) : start ∈ starts ∨ start = .turn phase := by
  obtain ⟨number, found⟩ := List.getElem?_of_mem member
  rcases getElem?_proceed phase starts number with same | ⟨_, hadTurn⟩
  · exact Or.inl (List.mem_of_getElem? (same.symm.trans found))
  · exact Or.inr (Option.some.inj (found.symm.trans hadTurn))

/-- Starts that have proceeded have nothing more to do. -/
theorem proceed_proceed (phase : Phase) (starts : List StartState) :
    proceed phase (proceed phase starts) = proceed phase starts := by
  induction starts with
  | nil => rfl
  | cons start rest inductionHypothesis =>
      cases start with
      | queued =>
          cases phase with
          | disconnected => rfl
          | connected | dead => exact congrArg (List.cons _) inductionHypothesis
      | finished | abandoned => exact congrArg (List.cons _) inductionHypothesis
      | dialing | pausing | dialed => rfl

/-- A start that has to wait waits for one before it, which is under way. -/
theorem exists_underWay_of_queued {phase : Phase} {starts : List StartState}
    (proceeded : proceed phase starts = starts) {number : Nat}
    (queued : starts[number]? = some .queued) :
    ∃ earlier state, earlier < number ∧ starts[earlier]? = some state ∧
      state.isUnderWay = true := by
  induction starts generalizing number with
  | nil => cases queued
  | cons start rest inductionHypothesis =>
      cases start with
      | queued => cases phase <;> cases proceeded
      | dialing | pausing | dialed =>
          cases number with
          | zero => cases queued
          | succ number => exact ⟨0, _, Nat.succ_pos number, rfl, rfl⟩
      | finished | abandoned =>
          cases number with
          | zero => cases queued
          | succ number =>
              obtain ⟨earlier, state, less, found, underWay⟩ :=
                inductionHypothesis (List.cons.inj proceeded).2 queued
              exact ⟨earlier + 1, state, Nat.succ_lt_succ less, found, underWay⟩

/-- Where nobody is under way, those who come next have their turn. -/
theorem proceed_append {phase : Phase} {starts more : List StartState}
    (idle : ∀ start ∈ starts, start.isUnderWay = false)
    (proceeded : proceed phase starts = starts) :
    proceed phase (starts ++ more) = starts ++ proceed phase more := by
  induction starts with
  | nil => rfl
  | cons start rest inductionHypothesis =>
      have idleRest : ∀ start ∈ rest, start.isUnderWay = false :=
        fun other member => idle other (List.mem_cons_of_mem start member)
      cases start with
      | queued => cases phase <;> cases proceeded
      | dialing | pausing | dialed => cases idle _ List.mem_cons_self
      | finished | abandoned =>
          have proceeded := (List.cons.inj proceeded).2
          exact congrArg (List.cons _) (inductionHypothesis idleRest proceeded)

/-- If no start is under way, all have had their turn. -/
theorem queued_notMem_of_proceeded {phase : Phase} {starts : List StartState}
    (idle : ∀ start ∈ starts, start.isUnderWay = false)
    (proceeded : proceed phase starts = starts) : StartState.queued ∉ starts := by
  intro member
  obtain ⟨number, queued⟩ := List.getElem?_of_mem member
  obtain ⟨_, state, _, found, underWay⟩ := exists_underWay_of_queued proceeded queued
  rw [idle state (List.mem_of_getElem? found)] at underWay
  cases underWay

/-! ### Torn down -/

/-- A session that is torn down: nobody waits, nothing is subscribed, and no start dials. -/
structure Torn (session : Session) : Prop where
  phase : session.phase = .dead
  pending : session.pending = ∅
  table : session.feeds.table = ∅
  calls : ∀ (number : Nat) id, session.calls[number]? ≠ some (.waiting id)
  starts : ∀ start ∈ session.starts, start ≠ .dialing ∧ start ≠ .pausing
  proceeded : proceed .dead session.starts = session.starts

/-- What lasts after a teardown: the calls there were, the texts handed to the connection, and what
starts have come to. A start that could only be refused can still only be refused. -/
structure Lasts (before after : Session) : Prop where
  calls : before.calls <+: after.calls
  texts : after.outbound.getD [] = before.outbound.getD []
  finished : ∀ (number : Nat) outcome, before.starts[number]? = some (.finished outcome) →
    after.starts[number]? = some (.finished outcome)
  doomed : ∀ number : Nat, (∀ state ∈ before.starts[number]?, state.IsDoomed) →
    ∀ state ∈ after.starts[number]?, state.IsDoomed

theorem Lasts.refl (session : Session) : Lasts session session :=
  ⟨List.prefix_rfl, rfl, fun _ _ same => same, fun _ same => same⟩

theorem Lasts.trans {between : Session} (first : Lasts before between)
    (second : Lasts between after) : Lasts before after where
  calls := first.calls.trans second.calls
  texts := second.texts.trans first.texts
  finished number outcome isOver :=
    second.finished number outcome (first.finished number outcome isOver)
  doomed number doomed := second.doomed number (first.doomed number doomed)

theorem Lasts.call (lasts : Lasts before after) {number : Nat} {state : CallState}
    (found : before.calls[number]? = some state) : after.calls[number]? = some state := by
  obtain ⟨added, more⟩ := lasts.calls
  obtain ⟨bound, _⟩ := List.getElem?_eq_some_iff.mp found
  rw [← more, List.getElem?_append_left bound, found]

/-- No answer is of use if nobody waits. -/
theorem resolve_eq_self (idle : session.pending = ∅) (message : Envelope) :
    session.resolve message = session := by
  have unregistered : (message.validId.bind fun id => session.pending[id]?) = none := by
    rw [idle]
    cases message.validId <;> simp
  rw [resolve, unregistered]

/-- A session that is torn down has no use for a frame. -/
theorem Torn.frame_eq (torn : session.Torn) (bytes : Bytes) : session.frame bytes = session := by
  unfold frame
  split
  · rfl
  · next message _ =>
      split
      · exact resolve_eq_self torn.pending message
      · unfold notify
        split
        · split
          · next notification _ =>
              have unknown : session.feeds.table[notification.subscription]? = none := by
                rw [torn.table]
                simp
              rw [Feeds.dispatch, unknown]
          · rfl
        · rfl
      · rfl

theorem Torn.teardown_eq (torn : session.Torn) : session.teardown = session := by
  rw [Session.teardown, torn.phase]

/-- A session that is torn down has no subscription to end. -/
theorem Torn.unsubscribe_eq (torn : session.Torn) (id subscription : String) :
    session.unsubscribe id subscription = (.known false, session) := by
  have unknown : session.feeds.methodOf? subscription = none := by
    rw [Feeds.methodOf?, torn.table]
    simp
  rw [unsubscribe, unknown]

/-- A session that is not connected refuses requests. -/
theorem send_of_notConnected (notConnected : session.phase ≠ .connected) (request : Request)
    (subscription : Option Subscription) :
    session.send request subscription =
      (session.calls.length, { session with calls := session.calls ++ [closed] }) := by
  unfold send
  dsimp only
  split
  · next connected _ => exact absurd connected notConnected
  · rfl

theorem Torn.send_eq (torn : session.Torn) (request : Request)
    (subscription : Option Subscription) :
    session.send request subscription =
      (session.calls.length, { session with calls := session.calls ++ [closed] }) := by
  refine send_of_notConnected ?_ request subscription
  rw [torn.phase]
  exact fun same => nomatch same

/-- Nobody waits any more who could give up. -/
theorem Torn.settle_eq (torn : session.Torn) (number : Nat) (state : CallState) :
    session.settle number state = session := by
  rcases settle_cases number state session with ⟨id, ends⟩ | ⟨_, same⟩
  · exact absurd ends.waited (torn.calls number id)
  · exact same

theorem Torn.serves_eq (torn : session.Torn) (sink : Nat) : session.serves sink = false := by
  rw [serves, Feeds.serves, torn.table, torn.pending]
  rfl

/-- Refusing a request leaves a session torn down. -/
theorem Torn.refuse (torn : session.Torn) :
    ({ session with calls := session.calls ++ [closed] } : Session).Torn ∧
      Lasts session { session with calls := session.calls ++ [closed] } := by
  refine ⟨⟨torn.phase, torn.pending, torn.table, ?_, torn.starts, torn.proceeded⟩,
    List.prefix_append _ _, rfl, fun _ _ same => same, fun _ same => same⟩
  intro number id waits
  rcases getElem?_concat_cases waits with old | ⟨_, added⟩
  · exact torn.calls number id old
  · cases added

/-- Starts that have come or moved on leave a session torn down, if they were not over before and
can only be refused now. -/
theorem Torn.proceed (torn : session.Torn) {starts : List StartState}
    (kept : ∀ (number : Nat) outcome, session.starts[number]? = some (.finished outcome) →
      starts[number]? = some (.finished outcome))
    (moved : ∀ (number : Nat) state, starts[number]? = some state →
      session.starts[number]? = some state ∨ state.IsDoomed) :
    ({ session with starts := proceed session.phase starts } : Session).Torn ∧
      Lasts session { session with starts := proceed session.phase starts } := by
  rw [torn.phase]
  have origin : ∀ (number : Nat) state, (Session.proceed .dead starts)[number]? = some state →
      session.starts[number]? = some state ∨ state.IsDoomed := by
    intro number state found
    rcases getElem?_proceed .dead starts number with same | ⟨_, isRefused⟩
    · exact moved number state (same.symm.trans found)
    · cases isRefused.symm.trans found
      exact Or.inr StartState.isDoomed_refused
  refine ⟨⟨rfl, torn.pending, torn.table, torn.calls, ?_, proceed_proceed _ _⟩,
    List.prefix_rfl, rfl, ?_, ?_⟩
  · intro start member
    obtain ⟨number, found⟩ := List.getElem?_of_mem member
    rcases origin number start found with old | isDoomed
    · exact torn.starts start (List.mem_of_getElem? old)
    · exact isDoomed.ne
  · intro number outcome isOver
    have same := kept number outcome isOver
    rcases getElem?_proceed .dead starts number with unchanged | ⟨queued, _⟩
    · exact unchanged.trans same
    · cases queued.symm.trans same
  · intro number doomed state found
    rcases origin number state found with old | isDoomed
    · exact doomed state old
    · exact isDoomed

/-- A start that is not over may be refused or given up. -/
theorem Torn.moveStart (torn : session.Torn) {number : Nat} {state : StartState}
    (unfinished : ∀ outcome, session.starts[number]? ≠ some (.finished outcome))
    (doomed : state.IsDoomed) :
    (session.moveStart number state).Torn ∧ Lasts session (session.moveStart number state) := by
  refine torn.proceed ?_ ?_
  · intro other outcome isOver
    rw [List.getElem?_set_ne, isOver]
    rintro rfl
    exact unfinished outcome isOver
  · intro other found isFound
    rw [List.getElem?_set] at isFound
    split at isFound
    · split at isFound
      · cases isFound
        exact Or.inr doomed
      · cases isFound
    · exact Or.inl isFound

/-- No start dials after a teardown. -/
theorem Torn.not_dialing (torn : session.Torn) (number : Nat) :
    session.starts[number]? ≠ some .dialing ∧ session.starts[number]? ≠ some .pausing :=
  ⟨fun found => (torn.starts _ (List.mem_of_getElem? found)).1 rfl,
    fun found => (torn.starts _ (List.mem_of_getElem? found)).2 rfl⟩

theorem Torn.start (torn : session.Torn) :
    session.start.2.Torn ∧ Lasts session session.start.2 := by
  refine torn.proceed ?_ ?_
  · intro number outcome isOver
    obtain ⟨bound, _⟩ := List.getElem?_eq_some_iff.mp isOver
    rw [List.getElem?_append_left bound, isOver]
  · intro number state found
    rw [List.getElem?_append] at found
    split at found
    · exact Or.inl found
    · rw [List.mem_singleton.mp (List.mem_of_getElem? found)]
      exact Or.inr (Or.inl rfl)

/-- A start that has a connection is refused when it wants to use it. -/
theorem Torn.refuse_dialed (torn : session.Torn) {number : Nat}
    (dialed : session.starts[number]? = some .dialed) :
    (session.moveStart number refused).Torn ∧ Lasts session (session.moveStart number refused) ∧
      (session.moveStart number refused).starts[number]? = some refused := by
  have unfinished : ∀ outcome, session.starts[number]? ≠ some (.finished outcome) := by
    intro outcome isOver
    cases dialed.symm.trans isOver
  obtain ⟨stays, lasts⟩ := torn.moveStart unfinished StartState.isDoomed_refused
  refine ⟨stays, lasts, ?_⟩
  obtain ⟨bound, _⟩ := List.getElem?_eq_some_iff.mp dialed
  have isSet := List.getElem?_set_self (a := refused) bound
  rw [Session.moveStart, torn.phase]
  rcases getElem?_proceed .dead (session.starts.set number refused) number with same | ⟨queued, _⟩
  · exact same.trans isSet
  · cases queued.symm.trans isSet

/-- A connection that comes too late is put to no use: its start is refused. -/
theorem Torn.launch (torn : session.Torn) (number : Nat) :
    (session.launch number).Torn ∧ Lasts session (session.launch number) ∧
      (session.starts[number]? = some .dialed →
        (session.launch number).starts[number]? = some refused) := by
  unfold Session.launch
  split
  · next dialed unused =>
      have stays : ({ session with outbound := some [] } : Session).Torn :=
        ⟨torn.phase, torn.pending, torn.table, torn.calls, torn.starts, torn.proceeded⟩
      have lasts : Lasts session { session with outbound := some [] } :=
        ⟨List.prefix_rfl, by rw [unused]; rfl, fun _ _ kept => kept, fun _ kept => kept⟩
      obtain ⟨atEnd, lastsMove, isRefused⟩ := stays.refuse_dialed dialed
      dsimp only
      split
      · next disconnected => cases disconnected.symm.trans torn.phase
      · exact ⟨atEnd, lasts.trans lastsMove, fun _ => isRefused⟩
  · next dialed _ =>
      obtain ⟨atEnd, lasts, isRefused⟩ := torn.refuse_dialed dialed
      exact ⟨atEnd, lasts, fun _ => isRefused⟩
  · next unused inUse =>
      refine ⟨torn, .refl session, ?_⟩
      intro dialed
      cases outbound : session.outbound with
      | none => exact (unused dialed outbound).elim
      | some texts => exact (inUse texts dialed outbound).elim

/-- What is torn down stays so, whatever happens. -/
theorem Torn.step (torn : session.Torn) (event : Event) :
    (session.step event).Torn ∧ Lasts session (session.step event) := by
  have same : session.Torn ∧ Lasts session session := ⟨torn, .refl session⟩
  cases event with
  | openMailbox | receive | closeMailbox =>
      exact ⟨⟨torn.phase, torn.pending, torn.table, torn.calls, torn.starts, torn.proceeded⟩,
        List.prefix_rfl, rfl, fun _ _ kept => kept, fun _ kept => kept⟩
  | start => exact torn.start
  | dialFailed number text =>
      rw [Session.step, dialFailed]
      split
      · next dialing => exact absurd dialing (torn.not_dialing number).1
      · exact same
  | redial number =>
      rw [Session.step, redial]
      split
      · next pausing => exact absurd pausing (torn.not_dialing number).2
      · exact same
  | dialSucceeded number =>
      rw [Session.step, dialSucceeded]
      split
      · next dialing => exact absurd dialing (torn.not_dialing number).1
      · exact same
  | launch number =>
      obtain ⟨stays, lasts, _⟩ := torn.launch number
      exact ⟨stays, lasts⟩
  | abandonStart number =>
      rw [Session.step, abandonStart]
      split
      · exact same
      · exact same
      · exact same
      · next notFinished _ _ =>
          exact torn.moveStart notFinished (Or.inr (Or.inr (Or.inl rfl)))
  | call id method params =>
      rw [Session.step, call, torn.send_eq]
      exact torn.refuse
  | subscribe id method event params sink =>
      rw [Session.step, subscribe, torn.send_eq]
      exact torn.refuse
  | unsubscribe id subscription =>
      rw [Session.step, torn.unsubscribe_eq]
      exact same
  | abandon number =>
      rw [Session.step, abandon, torn.settle_eq]
      exact same
  | frame bytes =>
      rw [Session.step, torn.frame_eq]
      exact same
  | teardown =>
      rw [Session.step, torn.teardown_eq]
      exact same

theorem Torn.run (torn : session.Torn) (events : List Event) :
    (session.run events).Torn ∧ Lasts session (session.run events) := by
  induction events generalizing session with
  | nil => exact ⟨torn, .refl session⟩
  | cons event rest inductionHypothesis =>
      obtain ⟨next, lastsStep⟩ := torn.step event
      obtain ⟨atEnd, lastsRest⟩ := inductionHypothesis next
      exact ⟨atEnd, lastsStep.trans lastsRest⟩

/-! ### Being torn down -/

/-- A teardown ends all dials and pauses, and then the starts after them have their turn. -/
theorem teardown_starts (torn : session.phase = .dead → session.Torn) :
    session.teardown.starts = proceed .dead (session.starts.map StartState.close) := by
  unfold Session.teardown
  split
  · next dead =>
      have unchanged : ∀ start ∈ session.starts, start.close = start := by
        intro start member
        obtain ⟨notDialing, notPausing⟩ := (torn dead).starts start member
        cases start with
        | dialing => exact absurd rfl notDialing
        | pausing => exact absurd rfl notPausing
        | _ => rfl
      rw [(List.map_congr_left unchanged).trans (List.map_id' _), (torn dead).proceeded]
  · rfl

/-- A teardown tears a session down. -/
theorem Linked.torn_teardown (linked : session.Linked)
    (torn : session.phase = .dead → session.Torn) : session.teardown.Torn := by
  obtain ⟨_, pending, phase⟩ := linked.teardown_calls
  have starts := teardown_starts torn
  refine ⟨phase, pending, ?_, ?_, ?_, ?_⟩
  · unfold Session.teardown
    split
    · next dead => exact (torn dead).table
    · rfl
  · intro number id waits
    cases phase.symm.trans (linked.teardown.connected waits)
  · rw [starts]
    intro start member
    rcases mem_proceed member with isClosed | rfl
    · obtain ⟨old, _, rfl⟩ := List.mem_map.mp isClosed
      exact old.close_ne
    · exact StartState.isDoomed_refused.ne
  · rw [starts, proceed_proceed]

/-- Only a teardown makes a session dead. -/
theorem Linked.alive_step (linked : session.Linked) {event : Event} (alive : session.phase ≠ .dead)
    (notTeardown : event ≠ .teardown) : (session.step event).phase ≠ .dead := by
  rcases linked.step_cases event with ⟨id, _, refuses | ⟨_, registers⟩ | clashes⟩ |
    ⟨number, id, state, _, ends, _⟩ | isTeardown | ⟨_, keeps⟩
  · exact refuses.phase ▸ alive
  · exact registers.phase ▸ alive
  · exact clashes.phase ▸ alive
  · exact ends.phase ▸ alive
  · exact absurd isTeardown notTeardown
  · rcases keeps.phase with same | ⟨_, connected⟩
    · exact same ▸ alive
    · rw [connected]
      decide

/-- However a session has come about, if it is dead it is torn down. -/
theorem Linked.torn_run (linked : session.Linked) (torn : session.phase = .dead → session.Torn)
    (events : List Event) :
    (session.run events).phase = .dead → (session.run events).Torn := by
  induction events generalizing session with
  | nil => exact torn
  | cons event rest inductionHypothesis =>
      refine inductionHypothesis (linked.step event) ?_
      intro dead
      -- dead now: by this teardown, or by an earlier one
      by_cases isTeardown : event = .teardown
      · rw [isTeardown]
        exact linked.torn_teardown torn
      · by_cases deadBefore : session.phase = .dead
        · exact ((torn deadBefore).step event).1
        · exact absurd dead (linked.alive_step deadBefore isTeardown)

/-- A start that is not over when its session is torn down can only be refused. -/
theorem doomed_teardown (torn : session.phase = .dead → session.Torn) {number : Nat}
    (unfinished : ∀ outcome, session.starts[number]? ≠ some (.finished outcome)) :
    ∀ state ∈ session.teardown.starts[number]?, state.IsDoomed := by
  intro state found
  rw [teardown_starts torn] at found
  rcases getElem?_proceed .dead (session.starts.map StartState.close) number with
    same | ⟨_, isRefused⟩
  · have found : (session.starts.map StartState.close)[number]? = some state :=
      same.symm.trans found
    rw [List.getElem?_map] at found
    obtain ⟨old, isOld, rfl⟩ := Option.map_eq_some_iff.mp found
    cases old with
    | queued => exact Or.inl rfl
    | dialing | pausing => exact StartState.isDoomed_refused
    | dialed => exact Or.inr (Or.inl rfl)
    | abandoned => exact Or.inr (Or.inr (Or.inl rfl))
    | finished outcome => exact absurd isOld (unfinished outcome)
  · cases isRefused.symm.trans found
    exact StartState.isDoomed_refused

/-- A start that dials, or pauses between dials, is refused by a teardown. -/
theorem refused_teardown (torn : session.phase = .dead → session.Torn) {number : Nat}
    (dials : session.starts[number]? = some .dialing ∨ session.starts[number]? = some .pausing) :
    session.teardown.starts[number]? = some refused := by
  have isClosed : (session.starts.map StartState.close)[number]? = some refused := by
    rw [List.getElem?_map]
    rcases dials with dialing | pausing
    · rw [dialing]
      rfl
    · rw [pausing]
      rfl
  rw [teardown_starts torn]
  rcases getElem?_proceed .dead (session.starts.map StartState.close) number with
    same | ⟨queued, _⟩
  · exact same.trans isClosed
  · cases queued.symm.trans isClosed

/-- Without a start that has a connection, no start is under way after a teardown. -/
theorem Torn.idle (torn : session.Torn) (noConnection : StartState.dialed ∉ session.starts) :
    ∀ start ∈ session.starts, start.isUnderWay = false := by
  intro start member
  obtain ⟨notDialing, notPausing⟩ := torn.starts start member
  cases start with
  | dialing => exact absurd rfl notDialing
  | pausing => exact absurd rfl notPausing
  | dialed => exact absurd member noConnection
  | _ => rfl

/-- Without a start that has a connection, all starts are over after a teardown. -/
theorem Torn.starts_over (torn : session.Torn) (noConnection : StartState.dialed ∉ session.starts) :
    ∀ start ∈ session.starts, start = .abandoned ∨ ∃ outcome, start = .finished outcome := by
  intro start member
  have hadTurn := queued_notMem_of_proceeded (torn.idle noConnection) torn.proceeded
  obtain ⟨notDialing, notPausing⟩ := torn.starts start member
  cases start with
  | queued => exact absurd member hadTurn
  | dialing => exact absurd rfl notDialing
  | pausing => exact absurd rfl notPausing
  | dialed => exact absurd member noConnection
  | finished outcome => exact Or.inr ⟨outcome, rfl⟩
  | abandoned => exact Or.inl rfl

/-- A new start is refused at once, unless one that has a connection is still before it. -/
theorem Torn.start_refused (torn : session.Torn)
    (noConnection : StartState.dialed ∉ session.starts) :
    session.start.2.starts[session.start.1]? = some refused := by
  have hadTurn : Session.proceed .dead (session.starts ++ [.queued]) =
      session.starts ++ [refused] :=
    proceed_append (torn.idle noConnection) torn.proceeded
  rw [Session.start, torn.phase, hadTurn]
  exact List.getElem?_concat_length

/-- A teardown hands no text to the connection. -/
theorem teardown_outbound (session : Session) : session.teardown.outbound = session.outbound := by
  unfold Session.teardown
  split <;> rfl

/-- What holds at any later moment of a session that was torn down at an earlier one. -/
structure Final (earlier later : Session) : Prop where
  dead : later.phase = .dead
  /-- Calls that waited end without an answer, and so do subscribers. -/
  waiting : ∀ (number : Nat) id, earlier.calls[number]? = some (.waiting id) →
    later.outcome? number = some (.error .connectionClosed) ∧
      (later.outcome? number).map subscribed = some (.error .connectionClosed)
  dials : ∀ number : Nat, earlier.starts[number]? = some .dialing ∨
    earlier.starts[number]? = some .pausing →
    later.starts[number]? = some (.finished (.error .connectionClosed))
  tables : later.pending = ∅ ∧ later.feeds.table = ∅
  senders : ∀ sink, later.serves sink = false
  /-- Nothing was handed to the connection since. -/
  texts : later.outbound.getD [] = earlier.outbound.getD []
  call : ∀ id method params,
    (later.call id method params).2.outcome? (later.call id method params).1 =
        some (.error .connectionClosed) ∧
      (later.call id method params).2.outbound = later.outbound
  subscribe : ∀ id method event params sink,
    ((later.subscribe id method event params sink).2.outcome?
          (later.subscribe id method event params sink).1).map subscribed =
        some (.error .connectionClosed) ∧
      (later.subscribe id method event params sink).2.outbound = later.outbound
  /-- A start that was not over, or comes now, can only be refused. -/
  starts : ∀ (number : Nat) outcome,
    (∀ other, earlier.starts[number]? ≠ some (.finished other)) →
    later.starts[number]? = some (.finished outcome) → outcome = .error .connectionClosed
  /-- It need wait only for a start that has a connection, -/
  start : StartState.dialed ∉ later.starts →
    (∀ start ∈ later.starts, start = .abandoned ∨ ∃ outcome, start = .finished outcome) ∧
      later.start.2.starts[later.start.1]? = some (.finished (.error .connectionClosed))
  /-- which is refused, too, when it wants to use it. -/
  launch : ∀ number : Nat, later.starts[number]? = some .dialed →
    (later.launch number).starts[number]? = some (.finished (.error .connectionClosed))
  startTexts : later.start.2.outbound = later.outbound
  unsubscribe : ∀ id subscription, later.unsubscribe id subscription = (.known false, later)
  teardown : later.teardown = later
  frame : ∀ bytes, later.frame bytes = later

/-- A call that is refused has ended when it begins. -/
theorem Torn.send_outcome (torn : session.Torn) (request : Request)
    (subscription : Option Subscription) :
    (session.send request subscription).2.outcome? (session.send request subscription).1 =
        some (.error .connectionClosed) ∧
      (session.send request subscription).2.outbound = session.outbound := by
  rw [torn.send_eq]
  refine ⟨?_, rfl⟩
  simp [outcome?]

/-- A teardown is final. Whatever has happened before it and whatever happens after it, whoever
waited learns that no answer will come, every later operation is refused without a text for the
connection, and neither frames nor further teardowns change anything. -/
theorem teardown_is_final {url : String} {config : WebSocketConfig} {session : Session}
    (made : make url config = .ok session) (before after : List Event) :
    Final (session.run before) (session.run (before ++ .teardown :: after)) := by
  have new : session.phase = .dead → session.Torn := by
    rw [make_eq_ok made]
    intro dead
    cases dead
  have linked := (linked_of_make made).run before
  have torn := (linked_of_make made).torn_run new before
  have split : session.run (before ++ .teardown :: after) =
      (session.run before).teardown.run after := List.foldl_append
  obtain ⟨final, lasts⟩ := (linked.torn_teardown torn).run after
  rw [← split] at final lasts
  have waiting : ∀ (number : Nat) id, (session.run before).calls[number]? = some (.waiting id) →
      (session.run (before ++ .teardown :: after)).outcome? number =
        some (.error .connectionClosed) := by
    intro number id waits
    have ended : (session.run before).teardown.calls[number]? = some closed := by
      rw [linked.teardown_calls.1, List.getElem?_map, waits]
      rfl
    rw [outcome?, lasts.call ended]
  exact
    { dead := final.phase
      waiting := by
        intro number id waits
        rw [waiting number id waits]
        exact ⟨rfl, rfl⟩
      dials := fun number dials =>
        lasts.finished number (.error .connectionClosed) (refused_teardown torn dials)
      tables := ⟨final.pending, final.table⟩
      senders := final.serves_eq
      texts := lasts.texts.trans (congrArg (Option.getD · []) (teardown_outbound _))
      call := fun id method params => final.send_outcome _ _
      subscribe := by
        intro id method event params sink
        obtain ⟨outcome, texts⟩ := final.send_outcome (.make id method (.string event :: params))
          (some ⟨method, sink⟩)
        refine ⟨?_, texts⟩
        rw [subscribe, outcome]
        rfl
      starts := by
        intro number outcome unfinished isOver
        rcases lasts.doomed number (doomed_teardown torn unfinished) _ isOver with
          queued | dialed | abandoned | isRefused
        · cases queued
        · cases dialed
        · cases abandoned
        · cases isRefused
          rfl
      start := fun noConnection =>
        ⟨final.starts_over noConnection, final.start_refused noConnection⟩
      launch := fun number => (final.launch number).2.2
      startTexts := rfl
      unsubscribe := final.unsubscribe_eq
      teardown := final.teardown_eq
      frame := final.frame_eq }

/-- A call and a subscription in the making are under way when the session is torn down; then the
answer to the call comes, too late, and someone tries to start the session again. -/
theorem teardown_is_final_of_late_answer :
    ∃ session, make "ws://node" {} = .ok session ∧
      let before : List Event := [.start, .dialSucceeded 0, .launch 0, .openMailbox 1,
        .call "a" "eth_chainId" [], .subscribe "b" "eth_subscribe" "newHeads" [] 0]
      (session.run before).calls[1]? = some (.waiting "b") ∧
        Final (session.run before) (session.run (before ++
          .teardown :: [.frame (bytesOf "\x7b\"id\":\"a\",\"result\":1\x7d"), .start])) := by
  have made : make "ws://node" {} = .ok { url := "ws://node", config := {} } := rfl
  exact ⟨_, made, rfl, teardown_is_final made _ _⟩

end Session

end RpcTransport
