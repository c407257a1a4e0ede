import RpcTransport.Session.Run

/-!
The calls of a session. Every call that waits is registered under its id, and every registration
leads to a call that waits; so each call goes its own way, from waiting to one end, whatever happens
to the others.
-/

namespace RpcTransport

/-! ### Tables -/

namespace CallTable

variable (table : CallTable) (id other : String)

theorem getElem?_insert (awaited : Awaited) :
    (table.insert id awaited)[other]? = if id = other then some awaited else table[other]? := by
  simp [Std.ExtTreeMap.getElem?_insert]

theorem getElem?_erase :
    (table.erase id)[other]? = if id = other then none else table[other]? := by
  simp [Std.ExtTreeMap.getElem?_erase]

end CallTable

/-- What can be told of every place of a list can be told after a change to one, if it can there. -/
theorem forall_getElem?_modify {α : Type} {list : List α} {place : Nat} {change : α → α}
    {tells : Nat → Option α → Prop} (here : tells place (list[place]?.map change))
    (elsewhere : ∀ other, other ≠ place → tells other list[other]?) (number : Nat) :
    tells number (list.modify place change)[number]? := by
  by_cases same : number = place
  · subst same
    rw [List.getElem?_modify_eq]
    exact here
  · rw [List.getElem?_modify_ne _ _ (Ne.symm same)]
    exact elsewhere number same

namespace Session

variable {session before after : Session} {number : Nat} {id : String}

/-- The end of a call that will get no answer. -/
abbrev closed : CallState :=
  .finished (.error .connectionClosed)

/-! ### What steps do to calls -/

/-- Calls and registrations are as before; a connection may have come into use. -/
structure KeepsCalls (before after : Session) : Prop where
  calls : after.calls = before.calls
  pending : after.pending = before.pending
  phase : after.phase = before.phase ∨ before.phase = .disconnected ∧ after.phase = .connected

theorem KeepsCalls.refl (session : Session) : KeepsCalls session session :=
  ⟨rfl, rfl, Or.inl rfl⟩

theorem KeepsCalls.connected (keeps : KeepsCalls before after)
    (connected : before.phase = .connected) : after.phase = .connected := by
  rcases keeps.phase with same | ⟨_, inUse⟩
  · exact same.trans connected
  · exact inUse

/-- A call that waits under an id has come to an end, and its registration is gone. -/
structure Ends (before after : Session) (number : Nat) (id : String) (state : CallState) :
    Prop where
  waited : before.calls[number]? = some (.waiting id)
  calls : after.calls = before.calls.set number state
  pending : after.pending = before.pending.erase id
  phase : after.phase = before.phase

/-- Registrations and calls belong together: a registration leads to a call that waits under its id,
and a call that waits is registered under its id. Only over a connection do calls wait. -/
structure Linked (session : Session) : Prop where
  waiting : ∀ {id : String} {awaited : Awaited}, session.pending[id]? = some awaited →
    session.calls[awaited.call]? = some (.waiting id)
  registered : ∀ {number : Nat} {id : String}, session.calls[number]? = some (.waiting id) →
    ∃ subscription, session.pending[id]? = some ⟨number, subscription⟩
  idle : session.phase ≠ .connected → session.pending = ∅

/-- No two calls wait under one id. -/
theorem Linked.number_unique (linked : session.Linked) {other : Nat}
    (waits : session.calls[number]? = some (.waiting id))
    (otherWaits : session.calls[other]? = some (.waiting id)) : number = other := by
  obtain ⟨_, registered⟩ := linked.registered waits
  obtain ⟨_, otherRegistered⟩ := linked.registered otherWaits
  have same := registered.symm.trans otherRegistered
  exact congrArg Awaited.call (Option.some.inj same)

/-- Calls wait only over a connection. -/
theorem Linked.connected (linked : session.Linked)
    (waits : session.calls[number]? = some (.waiting id)) : session.phase = .connected := by
  obtain ⟨_, registered⟩ := linked.registered waits
  refine Decidable.byContradiction fun notConnected => ?_
  rw [linked.idle notConnected] at registered
  simp at registered

theorem Linked.of_keeps (linked : before.Linked) (keeps : KeepsCalls before after) :
    after.Linked where
  waiting := by
    rw [keeps.calls, keeps.pending]
    exact linked.waiting
  registered := by
    rw [keeps.calls, keeps.pending]
    exact linked.registered
  idle := by
    intro notConnected
    rw [keeps.pending]
    exact linked.idle fun connected => notConnected (keeps.connected connected)

/-- A call that waits while another one comes to its end has waited before. -/
theorem waits_of_set {calls : List CallState} {place : Nat} {ended : CallState}
    (isOver : ∀ other, ended ≠ .waiting other)
    (waits : (calls.set place ended)[number]? = some (.waiting id)) :
    place ≠ number ∧ calls[number]? = some (.waiting id) := by
  rw [List.getElem?_set] at waits
  split at waits
  · split at waits
    · exact absurd (Option.some.inj waits) (isOver id)
    · cases waits
  · next different => exact ⟨different, waits⟩

theorem Linked.of_ends (linked : before.Linked) {state : CallState}
    (ends : Ends before after number id state) (isOver : ∀ other, state ≠ .waiting other) :
    after.Linked where
  waiting := by
    intro other awaited registered
    rw [ends.pending, CallTable.getElem?_erase] at registered
    split at registered
    · cases registered
    · next different =>
        have waits := linked.waiting registered
        rw [ends.calls, List.getElem?_set_ne, waits]
        rintro rfl
        have same := waits.symm.trans ends.waited
        exact different (CallState.waiting.inj (Option.some.inj same)).symm
  registered := by
    intro other otherId waits
    rw [ends.calls] at waits
    obtain ⟨different, waited⟩ := waits_of_set isOver waits
    obtain ⟨subscription, registered⟩ := linked.registered waited
    refine ⟨subscription, ?_⟩
    rw [ends.pending, CallTable.getElem?_erase, if_neg, registered]
    rintro rfl
    exact different (linked.number_unique ends.waited waited)
  idle := by
    intro notConnected
    rw [ends.phase] at notConnected
    rw [ends.pending, linked.idle notConnected]
    simp

/-! ### Operations -/

/-- Only a call that waits can come to its end. -/
theorem settle_cases (number : Nat) (state : CallState) (session : Session) :
    (∃ id, Ends session (session.settle number state) number id state) ∨
      ((∀ id, session.calls[number]? ≠ some (.waiting id)) ∧
        session.settle number state = session) := by
  unfold settle
  split
  · next id waits => exact Or.inl ⟨id, waits, rfl, rfl, rfl⟩
  · next notWaiting => exact Or.inr ⟨notWaiting, rfl⟩

theorem settle_ends {state : CallState} (waits : session.calls[number]? = some (.waiting id)) :
    Ends session (session.settle number state) number id state := by
  rcases settle_cases number state session with ⟨other, ends⟩ | ⟨notWaiting, _⟩
  · have same := ends.waited.symm.trans waits
    rwa [CallState.waiting.inj (Option.some.inj same)] at ends
  · exact absurd waits (notWaiting id)

/-- Of two calls under one id, first the earlier one ends, then the new one. -/
theorem settle_both {sent : Session} {calls : List CallState} {earlier : Nat}
    (appended : sent.calls = calls ++ [.waiting id])
    (waits : calls[earlier]? = some (.waiting id)) :
    ((sent.settle earlier closed).settle calls.length closed).calls =
        calls.set earlier closed ++ [closed] ∧
      ((sent.settle earlier closed).settle calls.length closed).pending = sent.pending.erase id ∧
        ((sent.settle earlier closed).settle calls.length closed).phase = sent.phase := by
  obtain ⟨bound, _⟩ := List.getElem?_eq_some_iff.mp waits
  have earlierWaits : sent.calls[earlier]? = some (.waiting id) := by
    rw [appended, List.getElem?_append_left bound, waits]
  have first : Ends sent (sent.settle earlier closed) earlier id closed := settle_ends earlierWaits
  have between : (sent.settle earlier closed).calls =
      calls.set earlier closed ++ [.waiting id] := by
    rw [first.calls, appended, List.set_append_left _ _ bound]
  have newWaits : (sent.settle earlier closed).calls[calls.length]? = some (.waiting id) := by
    simp [between]
  have second : Ends (sent.settle earlier closed) _ calls.length id closed := settle_ends newWaits
  refine ⟨?_, ?_, second.phase.trans first.phase⟩
  · simp [second.calls, between]
  · -- both calls had the one registration
    rw [second.pending, first.pending]
    apply Std.ExtTreeMap.ext_getElem?
    intro other
    rw [CallTable.getElem?_erase, CallTable.getElem?_erase]
    split <;> rfl

/-- The call of a request that is refused ends at once. -/
structure Refuses (before after : Session) : Prop where
  calls : after.calls = before.calls ++ [closed]
  pending : after.pending = before.pending
  phase : after.phase = before.phase

/-- The call of a request that is sent waits under its id. -/
structure Registers (before after : Session) (id : String) (subscription : Option Subscription) :
    Prop where
  calls : after.calls = before.calls ++ [.waiting id]
  pending : after.pending = before.pending.insert id ⟨before.calls.length, subscription⟩
  connected : before.phase = .connected
  phase : after.phase = before.phase
  fresh : before.pending[id]? = none

/-- The call of a request that is sent under the id of a call that waits, and that call, both end.
-/
structure Clashes (before after : Session) (id : String) : Prop where
  waited : ∃ earlier, before.calls[earlier]? = some (.waiting id) ∧
    after.calls = before.calls.set earlier closed ++ [closed]
  pending : after.pending = before.pending.erase id
  phase : after.phase = before.phase

/-- What becomes of a request: it is refused, or sent, under a new id or one that is taken. -/
theorem Linked.send_cases (linked : session.Linked) (request : Request)
    (subscription : Option Subscription) :
    Refuses session (session.send request subscription).2 ∨
      Registers session (session.send request subscription).2 request.id subscription ∨
        Clashes session (session.send request subscription).2 request.id := by
  unfold send
  dsimp only
  split
  · next texts connected inUse =>
      split
      · next fresh => exact Or.inr (Or.inl ⟨rfl, rfl, connected, rfl, fresh⟩)
      · next earlier registered =>
          have waits := linked.waiting registered
          let sent : Session := { session with
            outbound := some (texts ++ [request.encode])
            calls := session.calls ++ [.waiting request.id] }
          have appended : sent.calls = session.calls ++ [.waiting request.id] := rfl
          obtain ⟨calls, pending, phase⟩ := settle_both appended waits
          exact Or.inr (Or.inr ⟨⟨earlier.call, waits, calls⟩, pending, phase⟩)
  · exact Or.inl ⟨rfl, rfl, rfl⟩

/-- A call is an old one or the one that was added. -/
theorem getElem?_concat_cases {calls : List CallState} {added state : CallState}
    (found : (calls ++ [added])[number]? = some state) :
    calls[number]? = some state ∨ number = calls.length ∧ state = added := by
  rcases Nat.lt_or_ge number calls.length with old | new
  · rw [List.getElem?_append_left old] at found
    exact Or.inl found
  · rw [List.getElem?_append_right new] at found
    obtain ⟨bound, same⟩ := List.getElem?_eq_some_iff.mp found
    have first : number - calls.length = 0 := Nat.lt_one_iff.mp bound
    simp only [first, List.getElem_cons_zero] at same
    exact Or.inr ⟨by omega, same.symm⟩

theorem Linked.of_refuses (linked : before.Linked) (refuses : Refuses before after) :
    after.Linked where
  waiting := by
    intro other awaited registered
    rw [refuses.pending] at registered
    have waits := linked.waiting registered
    obtain ⟨bound, _⟩ := List.getElem?_eq_some_iff.mp waits
    rw [refuses.calls, List.getElem?_append_left bound, waits]
  registered := by
    intro other otherId waits
    rw [refuses.calls] at waits
    rw [refuses.pending]
    rcases getElem?_concat_cases waits with old | ⟨_, added⟩
    · exact linked.registered old
    · cases added
  idle := by
    rw [refuses.phase, refuses.pending]
    exact linked.idle

theorem Linked.of_registers (linked : before.Linked) {subscription : Option Subscription}
    (registers : Registers before after id subscription) : after.Linked where
  waiting := by
    intro other awaited registered
    rw [registers.pending, CallTable.getElem?_insert] at registered
    split at registered
    · next same =>
        cases registered
        rw [registers.calls, ← same]
        simp
    · have waits := linked.waiting registered
      obtain ⟨bound, _⟩ := List.getElem?_eq_some_iff.mp waits
      rw [registers.calls, List.getElem?_append_left bound, waits]
  registered := by
    intro other otherId waits
    rw [registers.calls] at waits
    rw [registers.pending, CallTable.getElem?_insert]
    rcases getElem?_concat_cases waits with old | ⟨rfl, added⟩
    · obtain ⟨kept, registered⟩ := linked.registered old
      refine ⟨kept, ?_⟩
      rw [if_neg, registered]
      rintro rfl
      rw [registers.fresh] at registered
      cases registered
    · cases added
      exact ⟨subscription, if_pos rfl⟩
  idle := by
    intro notConnected
    rw [registers.phase] at notConnected
    exact absurd registers.connected notConnected

theorem finished_ne_waiting {outcome : Outcome Envelope} :
    CallState.finished outcome ≠ .waiting id := by
  intro same
  cases same

/-- Two calls under one id end one after the other. -/
theorem Linked.of_clashes (linked : before.Linked) (clashes : Clashes before after id) :
    after.Linked := by
  obtain ⟨⟨earlier, waits, calls⟩, pending, phase⟩ := clashes
  let between : Session := { before with
    calls := before.calls.set earlier closed
    pending := before.pending.erase id }
  have ends : Ends before between earlier id closed := ⟨waits, rfl, rfl, rfl⟩
  have refuses : Refuses between after := ⟨calls, pending, phase⟩
  exact (linked.of_ends ends fun _ => finished_ne_waiting).of_refuses refuses

/-! ### Frames -/

/-- The answer that a frame holds for the call of an id, if it does. -/
def answerIn? (id : String) (bytes : Bytes) : Option Envelope :=
  match Envelope.decode bytes with
  | .ok message =>
    if message.kind = .response ∧ message.validId = some id then some message else none
  | .error _ => none

theorem answerIn?_eq_some {bytes : Bytes} {message : Envelope} :
    answerIn? id bytes = some message ↔ Envelope.decode bytes = .ok message ∧
      message.kind = .response ∧ message.validId = some id := by
  unfold answerIn?
  split
  · next found read =>
      rw [read]
      constructor
      · intro answers
        split at answers
        · next isAnswer =>
            cases answers
            exact ⟨rfl, isAnswer⟩
        · cases answers
      · rintro ⟨same, isAnswer⟩
        cases same
        exact if_pos isAnswer
  · next read =>
      rw [read]
      constructor
      · intro answers
        cases answers
      · rintro ⟨same, _⟩
        cases same

/-- A frame holds an answer for one id at most. -/
theorem answerIn?_unique {other : String} {bytes : Bytes} {message otherMessage : Envelope}
    (answers : answerIn? id bytes = some message)
    (otherAnswers : answerIn? other bytes = some otherMessage) : id = other := by
  obtain ⟨read, _, hasId⟩ := answerIn?_eq_some.mp answers
  obtain ⟨otherRead, _, hasOther⟩ := answerIn?_eq_some.mp otherAnswers
  cases read.symm.trans otherRead
  exact Option.some.inj (hasId.symm.trans hasOther)

/-- What happens to the calls after a step that keeps them happens to those before it. -/
theorem KeepsCalls.ends {between : Session} {state : CallState} (keeps : KeepsCalls before between)
    (connected : before.phase = .connected) (ends : Ends between after number id state) :
    Ends before after number id state where
  waited := keeps.calls ▸ ends.waited
  calls := by rw [ends.calls, keeps.calls]
  pending := by rw [ends.pending, keeps.pending]
  phase := by rw [ends.phase, keeps.connected connected, connected]

theorem enter_keepsCalls (entered : String) (subscription : Subscription) :
    KeepsCalls session (session.enter entered subscription) := by
  unfold enter
  split
  · exact ⟨rfl, rfl, Or.inl rfl⟩
  · exact ⟨rfl, rfl, Or.inl rfl⟩

/-- An answer for a call that waits ends it. -/
theorem Linked.frame_of_answer (linked : session.Linked)
    (waits : session.calls[number]? = some (.waiting id)) {bytes : Bytes} {message : Envelope}
    (answers : answerIn? id bytes = some message) :
    Ends session (session.frame bytes) number id (.finished (.ok message)) := by
  obtain ⟨read, isResponse, hasId⟩ := answerIn?_eq_some.mp answers
  obtain ⟨subscription, registered⟩ := linked.registered waits
  simp only [frame, read, isResponse, resolve, hasId, Option.bind_some, registered]
  cases begun? ⟨number, subscription⟩ message with
  | none => exact settle_ends waits
  | some entry =>
      have keeps : KeepsCalls session (session.enter entry.1 entry.2) := enter_keepsCalls _ _
      exact keeps.ends (linked.connected waits) (settle_ends (keeps.calls ▸ waits))

/-- An answer that no call waits for changes nothing. -/
theorem Linked.frame_of_late (linked : session.Linked) {bytes : Bytes} {message : Envelope}
    (answers : answerIn? id bytes = some message)
    (late : ∀ number : Nat, session.calls[number]? ≠ some (.waiting id)) :
    session.frame bytes = session := by
  obtain ⟨read, isResponse, hasId⟩ := answerIn?_eq_some.mp answers
  have unregistered : session.pending[id]? = none := by
    cases registered : session.pending[id]? with
    | none => rfl
    | some awaited => exact absurd (linked.waiting registered) (late awaited.call)
  simp only [frame, read, isResponse, resolve, hasId, Option.bind_some, unregistered]

theorem notify_keepsCalls (message : Envelope) : KeepsCalls session (session.notify message) := by
  unfold notify
  split
  · split
    · exact ⟨rfl, rfl, Or.inl rfl⟩
    · exact ⟨rfl, rfl, Or.inl rfl⟩
  · exact ⟨rfl, rfl, Or.inl rfl⟩

/-- A frame ends the call that it answers. One that answers no call that waits ends none. -/
theorem Linked.frame_cases (linked : session.Linked) (bytes : Bytes) :
    (∃ (number : Nat) (id : String) (message : Envelope), answerIn? id bytes = some message ∧
        Ends session (session.frame bytes) number id (.finished (.ok message))) ∨
      (∀ (number : Nat) id, session.calls[number]? = some (.waiting id) →
          answerIn? id bytes = none) ∧
        KeepsCalls session (session.frame bytes) := by
  by_cases answered : ∃ (number : Nat) (id : String) (message : Envelope),
      session.calls[number]? = some (.waiting id) ∧ answerIn? id bytes = some message
  · obtain ⟨number, id, message, waits, answers⟩ := answered
    exact Or.inl ⟨number, id, message, answers, linked.frame_of_answer waits answers⟩
  · have stray : ∀ (number : Nat) id, session.calls[number]? = some (.waiting id) →
        answerIn? id bytes = none := by
      intro number id waits
      cases answers : answerIn? id bytes with
      | none => rfl
      | some message => exact absurd ⟨number, id, message, waits, answers⟩ answered
    refine Or.inr ⟨stray, ?_⟩
    unfold frame
    split
    · exact .refl session
    · next message read =>
        split
        · next isResponse =>
            unfold resolve
            split
            · exact .refl session
            · next awaited registered =>
                obtain ⟨id, hasId, registered⟩ := Option.bind_eq_some_iff.mp registered
                have waits := linked.waiting registered
                have answers := answerIn?_eq_some.mpr ⟨read, isResponse, hasId⟩
                rw [stray _ _ waits] at answers
                cases answers
        · exact notify_keepsCalls message
        · exact .refl session

/-! ### Teardown -/

/-- Without a connection a teardown finds no call that waits. -/
theorem Linked.map_close_of_idle (linked : session.Linked) (idle : session.phase ≠ .connected) :
    session.calls.map CallState.close = session.calls := by
  have unchanged : ∀ state ∈ session.calls, state.close = state := by
    intro state member
    obtain ⟨number, found⟩ := List.getElem?_of_mem member
    cases state with
    | waiting id => exact absurd (linked.connected found) idle
    | finished outcome => rfl
    | abandoned => rfl
  exact (List.map_congr_left unchanged).trans (List.map_id' _)

/-- A teardown ends all calls that wait, and no registration is left. -/
theorem Linked.teardown_calls (linked : session.Linked) :
    session.teardown.calls = session.calls.map CallState.close ∧
      session.teardown.pending = ∅ ∧ session.teardown.phase = .dead := by
  unfold Session.teardown
  split
  · next dead =>
      have idle : session.phase ≠ .connected := by
        rw [dead]
        decide
      exact ⟨(linked.map_close_of_idle idle).symm, linked.idle idle, dead⟩
  · exact ⟨rfl, rfl, rfl⟩

theorem Linked.teardown_ne_waiting (linked : session.Linked) :
    session.teardown.calls[number]? ≠ some (.waiting id) := by
  intro waits
  rw [linked.teardown_calls.1, List.getElem?_map] at waits
  obtain ⟨state, _, closed⟩ := Option.map_eq_some_iff.mp waits
  cases state <;> cases closed

theorem Linked.teardown (linked : session.Linked) : session.teardown.Linked := by
  obtain ⟨_, pending, _⟩ := linked.teardown_calls
  refine ⟨?_, fun waits => absurd waits linked.teardown_ne_waiting, fun _ => pending⟩
  intro other awaited registered
  rw [pending] at registered
  simp at registered

/-! ### Events -/

theorem step_teardown : session.step .teardown = session.teardown :=
  rfl

/-- The id of the request that an event sends, if it sends one. -/
def Event.requestId? (session : Session) : Event → Option String
  | .call id _ _ => some id
  | .subscribe id _ _ _ _ => some id
  | .unsubscribe id subscription =>
    ((session.feeds.methodOf? subscription).bind Method.unsubscribeOf?).map fun _ => id
  | _ => none

/-- How an event ends the call of a number that waits under an id, if it does. -/
def Event.ending? (number : Nat) (id : String) : Event → Option CallState
  | .frame bytes => (answerIn? id bytes).map fun message => .finished (.ok message)
  | .abandon caller => if caller = number then some .abandoned else none
  | .teardown => some closed
  | _ => none

theorem moveStart_keepsCalls (start : Nat) (state : StartState) :
    KeepsCalls session (session.moveStart start state) :=
  ⟨rfl, rfl, Or.inl rfl⟩

theorem launch_keepsCalls (start : Nat) : KeepsCalls session (session.launch start) := by
  unfold launch
  split
  · dsimp only
    split
    · next disconnected => exact ⟨rfl, rfl, Or.inr ⟨disconnected, rfl⟩⟩
    · exact ⟨rfl, rfl, Or.inl rfl⟩
  · exact moveStart_keepsCalls _ _
  · exact .refl session

/-- An event that sends a request sends it over the session as it is, but for its subscriptions. -/
theorem step_of_requestId {event : Event} (sends : event.requestId? session = some id) :
    ∃ feeds request subscription, request.id = id ∧
      session.step event = (({ session with feeds := feeds } : Session).send request
        subscription).2 := by
  cases event with
  | call callId method params =>
      cases sends
      exact ⟨session.feeds, .make id method params, none, rfl, rfl⟩
  | subscribe callId method event params sink =>
      cases sends
      exact ⟨session.feeds, .make id method (.string event :: params), some ⟨method, sink⟩, rfl,
        rfl⟩
  | unsubscribe callId subscription =>
      obtain ⟨ending, found, rfl⟩ := Option.map_eq_some_iff.mp sends
      obtain ⟨method, isMethod, isEnding⟩ := Option.bind_eq_some_iff.mp found
      refine ⟨session.feeds.remove subscription, .make callId ending [.string subscription], none,
        rfl, ?_⟩
      simp only [step, unsubscribe, isMethod, isEnding]
      rfl
  | _ => cases sends

/-- The events of starts, mailboxes and subscriptions keep the calls. -/
theorem step_keepsCalls {event : Event} (silent : event.requestId? session = none)
    (noFrame : ∀ bytes, event ≠ .frame bytes) (noAbandon : ∀ caller, event ≠ .abandon caller)
    (noTeardown : event ≠ .teardown) : KeepsCalls session (session.step event) := by
  cases event with
  | openMailbox | receive | closeMailbox | start => exact ⟨rfl, rfl, Or.inl rfl⟩
  | dialFailed start text =>
      simp only [step, dialFailed]
      split
      · split
        · exact moveStart_keepsCalls _ _
        · exact moveStart_keepsCalls _ _
      · exact .refl session
  | redial start =>
      simp only [step, redial]
      split
      · exact moveStart_keepsCalls _ _
      · exact .refl session
  | dialSucceeded start =>
      simp only [step, dialSucceeded]
      split
      · exact moveStart_keepsCalls _ _
      · exact .refl session
  | launch start => exact launch_keepsCalls start
  | abandonStart start =>
      simp only [step, abandonStart]
      split
      · exact .refl session
      · exact .refl session
      · exact .refl session
      · exact moveStart_keepsCalls _ _
  | unsubscribe callId subscription =>
      have noCall := Option.map_eq_none_iff.mp silent
      simp only [step, unsubscribe]
      split
      · exact .refl session
      · next method isMethod =>
          rw [isMethod, Option.bind_some] at noCall
          rw [noCall]
          exact ⟨rfl, rfl, Or.inl rfl⟩
  | call | subscribe => cases silent
  | abandon caller => exact absurd rfl (noAbandon caller)
  | frame bytes => exact absurd rfl (noFrame bytes)
  | teardown => exact absurd rfl noTeardown

theorem eq_abandoned_of_ending? {caller : Nat} {state : CallState}
    (ending : (Event.abandon caller).ending? number id = some state) : state = .abandoned := by
  simp only [Event.ending?] at ending
  split at ending
  · cases ending
    rfl
  · cases ending

theorem ending_ne_waiting {event : Event} {state : CallState} {other : String}
    (ending : event.ending? number id = some state) : state ≠ .waiting other := by
  rintro rfl
  cases event with
  | frame bytes =>
      obtain ⟨message, _, same⟩ := Option.map_eq_some_iff.mp ending
      cases same
  | abandon caller => cases eq_abandoned_of_ending? ending
  | _ => cases ending

/-- What an event does to the calls: it sends a request, or ends a call, or tears the session down,
or leaves all calls as they are. -/
theorem Linked.step_cases (linked : session.Linked) (event : Event) :
    (∃ id, event.requestId? session = some id ∧
      (Refuses session (session.step event) ∨
        (∃ subscription, Registers session (session.step event) id subscription) ∨
          Clashes session (session.step event) id)) ∨
    (∃ number id state, event.ending? number id = some state ∧
      Ends session (session.step event) number id state ∧
      ∀ (other : Nat) otherId, other ≠ number →
        session.calls[other]? = some (.waiting otherId) → event.ending? other otherId = none) ∨
    event = .teardown ∨
    (∀ (number : Nat) id, session.calls[number]? = some (.waiting id) →
      event.ending? number id = none) ∧ KeepsCalls session (session.step event) := by
  cases sends : event.requestId? session with
  | some id =>
      obtain ⟨feeds, request, subscription, rfl, sent⟩ := step_of_requestId sends
      have prepared : ({ session with feeds := feeds } : Session).Linked :=
        linked.of_keeps ⟨rfl, rfl, Or.inl rfl⟩
      refine Or.inl ⟨request.id, rfl, ?_⟩
      rw [sent]
      rcases prepared.send_cases request subscription with refuses | registers | clashes
      · exact Or.inl ⟨refuses.calls, refuses.pending, refuses.phase⟩
      · exact Or.inr (Or.inl ⟨subscription, registers.calls, registers.pending,
          registers.connected, registers.phase, registers.fresh⟩)
      · exact Or.inr (Or.inr ⟨clashes.waited, clashes.pending, clashes.phase⟩)
  | none =>
      refine Or.inr ?_
      cases event with
      | call | subscribe => cases sends
      | frame bytes =>
          rcases linked.frame_cases bytes with ⟨number, id, message, answers, ends⟩ | ⟨stray, keeps⟩
          · refine Or.inl ⟨number, id, .finished (.ok message), ?_, ends, ?_⟩
            · rw [Event.ending?, answers, Option.map_some]
            · intro other otherId different waits
              refine Option.map_eq_none_iff.mpr (Option.eq_none_iff_forall_ne_some.mpr ?_)
              rintro found otherAnswers
              cases answerIn?_unique answers otherAnswers
              exact different (linked.number_unique waits ends.waited)
          · refine Or.inr (Or.inr ⟨?_, keeps⟩)
            intro number id waits
            rw [Event.ending?, stray number id waits, Option.map_none]
      | abandon caller =>
          rcases settle_cases caller .abandoned session with ⟨id, ends⟩ | ⟨notWaiting, same⟩
          · exact Or.inl ⟨caller, id, .abandoned, if_pos rfl, ends,
              fun other _ different _ => if_neg (Ne.symm different)⟩
          · refine Or.inr (Or.inr ⟨?_, ?_⟩)
            · intro number id waits
              refine if_neg ?_
              rintro rfl
              exact notWaiting id waits
            · rw [step, abandon, same]
              exact .refl session
      | teardown => exact Or.inr (Or.inl rfl)
      | _ =>
          refine Or.inr (Or.inr ⟨fun _ _ _ => rfl, ?_⟩)
          exact step_keepsCalls sends (fun _ other => nomatch other) (fun _ other => nomatch other)
            (fun other => nomatch other)

/-- Every event keeps registrations and calls together. -/
theorem Linked.step (linked : session.Linked) (event : Event) : (session.step event).Linked := by
  rcases linked.step_cases event with ⟨id, _, refuses | ⟨_, registers⟩ | clashes⟩ |
    ⟨number, id, state, ending, ends, _⟩ | rfl | ⟨_, keeps⟩
  · exact linked.of_refuses refuses
  · exact linked.of_registers registers
  · exact linked.of_clashes clashes
  · exact linked.of_ends ends fun other => ending_ne_waiting ending
  · exact linked.teardown
  · exact linked.of_keeps keeps

/-- However a session has come about, registrations and calls belong together. -/
theorem Linked.run (linked : session.Linked) (events : List Event) :
    (session.run events).Linked := by
  induction events generalizing session with
  | nil => exact linked
  | cons event rest inductionHypothesis => exact inductionHypothesis (linked.step event)

/-- A new session has no calls. -/
theorem make_eq_ok {url : String} {config : WebSocketConfig}
    (made : make url config = .ok session) :
    session = { url := url, config := config } := by
  simp only [make, bind, Except.bind] at made
  split at made
  · cases made
  split at made
  · cases made
  split at made
  · cases made
  · cases made
    rfl

theorem linked_of_make {url : String} {config : WebSocketConfig}
    (made : make url config = .ok session) : session.Linked := by
  rw [make_eq_ok made]
  refine ⟨?_, ?_, fun _ => rfl⟩
  · intro id awaited registered
    simp at registered
  · intro number id waits
    simp at waits

end Session

end RpcTransport
