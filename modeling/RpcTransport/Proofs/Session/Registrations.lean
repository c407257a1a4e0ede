import Mathlib.Data.List.Perm.Basic
import RpcTransport.Proofs.Session.Subscribing

/-!
The calls that are registered. They are the calls that wait, at every moment: the end of a call
takes its own registration away and no other, and whoever forgets the call once more, after its end,
forgets nothing.
-/

namespace RpcTransport

/-- The id under which a call waits. -/
def CallState.waitingId? : CallState → Option String
  | .waiting id => some id
  | .finished _ | .abandoned => none

/-- Whether a call waits for its answer. -/
def CallState.isWaiting (state : CallState) : Bool :=
  state.waitingId?.isSome

theorem CallState.waitingId?_eq_some {state : CallState} {id : String} :
    state.waitingId? = some id ↔ state = .waiting id := by
  cases state <;> simp [waitingId?]

namespace Session

variable {session : Session} {number other : Nat} {id otherId : String} {event : Event}
  {awaited : Awaited}

/-! ### The table at one moment -/

theorem mem_pending_iff :
    id ∈ session.pending ↔ ∃ awaited, session.pending[id]? = some awaited := by
  rw [Std.ExtTreeMap.mem_iff_isSome_getElem?, Option.isSome_iff_exists]

/-- An id is registered just if a call waits under it. -/
theorem Linked.mem_pending (linked : session.Linked) :
    id ∈ session.pending ↔ ∃ number : Nat, session.calls[number]? = some (.waiting id) := by
  rw [mem_pending_iff]
  constructor
  · rintro ⟨awaited, registered⟩
    exact ⟨awaited.call, linked.waiting registered⟩
  · rintro ⟨number, waits⟩
    obtain ⟨subscription, registered⟩ := linked.registered waits
    exact ⟨_, registered⟩

/-- The ids under which calls wait, in the order of the calls. -/
def waitingIds (session : Session) : List String :=
  session.calls.filterMap CallState.waitingId?

theorem mem_waitingIds :
    id ∈ session.waitingIds ↔ ∃ number : Nat, session.calls[number]? = some (.waiting id) := by
  rw [waitingIds, List.mem_filterMap]
  constructor
  · rintro ⟨state, member, waits⟩
    obtain ⟨number, found⟩ := List.getElem?_of_mem member
    exact ⟨number, found.trans (congrArg some (CallState.waitingId?_eq_some.mp waits))⟩
  · rintro ⟨number, waits⟩
    exact ⟨.waiting id, List.mem_of_getElem? waits, rfl⟩

/-- No two calls wait under one id, so no id is there twice. -/
theorem Linked.nodup_waitingIds (linked : session.Linked) : session.waitingIds.Nodup := by
  refine List.pairwise_filterMap.mpr (List.pairwise_iff_getElem.mpr ?_)
  intro first second firstBound secondBound less id waits otherId otherWaits same
  subst same
  have isFirst := List.getElem?_eq_some_iff.mpr
    ⟨firstBound, CallState.waitingId?_eq_some.mp waits⟩
  have isSecond := List.getElem?_eq_some_iff.mpr
    ⟨secondBound, CallState.waitingId?_eq_some.mp otherWaits⟩
  exact Nat.ne_of_lt less (linked.number_unique isFirst isSecond)

theorem Linked.keys_perm (linked : session.Linked) :
    session.pending.keys.Perm session.waitingIds := by
  rw [List.perm_ext_iff_of_nodup Std.ExtTreeMap.nodup_keys linked.nodup_waitingIds]
  intro id
  rw [Std.ExtTreeMap.mem_keys, linked.mem_pending, mem_waitingIds]

/-- The table holds the calls that wait: each under its own id, and nothing else. -/
structure HoldsWaiting (session : Session) : Prop where
  keys : ∀ id, id ∈ session.pending ↔ ∃ number : Nat, session.calls[number]? = some (.waiting id)
  entries : ∀ (number : Nat) id, session.calls[number]? = some (.waiting id) →
    ∃ subscription, session.pending[id]? = some ⟨number, subscription⟩
  count : session.pendingCalls = session.calls.countP CallState.isWaiting
  /-- What has ended, with an answer or without one, has left no entry. -/
  ended : ∀ (number : Nat) state, session.calls[number]? = some state → state.isWaiting = false →
    ∀ (id : String) (awaited : Awaited), session.pending[id]? = some awaited →
      awaited.call ≠ number

theorem Linked.holdsWaiting (linked : session.Linked) : session.HoldsWaiting where
  keys _ := linked.mem_pending
  entries _ _ := linked.registered
  count := by
    calc session.pendingCalls
      _ = session.pending.keys.length := Std.ExtTreeMap.length_keys.symm
      _ = session.waitingIds.length := linked.keys_perm.length_eq
      _ = session.calls.countP CallState.isWaiting := List.length_filterMap_eq_countP
  ended := by
    rintro number state found isOver id awaited registered rfl
    have waits := linked.waiting registered
    cases found.symm.trans waits
    cases isOver

/-! ### One event -/

/-- Whether an event ends a call does not depend on any other call, but for a teardown. -/
theorem Linked.alone (linked : session.Linked) (notTeardown : event ≠ .teardown)
    (waits : session.calls[number]? = some (.waiting id)) (ends : event.ending? number id ≠ none)
    (otherWaits : session.calls[other]? = some (.waiting otherId)) (different : other ≠ number) :
    event.ending? other otherId = none := by
  cases event with
  | frame bytes =>
      obtain ⟨_, ending⟩ := Option.ne_none_iff_exists'.mp ends
      obtain ⟨message, answers, _⟩ := Option.map_eq_some_iff.mp ending
      refine Option.map_eq_none_iff.mpr ?_
      refine Option.eq_none_iff_forall_ne_some.mpr fun found holds => ?_
      cases answerIn?_unique answers holds
      exact different (linked.number_unique otherWaits waits)
  | abandon caller =>
      refine if_neg ?_
      rintro rfl
      exact ends (if_neg different)
  | teardown => exact absurd rfl notTeardown
  | _ => rfl

/-- An entry stays until its own call ends. -/
theorem Linked.pending_step (linked : session.Linked) (fresh : session.Fresh event)
    (registered : session.pending[id]? = some awaited) :
    (session.step event).pending[id]? =
      if event.ending? awaited.call id = none then some awaited else none := by
  have waits := linked.waiting registered
  have after := linked.calls_step fresh waits
  split
  · next stays =>
      rw [CallState.after, stays] at after
      obtain ⟨bound, _⟩ := List.getElem?_eq_some_iff.mp waits
      rw [(linked.registration_step bound after).2, registered]
  · next ends =>
      obtain ⟨state, ending⟩ := Option.ne_none_iff_exists'.mp ends
      rw [CallState.after, ending] at after
      have silent : event.requestId? session ≠ some id := by
        intro sends
        exact ends (ending?_of_requestId sends id)
      refine Option.eq_none_iff_forall_ne_some.mpr fun found stillThere => ?_
      -- what is still there would lead to a call that waited before, and that is the one that ended
      have waitsAfter := (linked.step event).waiting stillThere
      rw [linked.number_unique (linked.waited_step silent waitsAfter) waits, after] at waitsAfter
      exact ending_ne_waiting ending (Option.some.inj waitsAfter)

/-- Only a request makes an entry, for its own call. -/
theorem Linked.entered_step (linked : session.Linked) (absent : session.pending[id]? = none)
    (entered : (session.step event).pending[id]? = some awaited) :
    event.requestId? session = some id ∧ awaited.call = session.calls.length := by
  have waits := (linked.step event).waiting entered
  have late : ∀ number : Nat, session.calls[number]? ≠ some (.waiting id) := by
    intro number waited
    obtain ⟨_, registered⟩ := linked.registered waited
    cases absent.symm.trans registered
  refine ⟨?_, ?_⟩
  · refine Decidable.byContradiction fun silent => ?_
    exact late _ (linked.waited_step silent waits)
  · rcases linked.step_cases event with ⟨_, _, refuses | ⟨_, registers⟩ | clashes⟩ |
      ⟨_, _, _, _, ends, _⟩ | rfl | ⟨_, keeps⟩
    · rw [refuses.pending, absent] at entered
      cases entered
    · rw [registers.pending, CallTable.getElem?_insert] at entered
      split at entered
      · cases entered
        rfl
      · cases absent.symm.trans entered
    · rw [clashes.pending, CallTable.getElem?_erase, absent, ite_self] at entered
      cases entered
    · rw [ends.pending, CallTable.getElem?_erase, absent, ite_self] at entered
      cases entered
    · rw [step_teardown, linked.teardown_calls.2.1] at entered
      simp at entered
    · rw [keeps.pending, absent] at entered
      cases entered

/-- What an event does to the table. -/
structure KeepsOthers (session : Session) (event : Event) : Prop where
  /-- An entry is there until its own answer comes, its own caller gives up, or the session is torn
  down, -/
  entry : ∀ id awaited, session.pending[id]? = some awaited →
    (session.step event).pending[id]? =
      if event.ending? awaited.call id = none then some awaited else none
  /-- and it comes in with its request. -/
  entered : ∀ id awaited, session.pending[id]? = none →
    (session.step event).pending[id]? = some awaited →
    event.requestId? session = some id ∧ awaited.call = session.calls.length
  /-- A call that ends leaves no entry, -/
  ended : ∀ (number : Nat) id, session.calls[number]? = some (.waiting id) →
    (session.step event).calls[number]? ≠ some (.waiting id) →
    (session.step event).pending[id]? = none
  /-- and unless it ends by a teardown, the entries of all other calls are as they were. -/
  others : ∀ (number other : Nat) id otherId, event ≠ .teardown →
    session.calls[number]? = some (.waiting id) →
    (session.step event).calls[number]? ≠ some (.waiting id) → other ≠ number →
    session.calls[other]? = some (.waiting otherId) →
    (session.step event).calls[other]? = some (.waiting otherId) ∧
      (session.step event).pending[otherId]? = session.pending[otherId]?

theorem Linked.keepsOthers (linked : session.Linked) (fresh : session.Fresh event) :
    session.KeepsOthers event := by
  have ending : ∀ {number : Nat} {id : String}, session.calls[number]? = some (.waiting id) →
      (session.step event).calls[number]? ≠ some (.waiting id) →
      event.ending? number id ≠ none := by
    intro number id waits isOver stays
    have after := linked.calls_step fresh waits
    rw [CallState.after, stays] at after
    exact isOver after
  refine ⟨fun _ _ => linked.pending_step fresh, fun _ _ => linked.entered_step, ?_, ?_⟩
  · intro number id waits isOver
    obtain ⟨_, registered⟩ := linked.registered waits
    rw [linked.pending_step fresh registered, if_neg (ending waits isOver)]
  · intro number other id otherId notTeardown waits isOver different otherWaits
    have stays := linked.alone notTeardown waits (ending waits isOver) otherWaits different
    have after := linked.calls_step fresh otherWaits
    rw [CallState.after, stays] at after
    obtain ⟨bound, _⟩ := List.getElem?_eq_some_iff.mp otherWaits
    exact ⟨after, (linked.registration_step bound after).2⟩

/-! ### Whole runs -/

/-- Whoever forgets a call takes out whatever is registered under its id. -/
def forget (id : String) (session : Session) : Session :=
  { session with pending := session.pending.erase id }

theorem forget_eq_self (absent : session.pending[id]? = none) : session.forget id = session := by
  have same : session.pending.erase id = session.pending := by
    apply Std.ExtTreeMap.ext_getElem?
    intro key
    rw [CallTable.getElem?_erase]
    split
    · next here => rw [← here, absent]
    · rfl
  rw [forget, same]

/-- A call that waits under an id for which no request was sent has waited all the time. -/
theorem Linked.waited_run (linked : session.Linked) {events : List Event}
    (silent : session.Throughout (fun session event => event.requestId? session ≠ some id) events)
    (waits : (session.run events).calls[number]? = some (.waiting id)) :
    session.calls[number]? = some (.waiting id) := by
  induction events using List.reverseRecOn with
  | nil => exact waits
  | append_singleton events event inductionHypothesis =>
      obtain ⟨silentBefore, silentNow⟩ := throughout_concat.mp silent
      rw [run_concat] at waits
      exact inductionHypothesis silentBefore ((linked.run events).waited_step silentNow waits)

/-- Once a call has ended its id is free until the next request under it. -/
theorem Linked.absent_of_ended (linked : session.Linked)
    (waits : session.calls[number]? = some (.waiting id)) {events : List Event}
    (isOver : (session.run events).calls[number]? ≠ some (.waiting id))
    (silent : session.Throughout (fun session event => event.requestId? session ≠ some id) events) :
    (session.run events).pending[id]? = none := by
  refine Option.eq_none_iff_forall_ne_some.mpr fun awaited registered => ?_
  have waitsNow := (linked.run events).waiting registered
  rw [linked.number_unique (linked.waited_run silent waitsNow) waits] at waitsNow
  exact isOver waitsNow

/-- At every moment the calls that wait are those that are registered. Each event takes away the
entries of the calls that it ends, and no other; and whoever forgets a call that has ended, however
late, forgets no other call. -/
theorem registered_iff_waiting {url : String} {config : WebSocketConfig}
    (made : make url config = .ok session) {events : List Event}
    (distinct : session.DistinctIds events) :
    (session.run events).HoldsWaiting ∧
    (∀ earlier event later, events = earlier ++ event :: later →
      (session.run earlier).KeepsOthers event) ∧
    ∀ earlier later (number : Nat) id, events = earlier ++ later →
      (session.run earlier).calls[number]? = some (.waiting id) →
      (session.run events).calls[number]? ≠ some (.waiting id) →
      (session.run earlier).Throughout (fun session event => event.requestId? session ≠ some id)
        later →
      (session.run events).forget id = session.run events := by
  have linked : session.Linked := linked_of_make made
  refine ⟨(linked.run events).holdsWaiting, ?_, ?_⟩
  · intro earlier event later split
    exact (linked.run earlier).keepsOthers (distinct earlier event later split)
  · rintro earlier later number id rfl waits isOver silent
    rw [run_append] at isOver ⊢
    exact forget_eq_self ((linked.run earlier).absent_of_ended waits isOver silent)

/-- After the second of two calls is answered, only the first is registered, and whoever forgets the
second call once more, at the very end, forgets nothing. -/
theorem registered_iff_waiting_crossed :
    make "ws://node" {} = .ok idleSession ∧ idleSession.DistinctIds crossedAnswers ∧
      (idleSession.run (crossedAnswers.take 6)).pending["a"]? = some ⟨0, none⟩ ∧
      (idleSession.run crossedAnswers).forget "b" = idleSession.run crossedAnswers := by
  have made : make "ws://node" {} = .ok idleSession := rfl
  obtain ⟨_, each, late⟩ := registered_iff_waiting made distinctIds_crossedAnswers
  have answered := each (crossedAnswers.take 5) _ (crossedAnswers.drop 6) rfl
  refine ⟨made, distinctIds_crossedAnswers, ?_, ?_⟩
  · exact answered.entry "a" ⟨0, none⟩ rfl
  · refine late (crossedAnswers.take 5) (crossedAnswers.drop 5) 1 "b" rfl rfl ?_ ?_
    · exact fun same => nomatch same
    · intro earlier event later split sends
      have member : event ∈ crossedAnswers.drop 5 := by
        rw [split]
        exact List.mem_append_right _ List.mem_cons_self
      simp only [crossedAnswers, List.drop, List.mem_cons, List.not_mem_nil, or_false] at member
      rcases member with rfl | rfl | rfl | rfl <;> cases sends

end Session

end RpcTransport
