import RpcTransport.Proofs.Gathering.Punctuality

/-!
Waiting. What is sent from some moment on is sent at that moment or later, and a window is never
sent before a request has joined it; so nobody has a result before having come.
-/

namespace RpcTransport.Gathering

/-- The window of a ticket, if it was sent, was sent at this time or later. -/
def Ticket.NotBefore (time : Nat) (dispatches : List Dispatch) (ticket : Ticket) : Prop :=
  ∀ dispatch ∈ dispatches, dispatch.generation = ticket.generation → time ≤ dispatch.time

namespace Timeline

variable {limits : Limits} {t u v : Timeline} {joined : List (Request × Ticket)}

/-- A timeline later on: nothing is taken back, and what was sent meanwhile was sent at its time. -/
structure Precedes (t u : Timeline) : Prop where
  now : t.now ≤ u.now
  sends : ∃ more, u.dispatches = t.dispatches ++ more ∧ ∀ dispatch ∈ more, t.now ≤ dispatch.time

theorem Precedes.trans (first : t.Precedes u) (second : u.Precedes v) : t.Precedes v := by
  obtain ⟨early, sentEarly, after⟩ := first.sends
  obtain ⟨late, sentLate, afterwards⟩ := second.sends
  refine ⟨Nat.le_trans first.now second.now, early ++ late, ?_, ?_⟩
  · rw [sentLate, sentEarly, List.append_assoc]
  · intro dispatch member
    rcases List.mem_append.mp member with member | member
    · exact after dispatch member
    · exact Nat.le_trans first.now (afterwards dispatch member)

/-- What was not sent before some time is not sent before it later on. -/
theorem Precedes.notBefore (precedes : t.Precedes u) {time : Nat} {ticket : Ticket}
    (reached : time ≤ t.now) (before : ticket.NotBefore time t.dispatches) :
    ticket.NotBefore time u.dispatches := by
  obtain ⟨more, sent, after⟩ := precedes.sends
  intro dispatch member own
  rw [sent] at member
  rcases List.mem_append.mp member with member | member
  · exact before dispatch member own
  · exact Nat.le_trans reached (after dispatch member)

theorem dispatches_sendSome (time : Nat) (window : Option Window) (t : Timeline) :
    (t.sendSome time window).dispatches =
      t.dispatches ++ window.toList.map fun window =>
        ⟨time, window.generation, window.requests⟩ := by
  cases window with
  | none => exact (List.append_nil _).symm
  | some window => rfl

/-- Alarms send at their deadlines. -/
theorem exists_dispatches_foldl_ring {due : List Alarm} {time : Nat}
    (after : ∀ alarm ∈ due, time ≤ alarm.deadline) (t : Timeline) :
    ∃ more, (due.foldl ring t).dispatches = t.dispatches ++ more ∧
      ∀ dispatch ∈ more, time ≤ dispatch.time := by
  induction due generalizing t with
  | nil => exact ⟨[], (List.append_nil _).symm, by simp⟩
  | cons alarm due inductionHypothesis =>
      obtain ⟨more, sent, late⟩ := inductionHypothesis
        (fun alarm member => after alarm (List.mem_cons_of_mem _ member)) (t.ring alarm)
      refine ⟨_, by rw [List.foldl_cons, sent, ring, dispatches_sendSome, List.append_assoc], ?_⟩
      intro dispatch member
      rcases List.mem_append.mp member with member | member
      · obtain ⟨_, _, rfl⟩ := List.mem_map.mp member
        exact after alarm List.mem_cons_self
      · exact late dispatch member

/-- Time that passes sends what is due from now on. -/
theorem Upcoming.precedes_elapse (upcoming : t.Upcoming) (time : Nat) :
    t.Precedes (t.elapse time) := by
  rw [elapse_eq]
  exact ⟨Nat.le_max_left _ _, exists_dispatches_foldl_ring
    (fun alarm member => upcoming alarm (List.mem_of_mem_filter member)) t⟩

theorem Upcoming.precedes_finish (upcoming : t.Upcoming) : t.Precedes t.finish := by
  rw [finish, ringAll_eq]
  exact ⟨Nat.le_refl _, exists_dispatches_foldl_ring
    (fun alarm member => upcoming alarm (List.mem_of_mem_filter member)) t⟩

/-- A request that fills a window sends it now. -/
theorem precedes_join (limits : Limits) (request : Request) (t : Timeline) :
    t.Precedes (t.join limits request).2 := by
  refine ⟨Nat.le_of_eq (join_now limits request t).symm, _, dispatches_sendSome _ _ _, ?_⟩
  intro dispatch member
  obtain ⟨_, _, rfl⟩ := List.mem_map.mp member
  exact Nat.le_refl _

theorem precedes_joinAll (limits : Limits) (requests : List Request) (t : Timeline) :
    t.Precedes (t.joinAll limits requests).2 := by
  induction requests generalizing t with
  | nil => exact ⟨Nat.le_refl _, [], (List.append_nil _).symm, by simp⟩
  | cons request requests inductionHypothesis =>
      exact (precedes_join limits request t).trans (inductionHypothesis _)

/-- Alarms that are still to ring are so whatever time passes. -/
theorem Upcoming.elapse (upcoming : t.Upcoming) (time : Nat) : (t.elapse time).Upcoming := by
  intro alarm member
  rw [elapse_alarms] at member
  obtain ⟨isSet, notDue⟩ := List.mem_filter.mp member
  rw [Timeline.elapse_now]
  exact Nat.max_le.mpr ⟨upcoming alarm isSet, by simpa using notDue⟩

theorem Upcoming.after_joinAll (upcoming : t.Upcoming) (requests : List Request) :
    (t.joinAll limits requests).2.Upcoming := by
  induction requests generalizing t with
  | nil => exact upcoming
  | cons request requests inductionHypothesis => exact inductionHypothesis (upcoming.join request)

/-- No window was sent that a request still can join. -/
theorem Traced.generation_lt_current (traced : t.Traced limits joined) :
    ∀ dispatch ∈ t.dispatches, dispatch.generation < t.gatherer.current.generation := by
  obtain ⟨events, agrees, _⟩ := traced
  have numbered := (Ledger.run_sound limits events).generations_current
  rw [← agrees.sent, ← agrees.gatherer, List.map_map] at numbered
  have increase := List.pairwise_lt_range
    (n := t.gatherer.nextGeneration + if t.gatherer.window.isNone then 1 else 0)
  rw [← numbered, List.pairwise_append] at increase
  intro dispatch member
  exact increase.2.2 _ (List.mem_map_of_mem member) _ (List.mem_singleton_self _)

/-- The windows of requests that join now are not sent before now. -/
theorem Traced.notBefore_joinAll (traced : t.Traced limits joined) (requests : List Request) :
    ∀ ticket ∈ (t.joinAll limits requests).1,
      ticket.NotBefore t.now (t.joinAll limits requests).2.dispatches := by
  induction requests generalizing t joined with
  | nil => exact fun _ member => nomatch member
  | cons request requests inductionHypothesis =>
      intro ticket member
      rcases List.mem_cons.mp member with rfl | member
      · have own : (t.join limits request).1.generation = t.gatherer.current.generation :=
          congrArg Ticket.generation (Gatherer.join_ticket limits request t.gatherer)
        refine (precedes_joinAll limits (request :: requests) t).notBefore (Nat.le_refl _) ?_
        intro dispatch wasSent same
        have before := traced.generation_lt_current dispatch wasSent
        exact absurd (same.trans own) (Nat.ne_of_lt before)
      · have later := inductionHypothesis (traced.join request) ticket member
        rw [join_now] at later
        exact later

end Timeline

namespace Execution

variable {limits : Limits} {e : Execution} {joined : List (Request × Ticket)}

/-- All callers have come, and none waits in a window that was sent before. -/
structure Waits (e : Execution) : Prop where
  upcoming : e.timeline.Upcoming
  come : ∀ caller ∈ e.callers, caller.since ≤ e.timeline.now
  notBefore : ∀ caller ∈ e.callers, ∀ ticket ∈ caller.demand.tickets,
    ticket.NotBefore caller.since e.timeline.dispatches

theorem empty_waits : Waits {} where
  upcoming := by simp [Timeline.Upcoming]
  come := by simp
  notBefore := by simp

/-- Callers that were there go on waiting, and new ones wait in windows that were not sent. -/
theorem Waits.later (waits : e.Waits) {timeline : Timeline} (upcoming : timeline.Upcoming)
    (precedes : e.timeline.Precedes timeline) {callers : List Caller}
    (come : ∀ caller ∈ callers, caller.since ≤ timeline.now)
    (notBefore : ∀ caller ∈ callers, ∀ ticket ∈ caller.demand.tickets,
      ticket.NotBefore caller.since timeline.dispatches) :
    Waits ⟨timeline, e.callers ++ callers⟩ where
  upcoming := upcoming
  come := by
    intro caller member
    rcases List.mem_append.mp member with member | member
    · exact Nat.le_trans (waits.come caller member) precedes.now
    · exact come caller member
  notBefore := by
    intro caller member ticket isOwn
    rcases List.mem_append.mp member with member | member
    · exact precedes.notBefore (waits.come caller member)
        (waits.notBefore caller member ticket isOwn)
    · exact notBefore caller member ticket isOwn

theorem Waits.elapse (waits : e.Waits) (time : Nat) :
    Waits { e with timeline := e.timeline.elapse time } := by
  have noneCame : ∀ caller ∈ ([] : List Caller),
      caller.since ≤ (e.timeline.elapse time).now := by simp
  simpa using waits.later (waits.upcoming.elapse time) (waits.upcoming.precedes_elapse time)
    noneCame (by simp)

theorem Waits.act (waits : e.Waits) (traced : e.timeline.Traced limits joined) (action : Action) :
    (e.act limits action).Waits := by
  cases action with
  | load requests =>
      have precedes := Timeline.precedes_joinAll limits requests e.timeline
      refine waits.later (waits.upcoming.after_joinAll requests) precedes ?_ ?_
      · intro caller member
        obtain ⟨ticket, _, rfl⟩ := List.mem_map.mp member
        exact precedes.now
      · intro caller member ticket isOwn
        obtain ⟨own, isTicket, rfl⟩ := List.mem_map.mp member
        obtain rfl := List.mem_singleton.mp isOwn
        exact traced.notBefore_joinAll requests ticket isTicket
  | loadMany requests =>
      have precedes := Timeline.precedes_joinAll limits requests e.timeline
      refine waits.later (waits.upcoming.after_joinAll requests) precedes ?_ ?_
      · intro caller member
        obtain rfl := List.mem_singleton.mp member
        exact precedes.now
      · intro caller member ticket isOwn
        obtain rfl := List.mem_singleton.mp member
        exact traced.notBefore_joinAll requests ticket isOwn
  | abandon number =>
      -- who gives up came when it came, and waits with the tickets it had
      have kept : ∀ caller ∈ e.callers.modify number (leave e.timeline.now),
          ∃ before ∈ e.callers, caller.since = before.since ∧ caller.demand = before.demand := by
        intro caller member
        obtain ⟨n, atPlace⟩ := List.mem_iff_getElem?.mp member
        rw [List.getElem?_modify] at atPlace
        obtain ⟨before, isBefore, rfl⟩ := Option.map_eq_some_iff.mp atPlace
        refine ⟨before, List.mem_of_getElem? isBefore, ?_⟩
        split <;> exact ⟨rfl, rfl⟩
      refine ⟨waits.upcoming, ?_, ?_⟩
      · intro caller member
        obtain ⟨before, isBefore, since, _⟩ := kept caller member
        exact since ▸ waits.come before isBefore
      · intro caller member ticket isOwn
        obtain ⟨before, isBefore, since, demand⟩ := kept caller member
        rw [demand] at isOwn
        exact since ▸ waits.notBefore before isBefore ticket isOwn

theorem waits_foldl_step (limits : Limits) (schedule : List Step) :
    (schedule.foldl (step limits) {}).Waits := by
  induction schedule using List.reverseRecOn with
  | nil => exact empty_waits
  | append_singleton earlier last inductionHypothesis =>
      obtain ⟨joined, accounts⟩ := foldl_step_accounts limits earlier
      rw [List.foldl_append]
      exact (inductionHypothesis.elapse last.time).act (accounts.traced.elapse last.time)
        last.action

/-- In a run every ticket of every caller gets a result, and not before the caller has come. -/
theorem exists_result?_since (limits : Limits) (schedule : List Step) (node : Node)
    {caller : Caller} (isCaller : caller ∈ (run limits schedule).callers) :
    ∀ ticket ∈ caller.demand.tickets, ∃ timed,
      ticket.result? node (run limits schedule).timeline.dispatches = some timed ∧
        caller.since ≤ timed.time := by
  intro ticket isOwn
  obtain ⟨joined, accounts, noAlarms⟩ := run_accounts limits schedule
  obtain ⟨n, bound, rfl⟩ := List.mem_iff_getElem.mp isCaller
  have isFor : Demand.IsFor joined (run limits schedule).callers[n].demand _ :=
    accounts.callers.get (accounts.callers.length_eq ▸ bound) bound
  obtain ⟨request, isJoined⟩ := isFor.mem_joined ticket isOwn
  obtain ⟨m, dispatch, atPlace, own, _, result⟩ :=
    result?_of_joined node accounts.traced noAlarms isJoined
  have waits := waits_foldl_step limits schedule
  have notBefore := waits.upcoming.precedes_finish.notBefore (waits.come _ isCaller)
    (waits.notBefore _ isCaller ticket isOwn)
  refine ⟨_, result, Nat.le_trans ?_ (Nat.le_add_right _ _)⟩
  exact notBefore dispatch (List.mem_of_getElem? atPlace) own

end Execution

end RpcTransport.Gathering
