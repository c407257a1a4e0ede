import RpcTransport.Gathering.Schedule
import RpcTransport.Proofs.Gathering.Ledger

/-!
A timeline is one of the orders in which a ledger lets requests join and alarms ring. So what holds
of every ledger holds of it, and when no alarm is left, every request that has joined was sent.
-/

namespace RpcTransport.Gathering

/-- The window that was sent in a dispatch. -/
def Dispatch.window (dispatch : Dispatch) : Window :=
  ⟨dispatch.generation, dispatch.requests⟩

namespace Timeline

/-- A timeline agrees with a ledger: gathering stands at the same point, the same windows were sent,
and the ledger's alarms are those of the timeline and some that are about to ring. -/
structure Agrees (t : Timeline) (due : List Alarm) (ledger : Ledger) : Prop where
  gatherer : t.gatherer = ledger.gatherer
  sent : t.dispatches.map Dispatch.window = ledger.sent
  armed : ((due ++ t.alarms).map Alarm.generation).Perm ledger.armed

section SendSome

variable (time : Nat) (window : Option Window) (t : Timeline)

@[simp]
theorem sendSome_gatherer : (t.sendSome time window).gatherer = t.gatherer := by
  cases window <;> rfl

@[simp]
theorem sendSome_alarms : (t.sendSome time window).alarms = t.alarms := by
  cases window <;> rfl

@[simp]
theorem map_window_sendSome :
    (t.sendSome time window).dispatches.map Dispatch.window =
      t.dispatches.map Dispatch.window ++ window.toList := by
  cases window with
  | none => simp [sendSome]
  | some window => simp [sendSome, send, Dispatch.window]

end SendSome

variable {limits : Limits} {t : Timeline} {ledger : Ledger}

/-- A request that joins gets the same ticket, and agreement is kept. -/
theorem Agrees.join (agrees : t.Agrees [] ledger) (request : Request) :
    (t.join limits request).2.Agrees [] (ledger.join limits request) ∧
      (ledger.join limits request).joined =
        ledger.joined ++ [(request, (t.join limits request).1)] := by
  have same := agrees.gatherer
  refine ⟨⟨?_, ?_, ?_⟩, ?_⟩
  · simp [Timeline.join, Ledger.join, same]
  · simp [Timeline.join, Ledger.join, same, agrees.sent]
  · have armed := agrees.armed
    simp only [List.nil_append] at armed
    simp only [Timeline.join, Ledger.join, sendSome_alarms, List.nil_append, List.map_append,
      List.map_map, same]
    refine armed.append (List.Perm.of_eq ?_)
    exact (List.map_congr_left fun _ _ => rfl).trans (List.map_id _)
  · simp [Timeline.join, Ledger.join, same]

/-- An alarm that rings has the same effect, and agreement is kept. -/
theorem Agrees.ring {alarm : Alarm} {due : List Alarm} (agrees : t.Agrees (alarm :: due) ledger) :
    (t.ring alarm).Agrees due (ledger.wake alarm.generation) := by
  have same := agrees.gatherer
  have armed := agrees.armed
  simp only [List.cons_append, List.map_cons] at armed
  have isSet : alarm.generation ∈ ledger.armed := armed.subset List.mem_cons_self
  rw [Ledger.wake, if_pos isSet]
  refine ⟨?_, ?_, ?_⟩
  · simp [Timeline.ring, same]
  · simp [Timeline.ring, same, agrees.sent]
  · simp only [Timeline.ring, sendSome_alarms]
    have left := armed.erase alarm.generation
    rwa [List.erase_cons_head] at left

/-- Alarms that ring one after another keep agreement with a ledger in which the same requests have
joined. -/
theorem Agrees.foldl_ring {due : List Alarm} {events : List Ledger.Event}
    (agrees : t.Agrees due (Ledger.run limits events)) :
    ∃ later, (due.foldl Timeline.ring t).Agrees [] (Ledger.run limits later) ∧
      (Ledger.run limits later).joined = (Ledger.run limits events).joined := by
  induction due generalizing t events with
  | nil => exact ⟨events, agrees, rfl⟩
  | cons alarm due inductionHypothesis =>
      have woken : Ledger.run limits (events ++ [.wake alarm.generation]) =
          (Ledger.run limits events).wake alarm.generation := by
        rw [Ledger.run, List.foldl_append]
        rfl
      have joined : ((Ledger.run limits events).wake alarm.generation).joined =
          (Ledger.run limits events).joined := by
        unfold Ledger.wake
        split <;> rfl
      have next := agrees.ring
      rw [← woken] at next
      obtain ⟨later, atEnd, kept⟩ := inductionHypothesis next
      exact ⟨later, atEnd, by rw [kept, woken, joined]⟩

/-- Ringing sets no alarm. -/
theorem foldl_ring_alarms (due : List Alarm) (t : Timeline) :
    (due.foldl ring t).alarms = t.alarms := by
  induction due generalizing t with
  | nil => rfl
  | cons alarm due inductionHypothesis =>
      rw [List.foldl_cons, inductionHypothesis, ring, sendSome_alarms]

/-- In the end no alarm is left. -/
theorem finish_alarms (t : Timeline) : t.finish.alarms = [] := by
  rw [finish, ringAll, foldl_ring_alarms]
  simp

/-- A timeline to which some order of requests and alarms leads, in which these requests have joined
and got these tickets. -/
def Traced (limits : Limits) (joined : List (Request × Ticket)) (t : Timeline) : Prop :=
  ∃ events, t.Agrees [] (Ledger.run limits events) ∧ (Ledger.run limits events).joined = joined

namespace Traced

variable {joined : List (Request × Ticket)}

theorem empty : ({} : Timeline).Traced limits [] :=
  ⟨[], ⟨rfl, rfl, List.Perm.refl _⟩, rfl⟩

theorem join (traced : t.Traced limits joined) (request : Request) :
    (t.join limits request).2.Traced limits (joined ++ [(request, (t.join limits request).1)]) := by
  obtain ⟨events, agrees, rfl⟩ := traced
  obtain ⟨next, got⟩ : (t.join limits request).2.Agrees []
      ((Ledger.run limits events).join limits request) ∧ _ := agrees.join request
  have after : Ledger.run limits (events ++ [.join request]) =
      (Ledger.run limits events).join limits request := by
    rw [Ledger.run, List.foldl_append]
    rfl
  rw [← after] at next got
  exact ⟨_, next, got⟩

/-- Requests that join together each get a ticket. -/
theorem joinAll (traced : t.Traced limits joined) (requests : List Request) :
    (t.joinAll limits requests).2.Traced limits
        (joined ++ requests.zip (t.joinAll limits requests).1) ∧
      (t.joinAll limits requests).1.length = requests.length := by
  induction requests generalizing t joined with
  | nil => exact ⟨by simpa [Timeline.joinAll] using traced, rfl⟩
  | cons request requests inductionHypothesis =>
      obtain ⟨later, many⟩ := inductionHypothesis (traced.join request)
      refine ⟨?_, ?_⟩
      · simpa [Timeline.joinAll] using later
      · simpa [Timeline.joinAll] using many

/-- The alarms that ring together join no request. -/
theorem ringAll (traced : t.Traced limits joined) (due : Alarm → Bool) :
    (t.ringAll due).Traced limits joined := by
  obtain ⟨events, agrees, rfl⟩ := traced
  -- the ledger still has the alarms that are due, while the timeline has set them apart
  have split : ({ t with alarms := t.alarms.filter fun alarm => !due alarm } : Timeline).Agrees
      (t.alarms.filter due) (Ledger.run limits events) := by
    refine ⟨agrees.gatherer, agrees.sent, ?_⟩
    exact ((List.filter_append_perm due t.alarms).map Alarm.generation).trans agrees.armed
  exact split.foldl_ring

theorem elapse (traced : t.Traced limits joined) (time : Nat) :
    (t.elapse time).Traced limits joined := by
  obtain ⟨events, agrees, same⟩ := traced.ringAll fun alarm => alarm.deadline < time
  exact ⟨events, ⟨agrees.gatherer, agrees.sent, agrees.armed⟩, same⟩

/-- When no alarm is left, no window is open: what was sent is all there is. -/
theorem windows_eq {events : List Ledger.Event} (agrees : t.Agrees [] (Ledger.run limits events))
    (noAlarms : t.alarms = []) :
    (Ledger.run limits events).windows = t.dispatches.map Dispatch.window := by
  have sound := Ledger.run_sound limits events
  have noAlarm : (Ledger.run limits events).armed = [] := by
    have armed := agrees.armed
    rw [noAlarms] at armed
    exact armed.symm.eq_nil
  have noWindow : (Ledger.run limits events).gatherer.window = none := by
    cases isOpen : (Ledger.run limits events).gatherer.window with
    | none => rfl
    | some window =>
        have armed := sound.alarm window isOpen
        rw [noAlarm] at armed
        cases armed
  rw [Ledger.windows, noWindow, Option.toList_none, List.append_nil, agrees.sent]

/-- When no alarm is left, the dispatches hold the requests that have joined, in order. -/
theorem flatMap_requests (traced : t.Traced limits joined) (noAlarms : t.alarms = []) :
    t.dispatches.flatMap Dispatch.requests = joined.map Prod.fst := by
  obtain ⟨events, agrees, rfl⟩ := traced
  rw [← (Ledger.run_sound limits events).flatMap_requests, windows_eq agrees noAlarms,
    List.flatMap_map]
  rfl

/-- When no alarm is left, a request that has joined is in exactly one dispatch of its ticket's
generation, at its ticket's position. -/
theorem dispatch_of_joined (traced : t.Traced limits joined) (noAlarms : t.alarms = [])
    {request : Request} {ticket : Ticket} (member : (request, ticket) ∈ joined) :
    ∃ n dispatch, t.dispatches[n]? = some dispatch ∧
      dispatch.requests[ticket.position]? = some request ∧
      t.dispatches.zipIdx.find? (fun entry => entry.1.generation == ticket.generation) =
        some (dispatch, n) := by
  obtain ⟨events, agrees, rfl⟩ := traced
  have sound := Ledger.run_sound limits events
  obtain ⟨window, isWindow, generation, held⟩ := sound.window_of_joined member
  rw [windows_eq agrees noAlarms] at isWindow
  obtain ⟨dispatch, isDispatch, rfl⟩ := List.mem_map.mp isWindow
  obtain ⟨n, atPlace⟩ := List.getElem?_of_mem isDispatch
  have windowAt : ∀ {m : Nat} {d : Dispatch}, t.dispatches[m]? = some d →
      (Ledger.run limits events).windows[m]? = some d.window := by
    intro m d there
    rw [windows_eq agrees noAlarms, List.getElem?_map, there, Option.map_some]
  refine ⟨n, dispatch, atPlace, held, ?_⟩
  cases found : t.dispatches.zipIdx.find? fun entry =>
      entry.1.generation == ticket.generation with
  | none =>
      have absent := List.find?_eq_none.mp found (dispatch, n)
        (List.mem_zipIdx_iff_getElem?.mpr atPlace)
      exact absurd (beq_iff_eq.mpr generation) absent
  | some entry =>
      obtain ⟨other, m⟩ := entry
      have atOther : t.dispatches[m]? = some other :=
        List.mem_zipIdx_iff_getElem?.mp (List.mem_of_find?_eq_some found)
      have named := List.find?_some found
      simp only [beq_iff_eq] at named
      obtain rfl := sound.index_unique (windowAt atOther) (windowAt atPlace)
        (named.trans generation.symm)
      rw [Option.some.inj (atOther.symm.trans atPlace)]

end Traced

end Timeline

end RpcTransport.Gathering
