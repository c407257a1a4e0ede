import RpcTransport.Proofs.Gathering.Assignment
import RpcTransport.Proofs.Gathering.Clock
import RpcTransport.Proofs.Gathering.Transparency
import RpcTransport.Proofs.Message.Results

/-!
Windows and callers are isolated. What is sent, and when, depends on the requests that join and on
nothing else: not on callers that give up, and not on replies. What a caller gets depends on the
fetches of its own windows only, so a fetch that dies is felt by the callers of its own window.
-/

namespace RpcTransport.Gathering

/-- Whether requests come in an action. -/
def Action.brings : Action → Bool
  | .abandon _ => false
  | _ => true

/-- The steps of a schedule in which requests come. -/
def comings (schedule : List Step) : List Step :=
  schedule.filter fun step => step.action.brings

/-- The steps of a schedule come in the order of their times. -/
def InOrder (schedule : List Step) : Prop :=
  schedule.Pairwise fun first second => first.time ≤ second.time

instance (schedule : List Step) : Decidable (InOrder schedule) :=
  inferInstanceAs (Decidable (List.Pairwise _ _))

/-- A caller as it would be had it not given up. -/
def Caller.patient (caller : Caller) : Caller :=
  { caller with abandoned := none }

theorem Caller.patient_of_staying {caller : Caller} (staying : caller.abandoned = none) :
    caller.patient = caller := by
  cases caller
  cases staying
  rfl

/-- The tickets with which a caller waits. -/
def Demand.tickets : Demand → List Ticket
  | .one ticket => [ticket]
  | .many tickets => tickets

namespace Execution

/-! ### Callers that give up -/

/-- An execution comes to the same as another one, but for the callers that have given up. -/
structure Meets (limits : Limits) (e f : Execution) : Prop where
  timeline : e.timeline.Meets limits f.timeline
  callers : e.callers.map Caller.patient = f.callers.map Caller.patient

section Meets

variable {limits : Limits} {e f : Execution}

/-- A caller that gives up leaves the callers as they would be without that. -/
theorem map_patient_modify_leave (callers : List Caller) (time number : Nat) :
    (callers.modify number (leave time)).map Caller.patient = callers.map Caller.patient := by
  induction callers generalizing number with
  | nil => simp
  | cons caller callers inductionHypothesis =>
      cases number with
      | zero => rfl
      | succ number => simp [List.modify_succ_cons, inductionHypothesis]

/-- A step in which a caller gives up changes nothing for the others. -/
theorem Meets.leaving (meets : e.Meets limits f) {step : Step}
    (leaves : step.action.brings = false) :
    (e.step limits step).Meets limits f := by
  obtain ⟨time, action⟩ := step
  cases action with
  | load requests | loadMany requests => cases leaves
  | abandon number =>
      exact ⟨meets.timeline.pass time,
        (map_patient_modify_leave e.callers _ number).trans meets.callers⟩

/-- A step in which requests come finds the same window open, and the same alarms set. -/
theorem Meets.coming (meets : e.Meets limits f) {step : Step} (brings : step.action.brings = true)
    (reached : e.timeline.now ≤ step.time) :
    (e.step limits step).Meets limits (f.step limits step) := by
  obtain ⟨time, action⟩ := step
  have same := meets.timeline.elapse time reached
  have orderly := meets.timeline.orderly.elapse time
  have callers := meets.callers
  rw [same] at orderly
  cases action with
  | abandon number => cases brings
  | load requests =>
      simp only [Execution.step, Execution.act, same]
      exact ⟨(orderly.joinAll requests).meets, by simp [callers]⟩
  | loadMany requests =>
      simp only [Execution.step, Execution.act, same]
      exact ⟨(orderly.joinAll requests).meets, by simp [callers]⟩

/-- No step takes the time beyond its own. -/
theorem now_step (limits : Limits) (e : Execution) (step : Step) :
    (e.step limits step).timeline.now = max e.timeline.now step.time := by
  obtain ⟨time, action⟩ := step
  have joinAll_now : ∀ (requests : List Request) (t : Timeline),
      (t.joinAll limits requests).2.now = t.now := by
    intro requests
    induction requests with
    | nil => exact fun _ => rfl
    | cons request requests inductionHypothesis =>
        intro t
        exact (inductionHypothesis _).trans (Timeline.join_now limits request t)
  cases action with
  | load requests | loadMany requests => simp [Execution.step, Execution.act, joinAll_now]
  | abandon number => simp [Execution.step, Execution.act]

/-- A schedule comes to the same as its steps in which requests come. -/
theorem Meets.foldl_step (meets : e.Meets limits f) {schedule : List Step}
    (inOrder : InOrder schedule) (reached : ∀ step ∈ schedule, e.timeline.now ≤ step.time) :
    (schedule.foldl (step limits) e).Meets limits ((comings schedule).foldl (step limits) f) := by
  induction schedule generalizing e f with
  | nil => exact meets
  | cons first rest inductionHypothesis =>
      obtain ⟨after, inOrder⟩ := List.pairwise_cons.mp inOrder
      have reachedRest : ∀ step ∈ rest, (e.step limits first).timeline.now ≤ step.time := by
        intro step member
        rw [now_step]
        exact Nat.max_le.mpr ⟨reached step (List.mem_cons_of_mem _ member), after step member⟩
      cases brings : first.action.brings with
      | true =>
          have kept : comings (first :: rest) = first :: comings rest :=
            List.filter_cons_of_pos brings
          rw [kept, List.foldl_cons, List.foldl_cons]
          have next := meets.coming brings (reached first List.mem_cons_self)
          exact inductionHypothesis next inOrder reachedRest
      | false =>
          have dropped : comings (first :: rest) = comings rest :=
            List.filter_cons_of_neg (by simp [brings])
          rw [dropped, List.foldl_cons]
          have next := meets.leaving brings
          exact inductionHypothesis next inOrder reachedRest

end Meets

/-- A run sends the same at the same times as one in which nobody gives up, and its callers are the
same but for those that do. -/
theorem run_comings (limits : Limits) {schedule : List Step} (inOrder : InOrder schedule) :
    (run limits schedule).timeline.dispatches =
        (run limits (comings schedule)).timeline.dispatches ∧
      (run limits schedule).callers.map Caller.patient =
        (run limits (comings schedule)).callers.map Caller.patient := by
  have start : Meets limits {} {} := ⟨Timeline.Orderly.empty.meets, rfl⟩
  have meets := start.foldl_step inOrder fun _ _ => Nat.zero_le _
  exact ⟨meets.timeline.finish, meets.callers⟩

end Execution

/-! ### Fetches of other windows -/

/-- A ticket's window was sent in the n-th dispatch. -/
def Ticket.SentIn (dispatches : List Dispatch) (n : Nat) (dispatch : Dispatch) (ticket : Ticket) :
    Prop :=
  dispatches[n]? = some dispatch ∧ dispatch.generation = ticket.generation

/-- Two nodes end the fetch of a ticket's window alike. -/
def Ticket.FetchedAlike (node other : Node) (dispatches : List Dispatch) (ticket : Ticket) : Prop :=
  ∀ n dispatch, ticket.SentIn dispatches n dispatch → node n dispatch = other n dispatch

section Fetches

variable {node other : Node} {dispatches : List Dispatch}

/-- What a ticket gets depends on the fetch of its own window. -/
theorem Ticket.FetchedAlike.result? {ticket : Ticket}
    (alike : ticket.FetchedAlike node other dispatches) :
    ticket.result? node dispatches = ticket.result? other dispatches := by
  unfold Ticket.result?
  cases found : dispatches.zipIdx.find? fun entry => entry.1.generation == ticket.generation with
  | none => rfl
  | some entry =>
      obtain ⟨dispatch, n⟩ := entry
      have atPlace := List.mem_zipIdx_iff_getElem?.mp (List.mem_of_find?_eq_some found)
      have own := List.find?_some found
      simp only [beq_iff_eq] at own
      simp only [Option.bind_eq_bind, Option.bind_some, alike n dispatch ⟨atPlace, own⟩]

theorem mapM_result_congr {tickets : List Ticket}
    (alike : ∀ ticket ∈ tickets, ticket.FetchedAlike node other dispatches) :
    tickets.mapM (Ticket.result? node dispatches) =
      tickets.mapM (Ticket.result? other dispatches) := by
  induction tickets with
  | nil => rfl
  | cons ticket tickets inductionHypothesis =>
      have first := (alike ticket List.mem_cons_self).result?
      have others := inductionHypothesis fun ticket member =>
        alike ticket (List.mem_cons_of_mem _ member)
      rw [List.mapM_cons, List.mapM_cons, first, others]

/-- What a caller ends with depends on the fetches of its own windows. -/
theorem Caller.result_congr {caller : Caller}
    (alike : ∀ ticket ∈ caller.demand.tickets, ticket.FetchedAlike node other dispatches) :
    caller.result node dispatches = caller.result other dispatches := by
  have awaited : caller.awaited node dispatches = caller.awaited other dispatches := by
    unfold Caller.awaited
    cases demand : caller.demand with
    | one ticket =>
        rw [demand] at alike
        simp only [(alike ticket List.mem_cons_self).result?]
    | many tickets =>
        rw [demand] at alike
        have same : tickets.mapM (Ticket.result? node dispatches) =
            tickets.mapM (Ticket.result? other dispatches) := mapM_result_congr alike
        simp only [same]
  rw [Caller.result, Caller.result, awaited]

end Fetches

/-! ### Fetches that die -/

section Deaths

variable {elements : List Envelope} {given : List Nat} {requests : List Request} {position : Nat}

/-- A request that gets no element gets a fault of the protocol. -/
theorem exists_fault_of_handOut {choices : List (Request × Option Nat)} {error : TransportError}
    (member : .error error ∈ handOut elements given choices) :
    ∃ fault, error = .protocol fault := by
  obtain ⟨position, got⟩ := List.mem_iff_getElem?.mp member
  rcases text_or_noResponse got with ⟨_, _, isText⟩ | ⟨_, _, isFault⟩
  · cases isText
  · cases isFault
    exact ⟨_, rfl⟩

/-- No message says that the exchange has failed. -/
theorem intoResult_ne_http (e : Envelope) (fault : HttpFault) :
    e.intoResult ≠ .error (.http fault) := by
  intro failed
  rcases Envelope.failure_of_intoResult failed with isNil | isEmpty | ⟨_, _, isVm | isRpc⟩
  · cases isNil
  · cases isEmpty
  · cases isVm
  · cases isRpc

theorem rejection_ne_http (e : Envelope) (fault : HttpFault) : rejection e ≠ .http fault := by
  intro failed
  unfold rejection at failed
  split at failed
  · next error isError =>
      rw [failed] at isError
      exact intoResult_ne_http e fault isError
  · cases failed

/-- Whatever a reply says, no request learns from it that the exchange has failed. -/
theorem settle_ofReply_ne_http (body : Bytes) (fault : HttpFault) :
    settle (ofReply requests (.ok body)) position ≠ .error (.http fault) := by
  intro failed
  rcases bind_eq_error.mp failed with failed | ⟨results, done, failed⟩
  · rcases bind_eq_error.mp failed with noReply | ⟨_, same, failed⟩
    · cases noReply
    cases same
    rcases bind_eq_error.mp failed with unread | ⟨elements, _, rejected⟩
    · obtain ⟨fault, isProtocol⟩ := Envelope.exists_fault_of_decodeBatch unread
      cases isProtocol
    · unfold ofElements at rejected
      split at rejected
      · split at rejected
        · exact rejection_ne_http _ fault (Except.error.inj rejected)
        · cases rejected
      · cases rejected
  · obtain ⟨_, _, decoded⟩ := bind_eq_ok.mp done
    obtain ⟨elements, _, assigned⟩ := bind_eq_ok.mp decoded
    obtain rfl := ofElements_eq_ok assigned
    cases result : (correlate requests elements)[position]? with
    | none =>
        rw [result] at failed
        cases failed
    | some outcome =>
        rw [result, Option.getD_some] at failed
        rw [failed] at result
        obtain ⟨_, isProtocol⟩ := exists_fault_of_handOut (List.mem_of_getElem? result)
        cases isProtocol

/-- A request learns that its window was abandoned if the fetch of the window has died, and else
only if the fetch has failed with just these words. -/
theorem settle_outcome_eq_abandoned {fetched : Fetched} :
    settle (fetched.outcome requests) position = .error (.http .abandoned) ↔
      fetched = .died ∨ fetched = .replied (.error (.http .abandoned)) := by
  cases fetched with
  | died => simp [Fetched.outcome, settle, bind, Except.bind]
  | replied reply =>
      cases reply with
      | error error => simp [Fetched.outcome, settle, ofReply, bind, Except.bind]
      | ok body => simpa [Fetched.outcome] using settle_ofReply_ne_http body .abandoned

end Deaths

/-! ### What callers feel -/

section Callers

variable {limits : Limits} {node : Node} {schedule : List Step} {dispatches : List Dispatch}
  {joined : List (Request × Ticket)}

/-- The tickets of a caller are those that its requests got. -/
theorem Demand.IsFor.mem_joined {demand : Demand} {arrival : Arrival}
    (isFor : demand.IsFor joined arrival) :
    ∀ ticket ∈ demand.tickets, ∃ request, (request, ticket) ∈ joined := by
  cases demand with
  | one ticket =>
      cases arrival with
      | one request => simpa [Demand.tickets] using ⟨request, isFor⟩
      | many requests => exact isFor.elim
  | many tickets =>
      cases arrival with
      | one request => exact isFor.elim
      | many requests =>
          have each : List.Forall₂ (fun request ticket => (request, ticket) ∈ joined) requests
              tickets := isFor
          induction each with
          | nil => exact fun _ member => nomatch member
          | @cons request ticket _ _ first others inductionHypothesis =>
              intro own member
              rcases List.mem_cons.mp member with rfl | member
              · exact ⟨request, first⟩
              · exact inductionHypothesis others own member

theorem exists_mapM_eq_some {tickets : List Ticket}
    (results : ∀ ticket ∈ tickets, ∃ timed, Ticket.result? node dispatches ticket = some timed) :
    ∃ timed, tickets.mapM (Ticket.result? node dispatches) = some timed ∧
      List.Forall₂ (fun ticket result => Ticket.result? node dispatches ticket = some result)
        tickets timed := by
  induction tickets with
  | nil => exact ⟨[], rfl, .nil⟩
  | cons ticket tickets inductionHypothesis =>
      obtain ⟨first, isFirst⟩ := results ticket List.mem_cons_self
      obtain ⟨others, areOthers, each⟩ := inductionHypothesis fun ticket member =>
        results ticket (List.mem_cons_of_mem _ member)
      refine ⟨first :: others, ?_, .cons isFirst each⟩
      rw [List.mapM_cons, isFirst, areOthers]
      rfl

/-- Once all its windows have been fetched, a caller has the results of its tickets, in order. -/
theorem Caller.exists_awaited {caller : Caller}
    (results : ∀ ticket ∈ caller.demand.tickets, ∃ timed,
      Ticket.result? node dispatches ticket = some timed) :
    ∃ result, caller.awaited node dispatches = some result ∧
      List.Forall₂ (fun ticket value => ∃ time,
        Ticket.result? node dispatches ticket = some ⟨time, value⟩)
        caller.demand.tickets (Loading.value result) := by
  unfold Caller.awaited
  cases demand : caller.demand with
  | one ticket =>
      rw [demand] at results
      obtain ⟨timed, isTimed⟩ := results ticket List.mem_cons_self
      refine ⟨.one timed, ?_, .cons ⟨timed.time, isTimed⟩ .nil⟩
      simp only [isTimed, Option.map_some]
  | many tickets =>
      rw [demand] at results
      have timely : ∀ ticket ∈ tickets, ∃ timed,
          Ticket.result? node dispatches ticket = some timed := results
      obtain ⟨timed, all, each⟩ := exists_mapM_eq_some timely
      let last := timed.foldl (fun time result => max time result.time) caller.since
      refine ⟨.many ⟨last, timed.map (·.value)⟩, ?_, ?_⟩
      · simp only [all, Option.bind_eq_bind, Option.bind_some]
        rfl
      · apply List.forall₂_map_right_iff.mpr
        exact each.imp fun ticket result isResult => ⟨result.time, isResult⟩

/-- In a run every caller that does not give up gets a result for each of its tickets: what the
fetch of the ticket's own window comes to at the ticket's position, where a request was sent. -/
theorem Execution.exists_result_held (limits : Limits) (schedule : List Step) (node : Node) {n : Nat}
    {caller : Caller} (isCaller : (run limits schedule).callers[n]? = some caller)
    (stays : n ∉ leavers schedule) :
    ∃ result, ((run limits schedule).results node)[n]? = some result ∧
      List.Forall₂ (fun ticket value => ∃ m dispatch,
          ticket.SentIn (run limits schedule).timeline.dispatches m dispatch ∧
            ticket.position < dispatch.requests.length ∧
            value = settle ((node m dispatch).2.outcome dispatch.requests) ticket.position)
        caller.demand.tickets (Loading.value result) := by
  obtain ⟨joined, accounts, noAlarms⟩ := run_accounts limits schedule
  have staying := accounts.staying n caller isCaller stays
  obtain ⟨bound, rfl⟩ := List.getElem?_eq_some_iff.mp isCaller
  have isFor : Demand.IsFor joined (run limits schedule).callers[n].demand _ :=
    accounts.callers.get (accounts.callers.length_eq ▸ bound) bound
  have fetched : ∀ ticket ∈ (run limits schedule).callers[n].demand.tickets,
      ∃ m dispatch, ticket.SentIn (run limits schedule).timeline.dispatches m dispatch ∧
        ticket.position < dispatch.requests.length ∧
        ticket.result? node (run limits schedule).timeline.dispatches =
          some ⟨endOfWait dispatch.time (node m dispatch).1,
            settle ((node m dispatch).2.outcome dispatch.requests) ticket.position⟩ := by
    intro ticket member
    obtain ⟨request, isJoined⟩ := isFor.mem_joined ticket member
    obtain ⟨m, dispatch, atPlace, own, held, result⟩ :=
      result?_of_joined node accounts.traced noAlarms isJoined
    exact ⟨m, dispatch, ⟨atPlace, own⟩, (List.getElem?_eq_some_iff.mp held).1, result⟩
  obtain ⟨result, awaited, each⟩ := Caller.exists_awaited fun ticket member =>
    have ⟨_, _, _, _, result⟩ := fetched ticket member
    ⟨_, result⟩
  refine ⟨result, ?_, ?_⟩
  · rw [Execution.results, List.getElem?_map, isCaller, Option.map_some]
    exact congrArg some (result_of_awaited awaited staying)
  · refine List.forall₂_iff_get.mpr ⟨each.length_eq, ?_⟩
    intro i isTicket isValue
    obtain ⟨m, dispatch, sentIn, held, settled⟩ := fetched _ (List.get_mem _ ⟨i, isTicket⟩)
    obtain ⟨time, isResult⟩ := each.get isTicket isValue
    exact ⟨m, dispatch, sentIn, held,
      congrArg Timed.value (Option.some.inj (isResult.symm.trans settled))⟩

/-- In a run every caller that does not give up gets a result for each of its tickets: what the
fetch of the ticket's own window comes to. -/
theorem Execution.exists_result (limits : Limits) (schedule : List Step) (node : Node) {n : Nat}
    {caller : Caller} (isCaller : (run limits schedule).callers[n]? = some caller)
    (stays : n ∉ leavers schedule) :
    ∃ result, ((run limits schedule).results node)[n]? = some result ∧
      List.Forall₂ (fun ticket value => ∃ m dispatch,
          ticket.SentIn (run limits schedule).timeline.dispatches m dispatch ∧
            value = settle ((node m dispatch).2.outcome dispatch.requests) ticket.position)
        caller.demand.tickets (Loading.value result) := by
  obtain ⟨result, isResult, each⟩ := exists_result_held limits schedule node isCaller stays
  refine ⟨result, isResult, each.imp ?_⟩
  rintro ticket value ⟨m, dispatch, sentIn, _, settled⟩
  exact ⟨m, dispatch, sentIn, settled⟩

/-- Where two runs differ at most in who has given up, a caller that stays in both is one in both. -/
theorem Execution.caller_of_alike {other : List Step} {n : Nat} {caller : Caller}
    (alike : (run limits other).callers.map Caller.patient =
      (run limits schedule).callers.map Caller.patient)
    (isCaller : (run limits schedule).callers[n]? = some caller) (stays : n ∉ leavers schedule)
    (otherStays : n ∉ leavers other) : (run limits other).callers[n]? = some caller := by
  obtain ⟨_, accounts, _⟩ := run_accounts limits schedule
  obtain ⟨_, otherAccounts, _⟩ := run_accounts limits other
  have staying := accounts.staying n caller isCaller stays
  have atPlace := congrArg (·[n]?) alike
  simp only [List.getElem?_map, isCaller, Option.map_some, Option.map_eq_some_iff] at atPlace
  obtain ⟨otherCaller, isOther, samePatient⟩ := atPlace
  have otherStaying := otherAccounts.staying n otherCaller isOther otherStays
  rw [Caller.patient_of_staying staying, Caller.patient_of_staying otherStaying] at samePatient
  rw [isOther, samePatient]

/-- Windows and callers are isolated. Two runs in which the same requests come at the same times
send the same at the same times, whoever gives up and whatever the node does. A caller that gives up
in neither of them gets the same at the same time, if the fetches of its own windows end alike. And
a caller learns that a window was abandoned if the fetch of that very window has died, and else only
if it has failed with just these words. -/
theorem windows_isolated (limits : Limits) (schedule other : List Step) (node otherNode : Node)
    (inOrder : InOrder schedule) (otherInOrder : InOrder other)
    (same : comings schedule = comings other) :
    let first := Execution.run limits schedule
    let second := Execution.run limits other
    second.timeline.dispatches = first.timeline.dispatches ∧
      second.callers.length = first.callers.length ∧
      (∀ n caller, first.callers[n]? = some caller → n ∉ leavers schedule → n ∉ leavers other →
        (∀ ticket ∈ caller.demand.tickets,
          ticket.FetchedAlike node otherNode first.timeline.dispatches) →
        ∃ result, (first.results node)[n]? = some result ∧
          (second.results otherNode)[n]? = some result) ∧
      (∀ n caller, first.callers[n]? = some caller → n ∉ leavers schedule →
        ∃ result, (first.results node)[n]? = some result ∧
          List.Forall₂ (fun ticket value => ∃ m dispatch,
              ticket.SentIn first.timeline.dispatches m dispatch ∧
                (value = .error (.http .abandoned) ↔
                  (node m dispatch).2 = .died ∨
                    (node m dispatch).2 = .replied (.error (.http .abandoned))))
            caller.demand.tickets (Loading.value result)) ∧
      HttpFault.abandoned.message = "batch dispatch abandoned" := by
  intro first second
  obtain ⟨sent, patient⟩ := Execution.run_comings limits inOrder
  obtain ⟨otherSent, otherPatient⟩ := Execution.run_comings limits otherInOrder
  rw [same] at sent patient
  have sentAlike : second.timeline.dispatches = first.timeline.dispatches :=
    otherSent.trans sent.symm
  have alike : second.callers.map Caller.patient = first.callers.map Caller.patient :=
    otherPatient.trans patient.symm
  refine ⟨sentAlike, by simpa using congrArg List.length alike, ?_, ?_, rfl⟩
  · intro n caller isCaller stays otherStays fetchedAlike
    obtain ⟨result, isResult, _⟩ := Execution.exists_result limits schedule node isCaller stays
    refine ⟨result, isResult, ?_⟩
    have isOther := Execution.caller_of_alike alike isCaller stays otherStays
    rw [Execution.results, List.getElem?_map, isCaller] at isResult
    rw [Execution.results, List.getElem?_map, isOther, sentAlike, ← isResult, Option.map_some,
      Option.map_some, Caller.result_congr fetchedAlike]
  · intro n caller isCaller stays
    obtain ⟨result, isResult, each⟩ :=
      Execution.exists_result limits schedule node isCaller stays
    refine ⟨result, isResult, each.imp ?_⟩
    rintro ticket value ⟨m, dispatch, sentIn, rfl⟩
    exact ⟨m, dispatch, sentIn, settle_outcome_eq_abandoned⟩

end Callers

/-- The callers of this schedule stay. -/
def stayingSchedule : List Step :=
  [⟨0, .load [ping "a", ping "b"]⟩, ⟨1, .load [ping "c"]⟩]

/-- The second caller of this schedule gives up at once, and the first one at last. -/
def leavingSchedule : List Step :=
  [⟨0, .load [ping "a", ping "b"]⟩, ⟨0, .abandon 1⟩, ⟨1, .load [ping "c"]⟩, ⟨2, .abandon 0⟩]

/-- A node whose first fetch dies. -/
def dyingNode : Node := fun n dispatch =>
  if n = 0 then (4, .died) else pongNode n dispatch

/-- The third caller gets its answer at the same time, whether the first window's callers stay or
not, and whether the fetch of that window dies or not. -/
theorem windows_isolated_of_dying :
    ∃ result, ((Execution.run ⟨5, some 2⟩ stayingSchedule).results dyingNode)[2]? = some result ∧
      ((Execution.run ⟨5, some 2⟩ leavingSchedule).results pongNode)[2]? = some result := by
  have isolated := windows_isolated ⟨5, some 2⟩ stayingSchedule leavingSchedule dyingNode pongNode
    (by decide) (by decide) rfl
  refine isolated.2.2.1 2 ⟨1, .one ⟨1, 0⟩, none⟩ rfl (by decide) (by decide) ?_
  intro ticket member n dispatch sentIn
  obtain rfl := List.mem_singleton.mp member
  match n with
  | 0 =>
      obtain ⟨atPlace, own⟩ := sentIn
      cases atPlace
      cases own
  | n + 1 => rfl

end RpcTransport.Gathering
