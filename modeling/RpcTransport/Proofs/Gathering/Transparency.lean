import RpcTransport.Endpoint.Loading
import RpcTransport.Proofs.Gathering.Correlation
import RpcTransport.Proofs.Gathering.Timeline

/-!
Gathering is transparent. Whoever waits for the result of a request gets, from a node that answers
honestly, what it would have got had its request been sent by itself, whatever it was gathered with
and in whatever order the node answers.
-/

namespace RpcTransport.Gathering

/-- What a caller comes with. -/
inductive Arrival
  | one (request : Request)
  | many (requests : List Request)

/-- The requests that a caller comes with. -/
def Arrival.requests : Arrival → List Request
  | .one request => [request]
  | .many requests => requests

namespace Action

/-- The callers that come in an action. -/
def arrivals : Action → List Arrival
  | .load requests => requests.map .one
  | .loadMany requests => [.many requests]
  | .abandon _ => []

/-- The callers that give up in an action. -/
def leavers : Action → List Nat
  | .abandon caller => [caller]
  | _ => []

end Action

/-- The callers of a schedule, in the order in which they come. -/
def arrivals (schedule : List Step) : List Arrival :=
  schedule.flatMap fun step => step.action.arrivals

/-- The callers that give up at some time of a schedule. -/
def leavers (schedule : List Step) : List Nat :=
  schedule.flatMap fun step => step.action.leavers

/-- A caller waits with the tickets that its requests got. -/
def Demand.IsFor (joined : List (Request × Ticket)) : Demand → Arrival → Prop
  | .one ticket, .one request => (request, ticket) ∈ joined
  | .many tickets, .many requests =>
    List.Forall₂ (fun request ticket => (request, ticket) ∈ joined) requests tickets
  | _, _ => False

/-- Tickets that were got earlier stay good. -/
theorem Demand.IsFor.mono {joined later : List (Request × Ticket)} {demand : Demand}
    {arrival : Arrival} (isFor : demand.IsFor joined arrival) (more : joined ⊆ later) :
    demand.IsFor later arrival := by
  cases demand with
  | one ticket =>
      cases arrival with
      | one request => exact more isFor
      | many requests => exact isFor
  | many tickets =>
      cases arrival with
      | one request => exact isFor
      | many requests => exact List.Forall₂.imp (fun _ _ member => more member) isFor

namespace Execution

/-- The account of an execution: which callers came, with the tickets that their requests got, and
who may have given up. -/
structure Accounts (limits : Limits) (came : List Arrival) (left : List Nat)
    (joined : List (Request × Ticket)) (e : Execution) : Prop where
  traced : e.timeline.Traced limits joined
  requests : joined.map Prod.fst = came.flatMap Arrival.requests
  callers : List.Forall₂ (fun arrival caller => caller.demand.IsFor joined arrival) came e.callers
  staying : ∀ n caller, e.callers[n]? = some caller → n ∉ left → caller.abandoned = none

variable {limits : Limits} {came : List Arrival} {left : List Nat}
  {joined : List (Request × Ticket)} {e : Execution}

theorem empty_accounts : Accounts limits [] [] [] {} where
  traced := .empty
  requests := rfl
  callers := .nil
  staying := by simp

/-- Callers that come keep the account, if they wait with the tickets of their requests. -/
theorem Accounts.arrive (accounts : e.Accounts limits came left joined)
    {arrivals : List Arrival} {callers : List Caller} {timeline : Timeline}
    {got : List (Request × Ticket)} (traced : timeline.Traced limits (joined ++ got))
    (requests : got.map Prod.fst = arrivals.flatMap Arrival.requests)
    (demands :
      List.Forall₂ (fun arrival caller => caller.demand.IsFor got arrival) arrivals callers)
    (staying : ∀ caller ∈ callers, caller.abandoned = none) :
    Accounts limits (came ++ arrivals) left (joined ++ got) ⟨timeline, e.callers ++ callers⟩ where
  traced := traced
  requests := by rw [List.map_append, List.flatMap_append, accounts.requests, requests]
  callers := by
    refine List.rel_append ?_ ?_
    · exact accounts.callers.imp fun _ _ isFor => isFor.mono (List.subset_append_left _ _)
    · exact demands.imp fun _ _ isFor => isFor.mono (List.subset_append_right _ _)
  staying := by
    intro n caller atPlace stays
    rw [List.getElem?_append] at atPlace
    split at atPlace
    · exact accounts.staying n caller atPlace stays
    · exact staying caller (List.mem_of_getElem? atPlace)

/-- Each of some requests that joined together waits with its own ticket. -/
theorem forall₂_mem_zip {requests : List Request} {tickets : List Ticket}
    (many : tickets.length = requests.length) :
    List.Forall₂ (fun request ticket => (request, ticket) ∈ requests.zip tickets)
      requests tickets :=
  List.forall₂_iff_zip.mpr ⟨many.symm, fun member => member⟩

/-- A caller that gives up waits for the same as before. -/
theorem forall₂_modify_leave {arrivals : List Arrival} {callers : List Caller} (time number : Nat)
    (demands : List.Forall₂ (fun arrival caller => caller.demand.IsFor joined arrival) arrivals
      callers) :
    List.Forall₂ (fun arrival caller => caller.demand.IsFor joined arrival) arrivals
      (callers.modify number (leave time)) := by
  induction demands generalizing number with
  | nil => simp
  | cons isFor others inductionHypothesis =>
      cases number with
      | zero => exact .cons isFor others
      | succ number =>
          rw [List.modify_succ_cons]
          exact .cons isFor (inductionHypothesis number)

/-- Every action keeps the account. -/
theorem Accounts.act (accounts : e.Accounts limits came left joined) (action : Action) :
    ∃ later, (e.act limits action).Accounts limits (came ++ action.arrivals)
      (left ++ action.leavers) later := by
  cases action with
  | load requests =>
      obtain ⟨traced, many⟩ := accounts.traced.joinAll requests
      refine ⟨joined ++ requests.zip (e.timeline.joinAll limits requests).1, ?_⟩
      rw [show left ++ (Action.load requests).leavers = left from List.append_nil left]
      refine accounts.arrive traced ?_ ?_ ?_
      · rw [List.map_fst_zip (Nat.le_of_eq many.symm)]
        simp [Action.arrivals, List.flatMap_map, Arrival.requests]
      · rw [Action.arrivals, List.forall₂_map_left_iff, List.forall₂_map_right_iff]
        exact forall₂_mem_zip many
      · intro caller member
        obtain ⟨ticket, _, rfl⟩ := List.mem_map.mp member
        rfl
  | loadMany requests =>
      obtain ⟨traced, many⟩ := accounts.traced.joinAll requests
      refine ⟨joined ++ requests.zip (e.timeline.joinAll limits requests).1, ?_⟩
      rw [show left ++ (Action.loadMany requests).leavers = left from List.append_nil left]
      refine accounts.arrive traced ?_ ?_ ?_
      · rw [List.map_fst_zip (Nat.le_of_eq many.symm)]
        simp [Action.arrivals, Arrival.requests]
      · exact .cons (forall₂_mem_zip many) .nil
      · intro caller member
        rw [List.mem_singleton.mp member]
  | abandon number =>
      refine ⟨joined, ?_⟩
      rw [show came ++ (Action.abandon number).arrivals = came from List.append_nil came]
      refine ⟨accounts.traced, accounts.requests, ?_, ?_⟩
      · exact forall₂_modify_leave _ _ accounts.callers
      · intro n caller atPlace stays
        simp only [Action.leavers, List.mem_append, List.mem_singleton, not_or] at stays
        rw [Execution.act, List.getElem?_modify_ne _ _ (Ne.symm stays.2)] at atPlace
        exact accounts.staying n caller atPlace stays.1

/-- Time that passes keeps the account. -/
theorem Accounts.elapse (accounts : e.Accounts limits came left joined) (time : Nat) :
    Accounts limits came left joined { e with timeline := e.timeline.elapse time } :=
  ⟨accounts.traced.elapse time, accounts.requests, accounts.callers, accounts.staying⟩

/-- Every step keeps the account. -/
theorem Accounts.step (accounts : e.Accounts limits came left joined) (step : Step) :
    ∃ later, (e.step limits step).Accounts limits (came ++ step.action.arrivals)
      (left ++ step.action.leavers) later :=
  (accounts.elapse step.time).act step.action

/-- The steps of a schedule keep the account. -/
theorem foldl_step_accounts (limits : Limits) (schedule : List Step) :
    ∃ joined, (schedule.foldl (step limits) {}).Accounts limits (arrivals schedule)
      (leavers schedule) joined := by
  induction schedule using List.reverseRecOn with
  | nil => exact ⟨[], empty_accounts⟩
  | append_singleton earlier last inductionHypothesis =>
      obtain ⟨joined, accounts⟩ := inductionHypothesis
      obtain ⟨later, after⟩ := accounts.step last
      refine ⟨later, ?_⟩
      rw [List.foldl_append]
      simpa [arrivals, leavers] using after

/-- A whole schedule is accounted for: every caller, and every request. -/
theorem run_accounts (limits : Limits) (schedule : List Step) :
    ∃ joined, (run limits schedule).Accounts limits (arrivals schedule) (leavers schedule) joined ∧
      (run limits schedule).timeline.alarms = [] := by
  obtain ⟨joined, accounts⟩ := foldl_step_accounts limits schedule
  refine ⟨joined, ⟨accounts.traced.ringAll _, accounts.requests, accounts.callers,
    accounts.staying⟩, Timeline.finish_alarms _⟩

end Execution

/-! ### What callers get -/

/-- The node answers honestly: to each dispatch it replies, after some time, with the answers to its
requests. -/
def HonestNode (answer : Request → Bytes) (node : Node) (dispatches : List Dispatch) : Prop :=
  ∀ n dispatch, dispatches[n]? = some dispatch → ∃ delay body,
    node n dispatch = (delay, .replied (.ok body)) ∧ HonestReply answer dispatch.requests body

/-- A caller ends with the answers to its own requests. -/
def Arrival.Gets (answer : Request → Bytes) : Arrival → CallerResult → Prop
  | .one request, result => ∃ time, result = .one ⟨time, .ok (answer request)⟩
  | .many requests, result =>
    ∃ time, result = .many ⟨time, requests.map fun request => .ok (answer request)⟩

section Results

variable {limits : Limits} {joined : List (Request × Ticket)} {t : Timeline}
  {answer : Request → Bytes} {node : Node}

/-- A ticket gets what came of the one dispatch that holds its request, at its position. -/
theorem result?_of_joined (node : Node) (traced : t.Traced limits joined) (noAlarms : t.alarms = [])
    {request : Request} {ticket : Ticket} (member : (request, ticket) ∈ joined) :
    ∃ n dispatch, t.dispatches[n]? = some dispatch ∧ dispatch.generation = ticket.generation ∧
      dispatch.requests[ticket.position]? = some request ∧
      ticket.result? node t.dispatches =
        some ⟨endOfWait dispatch.time (node n dispatch).1,
          settle ((node n dispatch).2.outcome dispatch.requests) ticket.position⟩ := by
  obtain ⟨n, dispatch, atPlace, held, found⟩ := traced.dispatch_of_joined noAlarms member
  have own := List.find?_some found
  simp only [beq_iff_eq] at own
  refine ⟨n, dispatch, atPlace, own, held, ?_⟩
  simp only [Ticket.result?, found, Option.bind_eq_bind, Option.bind_some]
  rfl

/-- A ticket gets the answer to the request that it was given to. -/
theorem result_of_joined (traced : t.Traced limits joined) (noAlarms : t.alarms = [])
    (distinct : ((joined.map Prod.fst).map Request.id).Nodup)
    (answers : ∀ r ∈ joined.map Prod.fst, Answers r (answer r))
    (honest : HonestNode answer node t.dispatches) {request : Request} {ticket : Ticket}
    (member : (request, ticket) ∈ joined) :
    ∃ time, ticket.result? node t.dispatches = some ⟨time, .ok (answer request)⟩ := by
  obtain ⟨n, dispatch, atPlace, _, held, result⟩ := result?_of_joined node traced noAlarms member
  obtain ⟨delay, body, replied, honestReply⟩ := honest n dispatch atPlace
  have all := traced.flatMap_requests noAlarms
  have own : ∀ r ∈ dispatch.requests, r ∈ joined.map Prod.fst := by
    intro r isRequest
    rw [← all]
    exact List.mem_flatMap.mpr ⟨dispatch, List.mem_of_getElem? atPlace, isRequest⟩
  have distinctHere : (dispatch.requests.map Request.id).Nodup := by
    rw [← all, List.map_flatMap] at distinct
    exact (List.nodup_flatMap.mp distinct).1 dispatch (List.mem_of_getElem? atPlace)
  have outcome := ofReply_of_honest (fun r isRequest => answers r (own r isRequest)) distinctHere
    honestReply
  have settled : settle (.ok (dispatch.requests.map fun r => .ok (answer r))) ticket.position =
      .ok (answer request) := by
    refine bind_eq_ok.mpr ⟨_, rfl, ?_⟩
    rw [List.getElem?_map, held]
    rfl
  refine ⟨endOfWait dispatch.time delay, ?_⟩
  rw [result, replied, Fetched.outcome, outcome, settled]

/-- Tickets that are waited for together get the answers to their requests, in order. -/
theorem mapM_result {requests : List Request} {tickets : List Ticket} {dispatches : List Dispatch}
    (results : List.Forall₂ (fun request ticket => ∃ time,
      Ticket.result? node dispatches ticket = some ⟨time, .ok (answer request)⟩) requests tickets) :
    ∃ timed, tickets.mapM (Ticket.result? node dispatches) = some timed ∧
      timed.map Timed.value = requests.map fun request => .ok (answer request) := by
  induction results with
  | nil => exact ⟨[], rfl, rfl⟩
  | cons first others inductionHypothesis =>
      obtain ⟨time, result⟩ := first
      obtain ⟨timed, all, values⟩ := inductionHypothesis
      refine ⟨⟨time, _⟩ :: timed, ?_, congrArg _ values⟩
      rw [List.mapM_cons, result, all]
      rfl

/-- A caller that does not give up gets the answers to its requests. -/
theorem awaited_of_isFor {caller : Caller} {arrival : Arrival}
    (isFor : caller.demand.IsFor joined arrival) {dispatches : List Dispatch}
    (results : ∀ request ticket, (request, ticket) ∈ joined → ∃ time,
      Ticket.result? node dispatches ticket = some ⟨time, .ok (answer request)⟩) :
    ∃ result, caller.awaited node dispatches = some result ∧ arrival.Gets answer result := by
  unfold Caller.awaited
  cases demand : caller.demand with
  | one ticket =>
      cases arrival with
      | one request =>
          rw [demand] at isFor
          obtain ⟨time, result⟩ := results request ticket isFor
          refine ⟨.one ⟨time, .ok (answer request)⟩, ?_, time, rfl⟩
          simp only [result, Option.map_some]
      | many requests =>
          rw [demand] at isFor
          exact isFor.elim
  | many tickets =>
      cases arrival with
      | one request =>
          rw [demand] at isFor
          exact isFor.elim
      | many requests =>
          rw [demand] at isFor
          obtain ⟨timed, all, values⟩ := mapM_result
            (List.Forall₂.imp (fun request ticket member => results request ticket member) isFor)
          let last := timed.foldl (fun time result => max time result.time) caller.since
          refine ⟨.many ⟨last, timed.map (·.value)⟩, ?_, last, by rw [values]⟩
          simp only [all, Option.bind_eq_bind, Option.bind_some]
          rfl

/-- A caller that does not give up ends with what it waits for. -/
theorem result_of_awaited {caller : Caller} {dispatches : List Dispatch} {result : CallerResult}
    (awaited : caller.awaited node dispatches = some result) (staying : caller.abandoned = none) :
    caller.result node dispatches = result := by
  simp only [Caller.result, awaited, staying]

end Results

/-- Gathering is transparent: with an honest node, every caller that does not give up gets exactly
the answers to its own requests, and they are what it gets if each request is sent by itself. -/
theorem gets_own_answers (limits : Limits) (schedule : List Step) (answer : Request → Bytes)
    (node : Node)
    (distinct : (((arrivals schedule).flatMap Arrival.requests).map Request.id).Nodup)
    (answers : ∀ r ∈ (arrivals schedule).flatMap Arrival.requests, Answers r (answer r))
    (honest : HonestNode answer node (Execution.run limits schedule).timeline.dispatches) :
    let results := (Execution.run limits schedule).results node
    results.length = (arrivals schedule).length ∧
      (∀ n arrival, (arrivals schedule)[n]? = some arrival → n ∉ leavers schedule →
        ∃ result, results[n]? = some result ∧ arrival.Gets answer result) ∧
      ∀ r ∈ (arrivals schedule).flatMap Arrival.requests, ∀ delay,
        (Loading.load (fun _ => (delay, .replied (.ok (answer r)))) [r] .direct).results =
          [.ok (answer r)] := by
  intro results
  obtain ⟨joined, accounts, noAlarms⟩ := Execution.run_accounts limits schedule
  have got : ∀ request ticket, (request, ticket) ∈ joined → ∃ time,
      Ticket.result? node (Execution.run limits schedule).timeline.dispatches ticket =
        some ⟨time, .ok (answer request)⟩ := by
    intro request ticket member
    rw [← accounts.requests] at distinct answers
    exact result_of_joined accounts.traced noAlarms distinct answers honest member
  have many : (arrivals schedule).length = (Execution.run limits schedule).callers.length :=
    accounts.callers.length_eq
  refine ⟨(List.length_map _).trans many.symm, ?_, ?_⟩
  · intro n arrival isArrival stays
    obtain ⟨bound, rfl⟩ := List.getElem?_eq_some_iff.mp isArrival
    have isCaller := List.getElem?_eq_getElem (many ▸ bound)
    have isFor := accounts.callers.get bound (many ▸ bound)
    obtain ⟨result, awaited, gets⟩ := awaited_of_isFor isFor got
    refine ⟨result, ?_, gets⟩
    have staying := accounts.staying n _ isCaller stays
    simp only [results, Execution.results, List.getElem?_map, isCaller, Option.map_some]
    exact congrArg some (result_of_awaited awaited staying)
  · intro r _ delay
    rfl

/-- A request without parameters. -/
def ping (id : String) : Request :=
  .make id "ping" []

/-- The answer to such a request. -/
def pong (request : Request) : Bytes :=
  bytesOf ("\x7b\"id\":\"" ++ request.id ++ "\",\"result\":null\x7d")

/-- A node that answers the first two requests in the opposite order, with blanks between. -/
def pongNode : Node := fun n _ =>
  if n = 0 then
    (3, .replied (.ok (bytesOf "[ " ++ pong (ping "b") ++ bytesOf ",\n" ++ pong (ping "a") ++
      bytesOf "]")))
  else (0, .replied (.ok (bytesOf "[" ++ pong (ping "c") ++ bytesOf "]\n")))

theorem answers_pong : ∀ r ∈ [ping "a", ping "b", ping "c"], Answers r (pong r) := by
  intro r member
  simp only [List.mem_cons, List.not_mem_nil, or_false] at member
  have closes : ∀ {text : Bytes}, text.getLast? = some Ascii.closeBrace →
      ∀ b, text.getLast? = some b → Json.isBlank b = false := by
    intro text last b found
    rw [last] at found
    cases found
    decide
  rcases member with rfl | rfl | rfl
  · exact ⟨⟨_, rfl⟩, by decide +kernel, closes (by decide +kernel), _, rfl, rfl⟩
  · exact ⟨⟨_, rfl⟩, by decide +kernel, closes (by decide +kernel), _, rfl, rfl⟩
  · exact ⟨⟨_, rfl⟩, by decide +kernel, closes (by decide +kernel), _, rfl, rfl⟩

/-- Two of three requests fill a window, and the third is sent when its window's alarm rings. The
second caller waits for one request of each window. -/
theorem gets_own_answers_of_two_windows :
    ∃ result, ((Execution.run ⟨5, some 2⟩ [⟨0, .load [ping "a"]⟩,
        ⟨1, .loadMany [ping "b", ping "c"]⟩]).results pongNode)[1]? = some result ∧
      (Arrival.many [ping "b", ping "c"]).Gets pong result := by
  have distinct : ([ping "a", ping "b", ping "c"].map Request.id).Nodup := by decide +kernel
  have honest : HonestNode pong pongNode
      [⟨1, 0, [ping "a", ping "b"]⟩, ⟨6, 1, [ping "c"]⟩] := by
    intro n dispatch atPlace
    match n with
    | 0 =>
        cases atPlace
        refine ⟨3, _, rfl, [ping "b", ping "a"], List.Perm.swap _ _ _, ?_⟩
        exact ⟨_, .more ⟨[0x20], [], by decide, by decide, rfl⟩
          (.last ⟨[0x0A], [], by decide, by decide, rfl⟩), [], [], by decide, by decide, rfl⟩
    | 1 =>
        cases atPlace
        refine ⟨0, _, rfl, [ping "c"], List.Perm.refl _, ?_⟩
        exact ⟨_, .last ⟨[], [], by decide, by decide, rfl⟩, [], [0x0A], by decide, by decide, rfl⟩
    | n + 2 => cases atPlace
  exact (gets_own_answers ⟨5, some 2⟩ [⟨0, .load [ping "a"]⟩, ⟨1, .loadMany [ping "b", ping "c"]⟩]
    pong pongNode distinct answers_pong honest).2.1 1 _ rfl (by decide)

end RpcTransport.Gathering
