import RpcTransport.Proofs.Gathering.Waiting

/-!
Loading together. A caller that comes with many requests is as good as separate callers that come
with them at the same time, in the same order: the same is sent at the same times, everybody else
gets the same, and the caller gets in one list what the separate callers get, when the last of them
does.
-/

namespace RpcTransport.Gathering

/-! ### Separate callers -/

/-- A moment at which nobody comes. -/
def moment (time : Nat) : Step :=
  ⟨time, .load []⟩

/-- Callers that come one after another at one moment. -/
def separately (time : Nat) (requests : List Request) : List Step :=
  moment time :: requests.map fun request => ⟨time, .load [request]⟩

/-- Callers that give up one after another at one moment. -/
def leaving (time : Nat) (numbers : List Nat) : List Step :=
  moment time :: numbers.map fun number => ⟨time, .abandon number⟩

/-- A step of a schedule as it is when so many callers have come instead of the one at a place:
where that one gives up, all of them do, and those that came after it have other numbers. -/
def Step.renumber (place count : Nat) (step : Step) : List Step :=
  match step.action with
  | .abandon number =>
    if number < place then [step]
    else if number = place then leaving step.time (List.range' place count)
    else [⟨step.time, .abandon (number - 1 + count)⟩]
  | _ => [step]

/-- The separate callers that wait for what a caller waits for. -/
def Caller.apart (caller : Caller) : List Caller :=
  caller.demand.tickets.map fun ticket => { caller with demand := .one ticket }

/-- The latest of the times at which results are there, or the time when the caller came. -/
def latest {α : Type} (since : Nat) (results : List (Timed α)) : Nat :=
  ((results.map Timed.time).max?).getD since

/-- What a caller gets with many requests unites what separate callers get with one each. -/
def Unites (since : Nat) (separate : List CallerResult) (together : CallerResult) : Prop :=
  ∃ results : List (Timed (Outcome Bytes)), separate = results.map .one ∧
    together = .many ⟨latest since results, results.map Timed.value⟩

section Lists

variable {α : Type} {f : α → α} {first second : List α} {number : Nat}

theorem modify_append_of_lt (before : number < first.length) :
    (first ++ second).modify number f = first.modify number f ++ second := by
  apply List.ext_getElem?
  intro place
  grind

theorem modify_append_of_le (after : first.length ≤ number) :
    (first ++ second).modify number f = first ++ second.modify (number - first.length) f := by
  apply List.ext_getElem?
  intro place
  grind

/-- Changing the members of a stretch one after another changes the whole stretch. -/
theorem foldl_modify_range' (first stretch second : List α) :
    (List.range' first.length stretch.length).foldl (fun all number => all.modify number f)
        (first ++ stretch ++ second) =
      first ++ stretch.map f ++ second := by
  induction stretch generalizing first with
  | nil => rfl
  | cons member stretch inductionHypothesis =>
      have changed : (first ++ (member :: stretch) ++ second).modify first.length f =
          (first ++ [f member]) ++ stretch ++ second := by
        rw [List.append_assoc, modify_append_of_le (Nat.le_refl _), Nat.sub_self]
        simp [List.modify]
      have next := inductionHypothesis (first ++ [f member])
      rw [List.length_append, List.length_singleton] at next
      rw [List.length_cons, List.range'_succ, List.foldl_cons, changed, next]
      simp

end Lists

/-! ### One moment -/

namespace Timeline

variable {limits : Limits}

/-- A timeline on which a moment was passed. -/
structure Passed (time : Nat) (t : Timeline) : Prop where
  reached : time ≤ t.now
  left : ∀ alarm ∈ t.alarms, time ≤ alarm.deadline

theorem passed_elapse (t : Timeline) (time : Nat) : (t.elapse time).Passed time where
  reached := by
    rw [elapse_now]
    exact Nat.le_max_right _ _
  left := by
    intro alarm member
    rw [elapse_alarms] at member
    simpa using (List.mem_filter.mp member).2

theorem Passed.join {t : Timeline} {time : Nat} (passed : t.Passed time) (request : Request) :
    (t.join limits request).2.Passed time where
  reached := by
    rw [join_now]
    exact passed.reached
  left := by
    intro alarm member
    simp only [Timeline.join, sendSome_alarms, List.mem_append] at member
    rcases member with earlier | new
    · exact passed.left alarm earlier
    · obtain ⟨generation, _, rfl⟩ := List.mem_map.mp new
      exact Nat.le_trans passed.reached (Nat.le_add_right _ _)

theorem length_joinAll (limits : Limits) (requests : List Request) (t : Timeline) :
    (t.joinAll limits requests).1.length = requests.length := by
  induction requests generalizing t with
  | nil => rfl
  | cons request requests inductionHypothesis =>
      exact congrArg Nat.succ (inductionHypothesis _)

end Timeline

namespace Execution

variable {limits : Limits} {e f : Execution}

theorem elapse_of_passed {time : Nat} (passed : e.timeline.Passed time) :
    { e with timeline := e.timeline.elapse time } = e := by
  rw [Timeline.elapse_eq_self passed.reached passed.left]

/-- Callers that come one after another at a moment come as those that come together. -/
theorem foldl_load_of_passed {time : Nat} (passed : e.timeline.Passed time)
    (requests : List Request) :
    (requests.map fun request => (⟨time, .load [request]⟩ : Step)).foldl (step limits) e =
      e.act limits (.load requests) := by
  induction requests generalizing e with
  | nil => simp [act, Timeline.joinAll]
  | cons request requests inductionHypothesis =>
      have first : e.step limits ⟨time, .load [request]⟩ = e.act limits (.load [request]) := by
        rw [step, elapse_of_passed passed]
      have next : (e.act limits (.load [request])).timeline.Passed time := passed.join request
      have now : (e.act limits (.load [request])).timeline.now = e.timeline.now :=
        Timeline.join_now limits request e.timeline
      rw [List.map_cons, List.foldl_cons, first, inductionHypothesis next]
      simp only [act] at now
      simp only [act, now, List.append_assoc]
      rfl

/-- Separate callers come as those that come in one step. -/
theorem foldl_separately (limits : Limits) (e : Execution) (time : Nat)
    (requests : List Request) :
    (separately time requests).foldl (step limits) e = e.step limits ⟨time, .load requests⟩ := by
  have come : e.step limits (moment time) = { e with timeline := e.timeline.elapse time } := by
    simp [step, moment, act, Timeline.joinAll]
  rw [separately, List.foldl_cons, come]
  exact foldl_load_of_passed (Timeline.passed_elapse _ _) requests

/-- Callers that give up at one moment change the callers only. -/
theorem foldl_leaving (limits : Limits) (e : Execution) (time : Nat) (numbers : List Nat) :
    (leaving time numbers).foldl (step limits) e =
      ⟨e.timeline.elapse time, numbers.foldl
        (fun callers number => callers.modify number (leave (e.timeline.elapse time).now))
        e.callers⟩ := by
  have come : e.step limits (moment time) = ⟨e.timeline.elapse time, e.callers⟩ := by
    simp [step, moment, act, Timeline.joinAll]
  rw [leaving, List.foldl_cons, come]
  have passed := Timeline.passed_elapse e.timeline time
  generalize e.timeline.elapse time = timeline at passed
  generalize e.callers = callers
  induction numbers generalizing callers with
  | nil => rfl
  | cons number numbers inductionHypothesis =>
      have left : step limits ⟨timeline, callers⟩ ⟨time, .abandon number⟩ =
          ⟨timeline, callers.modify number (leave timeline.now)⟩ := by
        rw [step, elapse_of_passed passed]
        rfl
      rw [List.map_cons, List.foldl_cons, left, inductionHypothesis, List.foldl_cons]

/-! ### Two executions -/

/-- Two executions that differ in one caller only, in whose place there are separate ones. -/
structure Splits (place count since : Nat) (e f : Execution) : Prop where
  timeline : f.timeline = e.timeline
  callers : ∃ before caller after, e.callers = before ++ caller :: after ∧
    f.callers = before ++ caller.apart ++ after ∧ before.length = place ∧
      caller.since = since ∧ ∃ tickets, caller.demand = .many tickets ∧ tickets.length = count

theorem length_apart_of_many {caller : Caller} {tickets : List Ticket} {count : Nat}
    (demand : caller.demand = .many tickets) (many : tickets.length = count) :
    caller.apart.length = count := by
  rw [Caller.apart, List.length_map, demand]
  exact many

theorem apart_leave (time : Nat) (caller : Caller) :
    (leave time caller).apart = caller.apart.map (leave time) := by
  simp [Caller.apart, leave]

/-- In place of a caller that comes with many requests, separate ones come. -/
theorem splits_of_come (limits : Limits) (e : Execution) (time : Nat) (requests : List Request) :
    Splits e.callers.length requests.length (max e.timeline.now time)
      (e.step limits ⟨time, .loadMany requests⟩) (e.step limits ⟨time, .load requests⟩) := by
  refine ⟨rfl, e.callers, _, [], rfl, ?_, rfl, Timeline.elapse_now _ _, _, rfl,
    Timeline.length_joinAll _ _ _⟩
  rw [List.append_nil]
  rfl

variable {place count since : Nat}

/-- Whatever else happens happens in both executions. -/
theorem Splits.arrive (splits : Splits place count since e f) (timeline : Timeline)
    (callers : List Caller) :
    Splits place count since ⟨timeline, e.callers ++ callers⟩ ⟨timeline, f.callers ++ callers⟩ := by
  obtain ⟨before, caller, after, inE, inF, rest⟩ := splits.callers
  refine ⟨rfl, before, caller, after ++ callers, ?_, ?_, rest⟩
  · rw [inE, List.append_assoc, List.cons_append]
  · rw [inF, List.append_assoc]

/-- Who came before the caller has one number in both executions. -/
theorem Splits.abandon_earlier (splits : Splits place count since e f) (time : Nat) {number : Nat}
    (earlier : number < place) :
    Splits place count since (e.step limits ⟨time, .abandon number⟩)
      (f.step limits ⟨time, .abandon number⟩) := by
  obtain ⟨before, caller, after, inE, inF, rfl, rest⟩ := splits.callers
  refine ⟨congrArg (Timeline.elapse time) splits.timeline,
    before.modify number (leave (e.timeline.elapse time).now), caller, after, ?_, ?_,
    List.length_modify .., rest⟩
  · simp only [step, act, inE]
    exact modify_append_of_lt earlier
  · have inBoth : number < (before ++ caller.apart).length := by
      rw [List.length_append]
      omega
    simp only [step, act, inF, splits.timeline]
    rw [modify_append_of_lt inBoth, modify_append_of_lt earlier]

/-- The caller itself gives up as all the separate ones. -/
theorem Splits.abandon_own (splits : Splits place count since e f) (time : Nat) :
    Splits place count since (e.step limits ⟨time, .abandon place⟩)
      ((leaving time (List.range' place count)).foldl (step limits) f) := by
  obtain ⟨before, caller, after, inE, inF, rfl, came, tickets, demand, many⟩ := splits.callers
  have stretch := length_apart_of_many demand many
  rw [foldl_leaving, splits.timeline]
  refine ⟨rfl, before, leave (e.timeline.elapse time).now caller, after, ?_, ?_, rfl, came, tickets,
    demand, many⟩
  · simp only [step, act, inE]
    rw [modify_append_of_le (Nat.le_refl _), Nat.sub_self]
    rfl
  · simp only [inF, ← stretch]
    rw [foldl_modify_range', apart_leave]

/-- Who came after the caller has more callers before it in the other execution. -/
theorem Splits.abandon_later (splits : Splits place count since e f) (time : Nat) {number : Nat}
    (later : place < number) :
    Splits place count since (e.step limits ⟨time, .abandon number⟩)
      (f.step limits ⟨time, .abandon (number - 1 + count)⟩) := by
  obtain ⟨before, caller, after, inE, inF, rfl, came, tickets, demand, many⟩ := splits.callers
  have stretch := length_apart_of_many demand many
  let left := number - (before.length + 1)
  refine ⟨congrArg (Timeline.elapse time) splits.timeline, before, caller,
    after.modify left (leave (e.timeline.elapse time).now), ?_, ?_, rfl, came, tickets, demand,
    many⟩
  · have place : number - before.length = left + 1 := by omega
    simp only [step, act, inE]
    rw [modify_append_of_le (Nat.le_of_lt later), place, List.modify_succ_cons]
  · have beyond : (before ++ caller.apart).length ≤ number - 1 + count := by
      rw [List.length_append]
      omega
    have place : number - 1 + count - (before ++ caller.apart).length = left := by
      rw [List.length_append]
      omega
    simp only [step, act, inF, splits.timeline]
    rw [modify_append_of_le beyond, place]

/-- Who gives up in one execution does so in the other one. -/
theorem Splits.abandon (splits : Splits place count since e f) (time number : Nat) :
    Splits place count since (e.step limits ⟨time, .abandon number⟩)
      ((Step.renumber place count ⟨time, .abandon number⟩).foldl (step limits) f) := by
  simp only [Step.renumber]
  split
  · next earlier => exact splits.abandon_earlier time earlier
  split
  · next own => exact own ▸ splits.abandon_own time
  · next notEarlier notOwn => exact splits.abandon_later time (by omega)

theorem Splits.step (splits : Splits place count since e f) (step : Step) :
    Splits place count since (e.step limits step)
      ((step.renumber place count).foldl (Execution.step limits) f) := by
  obtain ⟨time, action⟩ := step
  cases action with
  | load requests | loadMany requests =>
      simp only [Step.renumber, List.foldl_cons, List.foldl_nil, Execution.step, act,
        splits.timeline]
      exact splits.arrive _ _
  | abandon number => exact splits.abandon time number

theorem Splits.foldl_step (splits : Splits place count since e f) (limits : Limits)
    (schedule : List Step) :
    Splits place count since (schedule.foldl (Execution.step limits) e)
      ((schedule.flatMap (Step.renumber place count)).foldl (Execution.step limits) f) := by
  induction schedule generalizing e f with
  | nil => exact splits
  | cons first rest inductionHypothesis =>
      rw [List.foldl_cons, List.flatMap_cons, List.foldl_append]
      exact inductionHypothesis (splits.step first)

/-- When no alarm is left, the executions still differ in the one caller only. -/
theorem Splits.finish (splits : Splits place count since e f) :
    Splits place count since ⟨e.timeline.finish, e.callers⟩ ⟨f.timeline.finish, f.callers⟩ :=
  ⟨congrArg Timeline.finish splits.timeline, splits.callers⟩

/-- The time of an execution is the latest time of its steps. -/
theorem now_foldl_step (limits : Limits) (schedule : List Step) (e : Execution) :
    (schedule.foldl (Execution.step limits) e).timeline.now =
      (schedule.map Step.time).foldl max e.timeline.now := by
  induction schedule generalizing e with
  | nil => rfl
  | cons first rest inductionHypothesis =>
      rw [List.foldl_cons, inductionHypothesis, now_step, List.map_cons, List.foldl_cons]

/-- Two runs differ in the one caller that comes in one of them with many requests. -/
theorem splits_run (limits : Limits) (earlier later : List Step) (time : Nat)
    (requests : List Request) :
    Splits (arrivals earlier).length requests.length ((earlier.map Step.time).foldl max time)
      (run limits (earlier ++ ⟨time, .loadMany requests⟩ :: later))
      (run limits (earlier ++ ⟨time, .load requests⟩ ::
        later.flatMap (Step.renumber (arrivals earlier).length requests.length))) := by
  let e := earlier.foldl (Execution.step limits) {}
  have come := splits_of_come limits e time requests
  obtain ⟨_, accounts⟩ := foldl_step_accounts limits earlier
  have since : max e.timeline.now time = (earlier.map Step.time).foldl max time := by
    have split := @List.foldl_assoc Nat max _ (earlier.map Step.time) time 0
    rw [Nat.max_zero] at split
    rw [now_foldl_step, Nat.max_comm]
    exact split.symm
  rw [← accounts.callers.length_eq, since] at come
  have splits := (come.foldl_step limits later).finish
  simpa only [run, List.foldl_append, List.foldl_cons] using splits

end Execution

section Results

variable {node : Node} {dispatches : List Dispatch} {since : Nat}

/-- If no result is there before the caller has come, the last one is there at the latest time. -/
theorem foldl_max_eq_latest {α : Type} {results : List (Timed α)}
    (come : ∀ result ∈ results, since ≤ result.time) :
    results.foldl (fun time result => max time result.time) since = latest since results := by
  cases results with
  | nil => rfl
  | cons first rest =>
      have after : max since first.time = first.time :=
        Nat.max_eq_right (come first List.mem_cons_self)
      rw [latest, List.map_cons, List.max?_cons', Option.getD_some, List.foldl_map,
        List.foldl_cons, after]

theorem le_latest {α : Type} {results : List (Timed α)} {result : Timed α}
    (member : result ∈ results) : result.time ≤ latest since results :=
  List.le_max?_getD_of_mem (List.mem_map_of_mem member)

theorem exists_latest {α : Type} {results : List (Timed α)} (notNone : results ≠ []) :
    ∃ result ∈ results, result.time = latest since results := by
  cases last : (results.map Timed.time).max? with
  | none => exact absurd (List.map_eq_nil_iff.mp (List.max?_eq_none_iff.mp last)) notNone
  | some time =>
      obtain ⟨result, member, isLast⟩ := List.mem_map.mp (List.max?_mem last)
      exact ⟨result, member, by rw [latest, last, isLast, Option.getD_some]⟩

/-- What is left of a result to a caller, depending on when it gave up. -/
def CallerResult.leftAfter (abandoned : Option Nat) (result : CallerResult) : CallerResult :=
  if abandoned.all fun left => result.time?.any (· < left) then result else .abandoned

theorem Caller.result_of_awaited {caller : Caller} {result : CallerResult}
    (awaited : caller.awaited node dispatches = some result) :
    caller.result node dispatches = result.leftAfter caller.abandoned := by
  cases abandoned : caller.abandoned with
  | none => simp [Caller.result, CallerResult.leftAfter, awaited, abandoned]
  | some left => simp [Caller.result, CallerResult.leftAfter, awaited, abandoned]

/-- The results of separate callers are those of the tickets. -/
theorem Caller.map_result_apart {caller : Caller} {results : List (Timed (Outcome Bytes))}
    (each : List.Forall₂ (fun ticket result => Ticket.result? node dispatches ticket = some result)
      caller.demand.tickets results) :
    caller.apart.map (Caller.result node dispatches) =
      results.map fun result => (CallerResult.one result).leftAfter caller.abandoned := by
  rw [Caller.apart, List.map_map]
  generalize caller.demand.tickets = tickets at each ⊢
  induction each with
  | nil => rfl
  | @cons ticket result _ _ isResult _ inductionHypothesis =>
      have awaited : Caller.awaited node dispatches { caller with demand := .one ticket } =
          some (.one result) := by
        simp only [Caller.awaited, isResult, Option.map_some]
      rw [List.map_cons, List.map_cons, inductionHypothesis]
      exact congrArg (· :: _) (Caller.result_of_awaited awaited)

/-- A caller with many requests gets what separate callers get, unless it gives up before the last
result is there; then one of them gives up before its result is there. -/
theorem Caller.unites {caller : Caller} {tickets : List Ticket}
    (demand : caller.demand = .many tickets)
    (timely : ∀ ticket ∈ tickets, ∃ result, Ticket.result? node dispatches ticket = some result ∧
      caller.since ≤ result.time) :
    Unites caller.since (caller.apart.map (Caller.result node dispatches))
        (caller.result node dispatches) ∨
      caller.result node dispatches = .abandoned ∧ caller.abandoned ≠ none ∧
        (tickets ≠ [] → .abandoned ∈ caller.apart.map (Caller.result node dispatches)) := by
  obtain ⟨results, all, each⟩ := exists_mapM_eq_some fun ticket member =>
    have ⟨result, isResult, _⟩ := timely ticket member
    ⟨result, isResult⟩
  have come : ∀ result ∈ results, caller.since ≤ result.time := by
    intro result member
    obtain ⟨n, bound, rfl⟩ := List.mem_iff_getElem.mp member
    have isTicket : n < tickets.length := each.length_eq ▸ bound
    obtain ⟨_, isResult, after⟩ := timely _ (List.getElem_mem isTicket)
    rwa [Option.some.inj (isResult.symm.trans (each.get isTicket bound))] at after
  have awaited : caller.awaited node dispatches =
      some (.many ⟨latest caller.since results, results.map Timed.value⟩) := by
    simp only [Caller.awaited, demand, all, Option.bind_eq_bind, Option.bind_some,
      foldl_max_eq_latest come]
    rfl
  rw [Caller.result_of_awaited awaited, Caller.map_result_apart (by rw [demand]; exact each)]
  cases abandoned : caller.abandoned with
  | none => exact .inl ⟨results, rfl, rfl⟩
  | some left =>
      by_cases inTime : latest caller.since results < left
      · refine .inl ⟨results, ?_, ?_⟩
        · apply List.map_congr_left
          intro result member
          have early := Nat.lt_of_le_of_lt (le_latest member) inTime
          simp [CallerResult.leftAfter, CallerResult.time?, early]
        · simp [CallerResult.leftAfter, CallerResult.time?, inTime]
      · refine .inr ⟨by simp [CallerResult.leftAfter, CallerResult.time?, inTime], by simp, ?_⟩
        intro notNone
        have someResults : results ≠ [] := by
          rintro rfl
          exact notNone (List.length_eq_zero_iff.mp each.length_eq)
        obtain ⟨result, member, isLast⟩ := exists_latest someResults
        refine List.mem_map.mpr ⟨result, member, ?_⟩
        rw [← isLast] at inTime
        simp [CallerResult.leftAfter, CallerResult.time?, inTime]

end Results

/-- Loading many requests together is as good as loading them separately. Where separate callers
come with the requests of a caller at the same time and in the same order, and give up when it gives
up, the same is sent at the same times, and all others end with the same. The caller gets, entry by
entry, what the separate ones get, when the last of them does; or it has given up before, as one of
them has. It makes no difference whether the separate callers come in one step or in one each. -/
theorem loads_many_as_separately (limits : Limits) (node : Node) (earlier later : List Step)
    (time : Nat) (requests : List Request) :
    let place := (arrivals earlier).length
    let renumbered := later.flatMap (Step.renumber place requests.length)
    let together := Execution.run limits (earlier ++ ⟨time, .loadMany requests⟩ :: later)
    let apart := Execution.run limits (earlier ++ ⟨time, .load requests⟩ :: renumbered)
    Execution.run limits (earlier ++ separately time requests ++ renumbered) = apart ∧
      apart.timeline.dispatches = together.timeline.dispatches ∧
      ∃ before own separate after,
        together.results node = before ++ own :: after ∧
        apart.results node = before ++ separate ++ after ∧
        before.length = place ∧ separate.length = requests.length ∧
        (Unites ((earlier.map Step.time).foldl max time) separate own ∨
          own = .abandoned ∧
            place ∈ leavers (earlier ++ ⟨time, .loadMany requests⟩ :: later) ∧
            (requests ≠ [] → .abandoned ∈ separate)) := by
  intro place renumbered together apart
  have inSteps : Execution.run limits (earlier ++ separately time requests ++ renumbered) =
      apart := by
    simp only [apart, Execution.run, List.foldl_append, List.foldl_cons,
      Execution.foldl_separately]
  obtain ⟨timeline, before, caller, after, inTogether, inApart, isPlace, since, tickets, demand,
    many⟩ := Execution.splits_run limits earlier later time requests
  have sent : apart.timeline.dispatches = together.timeline.dispatches :=
    congrArg Timeline.dispatches timeline
  have isCaller : together.callers[place]? = some caller := by
    simp [together, inTogether, place, ← isPlace]
  refine ⟨inSteps, sent, before.map (Caller.result node together.timeline.dispatches),
    caller.result node together.timeline.dispatches,
    caller.apart.map (Caller.result node together.timeline.dispatches),
    after.map (Caller.result node together.timeline.dispatches), ?_, ?_, ?_, ?_, ?_⟩
  · rw [Execution.results, inTogether, List.map_append, List.map_cons]
  · rw [Execution.results, inApart, sent, List.map_append, List.map_append]
  · rw [List.length_map, isPlace]
  · rw [List.length_map, Execution.length_apart_of_many demand many]
  · have timely := Execution.exists_result?_since limits _ node (List.mem_of_getElem? isCaller)
    rw [demand] at timely
    rw [← since]
    obtain unites | ⟨gaveUp, left, oneOf⟩ := Caller.unites demand timely
    · exact Or.inl unites
    refine Or.inr ⟨gaveUp, ?_, ?_⟩
    · obtain ⟨_, accounts, _⟩ := Execution.run_accounts limits
        (earlier ++ ⟨time, .loadMany requests⟩ :: later)
      by_contra stays
      exact left (accounts.staying place caller isCaller stays)
    · intro someRequests
      apply oneOf
      rintro rfl
      exact someRequests (List.length_eq_zero_iff.mp many.symm)

end RpcTransport.Gathering
