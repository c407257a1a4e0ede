import RpcTransport.Gathering.Correlation
import RpcTransport.Gathering.Window

/-!
Gathering in time. A schedule says at which millisecond callers come with their requests, and when
they give up. From it follow the dispatches, that is, which requests are sent together and when; and
from the dispatches and the node's replies follows what each caller gets and when. Callers that give
up and replies have no influence on dispatches.
-/

namespace RpcTransport.Gathering

/-- Requests that were sent together. -/
structure Dispatch where
  time : Nat
  generation : Nat
  requests : List Request

/-- What is sent. -/
def Dispatch.payload (dispatch : Dispatch) : Bytes :=
  Request.encodeBatch dispatch.requests

/-- The most milliseconds that pass before an end that is set: those of thirty years. -/
def longestWait : Nat :=
  30 * 365 * 24 * 60 * 60 * 1000

/-- The end of a wait that begins now. A wait of more than thirty years ends with them. -/
def endOfWait (now wait : Nat) : Nat :=
  now + min wait longestWait

/-- The end of a window's wait. -/
structure Alarm where
  deadline : Nat
  generation : Nat

/-- Gathering at a moment: the open window, the alarms that are set, in the order in which they were
set, and the dispatches so far. -/
structure Timeline where
  now : Nat := 0
  gatherer : Gatherer := {}
  alarms : List Alarm := []
  dispatches : List Dispatch := []

namespace Timeline

/-- Sends a window. -/
def send (time : Nat) (window : Window) (t : Timeline) : Timeline :=
  { t with dispatches := t.dispatches ++ [⟨time, window.generation, window.requests⟩] }

/-- Sends a window if there is one. -/
def sendSome (time : Nat) (window : Option Window) (t : Timeline) : Timeline :=
  window.elim t fun window => t.send time window

/-- Lets an alarm ring. -/
def ring (t : Timeline) (alarm : Alarm) : Timeline :=
  let (window, gatherer) := t.gatherer.wake alarm.generation
  { t with gatherer := gatherer }.sendSome alarm.deadline window

/-- Lets the alarms ring that satisfy a condition. -/
def ringAll (due : Alarm → Bool) (t : Timeline) : Timeline :=
  (t.alarms.filter due).foldl ring { t with alarms := t.alarms.filter fun alarm => !due alarm }

/-- Lets time pass until a moment; time does not run back. -/
def elapse (time : Nat) (t : Timeline) : Timeline :=
  let t := t.ringAll fun alarm => alarm.deadline < time
  { t with now := max t.now time }

/-- Lets all alarms ring. -/
def finish (t : Timeline) : Timeline :=
  t.ringAll fun _ => true

/-- Takes in a request. -/
def join (limits : Limits) (request : Request) (t : Timeline) : Ticket × Timeline :=
  let (joined, gatherer) := t.gatherer.join limits request
  let alarms := joined.opened.toList.map fun generation => ⟨endOfWait t.now limits.wait, generation⟩
  (joined.ticket,
    { t with gatherer := gatherer, alarms := t.alarms ++ alarms }.sendSome t.now joined.filled)

/-- Takes in several requests, in order. -/
def joinAll (limits : Limits) : List Request → Timeline → List Ticket × Timeline
  | [], t => ([], t)
  | request :: rest, t =>
    let (ticket, t) := t.join limits request
    let (tickets, t) := joinAll limits rest t
    (ticket :: tickets, t)

end Timeline

/-- What a caller waits for. -/
inductive Demand
  /-- The result for one request. -/
  | one (ticket : Ticket)
  /-- The results for several requests, together. -/
  | many (tickets : List Ticket)

/-- A caller with the time when it came and the time when it gave up, if it did. -/
structure Caller where
  since : Nat
  demand : Demand
  abandoned : Option Nat := none

/-- What happens at some time. -/
inductive Action
  /-- Callers come with a request each. -/
  | load (requests : List Request)
  /-- A caller comes with all these requests. -/
  | loadMany (requests : List Request)
  /-- The caller of this number gives up; callers are numbered in the order in which they come. -/
  | abandon (caller : Nat)

/-- An action at its time. -/
structure Step where
  time : Nat
  action : Action

/-- The timeline and all callers so far. -/
structure Execution where
  timeline : Timeline := {}
  callers : List Caller := []

namespace Execution

/-- Gives up one's place, once. -/
def leave (time : Nat) (caller : Caller) : Caller :=
  { caller with abandoned := caller.abandoned.or (some time) }

/-- Carries out an action at the present time. -/
def act (limits : Limits) (e : Execution) : Action → Execution
  | .load requests =>
    let (tickets, timeline) := e.timeline.joinAll limits requests
    ⟨timeline, e.callers ++ tickets.map fun ticket => ⟨e.timeline.now, .one ticket, none⟩⟩
  | .loadMany requests =>
    let (tickets, timeline) := e.timeline.joinAll limits requests
    ⟨timeline, e.callers ++ [⟨e.timeline.now, .many tickets, none⟩]⟩
  | .abandon caller =>
    { e with callers := e.callers.modify caller (leave e.timeline.now) }

/-- Carries out a step at its time. -/
def step (limits : Limits) (e : Execution) (step : Step) : Execution :=
  { e with timeline := e.timeline.elapse step.time }.act limits step.action

/-- Carries out a schedule until no alarm is left. -/
def run (limits : Limits) (schedule : List Step) : Execution :=
  let e := schedule.foldl (step limits) {}
  { e with timeline := e.timeline.finish }

end Execution

/-- How an attempt to fetch a reply ends. -/
inductive Fetched
  | replied (reply : Outcome Bytes)
  /-- The task that fetches dies. -/
  | died

/-- What a dispatch comes to: for the n-th one, how long it takes and how it ends. -/
abbrev Node :=
  Nat → Dispatch → Nat × Fetched

/-- What the requests of a dispatch get. -/
def Fetched.outcome (requests : List Request) : Fetched → BatchOutcome
  | .replied reply => ofReply requests reply
  | .died => .error (.http .abandoned)

/-- A result with the time when it is there. -/
structure Timed (α : Type) where
  time : Nat
  value : α

/-- What a ticket gets of the dispatches; only one that was issued in their run gets anything. -/
def Ticket.result? (node : Node) (dispatches : List Dispatch) (ticket : Ticket) :
    Option (Timed (Outcome Bytes)) := do
  let (dispatch, index) ← dispatches.zipIdx.find? fun entry =>
    entry.1.generation == ticket.generation
  let (delay, fetched) := node index dispatch
  return ⟨endOfWait dispatch.time delay, settle (fetched.outcome dispatch.requests) ticket.position⟩

/-- What a caller ends with. -/
inductive CallerResult
  | one (result : Timed (Outcome Bytes))
  | many (results : Timed (List (Outcome Bytes)))
  /-- It gave up before it had its result. -/
  | abandoned

/-- The result of a caller that does not give up. -/
def Caller.awaited (node : Node) (dispatches : List Dispatch) (caller : Caller) :
    Option CallerResult :=
  match caller.demand with
  | .one ticket => (ticket.result? node dispatches).map .one
  | .many tickets => do
    let results ← tickets.mapM (Ticket.result? node dispatches)
    let last := results.foldl (fun time result => max time result.time) caller.since
    return .many ⟨last, results.map (·.value)⟩

/-- When a result is there. -/
def CallerResult.time? : CallerResult → Option Nat
  | .one result => some result.time
  | .many results => some results.time
  | .abandoned => none

/-- What a caller ends with. It does not get a result that is there only when it has given up. -/
def Caller.result (node : Node) (dispatches : List Dispatch) (caller : Caller) : CallerResult :=
  match caller.awaited node dispatches, caller.abandoned with
  | some result, none => result
  | some result, some left => if result.time?.any (· < left) then result else .abandoned
  | none, _ => .abandoned

/-- What all callers of a run end with. -/
def Execution.results (node : Node) (e : Execution) : List CallerResult :=
  e.callers.map (Caller.result node e.timeline.dispatches)

end RpcTransport.Gathering
