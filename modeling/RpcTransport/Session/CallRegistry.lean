import RpcTransport.Message.Envelope
import RpcTransport.Session.Feeds

/-!
Calls that wait for an answer, by id. A registration is answered at most once: whoever takes it out
of the table holds the only means to answer it. A caller whose registration is gone unanswered
learns that no answer will come.
-/

namespace RpcTransport

/-- A call that waits: the number of its registration and, if an answer is to begin a subscription,
that subscription. -/
structure Awaited where
  call : Nat
  subscription : Option Subscription
  deriving DecidableEq

/-- The mailbox of the subscription that an answer would begin. -/
def Awaited.sink? (awaited : Awaited) : Option Nat :=
  awaited.subscription.map (·.sink)

/-- Waiting calls by id. -/
abbrev CallTable := Std.ExtTreeMap String Awaited

/-- Where the answer for a registration is laid down. -/
inductive AnswerSlot
  | empty
  | ready (answer : Envelope)
  | read

/-- The caller of a registration. -/
structure Waiter where
  slot : AnswerSlot := .empty
  /-- Whether the caller still wants the answer. -/
  listens : Bool := true

/-- What a caller sees who looks for its answer. -/
inductive Polled
  | ready (answer : Envelope)
  | empty
  /-- No answer will come. -/
  | closed

/-- Calls in the table and calls that were taken out to be answered. -/
structure CallRegistry where
  table : CallTable := ∅
  taken : List Awaited := []
  /-- The callers, by number of their registration. -/
  waiters : List Waiter := []
  mailboxes : Mailboxes := []

namespace CallRegistry

/-- Registers a call under an id, in place of an earlier one, and tells its number. -/
def register (id : String) (subscription : Option Subscription) (r : CallRegistry) :
    Nat × CallRegistry :=
  let call := r.waiters.length
  (call,
    { r with
      table := r.table.insert id ⟨call, subscription⟩
      waiters := r.waiters ++ [⟨.empty, true⟩] })

/-- Takes the call of an id out of the table. -/
def take (id : String) (r : CallRegistry) : Option Awaited × CallRegistry :=
  match r.table[id]? with
  | none => (none, r)
  | some awaited =>
    (some awaited, { r with table := r.table.erase id, taken := awaited :: r.taken })

/-- Lets go of a call that was taken out. -/
def release (call : Nat) (r : CallRegistry) : CallRegistry :=
  { r with taken := r.taken.filter (·.call != call) }

/-- Whether a caller would take an answer. -/
def listens (call : Nat) (r : CallRegistry) : Bool :=
  r.waiters[call]?.any (·.listens)

/-- Answers a call that was taken out, if its caller still wants the answer, and lets go of it. -/
def reply (call : Nat) (answer : Envelope) (r : CallRegistry) : CallRegistry :=
  if r.taken.any (·.call == call) && r.listens call then
    let lay (waiter : Waiter) : Waiter := { waiter with slot := .ready answer }
    { r.release call with waiters := r.waiters.modify call lay }
  else r.release call

/-- Whether someone may still answer a registration. -/
def isHeld (call : Nat) (r : CallRegistry) : Bool :=
  r.table.values.any (·.call == call) || r.taken.any (·.call == call)

/-- Looks for the answer, and takes it if it is there. -/
def poll (call : Nat) (r : CallRegistry) : Polled × CallRegistry :=
  match r.waiters[call]? with
  | some ⟨.ready answer, _⟩ =>
    (.ready answer,
      { r with waiters := r.waiters.modify call fun waiter => { waiter with slot := .read } })
  | _ => (if r.isHeld call then .empty else .closed, r)

/-- Wants the answer no more. -/
def hangUp (call : Nat) (r : CallRegistry) : CallRegistry :=
  { r with waiters := r.waiters.modify call fun waiter => { waiter with listens := false } }

/-- Forgets the call of an id. -/
def cancel (id : String) (r : CallRegistry) : CallRegistry :=
  { r with table := r.table.erase id }

/-- Forgets all calls in the table. -/
def clear (r : CallRegistry) : CallRegistry :=
  { r with table := ∅ }

/-- The number of calls in the table. -/
def count (r : CallRegistry) : Nat :=
  r.table.size

/-- The mailbox of the subscription that the answer to a call that was taken out would begin. -/
def takenSink? (r : CallRegistry) (call : Nat) : Option Nat :=
  (r.taken.find? (·.call == call)).bind Awaited.sink?

/-- Whether some call, in the table or taken out, can send to a mailbox. -/
def serves (sink : Nat) (r : CallRegistry) : Bool :=
  r.table.values.any (·.sink? == some sink) || r.taken.any (·.sink? == some sink)

end CallRegistry

end RpcTransport
