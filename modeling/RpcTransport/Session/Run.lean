import RpcTransport.Session.Basic

/-!
Runs of a session: what can happen to it, in any order.
-/

namespace RpcTransport.Session

/-- Something that happens to a session, in one step. -/
inductive Event
  /-- A subscriber sets up a mailbox. -/
  | openMailbox (capacity : Nat)
  /-- A subscriber reads a value from its mailbox. -/
  | receive (sink : Nat)
  /-- A subscriber takes no more values. -/
  | closeMailbox (sink : Nat)
  | start
  | dialFailed (start : Nat) (text : String)
  | redial (start : Nat)
  | dialSucceeded (start : Nat)
  | launch (start : Nat)
  | abandonStart (start : Nat)
  | call (id method : String) (params : List Json)
  | subscribe (id method event : String) (params : List Json) (sink : Nat)
  | unsubscribe (id subscription : String)
  | abandon (call : Nat)
  | frame (bytes : Bytes)
  | teardown

/-- Changes the mailboxes. -/
def mapMailboxes (f : Mailboxes → Mailboxes) (session : Session) : Session :=
  { session with feeds := { session.feeds with mailboxes := f session.feeds.mailboxes } }

/-- The session after an event. -/
def step (session : Session) : Event → Session
  | .openMailbox capacity => session.mapMailboxes fun boxes => (boxes.add capacity).2
  | .receive sink =>
    session.mapMailboxes fun boxes => (boxes.receive (session.serves sink) sink).2
  | .closeMailbox sink => session.mapMailboxes (Mailboxes.close sink)
  | .start => session.start.2
  | .dialFailed start text => session.dialFailed start text
  | .redial start => session.redial start
  | .dialSucceeded start => session.dialSucceeded start
  | .launch start => session.launch start
  | .abandonStart start => session.abandonStart start
  | .call id method params => (session.call id method params).2
  | .subscribe id method event params sink => (session.subscribe id method event params sink).2
  | .unsubscribe id subscription => (session.unsubscribe id subscription).2
  | .abandon call => session.abandon call
  | .frame bytes => session.frame bytes
  | .teardown => session.teardown

/-- The session after some events. -/
def run (session : Session) (events : List Event) : Session :=
  events.foldl step session

end RpcTransport.Session
