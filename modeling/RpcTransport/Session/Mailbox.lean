import RpcTransport.Json.Basic

/-!
Mailboxes, through which values reach a subscriber. A mailbox holds as many unread values as it has
capacity, in the order in which they came; a value that finds it full is lost.
-/

namespace RpcTransport

/-- What became of a value for a subscriber. -/
inductive Delivery
  | delivered
  /-- The mailbox is full. -/
  | full
  /-- The subscriber takes no more values. -/
  | closed
  /-- There is no such subscription. -/
  | unknown
  deriving DecidableEq

/-- The values that a subscriber has not read yet. -/
structure Mailbox where
  capacity : Nat
  queue : List Json := []
  /-- Whether the subscriber still takes values. -/
  isOpen : Bool := true

namespace Mailbox

/-- Whether there is no room for another value. -/
def isFull (box : Mailbox) : Bool :=
  box.capacity ≤ box.queue.length

/-- What becomes of a value that is put in now. -/
def answer (box : Mailbox) : Delivery :=
  if !box.isOpen then .closed else if box.isFull then .full else .delivered

/-- Puts a value in, if it can be delivered. -/
def push (value : Json) (box : Mailbox) : Mailbox :=
  if box.answer = .delivered then { box with queue := box.queue ++ [value] } else box

/-- Takes no more values. Those that are there can still be read. -/
def close (box : Mailbox) : Mailbox :=
  { box with isOpen := false }

/-- Throws the mailbox away with what is in it. -/
def discard (box : Mailbox) : Mailbox :=
  { box with queue := [], isOpen := false }

end Mailbox

/-- What a subscriber sees who looks for the next value. -/
inductive Received
  | item (value : Json)
  /-- Nothing now, but something may come. -/
  | nothing
  /-- Nothing, and nothing will come. -/
  | disconnected

/-- All mailboxes, by number. -/
abbrev Mailboxes := List Mailbox

namespace Mailboxes

/-- What becomes of a value that is put into a mailbox now. -/
def answer (sink : Nat) (boxes : Mailboxes) : Delivery :=
  boxes[sink]?.elim .closed Mailbox.answer

/-- Puts a value into a mailbox, if it can be delivered. -/
def push (sink : Nat) (value : Json) (boxes : Mailboxes) : Mailboxes :=
  boxes.modify sink (Mailbox.push value)

/-- The values in a mailbox. -/
def unread (sink : Nat) (boxes : Mailboxes) : List Json :=
  boxes[sink]?.elim [] Mailbox.queue

/-- Whether nothing can come into a mailbox any more, given whether anyone can send to it. -/
def isFinal (hasSender : Bool) (sink : Nat) (boxes : Mailboxes) : Bool :=
  !hasSender || !boxes[sink]?.any Mailbox.isOpen

/-- Reads the next value, given whether anyone can send to the mailbox. -/
def receive (hasSender : Bool) (sink : Nat) (boxes : Mailboxes) : Received × Mailboxes :=
  match boxes.unread sink with
  | value :: rest => (.item value, boxes.modify sink fun box => { box with queue := rest })
  | [] => (if boxes.isFinal hasSender sink then .disconnected else .nothing, boxes)

/-- Takes no more values into a mailbox. -/
def close (sink : Nat) (boxes : Mailboxes) : Mailboxes :=
  boxes.modify sink Mailbox.close

/-- Throws a mailbox away. -/
def discard (sink : Nat) (boxes : Mailboxes) : Mailboxes :=
  boxes.modify sink Mailbox.discard

/-- Sets up a mailbox and tells its number. -/
def add (capacity : Nat) (boxes : Mailboxes) : Nat × Mailboxes :=
  (boxes.length, boxes ++ [⟨capacity, [], true⟩])

/-- Reads all values that are there. -/
def drain (sink : Nat) (boxes : Mailboxes) : List Json × Mailboxes :=
  (boxes.unread sink, boxes.modify sink fun box => { box with queue := [] })

end Mailboxes

end RpcTransport
