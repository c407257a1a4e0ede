import RpcTransport.Session.Feeds

/-!
What is done to the subscriptions of a connection: ids are entered and forgotten, values are
dispatched to them, and subscribers read their mailboxes and give them up, in any order.
-/

namespace RpcTransport.Feeds

/-- Something that is done to a table of subscriptions, or by a subscriber to its mailbox. -/
inductive Act
  /-- A subscriber sets up a mailbox. -/
  | openMailbox (capacity : Nat)
  | insert (id : String) (subscription : Subscription)
  | dispatch (id : String) (value : Json)
  | remove (id : String)
  | clear
  /-- A subscriber looks for the next value. `elsewhere` tells whether anyone can send to its mailbox
  without the table. -/
  | receive (sink : Nat) (elsewhere : Bool)
  /-- A subscriber takes no more values, but may still read. -/
  | close (sink : Nat)
  /-- A subscriber throws its mailbox away. -/
  | discard (sink : Nat)

/-- What comes of an act for whoever has done it. -/
inductive Reply
  | opened (sink : Nat)
  | inserted (replaced : Bool)
  | dispatched (delivery : Delivery)
  | removed (method : Option String)
  | cleared (count : Nat)
  | received (found : Received)
  | done

/-- Does something, and tells what comes of it. -/
def act (feeds : Feeds) : Act → Reply × Feeds
  | .openMailbox capacity =>
    let (sink, boxes) := feeds.mailboxes.add capacity
    (.opened sink, { feeds with mailboxes := boxes })
  | .insert id subscription => (.inserted (feeds.has id), feeds.insert id subscription)
  | .dispatch id value => (.dispatched (feeds.answer id), feeds.dispatch id value)
  | .remove id => (.removed (feeds.methodOf? id), feeds.remove id)
  | .clear => (.cleared feeds.count, feeds.clear)
  | .receive sink elsewhere =>
    let (found, boxes) := feeds.mailboxes.receive (elsewhere || feeds.serves sink) sink
    (.received found, { feeds with mailboxes := boxes })
  | .close sink => (.done, { feeds with mailboxes := feeds.mailboxes.close sink })
  | .discard sink => (.done, { feeds with mailboxes := feeds.mailboxes.discard sink })

/-- What has been done, the latest first, and what came of it. -/
abbrev Past := List (Act × Reply)

/-- The past and the subscriptions after one more act. -/
def proceed (scene : Past × Feeds) (act : Act) : Past × Feeds :=
  ((act, (scene.2.act act).1) :: scene.1, (scene.2.act act).2)

/-- The past and the subscriptions after some acts, from none on. -/
def play (acts : List Act) : Past × Feeds :=
  acts.foldl proceed ([], {})

end RpcTransport.Feeds
