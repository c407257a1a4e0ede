import RpcTransport.Session.Mailbox
import Std.Data.ExtTreeMap

/-!
Subscriptions by the ids that the node has given them. Each id leads to one mailbox; a mailbox can
serve several ids.
-/

namespace RpcTransport

/-- A subscription: the method that made it and the mailbox for its values. -/
structure Subscription where
  method : String
  sink : Nat
  deriving DecidableEq

/-- Subscriptions by id. -/
abbrev SubscriptionTable := Std.ExtTreeMap String Subscription

/-- The subscriptions of a connection and the mailboxes of its subscribers. -/
structure Feeds where
  table : SubscriptionTable := ∅
  mailboxes : Mailboxes := []

namespace Feeds

/-- Whether an id leads anywhere. -/
def has (id : String) (feeds : Feeds) : Bool :=
  feeds.table.contains id

/-- The method of a subscription. -/
def methodOf? (id : String) (feeds : Feeds) : Option String :=
  feeds.table[id]?.map (·.method)

/-- Lets an id lead to a subscription, in place of an earlier one. -/
def insert (id : String) (subscription : Subscription) (feeds : Feeds) : Feeds :=
  { feeds with table := feeds.table.insert id subscription }

/-- Forgets an id. -/
def remove (id : String) (feeds : Feeds) : Feeds :=
  { feeds with table := feeds.table.erase id }

/-- Forgets all ids. -/
def clear (feeds : Feeds) : Feeds :=
  { feeds with table := ∅ }

/-- What becomes of a value for an id. -/
def answer (id : String) (feeds : Feeds) : Delivery :=
  feeds.table[id]?.elim .unknown fun subscription => feeds.mailboxes.answer subscription.sink

/-- Puts a value into the mailbox of an id. An id whose subscriber takes no more is forgotten. -/
def dispatch (id : String) (value : Json) (feeds : Feeds) : Feeds :=
  match feeds.table[id]? with
  | none => feeds
  | some subscription =>
    if feeds.mailboxes.answer subscription.sink = .closed then feeds.remove id
    else { feeds with mailboxes := feeds.mailboxes.push subscription.sink value }

/-- The number of subscriptions. -/
def count (feeds : Feeds) : Nat :=
  feeds.table.size

/-- Whether some id leads to a mailbox. -/
def serves (sink : Nat) (feeds : Feeds) : Bool :=
  feeds.table.values.any (·.sink == sink)

end Feeds

end RpcTransport
