import RpcTransport.Session.FeedActs
import RpcTransport.Proofs.Session.Frames

/-!
What the past of a table of subscriptions tells. The table is a map from ids to the mailboxes that
were inserted last: what becomes of each value, what each subscriber reads and when it learns that
nothing more will come follows from what has been done before, whatever that was.
-/

namespace RpcTransport

namespace Mailboxes

variable {boxes : Mailboxes} {sink : Nat}

theorem exists_of_full (full : boxes.answer sink = .full) :
    ∃ box, boxes[sink]? = some box ∧ box.isOpen = true ∧ box.capacity ≤ box.queue.length := by
  cases found : boxes[sink]? with
  | none =>
      rw [answer, found] at full
      cases full
  | some box =>
      rw [answer, found, Option.elim_some, Mailbox.answer] at full
      refine ⟨box, rfl, ?_⟩
      split at full
      · cases full
      · next isOpen =>
          split at full
          · next noRoom => exact ⟨by simpa using isOpen, by simpa [Mailbox.isFull] using noRoom⟩
          · cases full

/-- Whoever looks for a value finds the first one that waits, or learns that there is none. -/
theorem receive_cases (boxes : Mailboxes) (hasSender : Bool) (sink : Nat) :
    (∃ box value rest, boxes[sink]? = some box ∧ box.queue = value :: rest ∧
      boxes.receive hasSender sink =
        (.item value, boxes.modify sink fun box => { box with queue := rest })) ∨
    boxes.unread sink = [] ∧ boxes.receive hasSender sink =
      (if boxes.isFinal hasSender sink then .disconnected else .nothing, boxes) := by
  cases found : boxes[sink]? with
  | none =>
      have waiting : boxes.unread sink = [] := by rw [unread, found]; rfl
      exact Or.inr ⟨waiting, by rw [receive, waiting]⟩
  | some box =>
      have waiting : boxes.unread sink = box.queue := by rw [unread, found]; rfl
      cases queue : box.queue with
      | nil =>
          rw [queue] at waiting
          exact Or.inr ⟨waiting, by rw [receive, waiting]⟩
      | cons value rest =>
          rw [queue] at waiting
          exact Or.inl ⟨box, value, rest, rfl, queue, by rw [receive, waiting]⟩

end Mailboxes

namespace Feeds

/-! ### What the past tells -/

/-- How far a subscriber has given its mailbox up. -/
inductive ReceiverState
  /-- It takes more values. -/
  | listening
  /-- It takes no more values, but reads those that are there. -/
  | closed
  | gone
  deriving DecidableEq

/-- A subscriber with its mailbox. -/
structure Receiver where
  capacity : Nat
  state : ReceiverState

/-- A subscriber closes its mailbox. -/
def Receiver.close (receiver : Receiver) : Receiver :=
  { receiver with state := if receiver.state = .gone then .gone else .closed }

/-- A subscriber throws its mailbox away. -/
def Receiver.leave (receiver : Receiver) : Receiver :=
  { receiver with state := .gone }

namespace Past

/-- The subscription to which an id leads: the one that was inserted last, if since then the id was
not removed, the table was not cleared, and no value for the id found its subscriber closed. -/
def leads? (id : String) : Past → Option Subscription
  | [] => none
  | (.insert other subscription, _) :: past =>
    if other = id then some subscription else leads? id past
  | (.remove other, _) :: past => if other = id then none else leads? id past
  | (.dispatch other _, .dispatched .closed) :: past =>
    if other = id then none else leads? id past
  | (.clear, _) :: _ => none
  | _ :: past => leads? id past

/-- The subscriber of a mailbox, if that has been set up. -/
def receiver? (sink : Nat) : Past → Option Receiver
  | [] => none
  | (.openMailbox capacity, .opened number) :: past =>
    if number = sink then some ⟨capacity, .listening⟩ else receiver? sink past
  | (.close other, _) :: past =>
    if other = sink then (receiver? sink past).map .close else receiver? sink past
  | (.discard other, _) :: past =>
    if other = sink then (receiver? sink past).map .leave else receiver? sink past
  | _ :: past => receiver? sink past

/-- The values that were delivered to a mailbox: those for ids that led to it, in their order. -/
def delivered (sink : Nat) : Past → List Json
  | [] => []
  | (.dispatch id value, .dispatched .delivered) :: past =>
    delivered sink past ++ if (leads? id past).map (·.sink) = some sink then [value] else []
  | _ :: past => delivered sink past

/-- The values that were read from a mailbox. -/
def taken (sink : Nat) : Past → List Json
  | [] => []
  | (.receive other _, .received (.item value)) :: past =>
    taken sink past ++ if other = sink then [value] else []
  | _ :: past => taken sink past

/-- The values that were delivered to a mailbox and not read. -/
def unread (sink : Nat) (past : Past) : List Json :=
  (past.delivered sink).drop (past.taken sink).length

end Past

/-! ### The table as it is -/

/-- A mailbox is as its subscriber and the values that came and went tell. -/
structure Receiver.Has (receiver : Receiver) (taken delivered : List Json) (box : Mailbox) :
    Prop where
  capacity : box.capacity = receiver.capacity
  isOpen : box.isOpen = true ↔ receiver.state = .listening
  bounded : box.queue.length ≤ box.capacity
  ofThem : taken <+: delivered
  whole : receiver.state ≠ .gone → taken ++ box.queue = delivered
  gone : receiver.state = .gone → box.queue = []

/-- The past tells of a mailbox as it is, or of none. -/
def Past.TellsOf (past : Past) (sink : Nat) : Option Mailbox → Prop
  | none => past.receiver? sink = none ∧ past.delivered sink = [] ∧ past.taken sink = []
  | some box => ∃ receiver, past.receiver? sink = some receiver ∧
      receiver.Has (past.taken sink) (past.delivered sink) box

/-- The table and the mailboxes are as the past tells. -/
structure Mirrors (past : Past) (feeds : Feeds) : Prop where
  table : ∀ id : String, feeds.table[id]? = past.leads? id
  mailboxes : ∀ sink, past.TellsOf sink feeds.mailboxes[sink]?

variable {past later : Past} {feeds : Feeds} {sink : Nat} {box : Mailbox}

/-- What the past tells of a mailbox does not change with what tells nothing of it. -/
theorem Past.TellsOf.congr {found : Option Mailbox} (tells : past.TellsOf sink found)
    (receiver : later.receiver? sink = past.receiver? sink)
    (delivered : later.delivered sink = past.delivered sink)
    (taken : later.taken sink = past.taken sink) : later.TellsOf sink found := by
  unfold TellsOf at tells ⊢
  rwa [receiver, delivered, taken]

section Receiver

variable {receiver : Receiver} {taken delivered : List Json}

theorem Receiver.Has.close (has : receiver.Has taken delivered box) :
    receiver.close.Has taken delivered box.close where
  capacity := has.capacity
  isOpen := by
    simp only [Mailbox.close, Receiver.close, Bool.false_eq_true, false_iff]
    split <;> simp
  bounded := has.bounded
  ofThem := has.ofThem
  whole notGone := has.whole fun gone => notGone (by simp [Receiver.close, gone])
  gone isGone := has.gone (by simpa [Receiver.close] using isGone)

theorem Receiver.Has.leave (has : receiver.Has taken delivered box) :
    receiver.leave.Has taken delivered box.discard where
  capacity := has.capacity
  isOpen := by simp [Mailbox.discard, Receiver.leave]
  bounded := Nat.zero_le _
  ofThem := has.ofThem
  whole notGone := absurd rfl notGone
  gone _ := rfl

/-- A value that finds room comes last. -/
theorem Receiver.Has.push (has : receiver.Has taken delivered box) (isOpen : box.isOpen = true)
    (room : box.queue.length < box.capacity) (value : Json) :
    receiver.Has taken (delivered ++ [value]) { box with queue := box.queue ++ [value] } where
  capacity := has.capacity
  isOpen := has.isOpen
  bounded := by
    rw [List.length_append]
    exact room
  ofThem := has.ofThem.trans (List.prefix_append _ _)
  whole notGone := by rw [← List.append_assoc, has.whole notGone]
  gone isGone := by
    rw [has.isOpen.mp isOpen] at isGone
    cases isGone

/-- The value that has waited longest is read first. -/
theorem Receiver.Has.read {value : Json} {rest : List Json}
    (has : receiver.Has taken delivered box) (waiting : box.queue = value :: rest) :
    receiver.Has (taken ++ [value]) delivered { box with queue := rest } := by
  have notGone : receiver.state ≠ .gone := by
    intro isGone
    rw [has.gone isGone] at waiting
    cases waiting
  have whole : taken ++ [value] ++ rest = delivered := by
    rw [← has.whole notGone, waiting, List.append_assoc, List.singleton_append]
  refine ⟨has.capacity, has.isOpen, ?_, ⟨rest, whole⟩, fun _ => whole, fun isGone => ?_⟩
  · have bounded := has.bounded
    rw [waiting] at bounded
    exact Nat.le_of_succ_le bounded
  · exact absurd isGone notGone

/-- What waits in a mailbox is what was delivered and not read. -/
theorem Receiver.Has.queue_eq (has : receiver.Has taken delivered box)
    (notGone : receiver.state ≠ .gone) : delivered.drop taken.length = box.queue := by
  rw [← has.whole notGone, List.drop_left]

end Receiver

/-! ### One act -/

/-- Setting a mailbox up adds one, and leaves the others as they are. -/
theorem Mirrors.openMailbox (mirrors : Mirrors past feeds) (capacity sink : Nat) :
    Past.TellsOf ((.openMailbox capacity, .opened feeds.mailboxes.length) :: past) sink
      (feeds.mailboxes.add capacity).2[sink]? := by
  have before := mirrors.mailboxes sink
  rw [Mailboxes.add]
  rcases Nat.lt_trichotomy sink feeds.mailboxes.length with earlier | rfl | later
  · rw [List.getElem?_append_left earlier]
    refine before.congr ?_ rfl rfl
    simp [Past.receiver?, Nat.ne_of_gt earlier]
  · rw [List.getElem?_eq_none (Nat.le_refl _)] at before
    rw [List.getElem?_concat_length]
    obtain ⟨_, delivered, taken⟩ := before
    refine ⟨⟨capacity, .listening⟩, by simp [Past.receiver?], ?_⟩
    simp only [Past.delivered, Past.taken, delivered, taken]
    exact ⟨rfl, by simp, Nat.zero_le _, List.prefix_refl _, fun _ => rfl, fun _ => rfl⟩
  · rw [List.getElem?_eq_none (Nat.le_of_lt later)] at before
    rw [List.getElem?_eq_none (by rw [List.length_append]; exact later)]
    refine before.congr ?_ rfl rfl
    simp [Past.receiver?, Nat.ne_of_lt later]

/-- A change to one mailbox shows in what the past tells of it, and leaves the others. -/
theorem Past.TellsOf.modify {boxes : Mailboxes} {place : Nat} {change : Mailbox → Mailbox}
    (tells : ∀ sink, past.TellsOf sink boxes[sink]?)
    (here : later.TellsOf place (boxes[place]?.map change))
    (elsewhere : ∀ other, other ≠ place → later.receiver? other = past.receiver? other ∧
      later.delivered other = past.delivered other ∧ later.taken other = past.taken other)
    (sink : Nat) : later.TellsOf sink (boxes.modify place change)[sink]? := by
  refine forall_getElem?_modify here (fun other different => ?_) sink
  obtain ⟨receiver, delivered, taken⟩ := elsewhere other different
  exact (tells other).congr receiver delivered taken

/-- A subscriber gives its mailbox up, and no value comes or goes. -/
theorem Past.TellsOf.giveUp {found : Option Mailbox} {turn : Receiver → Receiver}
    {change : Mailbox → Mailbox} (tells : past.TellsOf sink found)
    (turns : ∀ {receiver taken delivered box}, Receiver.Has receiver taken delivered box →
      (turn receiver).Has taken delivered (change box))
    (receiver : later.receiver? sink = (past.receiver? sink).map turn)
    (delivered : later.delivered sink = past.delivered sink)
    (taken : later.taken sink = past.taken sink) : later.TellsOf sink (found.map change) := by
  cases found with
  | none =>
      obtain ⟨unset, noneDelivered, noneTaken⟩ := tells
      exact ⟨by rw [receiver, unset, Option.map_none], delivered.trans noneDelivered,
        taken.trans noneTaken⟩
  | some box =>
      obtain ⟨known, isThere, has⟩ := tells
      refine ⟨turn known, by rw [receiver, isThere, Option.map_some], ?_⟩
      rw [delivered, taken]
      exact turns has

theorem Mirrors.close (mirrors : Mirrors past feeds) (place sink : Nat) :
    Past.TellsOf ((.close place, .done) :: past) sink (feeds.mailboxes.close place)[sink]? := by
  refine Past.TellsOf.modify mirrors.mailboxes ?_ (fun other different => ?_) sink
  · exact (mirrors.mailboxes place).giveUp Receiver.Has.close (if_pos rfl) rfl rfl
  · exact ⟨if_neg different.symm, rfl, rfl⟩

theorem Mirrors.discard (mirrors : Mirrors past feeds) (place sink : Nat) :
    Past.TellsOf ((.discard place, .done) :: past) sink (feeds.mailboxes.discard place)[sink]? := by
  refine Past.TellsOf.modify mirrors.mailboxes ?_ (fun other different => ?_) sink
  · exact (mirrors.mailboxes place).giveUp Receiver.Has.leave (if_pos rfl) rfl rfl
  · exact ⟨if_neg different.symm, rfl, rfl⟩

theorem Mirrors.receive (mirrors : Mirrors past feeds) (place sink : Nat) (elsewhere : Bool) :
    Past.TellsOf ((.receive place elsewhere, (feeds.act (.receive place elsewhere)).1) :: past) sink
      (feeds.act (.receive place elsewhere)).2.mailboxes[sink]? := by
  obtain ⟨box, value, rest, found, queue, read⟩ | ⟨_, none⟩ :=
    Mailboxes.receive_cases feeds.mailboxes (elsewhere || feeds.serves place) place
  · simp only [act, read]
    refine Past.TellsOf.modify mirrors.mailboxes ?_ (fun other different => ?_) sink
    · have before := mirrors.mailboxes place
      rw [found] at before ⊢
      obtain ⟨receiver, isThere, has⟩ := before
      refine ⟨receiver, isThere, ?_⟩
      simpa [Past.taken, Past.delivered] using has.read queue
    · exact ⟨rfl, rfl, by simp [Past.taken, different.symm]⟩
  · simp only [act, none]
    refine (mirrors.mailboxes sink).congr rfl rfl ?_
    split <;> rfl

/-- What becomes of a value for an id, and of the subscriptions by it. -/
inductive Dispatches (feeds : Feeds) (id : String) (value : Json) : Delivery → Feeds → Prop
  | unknown (unmapped : feeds.table[id]? = none) : Dispatches feeds id value .unknown feeds
  | closed {subscription : Subscription} (leads : feeds.table[id]? = some subscription)
      (shut : ∀ box, feeds.mailboxes[subscription.sink]? = some box → box.isOpen = false) :
      Dispatches feeds id value .closed (feeds.remove id)
  | full {subscription : Subscription} {box : Mailbox}
      (leads : feeds.table[id]? = some subscription)
      (found : feeds.mailboxes[subscription.sink]? = some box) (isOpen : box.isOpen = true)
      (noRoom : box.capacity ≤ box.queue.length) : Dispatches feeds id value .full feeds
  | delivered {subscription : Subscription} {box : Mailbox}
      (leads : feeds.table[id]? = some subscription)
      (found : feeds.mailboxes[subscription.sink]? = some box) (isOpen : box.isOpen = true)
      (room : box.queue.length < box.capacity) :
      Dispatches feeds id value .delivered
        { feeds with mailboxes := feeds.mailboxes.push subscription.sink value }

theorem dispatches (feeds : Feeds) (id : String) (value : Json) :
    Dispatches feeds id value (feeds.answer id) (feeds.dispatch id value) := by
  cases leads : feeds.table[id]? with
  | none =>
      rw [dispatch_of_unknown leads, answer, leads]
      exact .unknown leads
  | some subscription =>
      have answered : feeds.answer id = feeds.mailboxes.answer subscription.sink := by
        rw [answer, leads, Option.elim_some]
      rw [answered]
      obtain room | full | closed := feeds.mailboxes.answer_cases subscription.sink
      · rw [dispatch_of_room leads room, Mailboxes.answer_eq_delivered.mpr room]
        obtain ⟨box, found, isOpen, room⟩ := room
        exact .delivered leads found isOpen room
      · rw [dispatch_of_full leads full, full]
        obtain ⟨box, found, isOpen, noRoom⟩ := Mailboxes.exists_of_full full
        exact .full leads found isOpen noRoom
      · rw [dispatch_of_closed leads closed, closed]
        exact .closed leads (Mailboxes.answer_eq_closed.mp closed)

/-- A value for an id shows in what the past tells: where it was delivered, it comes last. -/
theorem Mirrors.dispatch (mirrors : Mirrors past feeds) (id : String) (value : Json) :
    Mirrors ((.dispatch id value, .dispatched (feeds.answer id)) :: past)
      (feeds.dispatch id value) := by
  have became := dispatches feeds id value
  generalize feeds.answer id = delivery, feeds.dispatch id value = after at became
  cases became with
  | unknown | full =>
      exact ⟨mirrors.table, fun sink => (mirrors.mailboxes sink).congr rfl rfl rfl⟩
  | closed =>
      refine ⟨fun other => ?_, fun sink => (mirrors.mailboxes sink).congr rfl rfl rfl⟩
      rw [remove, SubscriptionTable.getElem?_erase, mirrors.table]
      rfl
  | @delivered subscription box leads found isOpen room =>
      have sink : (past.leads? id).map (·.sink) = some subscription.sink := by
        rw [← mirrors.table, leads, Option.map_some]
      have pushed : box.push value = { box with queue := box.queue ++ [value] } := by
        simp [Mailbox.push, Mailbox.answer, Mailbox.isFull, isOpen, room]
      refine ⟨mirrors.table, Past.TellsOf.modify mirrors.mailboxes ?_ fun other different => ?_⟩
      · have before := mirrors.mailboxes subscription.sink
        rw [found] at before ⊢
        obtain ⟨receiver, isThere, has⟩ := before
        refine ⟨receiver, isThere, ?_⟩
        simpa [Past.delivered, Past.taken, sink, pushed] using has.push isOpen room value
      · exact ⟨rfl, by simp [Past.delivered, sink, different.symm], rfl⟩

/-- Whatever is done, the table and the mailboxes are as the past tells. -/
theorem Mirrors.act (mirrors : Mirrors past feeds) (act : Act) :
    Mirrors ((act, (feeds.act act).1) :: past) (feeds.act act).2 := by
  have table := mirrors.table
  have mailboxes := mirrors.mailboxes
  cases act with
  | openMailbox capacity => exact ⟨table, mirrors.openMailbox capacity⟩
  | dispatch id value => exact mirrors.dispatch id value
  | receive sink elsewhere =>
      refine ⟨fun id => ?_, fun other => mirrors.receive sink other elsewhere⟩
      exact table id
  | close sink => exact ⟨table, mirrors.close sink⟩
  | discard sink => exact ⟨table, mirrors.discard sink⟩
  | insert id subscription =>
      refine ⟨fun other => ?_, fun sink => (mailboxes sink).congr rfl rfl rfl⟩
      exact (SubscriptionTable.getElem?_insert _ _ _ _).trans (by rw [table]; rfl)
  | remove id =>
      refine ⟨fun other => ?_, fun sink => (mailboxes sink).congr rfl rfl rfl⟩
      exact (SubscriptionTable.getElem?_erase _ _ _).trans (by rw [table]; rfl)
  | clear =>
      refine ⟨fun other => ?_, fun sink => (mailboxes sink).congr rfl rfl rfl⟩
      exact Std.ExtTreeMap.getElem?_empty

theorem mirrors_play (acts : List Act) : Mirrors (play acts).1 (play acts).2 := by
  induction acts using List.reverseRecOn with
  | nil =>
      exact ⟨fun id => Std.ExtTreeMap.getElem?_empty, fun sink => ⟨rfl, rfl, rfl⟩⟩
  | append_singleton acts act inductionHypothesis =>
      rw [play, List.foldl_concat]
      exact inductionHypothesis.act act

/-! ### What comes of the next act -/

theorem serves_iff : feeds.serves sink = true ↔
    ∃ (id : String) (subscription : Subscription), feeds.table[id]? = some subscription ∧
      subscription.sink = sink := by
  rw [serves, Session.values_any]
  simp only [beq_iff_eq]

/-- What comes of every next act follows from the past. -/
structure FollowsPast (past : Past) (feeds : Feeds) : Prop where
  /-- An id leads to what was inserted last under it, and not removed, cleared or found closed. -/
  leads : ∀ id : String, feeds.table[id]? = past.leads? id
  inserted : ∀ id subscription,
    (feeds.act (.insert id subscription)).1 = .inserted (past.leads? id).isSome
  removed : ∀ id, (feeds.act (.remove id)).1 = .removed ((past.leads? id).map (·.method))
  cleared : (feeds.act .clear).1 = .cleared {id | (past.leads? id).isSome}.ncard
  unknown : ∀ id value,
    (feeds.act (.dispatch id value)).1 = .dispatched .unknown ↔ past.leads? id = none
  /-- A value finds its id closed just if the subscriber has closed its mailbox or thrown it
  away. -/
  closed : ∀ id value,
    (feeds.act (.dispatch id value)).1 = .dispatched .closed ↔
      ∃ subscription, past.leads? id = some subscription ∧
        ∀ receiver, past.receiver? subscription.sink = some receiver → receiver.state ≠ .listening
  /-- Then this id is forgotten, and nothing else. -/
  forgets : ∀ id value, (feeds.act (.dispatch id value)).1 = .dispatched .closed →
    (feeds.act (.dispatch id value)).2 = feeds.remove id
  /-- A value finds the mailbox full just if as many values wait in it as it holds. -/
  full : ∀ id value,
    (feeds.act (.dispatch id value)).1 = .dispatched .full ↔
      ∃ subscription capacity, past.leads? id = some subscription ∧
        past.receiver? subscription.sink = some ⟨capacity, .listening⟩ ∧
        (past.unread subscription.sink).length = capacity
  /-- Then nothing changes. -/
  drops : ∀ id value, (feeds.act (.dispatch id value)).1 = .dispatched .full →
    (feeds.act (.dispatch id value)).2 = feeds
  delivered : ∀ id value,
    (feeds.act (.dispatch id value)).1 = .dispatched .delivered ↔
      ∃ subscription capacity, past.leads? id = some subscription ∧
        past.receiver? subscription.sink = some ⟨capacity, .listening⟩ ∧
        (past.unread subscription.sink).length < capacity
  /-- What has been read from a mailbox are the first of the values that were delivered to it. -/
  inOrder : ∀ sink, past.taken sink <+: past.delivered sink
  /-- A subscriber reads the first of the others, if there are any. -/
  reads : ∀ sink elsewhere receiver value, past.receiver? sink = some receiver →
    receiver.state ≠ .gone →
    ((feeds.act (.receive sink elsewhere)).1 = .received (.item value) ↔
      (past.unread sink).head? = some value)
  /-- A subscriber learns that nothing more will come just if it has read everything, and has closed
  its mailbox, or neither the table nor anyone else can send to it. -/
  ends : ∀ sink elsewhere receiver, past.receiver? sink = some receiver → receiver.state ≠ .gone →
    ((feeds.act (.receive sink elsewhere)).1 = .received .disconnected ↔
      past.unread sink = [] ∧ (receiver.state = .closed ∨ elsewhere = false ∧
        ∀ id subscription, past.leads? id = some subscription → subscription.sink ≠ sink))

/-- What becomes of a value for an id that leads somewhere is what becomes of it there. -/
theorem answer_eq {id : String} {delivery : Delivery} (known : delivery ≠ .unknown) :
    feeds.answer id = delivery ↔ ∃ subscription, feeds.table[id]? = some subscription ∧
      feeds.mailboxes.answer subscription.sink = delivery := by
  rw [answer]
  cases feeds.table[id]? with
  | none => simpa using known.symm
  | some subscription => simp

theorem answer_eq_unknown {id : String} : feeds.answer id = .unknown ↔ feeds.table[id]? = none := by
  rw [answer]
  cases feeds.table[id]? with
  | none => simp
  | some subscription =>
      obtain room | full | closed := feeds.mailboxes.answer_cases subscription.sink
      · simp [Mailboxes.answer_eq_delivered.mpr room]
      · simp [full]
      · simp [closed]

/-- Every mailbox has a subscriber. -/
theorem Mirrors.receiver (mirrors : Mirrors past feeds)
    (found : feeds.mailboxes[sink]? = some box) :
    ∃ receiver, past.receiver? sink = some receiver ∧
      receiver.Has (past.taken sink) (past.delivered sink) box := by
  have tells := mirrors.mailboxes sink
  rwa [found] at tells

/-- Every subscriber has a mailbox. -/
theorem Mirrors.mailbox (mirrors : Mirrors past feeds) {receiver : Receiver}
    (known : past.receiver? sink = some receiver) : ∃ box, feeds.mailboxes[sink]? = some box ∧
      receiver.Has (past.taken sink) (past.delivered sink) box := by
  have tells := mirrors.mailboxes sink
  cases found : feeds.mailboxes[sink]? with
  | none =>
      rw [found] at tells
      cases tells.1.symm.trans known
  | some box =>
      rw [found] at tells
      obtain ⟨other, isThere, has⟩ := tells
      cases isThere.symm.trans known
      exact ⟨box, rfl, has⟩

/-- A mailbox is open just if a subscriber with this room listens, and then what was not read waits
in it. -/
theorem Mirrors.listens_of_open (mirrors : Mirrors past feeds)
    (found : feeds.mailboxes[sink]? = some box) (isOpen : box.isOpen = true) :
    past.receiver? sink = some ⟨box.capacity, .listening⟩ ∧ past.unread sink = box.queue := by
  obtain ⟨⟨capacity, state⟩, known, has⟩ := mirrors.receiver found
  obtain rfl : state = .listening := has.isOpen.mp isOpen
  exact ⟨by rw [known, has.capacity], has.queue_eq nofun⟩

theorem Mirrors.open_of_listens (mirrors : Mirrors past feeds) {capacity : Nat}
    (known : past.receiver? sink = some ⟨capacity, .listening⟩) :
    ∃ box, feeds.mailboxes[sink]? = some box ∧ box.isOpen = true ∧ box.capacity = capacity ∧
      past.unread sink = box.queue := by
  obtain ⟨box, found, has⟩ := mirrors.mailbox known
  exact ⟨box, found, has.isOpen.mpr rfl, has.capacity, has.queue_eq nofun⟩

theorem Mirrors.answer_eq_closed (mirrors : Mirrors past feeds) :
    feeds.mailboxes.answer sink = .closed ↔
      ∀ receiver, past.receiver? sink = some receiver → receiver.state ≠ .listening := by
  rw [Mailboxes.answer_eq_closed]
  constructor
  · rintro shut receiver known listening
    obtain ⟨box, found, has⟩ := mirrors.mailbox known
    exact absurd (has.isOpen.mpr listening) (Bool.eq_false_iff.mp (shut box found))
  · rintro deaf box found
    obtain ⟨receiver, known, has⟩ := mirrors.receiver found
    exact Bool.eq_false_iff.mpr fun isOpen => deaf receiver known (has.isOpen.mp isOpen)

theorem Mirrors.answer_eq_full (mirrors : Mirrors past feeds) :
    feeds.mailboxes.answer sink = .full ↔
      ∃ capacity, past.receiver? sink = some ⟨capacity, .listening⟩ ∧
        (past.unread sink).length = capacity := by
  constructor
  · intro full
    obtain ⟨box, found, isOpen, noRoom⟩ := Mailboxes.exists_of_full full
    obtain ⟨_, _, has⟩ := mirrors.receiver found
    obtain ⟨known, unread⟩ := mirrors.listens_of_open found isOpen
    exact ⟨_, known, by rw [unread, Nat.le_antisymm has.bounded noRoom]⟩
  · rintro ⟨capacity, known, whole⟩
    obtain ⟨box, found, isOpen, rfl, unread⟩ := mirrors.open_of_listens known
    exact Mailboxes.answer_of_full found isOpen (Nat.le_of_eq (unread ▸ whole.symm))

theorem Mirrors.answer_eq_delivered (mirrors : Mirrors past feeds) :
    feeds.mailboxes.answer sink = .delivered ↔
      ∃ capacity, past.receiver? sink = some ⟨capacity, .listening⟩ ∧
        (past.unread sink).length < capacity := by
  rw [Mailboxes.answer_eq_delivered]
  constructor
  · rintro ⟨box, found, isOpen, room⟩
    obtain ⟨known, unread⟩ := mirrors.listens_of_open found isOpen
    exact ⟨_, known, unread ▸ room⟩
  · rintro ⟨capacity, known, room⟩
    obtain ⟨box, found, isOpen, rfl, unread⟩ := mirrors.open_of_listens known
    exact ⟨box, found, isOpen, unread ▸ room⟩

/-- What becomes of a value for an id that leads somewhere, as the past tells. -/
theorem Mirrors.dispatched_iff (mirrors : Mirrors past feeds) {delivery : Delivery}
    (known : delivery ≠ .unknown) {tells : Nat → Prop}
    (there : ∀ sink, feeds.mailboxes.answer sink = delivery ↔ tells sink) (id : String)
    (value : Json) : (feeds.act (.dispatch id value)).1 = .dispatched delivery ↔
      ∃ subscription, past.leads? id = some subscription ∧ tells subscription.sink := by
  have answered : (feeds.act (.dispatch id value)).1 = .dispatched delivery ↔
      feeds.answer id = delivery := by simp [Feeds.act]
  rw [answered, answer_eq known, mirrors.table]
  simp only [there]

/-- A subscriber finds the first value that it has not read. If there is none, it learns whether one
may come. -/
theorem Mirrors.received (mirrors : Mirrors past feeds) {receiver : Receiver}
    (known : past.receiver? sink = some receiver) (notGone : receiver.state ≠ .gone)
    (elsewhere : Bool) :
    (∃ value rest, past.unread sink = value :: rest ∧
      (feeds.act (.receive sink elsewhere)).1 = .received (.item value)) ∨
    past.unread sink = [] ∧ (feeds.act (.receive sink elsewhere)).1 = .received
      (if receiver.state = .closed ∨ (elsewhere || feeds.serves sink) = false then .disconnected
        else .nothing) := by
  obtain ⟨box, found, has⟩ := mirrors.mailbox known
  have waiting : past.unread sink = box.queue := has.queue_eq notGone
  rw [waiting]
  obtain ⟨other, value, rest, same, queue, read⟩ | ⟨none, nothing⟩ :=
    Mailboxes.receive_cases feeds.mailboxes (elsewhere || feeds.serves sink) sink
  · cases found.symm.trans same
    exact Or.inl ⟨value, rest, queue, by simp only [Feeds.act, read]⟩
  · rw [Mailboxes.unread, found] at none
    refine Or.inr ⟨none, ?_⟩
    have shut : receiver.state = .closed ↔ box.isOpen = false := by
      rw [Bool.eq_false_iff, ne_eq, has.isOpen]
      cases state : receiver.state with
      | listening | closed => simp
      | gone => exact absurd state notGone
    simp only [Feeds.act, nothing, Mailboxes.isFinal, found, Option.any_some, shut]
    cases box.isOpen <;> cases elsewhere || feeds.serves sink <;> rfl

/-- Whatever has been done with a table of subscriptions and the mailboxes of its subscribers, what
comes of the next act follows from the past. -/
theorem follows_past (acts : List Act) : FollowsPast (play acts).1 (play acts).2 := by
  have mirrors := mirrors_play acts
  generalize (play acts).1 = past, (play acts).2 = feeds at mirrors ⊢
  constructor
  case leads => exact mirrors.table
  case inserted =>
    intro id subscription
    show Reply.inserted (feeds.table.contains id) = _
    rw [Std.ExtTreeMap.contains_eq_isSome_getElem?, mirrors.table]
  case removed =>
    intro id
    show Reply.removed (feeds.table[id]?.map (·.method)) = _
    rw [mirrors.table]
  case cleared =>
    show Reply.cleared feeds.table.size = _
    rw [Session.size_eq_ncard]
    simp only [mirrors.table]
  case unknown =>
    intro id value
    rw [← mirrors.table, ← answer_eq_unknown]
    simp [Feeds.act]
  case closed =>
    exact mirrors.dispatched_iff (by decide) fun sink => mirrors.answer_eq_closed
  case forgets =>
    intro id value replied
    obtain ⟨subscription, leads, closed⟩ :=
      (answer_eq (by decide)).mp (Reply.dispatched.inj replied)
    exact dispatch_of_closed leads closed value
  case full =>
    intro id value
    rw [mirrors.dispatched_iff (by decide) fun sink => mirrors.answer_eq_full]
    simp only [exists_and_left]
  case drops =>
    intro id value replied
    obtain ⟨subscription, leads, full⟩ := (answer_eq (by decide)).mp (Reply.dispatched.inj replied)
    exact dispatch_of_full leads full value
  case delivered =>
    intro id value
    rw [mirrors.dispatched_iff (by decide) fun sink => mirrors.answer_eq_delivered]
    simp only [exists_and_left]
  case inOrder =>
    intro sink
    have tells := mirrors.mailboxes sink
    cases found : feeds.mailboxes[sink]? with
    | none =>
        rw [found] at tells
        rw [tells.2.2]
        exact List.nil_prefix
    | some box =>
        obtain ⟨_, _, has⟩ := mirrors.receiver found
        exact has.ofThem
  case reads =>
    intro sink elsewhere receiver value known notGone
    obtain ⟨first, rest, unread, replied⟩ | ⟨unread, replied⟩ :=
      mirrors.received known notGone elsewhere
    · rw [unread, replied]
      simp
    · rw [unread, replied]
      split <;> simp
  case ends =>
    intro sink elsewhere receiver known notGone
    have unserved : (elsewhere || feeds.serves sink) = false ↔ elsewhere = false ∧
        ∀ id subscription, past.leads? id = some subscription → subscription.sink ≠ sink := by
      rw [Bool.or_eq_false_iff, Bool.eq_false_iff (b := feeds.serves sink), ne_eq, serves_iff]
      simp only [mirrors.table, not_exists, not_and]
    rw [← unserved]
    obtain ⟨first, rest, unread, replied⟩ | ⟨unread, replied⟩ :=
      mirrors.received known notGone elsewhere
    · rw [unread, replied]
      simp
    · rw [unread, replied]
      split
      · next final => simpa using final
      · next open_ => simpa using open_

end Feeds

end RpcTransport
