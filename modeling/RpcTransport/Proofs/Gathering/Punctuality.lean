import RpcTransport.Proofs.Gathering.Cutting
import RpcTransport.Proofs.Gathering.Isolation

/-!
Windows are sent punctually. A run sends exactly the blocks into which its requests are cut
greedily, each with just these requests and at just this time; no alarm of a window that was filled,
and no caller that gives up, changes anything about it.
-/

namespace RpcTransport.Gathering

/-- The milliseconds after which the alarm of a window rings: its wait, but at most thirty years. -/
abbrev Limits.patience (limits : Limits) : Nat :=
  min limits.wait longestWait

namespace Timeline

variable {limits : Limits} {t u : Timeline}

/-! ### Ringing for a window -/

/-- An alarm of another window is not heard. -/
theorem ring_of_other {alarm : Alarm}
    (other : ∀ window ∈ t.gatherer.window, window.generation ≠ alarm.generation) :
    t.ring alarm = t := by
  rw [ring, Gatherer.wake_of_other other]
  rfl

theorem foldl_ring_of_other {due : List Alarm}
    (other : ∀ alarm ∈ due, ∀ window ∈ t.gatherer.window, window.generation ≠ alarm.generation) :
    due.foldl ring t = t := by
  induction due with
  | nil => rfl
  | cons alarm due inductionHypothesis =>
      rw [List.foldl_cons, ring_of_other (other alarm List.mem_cons_self)]
      exact inductionHypothesis fun alarm member => other alarm (List.mem_cons_of_mem _ member)

/-- Closes the open window and sends it. -/
def close (time : Nat) (window : Window) (t : Timeline) : Timeline :=
  send time window { t with gatherer := { t.gatherer with window := none } }

/-- The alarm of the open window sends it, whatever other alarms ring with it. -/
theorem foldl_ring_of_open {due : List Alarm} {window : Window} {deadline : Nat}
    (isOpen : t.gatherer.window = some window)
    (own : ⟨deadline, window.generation⟩ ∈ due)
    (only : ∀ alarm ∈ due, alarm.generation = window.generation → alarm.deadline = deadline) :
    due.foldl ring t = t.close deadline window := by
  induction due with
  | nil => cases own
  | cons alarm due inductionHypothesis =>
      have onlyRest : ∀ alarm ∈ due, alarm.generation = window.generation →
          alarm.deadline = deadline := fun alarm member =>
        only alarm (List.mem_cons_of_mem _ member)
      by_cases same : alarm.generation = window.generation
      · have closes : t.ring alarm = t.close deadline window := by
          rw [ring, same, Gatherer.wake_of_open isOpen, only alarm List.mem_cons_self same]
          rfl
        rw [List.foldl_cons, closes]
        apply foldl_ring_of_other
        intro _ _ _ noWindow
        cases noWindow
      · have kept : t.ring alarm = t := by
          apply ring_of_other
          intro other isOther
          rw [isOpen] at isOther
          cases isOther
          exact Ne.symm same
        rw [List.foldl_cons, kept]
        rcases List.mem_cons.mp own with rfl | own
        · exact absurd rfl same
        · exact inductionHypothesis own onlyRest

/-! ### Open windows and none -/

/-- No window is open. -/
structure Idle (limits : Limits) (t : Timeline) : Prop where
  orderly : t.Orderly limits
  noWindow : t.gatherer.window = none

/-- A window is open. It has taken these entries and is not full, and its alarm is set. -/
structure Holds (limits : Limits) (first : Entry) (more : List Entry) (generation : Nat)
    (t : Timeline) : Prop where
  orderly : t.Orderly limits
  isOpen : t.gatherer.window = some ⟨generation, (first :: more).map Entry.request⟩
  alarm : ⟨endOfWait first.time limits.wait, generation⟩ ∈ t.alarms
  only : ∀ alarm ∈ t.alarms, alarm.generation = generation →
    alarm.deadline = endOfWait first.time limits.wait
  hasRoom : HasRoom limits.maxSize (more.length + 1)

/-- What was sent, and when. -/
def sent (t : Timeline) : List (Nat × List Request) :=
  t.dispatches.map fun dispatch => (dispatch.time, dispatch.requests)

/-! ### Time that passes -/

/-- Letting time pass in one equation. -/
theorem elapse_eq (t : Timeline) (time : Nat) :
    t.elapse time =
      { (t.alarms.filter fun alarm => decide (alarm.deadline < time)).foldl ring t with
        now := max t.now time
        alarms := t.alarms.filter fun alarm => !decide (alarm.deadline < time) } := by
  simp only [elapse, ringAll_eq]

theorem Idle.foldl_ring (idle : t.Idle limits) (due : List Alarm) : due.foldl ring t = t :=
  foldl_ring_of_other fun _ _ window isOpen => by
    rw [idle.noWindow] at isOpen
    cases isOpen

/-- While no window is open, time passes without effect. -/
theorem Idle.elapse (idle : t.Idle limits) (time : Nat) :
    (t.elapse time).Idle limits ∧ (t.elapse time).sent = t.sent := by
  have orderly := idle.orderly.elapse time
  rw [elapse_eq, idle.foldl_ring] at orderly ⊢
  exact ⟨⟨orderly, idle.noWindow⟩, rfl⟩

theorem Idle.finish (idle : t.Idle limits) : t.finish.sent = t.sent := by
  rw [Timeline.finish, ringAll_eq, idle.foldl_ring]
  rfl

section Holds

variable {first : Entry} {more : List Entry} {generation time : Nat}

/-- Alarms among which is that of the open window send it at its deadline. -/
theorem Holds.foldl_ring (holds : t.Holds limits first more generation) {due : List Alarm}
    (some : due ⊆ t.alarms) (own : ⟨endOfWait first.time limits.wait, generation⟩ ∈ due) :
    due.foldl ring t =
      t.close (endOfWait first.time limits.wait) ⟨generation, (first :: more).map Entry.request⟩ :=
  foldl_ring_of_open holds.isOpen own fun alarm member => holds.only alarm (some member)

/-- Until its deadline an open window stays as it is. -/
theorem Holds.elapse (holds : t.Holds limits first more generation)
    (early : time ≤ endOfWait first.time limits.wait) :
    (t.elapse time).Holds limits first more generation ∧ (t.elapse time).sent = t.sent := by
  have unheard :
      (t.alarms.filter fun alarm => decide (alarm.deadline < time)).foldl ring t = t := by
    apply foldl_ring_of_other
    intro alarm member window isOpen same
    obtain ⟨isSet, due⟩ := List.mem_filter.mp member
    rw [holds.isOpen] at isOpen
    cases isOpen
    rw [holds.only alarm isSet same.symm] at due
    exact Nat.not_lt.mpr early (of_decide_eq_true due)
  have kept : (⟨endOfWait first.time limits.wait, generation⟩ : Alarm) ∈
      t.alarms.filter fun alarm => !decide (alarm.deadline < time) :=
    List.mem_filter.mpr ⟨holds.alarm, by simpa using early⟩
  have orderly := holds.orderly.elapse time
  rw [elapse_eq, unheard] at orderly ⊢
  refine ⟨⟨orderly, holds.isOpen, kept, ?_, holds.hasRoom⟩, rfl⟩
  exact fun alarm member => holds.only alarm (List.mem_of_mem_filter member)

/-- After its deadline an open window has been sent, as it was, at its deadline. -/
theorem Holds.elapse_late (holds : t.Holds limits first more generation)
    (late : endOfWait first.time limits.wait < time) :
    (t.elapse time).Idle limits ∧ (t.elapse time).sent =
      t.sent ++ [(endOfWait first.time limits.wait, (first :: more).map Entry.request)] := by
  have own : (⟨endOfWait first.time limits.wait, generation⟩ : Alarm) ∈
      t.alarms.filter fun alarm => decide (alarm.deadline < time) :=
    List.mem_filter.mpr ⟨holds.alarm, decide_eq_true late⟩
  have orderly := holds.orderly.elapse time
  rw [elapse_eq, holds.foldl_ring (List.filter_subset_self _) own] at orderly ⊢
  exact ⟨⟨orderly, rfl⟩, by simp [sent, close, send]⟩

theorem Holds.finish (holds : t.Holds limits first more generation) :
    t.finish.sent =
      t.sent ++ [(endOfWait first.time limits.wait, (first :: more).map Entry.request)] := by
  have own : (⟨endOfWait first.time limits.wait, generation⟩ : Alarm) ∈
      t.alarms.filter fun _ => true := List.mem_filter.mpr ⟨holds.alarm, rfl⟩
  rw [Timeline.finish, ringAll_eq, holds.foldl_ring (List.filter_subset_self _) own]
  simp [sent, close, send]

end Holds

/-! ### Requests that join -/

/-- A window is full exactly if there is no room. -/
theorem isFull_eq_false {size : Nat} :
    limits.isFull size = false ↔ HasRoom limits.maxSize size := by
  cases limit : limits.maxSize with
  | none => simp [Limits.isFull, HasRoom, limit]
  | some most => simp [Limits.isFull, HasRoom, limit]

/-- A request that fills its window sends it at once. -/
theorem join_of_full (t : Timeline) (request : Request)
    (full : limits.isFull (t.gatherer.current.requests.length + 1) = true) :
    (t.join limits request).2.gatherer.window = none ∧
      (t.join limits request).2.sent =
        t.sent ++ [(t.now, t.gatherer.current.requests ++ [request])] := by
  have isFull : limits.isFull (t.gatherer.current.add request).requests.length = true := by
    simpa [Window.add] using full
  constructor
  · simp only [join, sendSome_gatherer]
    rw [Gatherer.join_window, if_pos isFull]
  · simp only [join, Gatherer.join_filled, isFull, if_true]
    simp [sendSome, send, sent, Window.add]

/-- A request that does not fill its window stays in it. -/
theorem join_of_room (t : Timeline) (request : Request)
    (room : limits.isFull (t.gatherer.current.requests.length + 1) = false) :
    (t.join limits request).2.gatherer.window = some (t.gatherer.current.add request) ∧
      (t.join limits request).2.sent = t.sent := by
  have hasRoom : limits.isFull (t.gatherer.current.add request).requests.length = false := by
    simpa [Window.add] using room
  constructor
  · simp only [join, sendSome_gatherer]
    rw [Gatherer.join_window, hasRoom]
    rfl
  · simp only [join, Gatherer.join_filled, hasRoom, Bool.false_eq_true, if_false]
    simp [sendSome, sent]

/-- The request that takes the last room fills its window. -/
theorem isFull_of_eq {size : Nat} (full : limits.maxSize = some size) :
    limits.isFull size = true := by
  simp [Limits.isFull, full]

section Joining

variable {first : Entry} {more : List Entry} {generation : Nat} (request : Request)

/-- A request that comes while no window is open is sent at once if it alone is enough. -/
theorem Idle.join_of_full (idle : t.Idle limits) (full : limits.maxSize = some 1) :
    (t.join limits request).2.Idle limits ∧
      (t.join limits request).2.sent = t.sent ++ [(t.now, [request])] := by
  have noRequests : t.gatherer.current.requests = [] := by
    simp [Gatherer.current, idle.noWindow]
  obtain ⟨noWindow, sent⟩ := Timeline.join_of_full t request
    (by simpa [noRequests] using isFull_of_eq full)
  rw [noRequests, List.nil_append] at sent
  exact ⟨⟨idle.orderly.join request, noWindow⟩, sent⟩

/-- Else it opens a window, and sets the alarm for it. -/
theorem Idle.join_of_room (idle : t.Idle limits) (room : HasRoom limits.maxSize 1) :
    (t.join limits request).2.Holds limits ⟨t.now, request⟩ [] t.gatherer.nextGeneration ∧
      (t.join limits request).2.sent = t.sent := by
  have current : t.gatherer.current = ⟨t.gatherer.nextGeneration, []⟩ := by
    simp [Gatherer.current, idle.noWindow]
  obtain ⟨isOpen, sent⟩ := Timeline.join_of_room t request
    (by simpa [current] using isFull_eq_false.mpr room)
  rw [current] at isOpen
  have alarms : (t.join limits request).2.alarms =
      t.alarms ++ [⟨endOfWait t.now limits.wait, t.gatherer.nextGeneration⟩] := by
    simp [join, Gatherer.join_opened, current, idle.noWindow]
  refine ⟨⟨idle.orderly.join request, isOpen, ?_, ?_, room⟩, sent⟩
  · simp [alarms]
  · intro alarm member named
    rw [alarms, List.mem_append, List.mem_singleton] at member
    rcases member with earlier | rfl
    · exact absurd (idle.orderly.numbered alarm earlier) (by simp [named])
    · rfl

/-- A request that takes the last room of an open window sends it at once. -/
theorem Holds.join_of_full (holds : t.Holds limits first more generation)
    (full : limits.maxSize = some (more.length + 2)) :
    (t.join limits request).2.Idle limits ∧ (t.join limits request).2.sent =
      t.sent ++ [(t.now, (first :: more).map Entry.request ++ [request])] := by
  have current : t.gatherer.current = ⟨generation, (first :: more).map Entry.request⟩ := by
    simp [Gatherer.current, holds.isOpen]
  obtain ⟨noWindow, sent⟩ := Timeline.join_of_full t request
    (by simpa [current] using isFull_of_eq full)
  rw [current] at sent
  exact ⟨⟨holds.orderly.join request, noWindow⟩, sent⟩

/-- Else it takes its place in it, and the alarm stays the same. -/
theorem Holds.join_of_room (holds : t.Holds limits first more generation)
    (room : HasRoom limits.maxSize (more.length + 2)) :
    (t.join limits request).2.Holds limits first (more ++ [⟨t.now, request⟩]) generation ∧
      (t.join limits request).2.sent = t.sent := by
  have current : t.gatherer.current = ⟨generation, (first :: more).map Entry.request⟩ := by
    simp [Gatherer.current, holds.isOpen]
  obtain ⟨isOpen, sent⟩ := Timeline.join_of_room t request
    (by simpa [current] using isFull_eq_false.mpr room)
  rw [current] at isOpen
  have alarms : (t.join limits request).2.alarms = t.alarms := by
    simp [join, Gatherer.join_opened, holds.isOpen]
  refine ⟨⟨holds.orderly.join request, ?_, ?_, ?_, ?_⟩, sent⟩
  · simpa [Window.add] using isOpen
  · exact alarms ▸ holds.alarm
  · exact alarms ▸ holds.only
  · simpa using room

end Joining

/-! ### Entry after entry -/

/-- Takes in an entry at its time. -/
def accept (limits : Limits) (t : Timeline) (entry : Entry) : Timeline :=
  ((t.elapse entry.time).join limits entry.request).2

/-- A timeline stands where these blocks are still to be sent if these entries are still to come. -/
inductive Expects (limits : Limits) (t : Timeline) (rest : List Entry) : List Block → Prop
  | idle (idle : t.Idle limits) : Expects limits t rest (blocks limits.patience limits.maxSize rest)
  | holds {first : Entry} {more : List Entry} {generation : Nat}
      (holds : t.Holds limits first more generation) :
      Expects limits t rest (blocksFrom limits.patience limits.maxSize first more rest)

section Accepting

variable {cut : List Block} {entry : Entry} {rest : List Entry}

/-- What an entry does: some of the blocks that were expected are sent, and the others are still
expected. -/
def Proceeds (limits : Limits) (t next : Timeline) (rest : List Entry) (cut : List Block) : Prop :=
  ∃ done left, cut = done ++ left ∧ next.sent = t.sent ++ done.map Block.sending ∧
    next.Expects limits rest left

/-- A limit without room for one more is reached with one more. -/
theorem eq_of_hasRoom {maxSize : Option Nat} {size : Nat} (room : HasRoom maxSize size)
    (noRoom : ¬ HasRoom maxSize (size + 1)) : maxSize = some (size + 1) := by
  cases maxSize with
  | none => exact absurd (fun _ member => nomatch member) noRoom
  | some limit =>
      have more : size < limit := room limit rfl
      have few : ¬ size + 1 < limit := fun fits => noRoom fun other isLimit => by
        cases isLimit
        exact fits
      exact congrArg some (by omega)

theorem Idle.proceeds (idle : t.Idle limits) (positive : HasRoom limits.maxSize 0)
    (now : t.now = entry.time) (rest : List Entry) :
    Proceeds limits t (t.join limits entry.request).2 rest
      (blocks limits.patience limits.maxSize (entry :: rest)) := by
  by_cases room : HasRoom limits.maxSize 1
  · obtain ⟨holds, sent⟩ := idle.join_of_room entry.request room
    rw [now] at holds
    refine ⟨[], _, blocks_cons, by simpa using sent, .holds holds⟩
  · have full := eq_of_hasRoom positive room
    obtain ⟨idleAgain, sent⟩ := idle.join_of_full entry.request full
    rw [now] at sent
    refine ⟨[⟨entry.time, [entry]⟩], _, ?_, sent, .idle idleAgain⟩
    exact blocks_cons_full full

theorem Holds.proceeds {first : Entry} {more : List Entry} {generation : Nat}
    (holds : t.Holds limits first more generation) (now : t.now = entry.time)
    (early : entry.time < first.time + limits.patience) (rest : List Entry) :
    Proceeds limits t (t.join limits entry.request).2 rest
      (blocksFrom limits.patience limits.maxSize first more (entry :: rest)) := by
  by_cases room : HasRoom limits.maxSize (more.length + 2)
  · obtain ⟨holdsMore, sent⟩ := holds.join_of_room entry.request room
    rw [now] at holdsMore
    exact ⟨[], _, blocksFrom_join room early, by simpa using sent, .holds holdsMore⟩
  · have full := eq_of_hasRoom holds.hasRoom room
    obtain ⟨idle, sent⟩ := holds.join_of_full entry.request full
    rw [now] at sent
    refine ⟨[⟨entry.time, first :: more ++ [entry]⟩], _, blocksFrom_full full early, ?_,
      .idle idle⟩
    simpa [Block.sending] using sent

/-- Every entry that does not come exactly at a deadline sends the blocks that are due, and joins
the right one of the others. -/
theorem Expects.accept (expects : t.Expects limits (entry :: rest) cut)
    (positive : HasRoom limits.maxSize 0) (reached : t.now ≤ entry.time)
    (offDeadlines : OffDeadlines limits.patience cut (entry :: rest)) :
    Proceeds limits t (accept limits t entry) rest cut := by
  have now : (t.elapse entry.time).now = entry.time := by
    rw [elapse_now, Nat.max_eq_right reached]
  cases expects with
  | idle idle =>
      obtain ⟨idle, sent⟩ := idle.elapse entry.time
      obtain ⟨done, left, isCut, sentNow, expects⟩ := idle.proceeds positive now rest
      exact ⟨done, left, isCut, by rw [Timeline.accept, sentNow, sent], expects⟩
  | @holds first more generation holds =>
      have off : entry.time ≠ first.time + limits.patience :=
        offDeadlines _ List.mem_cons_self first (Block.head?_of positive _) entry List.mem_cons_self
      rcases Nat.lt_or_gt_of_ne off with early | late
      · obtain ⟨holds, sent⟩ := holds.elapse (Nat.le_of_lt early)
        obtain ⟨done, left, isCut, sentNow, expects⟩ := holds.proceeds now early rest
        exact ⟨done, left, isCut, by rw [Timeline.accept, sentNow, sent], expects⟩
      · -- the window's alarm has rung, and the entry opens the next one
        have isCut := blocksFrom_late rest holds.hasRoom (Nat.le_of_lt late)
        obtain ⟨idle, sent⟩ := holds.elapse_late late
        obtain ⟨done, left, cutNext, sentNow, expects⟩ := idle.proceeds positive now rest
        refine ⟨⟨first.time + limits.patience, first :: more⟩ :: done, left, ?_, ?_, expects⟩
        · rw [isCut, cutNext, List.cons_append]
        · rw [Timeline.accept, sentNow, sent, List.append_assoc]
          rfl

/-- When no entry is to come any more, the block that is open is the last one. -/
theorem Expects.finish (expects : t.Expects limits [] cut) :
    t.finish.sent = t.sent ++ cut.map Block.sending := by
  cases expects with
  | idle idle => simpa [blocks] using idle.finish
  | holds holds =>
      rw [blocksFrom_nil holds.hasRoom, holds.finish]
      rfl

/-- All blocks that are expected are sent, if no entry comes exactly at a deadline. -/
theorem Expects.foldl_accept (expects : t.Expects limits rest cut)
    (positive : HasRoom limits.maxSize 0) (chronological : Chronological rest)
    (reached : ∀ entry ∈ rest, t.now ≤ entry.time)
    (offDeadlines : OffDeadlines limits.patience cut rest) :
    (rest.foldl (Timeline.accept limits) t).finish.sent = t.sent ++ cut.map Block.sending := by
  induction rest generalizing t cut with
  | nil => exact expects.finish
  | cons entry rest inductionHypothesis =>
      obtain ⟨after, laterOnes⟩ := List.pairwise_cons.mp chronological
      obtain ⟨done, left, rfl, sent, next⟩ :=
        expects.accept positive (reached entry List.mem_cons_self) offDeadlines
      have reachedRest : ∀ later ∈ rest, (Timeline.accept limits t entry).now ≤ later.time := by
        intro later member
        rw [Timeline.accept, join_now, elapse_now]
        exact Nat.max_le.mpr ⟨reached later (List.mem_cons_of_mem _ member), after later member⟩
      have offRest : OffDeadlines limits.patience left rest := fun block isBlock first isFirst
          later member => offDeadlines block (List.mem_append_right _ isBlock) first isFirst later
            (List.mem_cons_of_mem _ member)
      rw [List.foldl_cons, inductionHypothesis next laterOnes reachedRest offRest, sent,
        List.append_assoc, List.map_append]

end Accepting

/-! ### Schedules -/

/-- The alarms that are set are still to ring. -/
def Upcoming (t : Timeline) : Prop :=
  ∀ alarm ∈ t.alarms, t.now ≤ alarm.deadline

theorem upcoming_elapse {time : Nat} (reached : t.now ≤ time) : (t.elapse time).Upcoming := by
  intro alarm member
  rw [elapse_alarms] at member
  rw [elapse_now, Nat.max_eq_right reached]
  simpa using (List.mem_filter.mp member).2

theorem Upcoming.join (upcoming : t.Upcoming) (request : Request) :
    (t.join limits request).2.Upcoming := by
  intro alarm member
  rw [join_now]
  simp only [Timeline.join, sendSome_alarms, List.mem_append] at member
  rcases member with earlier | new
  · exact upcoming alarm earlier
  · obtain ⟨generation, _, rfl⟩ := List.mem_map.mp new
    exact Nat.le_add_right _ _

/-- A moment that was passed is not passed again. -/
theorem elapse_eq_self {time : Nat} (reached : time ≤ t.now)
    (left : ∀ alarm ∈ t.alarms, time ≤ alarm.deadline) : t.elapse time = t := by
  have noneDue : (t.alarms.filter fun alarm => decide (alarm.deadline < time)) = [] := by
    apply List.filter_eq_nil_iff.mpr
    simpa using left
  have allLeft : (t.alarms.filter fun alarm => !decide (alarm.deadline < time)) = t.alarms := by
    apply List.filter_eq_self.mpr
    simpa using left
  rw [elapse_eq, noneDue, allLeft, Nat.max_eq_left reached]
  rfl

/-- A moment that has come does not come again. -/
theorem Upcoming.elapse_now (upcoming : t.Upcoming) : t.elapse t.now = t :=
  elapse_eq_self (Nat.le_refl _) upcoming

/-- Requests that come together come one after another. -/
theorem Upcoming.joinAll (limits : Limits) (upcoming : t.Upcoming) (requests : List Request) :
    (t.joinAll limits requests).2 =
      (requests.map (Entry.mk t.now)).foldl (accept limits) t := by
  induction requests generalizing t with
  | nil => rfl
  | cons request requests inductionHypothesis =>
      have first : accept limits t ⟨t.now, request⟩ = (t.join limits request).2 := by
        rw [accept, upcoming.elapse_now]
      have next : (t.join limits request).2.Upcoming := upcoming.join request
      have others := inductionHypothesis next
      rw [join_now] at others
      rw [List.map_cons, List.foldl_cons, first]
      exact others

/-- Requests that come in a step do to a timeline what they do to any to which it comes. -/
theorem Meets.joinAll (meets : t.Meets limits u) {time : Nat} (reached : t.now ≤ time)
    (requests : List Request) :
    ((t.elapse time).joinAll limits requests).2.Meets limits
      ((requests.map (Entry.mk time)).foldl (accept limits) u) := by
  cases requests with
  | nil => exact meets.pass time
  | cons request requests =>
      have now : (t.elapse time).now = time := by
        rw [Timeline.elapse_now, Nat.max_eq_right reached]
      have first : accept limits u ⟨time, request⟩ = ((t.elapse time).join limits request).2 := by
        rw [accept, meets.elapse time reached]
      have next : ((t.elapse time).join limits request).2.Upcoming :=
        (upcoming_elapse reached).join request
      have others := next.joinAll limits requests
      rw [join_now, now] at others
      rw [List.map_cons, List.foldl_cons, first, ← others]
      exact ((meets.orderly.elapse time).joinAll (request :: requests)).meets

end Timeline

namespace Execution

variable {limits : Limits} {e : Execution} {u : Timeline}

/-- A schedule does to a timeline what its entries do. -/
theorem meets_foldl_accept (meets : e.timeline.Meets limits u) {schedule : List Step}
    (inOrder : InOrder schedule) (reached : ∀ step ∈ schedule, e.timeline.now ≤ step.time) :
    (schedule.foldl (step limits) e).timeline.Meets limits
      ((entries schedule).foldl (Timeline.accept limits) u) := by
  induction schedule generalizing e u with
  | nil => exact meets
  | cons first rest inductionHypothesis =>
      obtain ⟨after, inOrder⟩ := List.pairwise_cons.mp inOrder
      have reachedRest : ∀ step ∈ rest, (e.step limits first).timeline.now ≤ step.time := by
        intro step member
        rw [now_step]
        exact Nat.max_le.mpr ⟨reached step (List.mem_cons_of_mem _ member), after step member⟩
      have next : (e.step limits first).timeline.Meets limits
          ((entries [first]).foldl (Timeline.accept limits) u) := by
        obtain ⟨time, action⟩ := first
        have early := reached _ List.mem_cons_self
        cases action with
        | load requests =>
            have alone : entries [⟨time, .load requests⟩] = requests.map (Entry.mk time) := by
              simp [entries, Action.arrivals, Arrival.requests, List.flatMap_map]
            rw [alone]
            exact meets.joinAll early requests
        | loadMany requests =>
            have together : entries [⟨time, .loadMany requests⟩] =
                requests.map (Entry.mk time) := by
              simp [entries, Action.arrivals, Arrival.requests]
            rw [together]
            exact meets.joinAll early requests
        | abandon number => exact meets.pass time
      have split : entries (first :: rest) = entries [first] ++ entries rest := by
        simp [entries]
      rw [List.foldl_cons, split, List.foldl_append]
      exact inductionHypothesis next inOrder reachedRest

end Execution

/-- The entries of a schedule in order are in order. -/
theorem chronological_entries {schedule : List Step} (inOrder : InOrder schedule) :
    Chronological (entries schedule) := by
  induction inOrder with
  | nil => exact .nil
  | @cons first rest after _ inductionHypothesis =>
      have split : entries (first :: rest) =
          (first.action.arrivals.flatMap Arrival.requests).map (Entry.mk first.time) ++
            entries rest := rfl
      rw [split, Chronological, List.pairwise_append]
      refine ⟨?_, inductionHypothesis, ?_⟩
      · exact List.pairwise_map.mpr (List.pairwise_of_forall fun _ _ => Nat.le_refl _)
      · intro entry isFirst later isLater
        obtain ⟨_, _, rfl⟩ := List.mem_map.mp isFirst
        obtain ⟨step, isStep, isLater⟩ := List.mem_flatMap.mp isLater
        obtain ⟨_, _, rfl⟩ := List.mem_map.mp isLater
        exact after step isStep

/-- Windows are sent punctually. A run sends exactly the blocks into which its requests are cut
greedily, each with its requests in order and at its time. No request is lost or sent twice, and
none waits for longer than the limits say, however many come after it. -/
theorem sends_blocks (limits : Limits) (schedule : List Step) (inOrder : InOrder schedule)
    (positive : ∀ size ∈ limits.maxSize, 1 ≤ size)
    (offDeadlines : OffDeadlines limits.patience
      (blocks limits.patience limits.maxSize (entries schedule)) (entries schedule)) :
    let cut := blocks limits.patience limits.maxSize (entries schedule)
    ((Execution.run limits schedule).timeline.dispatches.map fun dispatch =>
        (dispatch.time, dispatch.requests)) = cut.map Block.sending ∧
      ((Execution.run limits schedule).timeline.dispatches.map fun dispatch =>
        (dispatch.time, dispatch.payload)) =
          cut.map (fun block =>
            (block.time, Request.encodeBatch (block.entries.map Entry.request))) ∧
      cut.flatMap Block.entries = entries schedule ∧
      ∀ block ∈ cut, ∀ entry ∈ block.entries,
        entry.time ≤ block.time ∧ block.time ≤ entry.time + limits.wait := by
  intro cut
  have chronological := chronological_entries inOrder
  have start : ({} : Timeline).Idle limits := ⟨.empty, rfl⟩
  have alike : Timeline.Meets limits {} {} := Timeline.Orderly.empty.meets
  have meets := Execution.meets_foldl_accept (e := {}) alike inOrder fun _ _ => Nat.zero_le _
  have run : (Execution.run limits schedule).timeline.sent = cut.map Block.sending := by
    have finished := (Timeline.Expects.idle start).foldl_accept positive chronological
      (fun _ _ => Nat.zero_le _) offDeadlines
    rw [Timeline.sent, ← meets.finish] at finished
    exact finished
  refine ⟨run, ?_, flatMap_blocks positive _, ?_⟩
  · have encoded := congrArg (List.map fun sending : Nat × List Request =>
      (sending.1, Request.encodeBatch sending.2)) run
    rw [Timeline.sent, List.map_map, List.map_map] at encoded
    exact encoded
  · intro block isBlock entry member
    obtain ⟨before, after⟩ := time_of_mem_blocks chronological block isBlock entry member
    exact ⟨before, Nat.le_trans after (Nat.add_le_add_left (Nat.min_le_left _ _) _)⟩

/-- One of two requests that come together fills a window, and the other one opens the next. -/
def pingSchedule : List Step :=
  [⟨0, .load [ping "a"]⟩, ⟨3, .loadMany [ping "b", ping "c"]⟩, ⟨4, .abandon 0⟩,
    ⟨20, .load [ping "d"]⟩]

theorem blocks_pingSchedule :
    blocks 5 (some 2) (entries pingSchedule) =
      [⟨3, [⟨0, ping "a"⟩, ⟨3, ping "b"⟩]⟩, ⟨8, [⟨3, ping "c"⟩]⟩, ⟨25, [⟨20, ping "d"⟩]⟩] := by
  simp [pingSchedule, entries, Action.arrivals, Arrival.requests, blocks, Block.openedBy, Block.of]

/-- The first window is sent when it is full, and the others when their alarms ring. -/
theorem sends_blocks_of_pings :
    (Execution.run ⟨5, some 2⟩ pingSchedule).timeline.dispatches.map
        (fun dispatch => (dispatch.time, dispatch.requests)) =
      [(3, [ping "a", ping "b"]), (8, [ping "c"]), (25, [ping "d"])] := by
  have off : OffDeadlines 5 (blocks 5 (some 2) (entries pingSchedule)) (entries pingSchedule) := by
    rw [blocks_pingSchedule]
    simp [OffDeadlines, pingSchedule, entries, Action.arrivals, Arrival.requests]
  have sent := (sends_blocks ⟨5, some 2⟩ pingSchedule (by decide) (by simp) off).1
  refine sent.trans ?_
  show (blocks 5 (some 2) (entries pingSchedule)).map Block.sending = _
  rw [blocks_pingSchedule]
  rfl

/-- It would be wrong to say that every window waits as long as its limits say: a wait of more than
thirty years ends with them. -/
theorem waits_end_after_thirty_years :
    ¬ ∀ (limits : Limits) (schedule : List Step), 1 ≤ limits.wait →
    InOrder schedule → (∀ size ∈ limits.maxSize, 1 ≤ size) →
    OffDeadlines limits.wait (blocks limits.wait limits.maxSize (entries schedule))
      (entries schedule) →
    ((Execution.run limits schedule).timeline.dispatches.map fun dispatch =>
        (dispatch.time, dispatch.requests)) =
      (blocks limits.wait limits.maxSize (entries schedule)).map Block.sending := by
  intro claimed
  have alone : ∀ wait, blocks wait none (entries [⟨0, .load [ping "a"]⟩]) =
      [⟨wait, [⟨0, ping "a"⟩]⟩] := by
    simp [entries, Action.arrivals, Arrival.requests, blocks, Block.openedBy, Block.of]
  have off : ∀ wait, 1 ≤ wait → OffDeadlines wait
      (blocks wait none (entries [⟨0, .load [ping "a"]⟩])) (entries [⟨0, .load [ping "a"]⟩]) := by
    intro wait positive
    rw [alone]
    simpa [OffDeadlines, entries, Action.arrivals, Arrival.requests] using
      Nat.ne_of_lt positive
  have positive : 1 ≤ longestWait + 1 := Nat.le_add_left 1 _
  have sent := claimed ⟨longestWait + 1, none⟩ [⟨0, .load [ping "a"]⟩] positive (by decide)
    (by simp) (off _ positive)
  rw [alone] at sent
  have times : [endOfWait 0 (longestWait + 1)] = [longestWait + 1] :=
    congrArg (List.map Prod.fst) sent
  simp [endOfWait] at times

end RpcTransport.Gathering
