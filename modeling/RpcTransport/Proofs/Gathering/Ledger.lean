import Mathlib.Data.List.Nodup
import Mathlib.Data.List.Range
import RpcTransport.Gathering.Window

/-!
The ledger of gathering: which requests have joined, which windows have been sent, and which alarms
are still set. Requests and alarms may come in any order; an alarm may ring at any moment after it
was set. The main result is that windows neither lose nor duplicate a request.
-/

namespace RpcTransport.Gathering

namespace Window

/-- The window with one more request. -/
def add (request : Request) (window : Window) : Window :=
  { window with requests := window.requests ++ [request] }

/-- The requests of a window, each with the ticket for its place. -/
def places (window : Window) : List (Request × Ticket) :=
  window.requests.zipIdx.map fun entry => (entry.1, ⟨window.generation, entry.2⟩)

/-- A request that is added gets the next place. -/
theorem places_add (request : Request) (window : Window) :
    (window.add request).places =
      window.places ++ [(request, ⟨window.generation, window.requests.length⟩)] := by
  simp [places, add, List.zipIdx_append]

/-- The places of a window hold its requests in order. -/
theorem map_fst_places (window : Window) : window.places.map Prod.fst = window.requests := by
  have first : (Prod.fst ∘ fun entry : Request × Nat =>
      (entry.1, (⟨window.generation, entry.2⟩ : Ticket))) = Prod.fst := rfl
  rw [places, List.map_map, first, List.zipIdx_map_fst]

/-- A request with a ticket for a window stands at the ticket's position in that window. -/
theorem mem_places {window : Window} {request : Request} {ticket : Ticket} :
    (request, ticket) ∈ window.places ↔
      ticket.generation = window.generation ∧
        window.requests[ticket.position]? = some request := by
  cases ticket with
  | mk generation position =>
      simp only [places, List.mem_map, Prod.mk.injEq, Ticket.mk.injEq, Prod.exists,
        List.mem_zipIdx_iff_getElem?]
      constructor
      · rintro ⟨found, place, held, rfl, rfl, rfl⟩
        exact ⟨rfl, held⟩
      · rintro ⟨rfl, held⟩
        exact ⟨request, position, held, rfl, rfl, rfl⟩

/-- No two requests of a window have one ticket. -/
theorem nodup_tickets (window : Window) : (window.places.map Prod.snd).Nodup := by
  have second : (Prod.snd ∘ fun entry : Request × Nat =>
      (entry.1, (⟨window.generation, entry.2⟩ : Ticket))) =
        Ticket.mk window.generation ∘ Prod.snd := rfl
  rw [places, List.map_map, second, ← List.map_map, List.zipIdx_map_snd]
  apply List.Nodup.map
  · intro first second same
    exact (Ticket.mk.inj same).2
  · exact List.nodup_range'

end Window

namespace Gatherer

/-- The window that the next request joins. -/
def current (gatherer : Gatherer) : Window :=
  gatherer.window.getD ⟨gatherer.nextGeneration, []⟩

section Joining

variable (limits : Limits) (request : Request) (gatherer : Gatherer)

/-- Joining in one equation: the request gets the next place of the current window, which is taken
if it is full with it. -/
theorem join_eq :
    gatherer.join limits request =
      let window := gatherer.current.add request
      let full := limits.isFull window.requests.length
      (⟨⟨gatherer.current.generation, gatherer.current.requests.length⟩,
          if gatherer.window.isNone then some gatherer.current.generation else none,
          if full then some window else none⟩,
        ⟨if full then none else some window,
          gatherer.nextGeneration + if gatherer.window.isNone then 1 else 0⟩) := by
  by_cases full : limits.isFull (gatherer.current.add request).requests.length
  · simp only [full, if_true]
    exact if_pos full
  · simp only [full]
    exact if_neg full

theorem join_ticket :
    (gatherer.join limits request).1.ticket =
      ⟨gatherer.current.generation, gatherer.current.requests.length⟩ := by
  rw [join_eq]

theorem join_opened :
    (gatherer.join limits request).1.opened =
      if gatherer.window.isNone then some gatherer.current.generation else none := by
  rw [join_eq]

theorem join_nextGeneration :
    (gatherer.join limits request).2.nextGeneration =
      gatherer.nextGeneration + if gatherer.window.isNone then 1 else 0 := by
  rw [join_eq]

/-- The window that a request fills. -/
theorem join_filled :
    (gatherer.join limits request).1.filled =
      if limits.isFull (gatherer.current.add request).requests.length
      then some (gatherer.current.add request) else none := by
  rw [join_eq]

/-- The window that is open after a request has joined. -/
theorem join_window :
    (gatherer.join limits request).2.window =
      if limits.isFull (gatherer.current.add request).requests.length
      then none else some (gatherer.current.add request) := by
  rw [join_eq]

/-- Whether it is filled or not, the window that a request has joined comes next. -/
theorem join_windows :
    (gatherer.join limits request).1.filled.toList ++
        (gatherer.join limits request).2.window.toList =
      [gatherer.current.add request] := by
  rw [join_filled, join_window]
  split <;> rfl

end Joining

/-- The alarm of the open window closes it. -/
theorem wake_of_open {gatherer : Gatherer} {window : Window}
    (isOpen : gatherer.window = some window) :
    gatherer.wake window.generation = (some window, { gatherer with window := none }) := by
  simp [wake, isOpen]

/-- An alarm of another window changes nothing. -/
theorem wake_of_other {gatherer : Gatherer} {generation : Nat}
    (other : ∀ window ∈ gatherer.window, window.generation ≠ generation) :
    gatherer.wake generation = (none, gatherer) := by
  unfold wake
  split
  · next window isOpen =>
      rw [if_neg (other window isOpen)]
  · rfl

end Gatherer

/-- Gathering together with what has come of it. -/
structure Ledger where
  gatherer : Gatherer := {}
  /-- The generations whose alarms are set. -/
  armed : List Nat := []
  /-- The windows that were taken to be sent, in the order in which they were taken. -/
  sent : List Window := []
  /-- The requests that have joined, in order, each with the ticket that it got. -/
  joined : List (Request × Ticket) := []

namespace Ledger

/-- Something that happens while requests are gathered. -/
inductive Event
  /-- A request joins. -/
  | join (request : Request)
  /-- The alarm for the window of a generation rings. -/
  | wake (generation : Nat)

/-- The request that joins in an event. -/
def Event.request? : Event → Option Request
  | .join request => some request
  | .wake _ => none

/-- Takes in a request. An alarm is set for a window that it opens. -/
def join (limits : Limits) (request : Request) (ledger : Ledger) : Ledger :=
  let (joined, gatherer) := ledger.gatherer.join limits request
  { gatherer := gatherer
    armed := ledger.armed ++ joined.opened.toList
    sent := ledger.sent ++ joined.filled.toList
    joined := ledger.joined ++ [(request, joined.ticket)] }

/-- Lets an alarm ring. One that is not set, or has rung before, can not ring. -/
def wake (generation : Nat) (ledger : Ledger) : Ledger :=
  if generation ∈ ledger.armed then
    let (window, gatherer) := ledger.gatherer.wake generation
    { ledger with
      gatherer := gatherer
      armed := ledger.armed.erase generation
      sent := ledger.sent ++ window.toList }
  else ledger

/-- The ledger after an event. -/
def step (limits : Limits) (ledger : Ledger) : Event → Ledger
  | .join request => ledger.join limits request
  | .wake generation => ledger.wake generation

/-- The ledger after some events, from the beginning. -/
def run (limits : Limits) (events : List Event) : Ledger :=
  events.foldl (step limits) {}

/-- The windows that were sent, and then the open one. -/
def windows (ledger : Ledger) : List Window :=
  ledger.sent ++ ledger.gatherer.window.toList

/-- What holds of every ledger: windows are numbered as they come, and what has joined stands in
them in order; the alarm of the open window is set; and sizes are within the limits. -/
structure Sound (limits : Limits) (ledger : Ledger) : Prop where
  generations :
    ledger.windows.map Window.generation = List.range ledger.gatherer.nextGeneration
  places : ledger.joined = ledger.windows.flatMap Window.places
  alarm : ∀ window ∈ ledger.gatherer.window, window.generation ∈ ledger.armed
  sentNonempty : ∀ window ∈ ledger.sent, window.requests ≠ []
  sentSize : ∀ window ∈ ledger.sent, ∀ size ∈ limits.maxSize, 0 < size →
    window.requests.length ≤ size
  openNonempty : ∀ window ∈ ledger.gatherer.window, window.requests ≠ []
  openSize : ∀ window ∈ ledger.gatherer.window, ∀ size ∈ limits.maxSize,
    window.requests.length < size

variable {limits : Limits} {ledger : Ledger}

theorem empty_sound : Sound limits {} where
  generations := rfl
  places := rfl
  alarm := by simp
  sentNonempty := by simp
  sentSize := by simp
  openNonempty := by simp
  openSize := by simp

/-- The windows after a request has joined: the window that it joined comes last. -/
theorem windows_join (request : Request) :
    (ledger.join limits request).windows =
      ledger.sent ++ [ledger.gatherer.current.add request] := by
  simp only [windows, join, List.append_assoc, Gatherer.join_windows]

/-- Up to the next request the current window may still have to be opened. -/
theorem flatMap_places_windows :
    ledger.windows.flatMap Window.places =
      ledger.sent.flatMap Window.places ++ ledger.gatherer.current.places := by
  cases isOpen : ledger.gatherer.window with
  | none => simp [windows, Gatherer.current, isOpen, Window.places]
  | some window => simp [windows, Gatherer.current, isOpen]

/-- A window that a request joins is not full before. -/
theorem Sound.current_lt (sound : ledger.Sound limits) {size : Nat} (limit : size ∈ limits.maxSize)
    (positive : 0 < size) : ledger.gatherer.current.requests.length < size := by
  cases isOpen : ledger.gatherer.window with
  | none => simpa [Gatherer.current, isOpen] using positive
  | some window =>
      simpa [Gatherer.current, isOpen] using sound.openSize window isOpen size limit

/-- The generation of the current window is numbered after those of the windows that were sent. -/
theorem Sound.generations_current (sound : ledger.Sound limits) :
    ledger.sent.map Window.generation ++ [ledger.gatherer.current.generation] =
      List.range (ledger.gatherer.nextGeneration +
        if ledger.gatherer.window.isNone then 1 else 0) := by
  have numbered := sound.generations
  cases isOpen : ledger.gatherer.window with
  | none =>
      simp only [windows, isOpen, Option.toList_none, List.append_nil] at numbered
      simp [Gatherer.current, isOpen, numbered, List.range_succ]
  | some window =>
      simp only [windows, isOpen, Option.toList_some, List.map_append, List.map_cons,
        List.map_nil] at numbered
      simpa [Gatherer.current, isOpen] using numbered

/-- A window that was sent when a request has joined was sent before, or is the one it filled. -/
theorem mem_sent_join {request : Request} {window : Window}
    (wasSent : window ∈ (ledger.join limits request).sent) :
    window ∈ ledger.sent ∨ window = ledger.gatherer.current.add request := by
  simp only [join, Gatherer.join_filled, List.mem_append] at wasSent
  rcases wasSent with earlier | filled
  · exact Or.inl earlier
  · split at filled
    · exact Or.inr (List.mem_singleton.mp filled)
    · simp at filled

/-- A window that is open when a request has joined is the one it has joined, and not full. -/
theorem mem_window_join {request : Request} {window : Window}
    (isOpen : window ∈ (ledger.join limits request).gatherer.window) :
    window = ledger.gatherer.current.add request ∧
      limits.isFull window.requests.length = false := by
  simp only [join, Gatherer.join_window] at isOpen
  split at isOpen
  · cases isOpen
  · next notFull =>
      cases isOpen
      exact ⟨rfl, (Bool.not_eq_true _).mp notFull⟩

/-- Joining keeps a ledger sound. -/
theorem Sound.join (sound : ledger.Sound limits) (request : Request) :
    (ledger.join limits request).Sound limits where
  generations := by
    rw [windows_join, List.map_append]
    exact sound.generations_current.trans
      (congrArg List.range (Gatherer.join_nextGeneration limits request ledger.gatherer).symm)
  places := by
    have before : ledger.joined =
        ledger.sent.flatMap Window.places ++ ledger.gatherer.current.places :=
      sound.places.trans flatMap_places_windows
    rw [windows_join, List.flatMap_append, List.flatMap_singleton, Window.places_add,
      ← List.append_assoc, ← before, ← Gatherer.join_ticket limits request]
    rfl
  alarm := by
    intro window isOpen
    rw [(mem_window_join isOpen).1]
    simp only [Ledger.join, Gatherer.join_opened]
    cases before : ledger.gatherer.window with
    | none => simp [Window.add]
    | some window =>
        have armed := sound.alarm window before
        simpa [Window.add, Gatherer.current, before] using armed
  sentNonempty := by
    intro window wasSent
    rcases mem_sent_join wasSent with earlier | rfl
    · exact sound.sentNonempty window earlier
    · simp [Window.add]
  sentSize := by
    intro window wasSent size limit positive
    rcases mem_sent_join wasSent with earlier | rfl
    · exact sound.sentSize window earlier size limit positive
    · simp only [Window.add, List.length_append, List.length_singleton]
      exact sound.current_lt limit positive
  openNonempty := by
    intro window isOpen
    rw [(mem_window_join isOpen).1]
    simp [Window.add]
  openSize := by
    intro window isOpen size limit
    have notFull := (mem_window_join isOpen).2
    rw [Option.mem_def] at limit
    simpa [Limits.isFull, limit] using notFull

/-- The alarm of the open window takes it to be sent. -/
theorem wake_of_open {window : Window} (isOpen : ledger.gatherer.window = some window)
    (armed : window.generation ∈ ledger.armed) :
    ledger.wake window.generation =
      { ledger with
        gatherer := { ledger.gatherer with window := none }
        armed := ledger.armed.erase window.generation
        sent := ledger.sent ++ [window] } := by
  rw [wake, if_pos armed, Gatherer.wake_of_open isOpen]
  rfl

/-- The alarm of a window that is not open has no effect. -/
theorem wake_of_other {generation : Nat}
    (other : ∀ window ∈ ledger.gatherer.window, window.generation ≠ generation) :
    ledger.wake generation = { ledger with armed := ledger.armed.erase generation } := by
  by_cases armed : generation ∈ ledger.armed
  · rw [wake, if_pos armed, Gatherer.wake_of_other other]
    simp
  · rw [wake, if_neg armed, List.erase_of_not_mem armed]

/-- Closing the open window keeps a ledger sound. -/
theorem Sound.close (sound : ledger.Sound limits) {window : Window}
    (isOpen : ledger.gatherer.window = some window) (armed : List Nat) :
    Sound limits
      { ledger with
        gatherer := { ledger.gatherer with window := none }
        armed := armed
        sent := ledger.sent ++ [window] } where
  generations := by
    simpa [windows, isOpen] using sound.generations
  places := by
    simpa [windows, isOpen] using sound.places
  alarm := by simp
  sentNonempty := by
    intro other wasSent
    rcases List.mem_append.mp wasSent with earlier | last
    · exact sound.sentNonempty other earlier
    · rw [List.mem_singleton.mp last]
      exact sound.openNonempty window isOpen
  sentSize := by
    intro other wasSent size limit positive
    rcases List.mem_append.mp wasSent with earlier | last
    · exact sound.sentSize other earlier size limit positive
    · rw [List.mem_singleton.mp last]
      exact Nat.le_of_lt (sound.openSize window isOpen size limit)
  openNonempty := by simp
  openSize := by simp

/-- An alarm of a window that is not open may be forgotten. -/
theorem Sound.forget (sound : ledger.Sound limits) {generation : Nat}
    (other : ∀ window ∈ ledger.gatherer.window, window.generation ≠ generation) :
    Sound limits { ledger with armed := ledger.armed.erase generation } where
  generations := sound.generations
  places := sound.places
  alarm := by
    intro window isOpen
    exact (List.mem_erase_of_ne (other window isOpen)).mpr (sound.alarm window isOpen)
  sentNonempty := sound.sentNonempty
  sentSize := sound.sentSize
  openNonempty := sound.openNonempty
  openSize := sound.openSize

/-- An alarm that rings, whichever it is, keeps a ledger sound. -/
theorem Sound.wake (sound : ledger.Sound limits) (generation : Nat) :
    (ledger.wake generation).Sound limits := by
  by_cases own : ∃ window ∈ ledger.gatherer.window, window.generation = generation
  · obtain ⟨window, isOpen, rfl⟩ := own
    rw [wake_of_open isOpen (sound.alarm window isOpen)]
    exact sound.close isOpen _
  · have other : ∀ window ∈ ledger.gatherer.window, window.generation ≠ generation := by
      intro window isOpen same
      exact own ⟨window, isOpen, same⟩
    rw [wake_of_other other]
    exact sound.forget other

/-- Every event keeps a ledger sound. -/
theorem Sound.step (sound : ledger.Sound limits) (event : Event) :
    (ledger.step limits event).Sound limits := by
  cases event with
  | join request => exact sound.join request
  | wake generation => exact sound.wake generation

/-- Every ledger is sound, whatever has happened. -/
theorem run_sound (limits : Limits) (events : List Event) : (run limits events).Sound limits := by
  induction events using List.reverseRecOn with
  | nil => exact empty_sound
  | append_singleton earlier event inductionHypothesis =>
      rw [run, List.foldl_append]
      exact inductionHypothesis.step event

/-- The requests of a ledger are those that came, in order. -/
theorem joined_run (limits : Limits) (events : List Event) :
    (run limits events).joined.map Prod.fst = events.filterMap Event.request? := by
  induction events using List.reverseRecOn with
  | nil => rfl
  | append_singleton earlier event inductionHypothesis =>
      rw [run, List.foldl_append, List.filterMap_append, ← inductionHypothesis]
      cases event with
      | join request => simp [run, step, join, Event.request?]
      | wake generation =>
          simp only [run, List.foldl_cons, List.foldl_nil, step, wake]
          split <;> simp [Event.request?]

/-- No two windows have one generation. -/
theorem Sound.nodup_generations (sound : ledger.Sound limits) :
    (ledger.windows.map Window.generation).Nodup := by
  rw [sound.generations]
  exact List.nodup_range

/-- Windows follow one another by generation. -/
theorem Sound.generations_increase (sound : ledger.Sound limits) :
    (ledger.windows.map Window.generation).Pairwise (· < ·) := by
  rw [sound.generations]
  exact List.pairwise_lt_range

/-- The windows hold the requests that have joined, in order. -/
theorem Sound.flatMap_requests (sound : ledger.Sound limits) :
    ledger.windows.flatMap Window.requests = ledger.joined.map Prod.fst := by
  rw [sound.places, List.map_flatMap]
  congr 1
  funext window
  exact window.map_fst_places.symm

/-- The window of a ticket, which holds the request at the ticket's position. -/
theorem Sound.window_of_joined (sound : ledger.Sound limits) {request : Request} {ticket : Ticket}
    (member : (request, ticket) ∈ ledger.joined) :
    ∃ window ∈ ledger.windows, window.generation = ticket.generation ∧
      window.requests[ticket.position]? = some request := by
  rw [sound.places] at member
  obtain ⟨window, isWindow, place⟩ := List.mem_flatMap.mp member
  obtain ⟨same, held⟩ := Window.mem_places.mp place
  exact ⟨window, isWindow, same.symm, held⟩

/-- Windows of one generation are one window, at one place. -/
theorem Sound.index_unique (sound : ledger.Sound limits) {m n : Nat} {first second : Window}
    (atFirst : ledger.windows[m]? = some first) (atSecond : ledger.windows[n]? = some second)
    (same : first.generation = second.generation) : m = n := by
  have distinct := sound.nodup_generations
  have left : (ledger.windows.map Window.generation)[m]? = some first.generation := by
    simp [atFirst]
  have right : (ledger.windows.map Window.generation)[n]? = some first.generation := by
    simp [atSecond, same]
  obtain ⟨bound, _⟩ := List.getElem?_eq_some_iff.mp left
  exact (List.getElem?_inj bound distinct).mp (left.trans right.symm)

/-- No two requests have got one ticket. -/
theorem Sound.nodup_joined (sound : ledger.Sound limits) :
    (ledger.joined.map Prod.snd).Nodup := by
  rw [sound.places, List.map_flatMap, List.nodup_flatMap]
  constructor
  · intro window _
    exact window.nodup_tickets
  · have distinct := List.pairwise_map.mp sound.nodup_generations
    refine distinct.imp ?_
    intro first second different ticket inFirst inSecond
    obtain ⟨⟨request, _⟩, place, rfl⟩ := List.mem_map.mp inFirst
    obtain ⟨⟨other, _⟩, otherPlace, same⟩ := List.mem_map.mp inSecond
    simp only at same
    subst same
    exact different
      ((Window.mem_places.mp place).1.symm.trans (Window.mem_places.mp otherPlace).1)

/-- A window that was sent is not open. -/
theorem Sound.sent_not_open (sound : ledger.Sound limits) {window : Window}
    (wasSent : window ∈ ledger.sent) :
    ∀ other ∈ ledger.gatherer.window, other.generation ≠ window.generation := by
  intro other isOpen same
  have distinct := sound.nodup_generations
  rw [windows, List.map_append, List.nodup_append] at distinct
  have isOpen : ledger.gatherer.window = some other := isOpen
  exact distinct.2.2 window.generation (List.mem_map_of_mem wasSent) other.generation
    (by simp [isOpen]) same.symm

/-- What was sent stays sent. -/
theorem sent_prefix_step (event : Event) : ledger.sent <+: (ledger.step limits event).sent := by
  cases event with
  | join request => exact List.prefix_append ledger.sent _
  | wake generation =>
      simp only [step, wake]
      split
      · exact List.prefix_append ledger.sent _
      · exact List.prefix_rfl

theorem sent_prefix_foldl (events : List Event) :
    ledger.sent <+: (events.foldl (step limits) ledger).sent := by
  induction events generalizing ledger with
  | nil => exact List.prefix_rfl
  | cons event rest inductionHypothesis =>
      exact (sent_prefix_step event).trans inductionHypothesis

/-- Windows neither lose nor duplicate a request. In whatever order requests join and alarms ring:
every request is in exactly one window, at the position of its own ticket; the windows come in the
order of their generations and together hold the requests in the order in which they came; sizes
are within a positive limit; the alarm of a window that was sent has no effect; and the alarm of the
open window is set, and sends the window for good. -/
theorem windows_partition_joined (limits : Limits) (events : List Event) :
    let ledger := run limits events
    (∀ entry ∈ ledger.joined, ∃! n : Nat, ∃ window : Window, ledger.windows[n]? = some window ∧
        window.generation = entry.2.generation ∧
        window.requests[entry.2.position]? = some entry.1) ∧
      (ledger.joined.map Prod.snd).Nodup ∧
      (ledger.windows.map Window.generation).Pairwise (· < ·) ∧
      ledger.joined.map Prod.fst = events.filterMap Event.request? ∧
      ledger.windows.flatMap Window.requests = events.filterMap Event.request? ∧
      (∀ size ∈ limits.maxSize, 0 < size →
        (∀ window ∈ ledger.sent, 1 ≤ window.requests.length ∧ window.requests.length ≤ size) ∧
        ∀ window ∈ ledger.gatherer.window,
          1 ≤ window.requests.length ∧ window.requests.length ≤ size - 1) ∧
      (∀ window ∈ ledger.sent, ledger.wake window.generation =
        { ledger with armed := ledger.armed.erase window.generation }) ∧
      ∀ window ∈ ledger.gatherer.window, window.generation ∈ ledger.armed ∧
        (ledger.wake window.generation).sent = ledger.sent ++ [window] ∧
        ∀ later : List Event,
          window ∈ (later.foldl (step limits) (ledger.wake window.generation)).sent := by
  intro ledger
  have sound : ledger.Sound limits := run_sound limits events
  have came : ledger.joined.map Prod.fst = events.filterMap Event.request? :=
    joined_run limits events
  refine ⟨?_, sound.nodup_joined, sound.generations_increase, came,
    sound.flatMap_requests.trans came, ?_, ?_, ?_⟩
  · -- generations number the windows, so a ticket's generation names one of them
    rintro ⟨request, ticket⟩ member
    obtain ⟨window, isWindow, generation, held⟩ := sound.window_of_joined member
    obtain ⟨n, atPlace⟩ := List.getElem?_of_mem isWindow
    refine ⟨n, ⟨window, atPlace, generation, held⟩, ?_⟩
    rintro m ⟨other, atOther, otherGeneration, _⟩
    exact sound.index_unique atOther atPlace (otherGeneration.trans generation.symm)
  · intro size limit positive
    constructor
    · intro window wasSent
      exact ⟨List.length_pos_of_ne_nil (sound.sentNonempty window wasSent),
        sound.sentSize window wasSent size limit positive⟩
    · intro window isOpen
      exact ⟨List.length_pos_of_ne_nil (sound.openNonempty window isOpen),
        Nat.le_sub_one_of_lt (sound.openSize window isOpen size limit)⟩
  · intro window wasSent
    exact wake_of_other (sound.sent_not_open wasSent)
  · intro window isOpen
    have armed := sound.alarm window isOpen
    have taken : (ledger.wake window.generation).sent = ledger.sent ++ [window] := by
      rw [wake_of_open isOpen armed]
    refine ⟨armed, taken, ?_⟩
    intro later
    apply (sent_prefix_foldl later).subset
    simp [taken]

end Ledger

end RpcTransport.Gathering
