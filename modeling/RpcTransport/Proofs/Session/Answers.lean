import RpcTransport.Proofs.Message.Replies
import RpcTransport.Proofs.Session.Calls

/-!
Which answer a call gets. Each call goes its own way: from the moment when its request is sent, only
its own answer, its own caller and a teardown can end it, and the first of these does.
-/

namespace RpcTransport

/-- What an event makes of the call of a number. -/
def CallState.after (number : Nat) (state : CallState) (event : Session.Event) : CallState :=
  match state with
  | .waiting id => (event.ending? number id).getD (.waiting id)
  | isOver => isOver

/-- A call that has ended stays as it is. -/
theorem CallState.foldl_after_of_over {number : Nat} {state : CallState}
    (isOver : ∀ id, state ≠ .waiting id) (events : List Session.Event) :
    events.foldl (CallState.after number) state = state := by
  induction events with
  | nil => rfl
  | cons event rest inductionHypothesis =>
      cases state with
      | waiting id => exact absurd rfl (isOver id)
      | finished outcome => exact inductionHypothesis
      | abandoned => exact inductionHypothesis

/-- A call that waits comes to the end that the first event brings it that ends it at all. -/
theorem CallState.foldl_after_eq {number : Nat} {id : String} {state : CallState}
    (isOver : ∀ other, state ≠ .waiting other) {events : List Session.Event} :
    events.foldl (CallState.after number) (.waiting id) = state ↔
      ∃ middle event later, events = middle ++ event :: later ∧
        (∀ e ∈ middle, e.ending? number id = none) ∧ event.ending? number id = some state := by
  induction events with
  | nil =>
      constructor
      · intro same
        exact absurd same.symm (isOver id)
      · rintro ⟨middle, event, later, split, _⟩
        simp at split
  | cons event rest inductionHypothesis =>
      rw [List.foldl_cons]
      cases ending : event.ending? number id with
      | none =>
          rw [show CallState.after number (.waiting id) event = .waiting id by
            simp only [CallState.after, ending, Option.getD_none], inductionHypothesis]
          constructor
          · rintro ⟨middle, last, later, rfl, quiet, ends⟩
            refine ⟨event :: middle, last, later, rfl, ?_, ends⟩
            rintro e (_ | ⟨_, member⟩)
            · exact ending
            · exact quiet e member
          · rintro ⟨_ | ⟨first, middle⟩, last, later, split, quiet, ends⟩
            · obtain ⟨rfl, rfl⟩ := List.cons.inj split
              rw [ending] at ends
              cases ends
            · obtain ⟨rfl, rfl⟩ := List.cons.inj split
              exact ⟨middle, last, later, rfl,
                fun e member => quiet e (List.mem_cons_of_mem _ member), ends⟩
      | some ended =>
          have isOver' : ∀ other, ended ≠ .waiting other := fun _ =>
            Session.ending_ne_waiting ending
          rw [show CallState.after number (.waiting id) event = ended by
            simp only [CallState.after, ending, Option.getD_some],
            CallState.foldl_after_of_over isOver']
          constructor
          · rintro rfl
            exact ⟨[], event, rest, rfl, fun _ member => absurd member List.not_mem_nil, ending⟩
          · rintro ⟨_ | ⟨first, middle⟩, last, later, split, quiet, ends⟩
            · obtain ⟨rfl, rfl⟩ := List.cons.inj split
              exact Option.some.inj (ending.symm.trans ends)
            · obtain ⟨rfl, rfl⟩ := List.cons.inj split
              rw [quiet event List.mem_cons_self] at ending
              cases ending

namespace Session

variable {session : Session} {number : Nat} {id : String} {event : Event} {state : CallState}

/-- No request is sent under the id of a call that waits. -/
def Fresh (session : Session) (event : Event) : Prop :=
  ∀ id, event.requestId? session = some id →
    ∀ number : Nat, session.calls[number]? ≠ some (.waiting id)

/-- Throughout a run, ids differ among the calls in flight. -/
def DistinctIds (session : Session) (events : List Event) : Prop :=
  ∀ earlier event later, events = earlier ++ event :: later → (session.run earlier).Fresh event

theorem run_append (session : Session) (earlier later : List Event) :
    session.run (earlier ++ later) = (session.run earlier).run later :=
  List.foldl_append

theorem DistinctIds.drop {earlier later : List Event}
    (distinct : session.DistinctIds (earlier ++ later)) :
    (session.run earlier).DistinctIds later := by
  intro before event after split
  rw [← run_append]
  exact distinct (earlier ++ before) event after (by rw [split, List.append_assoc])

/-- Ids differ throughout a run if they do at its first event and throughout the rest. -/
theorem distinctIds_cons {rest : List Event} :
    session.DistinctIds (event :: rest) ↔
      session.Fresh event ∧ (session.step event).DistinctIds rest := by
  constructor
  · intro distinct
    exact ⟨distinct [] event rest rfl,
      DistinctIds.drop (show session.DistinctIds ([event] ++ rest) from distinct)⟩
  · rintro ⟨fresh, distinct⟩ (_ | ⟨first, earlier⟩) last later split
    · obtain ⟨rfl, rfl⟩ := List.cons.inj split
      exact fresh
    · obtain ⟨rfl, rfl⟩ := List.cons.inj split
      exact distinct earlier last later rfl

theorem distinctIds_nil : session.DistinctIds [] := by
  intro earlier event later split
  simp at split

/-- An event that sends no request is fresh. -/
theorem fresh_of_silent (silent : event.requestId? session = none) : session.Fresh event := by
  intro id sends
  rw [silent] at sends
  cases sends

/-- An event that sends a request ends no call, but by a clash of ids. -/
theorem ending?_of_requestId (sends : event.requestId? session = some id) (other : String) :
    event.ending? number other = none := by
  cases event with
  | frame | abandon | teardown => cases sends
  | _ => rfl

/-- A call that is over stays as it is, whatever ids requests are sent under. -/
theorem Linked.calls_step_over (linked : session.Linked) (isOver : ∀ id, state ≠ .waiting id)
    (found : session.calls[number]? = some state) :
    (session.step event).calls[number]? = some state := by
  obtain ⟨bound, _⟩ := List.getElem?_eq_some_iff.mp found
  have elsewhere : ∀ {place : Nat} {id : String}, session.calls[place]? = some (.waiting id) →
      place ≠ number := by
    rintro place id waits rfl
    exact isOver id (Option.some.inj (found.symm.trans waits))
  rcases linked.step_cases event with ⟨_, _, refuses | ⟨_, registers⟩ | clashes⟩ |
    ⟨_, _, _, _, ends, _⟩ | rfl | ⟨_, keeps⟩
  · rw [refuses.calls, List.getElem?_append_left bound, found]
  · rw [registers.calls, List.getElem?_append_left bound, found]
  · obtain ⟨earlier, waits, calls⟩ := clashes.waited
    have stillBound : number < (session.calls.set earlier closed).length := by
      rwa [List.length_set]
    rw [calls, List.getElem?_append_left stillBound, List.getElem?_set_ne (elsewhere waits), found]
  · rw [ends.calls, List.getElem?_set_ne (elsewhere ends.waited), found]
  · rw [step_teardown, linked.teardown_calls.1, List.getElem?_map, found, Option.map_some]
    cases state with
    | waiting id => exact absurd rfl (isOver id)
    | finished | abandoned => rfl
  · rw [keeps.calls, found]

/-- One step takes every call along its own way. -/
theorem Linked.calls_step (linked : session.Linked) (fresh : session.Fresh event)
    (found : session.calls[number]? = some state) :
    (session.step event).calls[number]? = some (state.after number event) := by
  cases state with
  | finished outcome => exact linked.calls_step_over (fun _ => finished_ne_waiting) found
  | abandoned => exact linked.calls_step_over nofun found
  | waiting id =>
      have stays : event.ending? number id = none →
          CallState.after number (.waiting id) event = .waiting id := by
        intro quiet
        simp only [CallState.after, quiet, Option.getD_none]
      obtain ⟨bound, _⟩ := List.getElem?_eq_some_iff.mp found
      rcases linked.step_cases event with ⟨_, sends, refuses | ⟨_, registers⟩ | clashes⟩ |
        ⟨other, _, _, ending, ends, alone⟩ | rfl | ⟨quiet, keeps⟩
      · rw [refuses.calls, List.getElem?_append_left bound, found,
          stays (ending?_of_requestId sends id)]
      · rw [registers.calls, List.getElem?_append_left bound, found,
          stays (ending?_of_requestId sends id)]
      · obtain ⟨⟨earlier, waits, _⟩, _⟩ := clashes
        exact absurd waits (fresh _ sends earlier)
      · rw [ends.calls]
        by_cases own : other = number
        · subst own
          rw [List.getElem?_set_self bound]
          cases found.symm.trans ends.waited
          simp only [CallState.after, ending, Option.getD_some]
        · rw [List.getElem?_set_ne own, found, stays (alone number id (Ne.symm own) found)]
      · rw [step_teardown, linked.teardown_calls.1, List.getElem?_map, found]
        rfl
      · rw [keeps.calls, found, stays (quiet number id found)]

/-- A whole run takes every call along its own way. -/
theorem Linked.calls_run (linked : session.Linked) {events : List Event}
    (distinct : session.DistinctIds events) (found : session.calls[number]? = some state) :
    (session.run events).calls[number]? = some (events.foldl (CallState.after number) state) := by
  induction events generalizing session state with
  | nil => exact found
  | cons event rest inductionHypothesis =>
      obtain ⟨fresh, later⟩ := distinctIds_cons.mp distinct
      exact inductionHypothesis (linked.step event) later (linked.calls_step fresh found)

/-! ### Where calls come from -/

/-- A step adds at most one call. It waits for an answer to the request that was sent, or is refused
and has ended. -/
theorem Linked.new_call (linked : session.Linked) (fresh : session.Fresh event)
    (absent : session.calls.length ≤ number)
    (found : (session.step event).calls[number]? = some state) :
    number = session.calls.length ∧
      (state = closed ∨ ∃ id, event.requestId? session = some id ∧ state = .waiting id) := by
  have notOld : ∀ {old : CallState}, session.calls[number]? ≠ some old := by
    intro old present
    rw [List.getElem?_eq_none absent] at present
    cases present
  rcases linked.step_cases event with ⟨id, sends, refuses | ⟨_, registers⟩ | clashes⟩ |
    ⟨other, id, ended, ending, ends, alone⟩ | rfl | ⟨quiet, keeps⟩
  · rw [refuses.calls] at found
    rcases getElem?_concat_cases found with old | ⟨last, added⟩
    · exact absurd old notOld
    · exact ⟨last, Or.inl added⟩
  · rw [registers.calls] at found
    rcases getElem?_concat_cases found with old | ⟨last, added⟩
    · exact absurd old notOld
    · exact ⟨last, Or.inr ⟨id, sends, added⟩⟩
  · obtain ⟨⟨earlier, waits, _⟩, _⟩ := clashes
    exact absurd waits (fresh id sends earlier)
  · rw [ends.calls, List.getElem?_eq_none (by simpa using absent)] at found
    cases found
  · rw [step_teardown, linked.teardown_calls.1,
      List.getElem?_eq_none (by simpa using absent)] at found
    cases found
  · rw [keeps.calls] at found
    exact absurd found notOld

/-- Every call of a run was begun by some event of the run. -/
theorem Linked.begun (linked : session.Linked) {events : List Event}
    (distinct : session.DistinctIds events) (absent : session.calls.length ≤ number)
    (found : (session.run events).calls[number]? = some state) :
    ∃ before opening later first, events = before ++ opening :: later ∧
      (session.run before).calls.length = number ∧
      (session.run (before ++ [opening])).calls[number]? = some first ∧
      (first = closed ∨
        ∃ id, opening.requestId? (session.run before) = some id ∧ first = .waiting id) := by
  induction events generalizing session with
  | nil =>
      rw [show session.run [] = session from rfl, List.getElem?_eq_none absent] at found
      cases found
  | cons event rest inductionHypothesis =>
      obtain ⟨fresh, distinctLater⟩ := distinctIds_cons.mp distinct
      cases new : (session.step event).calls[number]? with
      | none =>
          obtain ⟨before, opening, later, first, rfl, count, begun, kind⟩ :=
            inductionHypothesis (linked.step event) distinctLater
              (List.getElem?_eq_none_iff.mp new) found
          exact ⟨event :: before, opening, later, first, rfl, count, begun, kind⟩
      | some first =>
          obtain ⟨count, kind⟩ := linked.new_call fresh absent new
          exact ⟨[], event, rest, first, rfl, count.symm, new, kind⟩

/-! ### What calls come to -/

theorem outcome?_eq_some {outcome : Outcome Envelope} :
    session.outcome? number = some outcome ↔
      session.calls[number]? = some (.finished outcome) := by
  unfold outcome?
  split
  · next other found =>
      rw [found]
      simp
  · next notFinished =>
      constructor
      · intro absent
        cases absent
      · intro found
        exact absurd found (notFinished outcome)

/-- Only a frame that holds the answer ends a call with an answer. -/
theorem ending?_eq_ok {message : Envelope} :
    event.ending? number id = some (.finished (.ok message)) ↔
      ∃ bytes, event = .frame bytes ∧ answerIn? id bytes = some message := by
  constructor
  · intro ending
    cases event with
    | frame bytes =>
        obtain ⟨found, answers, same⟩ := Option.map_eq_some_iff.mp ending
        cases same
        exact ⟨bytes, rfl, answers⟩
    | abandon caller => cases eq_abandoned_of_ending? ending
    | _ => cases ending
  · rintro ⟨bytes, rfl, answers⟩
    exact Option.map_eq_some_iff.mpr ⟨message, answers, rfl⟩

/-- Only a teardown ends a call without an answer. -/
theorem ending?_eq_error {error : TransportError} :
    event.ending? number id = some (.finished (.error error)) ↔
      event = .teardown ∧ error = .connectionClosed := by
  constructor
  · intro ending
    cases event with
    | frame bytes =>
        obtain ⟨found, _, same⟩ := Option.map_eq_some_iff.mp ending
        cases same
    | abandon caller => cases eq_abandoned_of_ending? ending
    | teardown =>
        cases ending
        exact ⟨rfl, rfl⟩
    | _ => cases ending
  · rintro ⟨rfl, rfl⟩
    rfl

/-- Events that do not end a call under an id: no frame holds an answer for it, its caller does not
give up, and there is no teardown. -/
theorem forall_ending?_eq_none {events : List Event} :
    (∀ event ∈ events, event.ending? number id = none) ↔
      (∀ bytes, .frame bytes ∈ events → answerIn? id bytes = none) ∧ .abandon number ∉ events ∧
        .teardown ∉ events := by
  constructor
  · intro quiet
    refine ⟨?_, ?_, ?_⟩
    · intro bytes member
      exact Option.map_eq_none_iff.mp (quiet _ member)
    · intro member
      have ended := quiet _ member
      rw [Event.ending?, if_pos rfl] at ended
      cases ended
    · intro member
      cases quiet _ member
  · rintro ⟨noAnswer, notAbandoned, noTeardown⟩ event member
    cases event with
    | frame bytes => exact Option.map_eq_none_iff.mpr (noAnswer bytes member)
    | abandon caller =>
        refine if_neg ?_
        rintro rfl
        exact notAbandoned member
    | teardown => exact absurd member noTeardown
    | _ => rfl

/-- A call is answered: its request was sent, and then, before its caller gave up and before a
teardown, the first frame came that holds an answer for its id. -/
def Answered (session : Session) (events : List Event) (number : Nat) (message : Envelope) : Prop :=
  ∃ before opening middle bytes later id,
    events = before ++ opening :: middle ++ .frame bytes :: later ∧
    (session.run before).calls.length = number ∧
    opening.requestId? (session.run before) = some id ∧
    (session.run (before ++ [opening])).calls[number]? = some (.waiting id) ∧
    ((∀ other, .frame other ∈ middle → answerIn? id other = none) ∧ .abandon number ∉ middle ∧
      .teardown ∉ middle) ∧
    Envelope.decode bytes = .ok message ∧ message.kind = .response ∧
    message.validId = some id ∧ message.raw = bytes

/-- A call ends with an answer just if it is answered, and then with that answer. -/
theorem Linked.outcome?_eq_ok (linked : session.Linked) (new : session.calls = [])
    {events : List Event} (distinct : session.DistinctIds events) {message : Envelope} :
    (session.run events).outcome? number = some (.ok message) ↔
      session.Answered events number message := by
  rw [outcome?_eq_some]
  constructor
  · intro found
    obtain ⟨before, opening, later, first, rfl, count, begun, kind⟩ :=
      linked.begun distinct (by simp [new]) found
    rw [List.append_cons] at distinct found
    rw [run_append, (linked.run (before ++ [opening])).calls_run distinct.drop begun] at found
    have ended := Option.some.inj found
    rcases kind with rfl | ⟨id, sends, rfl⟩
    · rw [CallState.foldl_after_of_over fun _ => finished_ne_waiting] at ended
      cases ended
    · obtain ⟨middle, event, rest, rfl, quiet, ending⟩ :=
        (CallState.foldl_after_eq fun _ => finished_ne_waiting).mp ended
      obtain ⟨bytes, rfl, answers⟩ := ending?_eq_ok.mp ending
      obtain ⟨read, isResponse, hasId⟩ := answerIn?_eq_some.mp answers
      exact ⟨before, opening, middle, bytes, rest, id, by simp, count, sends, begun,
        forall_ending?_eq_none.mp quiet, read, isResponse, hasId, Envelope.raw_of_decode read⟩
  · rintro ⟨before, opening, middle, bytes, later, id, rfl, count, sends, begun, quiet, read,
      isResponse, hasId, _⟩
    have answers := answerIn?_eq_some.mpr ⟨read, isResponse, hasId⟩
    rw [show before ++ opening :: middle ++ .frame bytes :: later =
      (before ++ [opening]) ++ (middle ++ .frame bytes :: later) by simp] at distinct ⊢
    rw [run_append, (linked.run (before ++ [opening])).calls_run distinct.drop begun]
    exact congrArg some ((CallState.foldl_after_eq fun _ => finished_ne_waiting).mpr
      ⟨middle, .frame bytes, later, rfl, forall_ending?_eq_none.mpr quiet,
        ending?_eq_ok.mpr ⟨bytes, rfl, answers⟩⟩)

/-- A call that waits ends without an answer just if the session is torn down while it waits. -/
theorem Linked.teardown_of_error (linked : session.Linked) {events : List Event}
    (distinct : session.DistinctIds events) (waits : session.calls[number]? = some (.waiting id))
    {error : TransportError} (failed : (session.run events).outcome? number = some (.error error)) :
    error = .connectionClosed ∧ ∃ middle later, events = middle ++ .teardown :: later ∧
      (session.run middle).calls[number]? = some (.waiting id) := by
  rw [outcome?_eq_some, linked.calls_run distinct waits] at failed
  obtain ⟨middle, event, later, rfl, quiet, ending⟩ :=
    (CallState.foldl_after_eq fun _ => finished_ne_waiting).mp (Option.some.inj failed)
  obtain ⟨rfl, rfl⟩ := ending?_eq_error.mp ending
  refine ⟨rfl, middle, later, rfl, ?_⟩
  have distinctMiddle : session.DistinctIds middle := by
    intro before event after split
    refine distinct before event (after ++ .teardown :: later) ?_
    rw [split, List.append_assoc, List.cons_append]
  rw [linked.calls_run distinctMiddle waits]
  have stays : middle.foldl (CallState.after number) (.waiting id) = .waiting id := by
    clear distinct failed distinctMiddle
    induction middle with
    | nil => rfl
    | cons event rest inductionHypothesis =>
        have first := quiet event List.mem_cons_self
        have rest := inductionHypothesis fun e member => quiet e (List.mem_cons_of_mem _ member)
        rw [List.foldl_cons, CallState.after, first]
        exact rest
  rw [stays]

/-- Without a request under an id no call comes to wait under it: one that waits under it has waited
before. -/
theorem Linked.waited_step (linked : session.Linked) (silent : event.requestId? session ≠ some id)
    (waits : (session.step event).calls[number]? = some (.waiting id)) :
    session.calls[number]? = some (.waiting id) := by
  rcases linked.step_cases event with ⟨other, sends, refuses | ⟨_, registers⟩ | clashes⟩ |
    ⟨place, other, ended, ending, ends, _⟩ | rfl | ⟨_, keeps⟩
  · rw [refuses.calls] at waits
    rcases getElem?_concat_cases waits with old | ⟨_, added⟩
    · exact old
    · cases added
  · rw [registers.calls] at waits
    rcases getElem?_concat_cases waits with old | ⟨_, added⟩
    · exact old
    · cases added
      exact absurd sends silent
  · obtain ⟨⟨earlier, _, calls⟩, _⟩ := clashes
    rw [calls] at waits
    rcases getElem?_concat_cases waits with old | ⟨_, added⟩
    · exact (waits_of_set (fun _ => finished_ne_waiting) old).2
    · cases added
  · rw [ends.calls] at waits
    exact (waits_of_set (fun _ => ending_ne_waiting ending) waits).2
  · exact absurd waits linked.teardown_ne_waiting
  · rwa [keeps.calls] at waits

theorem Linked.late_step (linked : session.Linked)
    (late : ∀ number : Nat, session.calls[number]? ≠ some (.waiting id))
    (silent : event.requestId? session ≠ some id) :
    ∀ number : Nat, (session.step event).calls[number]? ≠ some (.waiting id) :=
  fun number waits => late number (linked.waited_step silent waits)

/-- After an answer for an id no call waits under the id. -/
theorem Linked.late_of_answer (linked : session.Linked) {bytes : Bytes} {message : Envelope}
    (answers : answerIn? id bytes = some message) :
    ∀ number : Nat, (session.frame bytes).calls[number]? ≠ some (.waiting id) := by
  intro number waits
  rcases linked.frame_cases bytes with ⟨other, otherId, found, otherAnswers, ends⟩ | ⟨stray, keeps⟩
  · cases answerIn?_unique answers otherAnswers
    rw [ends.calls, List.getElem?_set] at waits
    split at waits
    · split at waits
      · cases waits
      · cases waits
    · next different => exact different (linked.number_unique ends.waited waits)
  · rw [keeps.calls] at waits
    rw [stray number id waits] at answers
    cases answers

/-- Once an answer for an id has come, and until a request is sent under the id again, another
answer for it changes nothing. -/
theorem Linked.second_answer (linked : session.Linked) {first second : Bytes}
    {middle : List Event} (answers : answerIn? id first ≠ none)
    (again : answerIn? id second ≠ none)
    (silent : ∀ before event after, middle = before ++ event :: after →
      event.requestId? (session.run (.frame first :: before)) ≠ some id) :
    session.run (.frame first :: middle ++ [.frame second]) =
      session.run (.frame first :: middle) := by
  obtain ⟨firstMessage, answers⟩ := Option.ne_none_iff_exists'.mp answers
  obtain ⟨secondMessage, again⟩ := Option.ne_none_iff_exists'.mp again
  have late : ∀ number : Nat,
      (session.run (.frame first :: middle)).calls[number]? ≠ some (.waiting id) := by
    -- only a request that is sent could let a call wait under the id again
    induction middle using List.reverseRecOn with
    | nil => exact linked.late_of_answer answers
    | append_singleton before event inductionHypothesis =>
        have earlier := inductionHypothesis fun start e rest split =>
          silent start e (rest ++ [event]) (by rw [split, List.append_assoc, List.cons_append])
        rw [← List.cons_append, run_append]
        exact (linked.run (.frame first :: before)).late_step earlier
          (silent before event [] rfl)
  rw [run_append]
  exact (linked.run (.frame first :: middle)).frame_of_late again late

/-- A frame completes one call at most. -/
theorem Linked.completes_one (linked : session.Linked) {bytes : Bytes} {other : Nat}
    (open₁ : session.outcome? number = none) (done₁ : (session.frame bytes).outcome? number ≠ none)
    (open₂ : session.outcome? other = none) (done₂ : (session.frame bytes).outcome? other ≠ none) :
    number = other := by
  rcases linked.frame_cases bytes with ⟨place, id, message, _, ends⟩ | ⟨_, keeps⟩
  · have own : ∀ {n : Nat}, session.outcome? n = none → (session.frame bytes).outcome? n ≠ none →
        n = place := by
      intro n isOpen done
      refine Decidable.byContradiction fun different => done ?_
      rw [← isOpen, outcome?, outcome?, ends.calls, List.getElem?_set_ne (Ne.symm different)]
    exact (own open₁ done₁).trans (own open₂ done₂).symm
  · refine absurd ?_ done₁
    rw [← open₁, outcome?, outcome?, keeps.calls]

/-- Calls and answers belong together. Whatever happens in whatever order, if ids differ among the
calls in flight: what a call has come to it keeps; it gets an answer just if it is answered, and
then the first answer after its request; no frame completes two calls; a second answer for an id
changes nothing; and a call that waits fails only if the session is torn down meanwhile. -/
theorem calls_get_first_answers {url : String} {config : WebSocketConfig} {session : Session}
    (made : make url config = .ok session) {events : List Event}
    (distinct : session.DistinctIds events) :
    (∀ earlier later number outcome, events = earlier ++ later →
      (session.run earlier).outcome? number = some outcome →
      (session.run events).outcome? number = some outcome) ∧
    (∀ number message, (session.run events).outcome? number = some (.ok message) ↔
      session.Answered events number message) ∧
    (∀ earlier bytes later number other, events = earlier ++ .frame bytes :: later →
      (session.run earlier).outcome? number = none →
      (session.run (earlier ++ [.frame bytes])).outcome? number ≠ none →
      (session.run earlier).outcome? other = none →
      (session.run (earlier ++ [.frame bytes])).outcome? other ≠ none → number = other) ∧
    (∀ earlier first middle second later id,
      events = earlier ++ .frame first :: middle ++ .frame second :: later →
      answerIn? id first ≠ none → answerIn? id second ≠ none →
      (∀ before event after, middle = before ++ event :: after →
        event.requestId? (session.run (earlier ++ .frame first :: before)) ≠ some id) →
      session.run (earlier ++ .frame first :: middle ++ [.frame second]) =
        session.run (earlier ++ .frame first :: middle)) ∧
    ∀ earlier later number id error, events = earlier ++ later →
      (session.run earlier).calls[number]? = some (.waiting id) →
      (session.run events).outcome? number = some (.error error) →
      error = .connectionClosed ∧ ∃ middle after, later = middle ++ .teardown :: after ∧
        (session.run (earlier ++ middle)).calls[number]? = some (.waiting id) := by
  have linked : session.Linked := linked_of_make made
  have new : session.calls = [] := by rw [make_eq_ok made]
  refine ⟨?_, ?_, ?_, ?_, ?_⟩
  · rintro earlier later number outcome rfl done
    rw [outcome?_eq_some] at done ⊢
    rw [run_append, (linked.run earlier).calls_run distinct.drop done,
      CallState.foldl_after_of_over fun _ => finished_ne_waiting]
  · intro number message
    exact linked.outcome?_eq_ok new distinct
  · rintro earlier bytes later number other rfl open₁ done₁ open₂ done₂
    rw [run_append] at done₁ done₂
    exact (linked.run earlier).completes_one open₁ done₁ open₂ done₂
  · rintro earlier first middle second later id rfl answers again silent
    simp only [run_append, List.append_assoc] at silent ⊢
    have unchanged := (linked.run earlier).second_answer answers again silent
    rwa [run_append] at unchanged
  · rintro earlier later number id error rfl waits failed
    rw [run_append] at failed
    obtain ⟨rfl, middle, after, rfl, waited⟩ :=
      (linked.run earlier).teardown_of_error distinct.drop waits failed
    exact ⟨rfl, middle, after, rfl, by rw [run_append]; exact waited⟩

/-- A session before its first start. -/
def idleSession : Session :=
  { url := "ws://node", config := {} }

/-- Two calls over one connection, answered in the opposite order, and the first one twice. -/
def crossedAnswers : List Event :=
  [.start, .dialSucceeded 0, .launch 0, .call "a" "eth_chainId" [], .call "b" "eth_call" [],
    .frame (bytesOf "\x7b\"id\":\"b\",\"result\":1\x7d"),
    .frame (bytesOf "\x7b\"id\":\"a\",\"result\":2\x7d"),
    .frame (bytesOf "\x7b\"id\":\"a\",\"result\":3\x7d"), .teardown]

theorem distinctIds_crossedAnswers : idleSession.DistinctIds crossedAnswers := by
  refine distinctIds_cons.mpr ⟨fresh_of_silent rfl, ?_⟩
  refine distinctIds_cons.mpr ⟨fresh_of_silent rfl, ?_⟩
  refine distinctIds_cons.mpr ⟨fresh_of_silent rfl, ?_⟩
  refine distinctIds_cons.mpr ⟨?_, distinctIds_cons.mpr ⟨?_, ?_⟩⟩
  · rintro id sends number waits
    cases waits
  · rintro id sends (_ | number) waits
    · have waiting := CallState.waiting.inj (Option.some.inj waits)
      have same := (Option.some.inj sends).trans waiting.symm
      exact absurd same (by decide)
    · cases waits
  refine distinctIds_cons.mpr ⟨fresh_of_silent rfl, ?_⟩
  refine distinctIds_cons.mpr ⟨fresh_of_silent rfl, ?_⟩
  refine distinctIds_cons.mpr ⟨fresh_of_silent rfl, ?_⟩
  exact distinctIds_cons.mpr ⟨fresh_of_silent rfl, distinctIds_nil⟩

/-- Each of the two calls gets the first answer for its own id. -/
theorem calls_get_first_answers_crossed :
    make "ws://node" {} = .ok idleSession ∧
      (∃ message, idleSession.Answered crossedAnswers 0 message) ∧
        ∃ message, idleSession.Answered crossedAnswers 1 message := by
  have made : make "ws://node" {} = .ok idleSession := rfl
  have answered := (calls_get_first_answers made distinctIds_crossedAnswers).2.1
  exact ⟨made, ⟨_, (answered 0 _).mp rfl⟩, ⟨_, (answered 1 _).mp rfl⟩⟩

end Session

end RpcTransport
