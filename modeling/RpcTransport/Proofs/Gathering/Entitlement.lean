import RpcTransport.Proofs.Gathering.Assignment
import RpcTransport.Proofs.Message.Kinds

/-!
What each request of a batch is entitled to: the last element with its id; if there is none, the
element at its own place, unless that one has the id of a request; and if there is none of these, an
error with the request's id. Requests of different ids all get just that, since no two of them have
one place chosen for them.
-/

namespace RpcTransport.Gathering

/-! ### The last element with an id -/

/-- An element is the last one with an id. -/
def LastWith (id : String) (elements : List Envelope) (element : Envelope) : Prop :=
  ∃ before after, elements = before ++ element :: after ∧ element.HasId id ∧
    ∀ later ∈ after, ¬ later.HasId id

/-- No two elements have one id. -/
def Apart (elements : List Envelope) : Prop :=
  elements.Pairwise fun e other => ∀ id, e.HasId id → ¬ other.HasId id

section LastWith

variable {id : String} {elements : List Envelope} {element other : Envelope}

theorem LastWith.mem (last : LastWith id elements element) : element ∈ elements := by
  obtain ⟨before, after, rfl, _⟩ := last
  exact List.mem_append_right _ List.mem_cons_self

theorem LastWith.hasId (last : LastWith id elements element) : element.HasId id := by
  obtain ⟨_, _, _, hasId, _⟩ := last
  exact hasId

/-- There is one last element. -/
theorem LastWith.unique (last : LastWith id elements element)
    (otherLast : LastWith id elements other) : element = other := by
  obtain ⟨before, after, rfl, hasId, noLater⟩ := last
  obtain ⟨otherBefore, otherAfter, same, otherHasId, noOtherLater⟩ := otherLast
  rcases List.append_eq_append_iff.mp same with
    ⟨between, _, fromHere⟩ | ⟨between, _, fromThere⟩
  · cases between with
    | nil => exact (List.cons.inj fromHere).1
    | cons first between =>
        have isLater : other ∈ after := by
          rw [(List.cons.inj fromHere).2]
          exact List.mem_append_right _ List.mem_cons_self
        exact absurd otherHasId (noLater other isLater)
  · cases between with
    | nil => exact (List.cons.inj fromThere).1.symm
    | cons first between =>
        have isLater : element ∈ otherAfter := by
          rw [(List.cons.inj fromThere).2]
          exact List.mem_append_right _ List.mem_cons_self
        exact absurd hasId (noOtherLater element isLater)

/-- Where no two elements have one id, each is the last one with its own. -/
theorem Apart.lastWith (apart : Apart elements) (member : element ∈ elements)
    (hasId : element.HasId id) : LastWith id elements element := by
  obtain ⟨before, after, rfl⟩ := List.append_of_mem member
  have fromHere := (List.pairwise_append.mp apart).2.1
  exact ⟨before, after, rfl, hasId, fun later isLater =>
    (List.pairwise_cons.mp fromHere).1 later isLater id hasId⟩

theorem Apart.perm (apart : Apart elements) {reordered : List Envelope}
    (permuted : elements.Perm reordered) : Apart reordered :=
  (permuted.pairwise_iff fun apart id otherHasId hasId => apart id hasId otherHasId).mp apart

/-- The place of an id is looked for from the end. -/
theorem lastIndexOf?_concat (ids : List (Option String)) (last : Option String) :
    lastIndexOf? id (ids ++ [last]) =
      if last = some id then some ids.length else lastIndexOf? id ids := by
  by_cases isLast : last = some id
  · simp [lastIndexOf?, List.zipIdx_append, isLast]
  · have noEntry : (last == some id) = false := beq_eq_false_iff_ne.mpr isLast
    simp [lastIndexOf?, List.zipIdx_append, isLast, noEntry]

/-- At the place of an id stands the last element with it. -/
theorem exists_lastWith {place : Nat}
    (found : lastIndexOf? id (elements.map Envelope.validId) = some place) :
    ∃ element, elements[place]? = some element ∧ LastWith id elements element := by
  induction elements using List.reverseRecOn with
  | nil => cases found
  | append_singleton elements last inductionHypothesis =>
      rw [List.map_append, List.map_singleton, lastIndexOf?_concat] at found
      split at found
      · next hasId =>
          cases found
          exact ⟨last, by simp, elements, [], rfl, Envelope.validId_eq_some.mp hasId,
            fun _ later => nomatch later⟩
      · next hasOther =>
          obtain ⟨element, there, before, after, rfl, hasId, noLater⟩ := inductionHypothesis found
          have bound := (List.getElem?_eq_some_iff.mp there).1
          refine ⟨element, (List.getElem?_append_left bound).trans there, before, after ++ [last],
            by simp, hasId, ?_⟩
          intro later isLater
          rcases List.mem_append.mp isLater with earlier | isLast
          · exact noLater later earlier
          · rw [List.mem_singleton.mp isLast]
            exact fun hasSame => hasOther (Envelope.validId_eq_some.mpr hasSame)

/-- An id without a place is no element's. -/
theorem unanswered_of_lastIndexOf?
    (none : lastIndexOf? id (elements.map Envelope.validId) = none) :
    ∀ element ∈ elements, ¬ element.HasId id := by
  intro element member hasId
  have isThere : some id ∈ elements.map Envelope.validId :=
    Envelope.validId_eq_some.mpr hasId ▸ List.mem_map_of_mem member
  obtain ⟨place, found⟩ := exists_lastIndexOf? isThere
  cases none.symm.trans found

end LastWith

/-! ### Choices -/

section Choices

variable {requests : List Request} {ids : List (Option String)} {request other : Request}
  {position otherPosition place : Nat}

/-- No place is chosen for two requests of different ids. -/
theorem choose?_ne (member : request ∈ requests) (otherMember : other ∈ requests)
    (different : request.id ≠ other.id) (apart : position ≠ otherPosition)
    (chosen : choose? requests ids request position = some place) :
    choose? requests ids other otherPosition ≠ some place := by
  intro otherChosen
  rcases choose?_cases chosen with hasId | ⟨own, unclaimed⟩
  · rcases choose?_cases otherChosen with hasOtherId | ⟨_, unclaimed⟩
    · exact different (Option.some.inj (Option.some.inj (hasId.symm.trans hasOtherId)))
    · have claimed := isClaimed_iff.mpr ⟨request, member, hasId⟩
      cases unclaimed.symm.trans claimed
  · rcases choose?_cases otherChosen with hasOtherId | ⟨otherOwn, _⟩
    · have claimed := isClaimed_iff.mpr ⟨other, otherMember, hasOtherId⟩
      cases unclaimed.symm.trans claimed
    · exact apart (own.symm.trans otherOwn)

end Choices

/-- A request gets the element at the place that is chosen for it, if the place is chosen for no
earlier request. -/
theorem getElem?_handOut {elements : List Envelope} {given : List Nat}
    {choices : List (Request × Option Nat)} {choice : Request × Option Nat} {position : Nat}
    (isChoice : choices[position]? = some choice)
    (free : ∀ place, choice.2 = some place → place ∉ given ∧
      ∀ earlier < position, ∀ previous, choices[earlier]? = some previous →
        previous.2 ≠ some place) :
    (handOut elements given choices)[position]? = some (undisputed elements choice) := by
  induction choices generalizing given position with
  | nil => cases isChoice
  | cons first rest inductionHypothesis =>
      cases position with
      | zero =>
          cases isChoice
          obtain ⟨request, chosen⟩ := choice
          have fresh : chosen.bind (elementAt? elements given) = chosen.bind (elements[·]?) := by
            cases chosen with
            | none => rfl
            | some place => exact if_neg (free place rfl).1
          rw [handOut, fresh, undisputed]
          cases chosen.bind (elements[·]?) <;> rfl
      | succ position =>
          have later : ∀ place, choice.2 = some place → ∀ earlier < position, ∀ previous,
              rest[earlier]? = some previous → previous.2 ≠ some place :=
            fun place chosen earlier before previous isPrevious =>
              (free place chosen).2 (earlier + 1) (Nat.succ_lt_succ before) previous isPrevious
          rcases handOut_cons elements given first rest with
            ⟨taken, element, isTaken, _, _, results⟩ | refused
          · rw [results]
            refine inductionHypothesis isChoice fun place chosen => ⟨?_, later place chosen⟩
            intro used
            rcases List.mem_cons.mp used with rfl | used
            · exact (free place chosen).2 0 (Nat.succ_pos _) first rfl isTaken
            · exact (free place chosen).1 used
          · rw [refused]
            exact inductionHypothesis isChoice fun place chosen =>
              ⟨(free place chosen).1, later place chosen⟩

/-! ### Entitlement -/

/-- What the request at a position is entitled to of the elements of a reply. -/
inductive Entitled (requests : List Request) (elements : List Envelope) (position : Nat)
    (request : Request) : Outcome Bytes → Prop
  /-- The last element with the request's id, -/
  | byId {element : Envelope} (last : LastWith request.id elements element) :
    Entitled requests elements position request (.ok element.raw)
  /-- else the element at the request's own place, if that is nobody's, -/
  | byPlace {element : Envelope}
    (unanswered : ∀ e ∈ elements, ¬ e.HasId request.id)
    (there : elements[position]? = some element)
    (unclaimed : ∀ asking ∈ requests, ¬ element.HasId asking.id) :
    Entitled requests elements position request (.ok element.raw)
  /-- else an error with the request's id. -/
  | missing (unanswered : ∀ e ∈ elements, ¬ e.HasId request.id)
    (claimed : ∀ element, elements[position]? = some element →
      ∃ asking ∈ requests, element.HasId asking.id) :
    Entitled requests elements position request (.error (.protocol (.noResponse request.id)))

/-- The request at a position is the first one with its id. -/
def AsksFirst (requests : List Request) (position : Nat) (request : Request) : Prop :=
  requests[position]? = some request ∧
    ∀ earlier < position, ∀ previous, requests[earlier]? = some previous →
      previous.id ≠ request.id

section Entitled

variable {requests : List Request} {elements reordered : List Envelope} {position : Nat}
  {request : Request} {outcome other : Outcome Bytes}

/-- Of requests of different ids each is the first one with its own. -/
theorem asksFirst_of_nodup (distinct : (requests.map Request.id).Nodup)
    (isRequest : requests[position]? = some request) : AsksFirst requests position request := by
  refine ⟨isRequest, ?_⟩
  intro earlier before previous isPrevious sameId
  have isId : (requests.map Request.id)[position]? = some request.id := by
    rw [List.getElem?_map, isRequest, Option.map_some]
  have isEarlierId : (requests.map Request.id)[earlier]? = some request.id := by
    rw [List.getElem?_map, isPrevious, Option.map_some, sameId]
  have bound := (List.getElem?_eq_some_iff.mp isEarlierId).1
  exact Nat.ne_of_lt before
    ((List.getElem?_inj bound distinct).mp (isEarlierId.trans isId.symm))

/-- A request is entitled to one thing. -/
theorem Entitled.unique (entitled : Entitled requests elements position request outcome)
    (otherEntitled : Entitled requests elements position request other) : outcome = other := by
  cases entitled with
  | byId last =>
      cases otherEntitled with
      | byId otherLast => rw [last.unique otherLast]
      | byPlace unanswered | missing unanswered =>
          exact absurd last.hasId (unanswered _ last.mem)
  | byPlace unanswered there unclaimed =>
      cases otherEntitled with
      | byId last => exact absurd last.hasId (unanswered _ last.mem)
      | byPlace _ otherThere _ =>
          cases there.symm.trans otherThere
          rfl
      | missing _ claimed =>
          obtain ⟨asking, member, hasId⟩ := claimed _ there
          exact absurd hasId (unclaimed asking member)
  | missing unanswered claimed =>
      cases otherEntitled with
      | byId last => exact absurd last.hasId (unanswered _ last.mem)
      | byPlace _ there unclaimed =>
          obtain ⟨asking, member, hasId⟩ := claimed _ there
          exact absurd hasId (unclaimed asking member)
      | missing => rfl

theorem undisputed_of_there {place : Nat} {element : Envelope}
    (there : elements[place]? = some element) :
    undisputed elements (request, some place) = .ok element.raw := by
  simp only [undisputed, Option.bind_some, there]

theorem undisputed_of_absent {place : Nat} (absent : elements[place]? = none) :
    undisputed elements (request, some place) =
      .error (.protocol (.noResponse request.id)) := by
  simp only [undisputed, Option.bind_some, absent]

/-- The place that is chosen for a request holds what it is entitled to. -/
theorem entitled_undisputed (requests : List Request) (elements : List Envelope)
    (request : Request) (position : Nat) :
    Entitled requests elements position request
      (undisputed elements
        (request, choose? requests (elements.map Envelope.validId) request position)) := by
  unfold choose?
  cases last : lastIndexOf? request.id (elements.map Envelope.validId) with
  | some place =>
      obtain ⟨element, there, isLast⟩ := exists_lastWith last
      rw [Option.some_or, undisputed_of_there there]
      exact .byId isLast
  | none =>
      have unanswered := unanswered_of_lastIndexOf? last
      have claims : ∀ {element : Envelope}, elements[position]? = some element →
          (isClaimed requests (elements.map Envelope.validId) position = true ↔
            ∃ asking ∈ requests, element.HasId asking.id) := by
        intro element there
        simp only [isClaimed_iff, List.getElem?_map, there, Option.map_some, Option.some.injEq,
          Envelope.validId_eq_some]
      rw [Option.none_or]
      split
      · next claimed => exact .missing unanswered fun element there => (claims there).mp claimed
      · next unclaimed =>
          cases there : elements[position]? with
          | none =>
              rw [undisputed_of_absent there]
              exact .missing unanswered fun element other => nomatch there.symm.trans other
          | some element =>
              rw [undisputed_of_there there]
              refine .byPlace unanswered there fun asking member hasId => ?_
              exact unclaimed ((claims there).mpr ⟨asking, member, hasId⟩)

/-- The first request of its id gets what it is entitled to. -/
theorem AsksFirst.exists_entitled (asksFirst : AsksFirst requests position request)
    (elements : List Envelope) :
    ∃ outcome, (correlate requests elements)[position]? = some outcome ∧
      Entitled requests elements position request outcome := by
  obtain ⟨isRequest, first⟩ := asksFirst
  refine ⟨_, ?_, entitled_undisputed requests elements request position⟩
  refine getElem?_handOut ?_ ?_
  · rw [getElem?_choices, isRequest, Option.map_some]
  · intro place chosen
    refine ⟨List.not_mem_nil, ?_⟩
    intro earlier before choice isChoice
    rw [getElem?_choices] at isChoice
    obtain ⟨previous, isPrevious, rfl⟩ := Option.map_eq_some_iff.mp isChoice
    exact choose?_ne (List.mem_of_getElem? isRequest) (List.mem_of_getElem? isPrevious)
      (first earlier before previous isPrevious).symm (Nat.ne_of_gt before) chosen

/-- Requests of different ids get exactly what they are entitled to. -/
theorem getElem?_correlate (distinct : (requests.map Request.id).Nodup)
    (isRequest : requests[position]? = some request) :
    (correlate requests elements)[position]? = some outcome ↔
      Entitled requests elements position request outcome := by
  obtain ⟨found, got, entitled⟩ := (asksFirst_of_nodup distinct isRequest).exists_entitled elements
  rw [got, Option.some.injEq]
  constructor
  · rintro rfl
    exact entitled
  · exact entitled.unique

/-- Where each element is the only answer to some request, the order of the elements does not matter
for what a request is entitled to. -/
theorem Entitled.perm (entitled : Entitled requests elements position request outcome)
    (permuted : elements.Perm reordered)
    (requested : ∀ e ∈ elements, ∃ asking ∈ requests, e.HasId asking.id)
    (apart : Apart elements) : Entitled requests reordered position request outcome := by
  cases entitled with
  | byId last =>
      exact .byId ((apart.perm permuted).lastWith (permuted.mem_iff.mp last.mem) last.hasId)
  | byPlace _ there unclaimed =>
      obtain ⟨asking, member, hasId⟩ := requested _ (List.mem_of_getElem? there)
      exact absurd hasId (unclaimed asking member)
  | missing unanswered =>
      refine .missing (fun e member => unanswered e (permuted.mem_iff.mpr member)) ?_
      exact fun element there => requested element
        (permuted.mem_iff.mpr (List.mem_of_getElem? there))

/-- So the order of the elements does not matter for what the requests get. -/
theorem correlate_perm (distinct : (requests.map Request.id).Nodup)
    (permuted : elements.Perm reordered)
    (requested : ∀ e ∈ elements, ∃ asking ∈ requests, e.HasId asking.id)
    (apart : Apart elements) : correlate requests reordered = correlate requests elements := by
  have counted := (assigned_correlate requests elements).counted
  refine List.ext_getElem ((assigned_correlate requests reordered).counted.trans counted.symm) ?_
  intro position _ bound
  have isRequest := List.getElem?_eq_getElem (counted ▸ bound)
  have got := (getElem?_correlate distinct isRequest).mp (List.getElem?_eq_getElem bound)
  have gotToo := (getElem?_correlate distinct isRequest).mpr (got.perm permuted requested apart)
  exact (List.getElem?_eq_some_iff.mp gotToo).2

/-- Where each element answers some request, a request without an answer gets an error. -/
theorem entitled_of_requested
    (requested : ∀ e ∈ elements, ∃ asking ∈ requests, e.HasId asking.id)
    (unanswered : ∀ e ∈ elements, ¬ e.HasId request.id) :
    Entitled requests elements position request
      (.error (.protocol (.noResponse request.id))) :=
  .missing unanswered fun element there => requested element (List.mem_of_getElem? there)

/-- Where no element answers a request, each request gets what stands at its place. -/
theorem entitled_of_unrequested (isRequest : requests[position]? = some request)
    (unrequested : ∀ e ∈ elements, ∀ asking ∈ requests, ¬ e.HasId asking.id) :
    Entitled requests elements position request
      (elements[position]?.elim (.error (.protocol (.noResponse request.id))) fun element =>
        .ok element.raw) := by
  have unanswered : ∀ e ∈ elements, ¬ e.HasId request.id := fun e member =>
    unrequested e member request (List.mem_of_getElem? isRequest)
  cases there : elements[position]? with
  | none => exact .missing unanswered fun element other => nomatch there.symm.trans other
  | some element =>
      exact .byPlace unanswered there (unrequested element (List.mem_of_getElem? there))

end Entitled

/-- Requests of different ids get exactly what they are entitled to of the elements of a reply. The
order of elements does not matter if each of them is the only answer to some request; requests
without an answer then get their errors. And if no element answers a request, only the order counts.
-/
theorem correlate_exact (requests : List Request) (elements : List Envelope)
    (distinct : (requests.map Request.id).Nodup) :
    (correlate requests elements).length = requests.length ∧
      (∀ (position : Nat) (request : Request) (outcome : Outcome Bytes),
        requests[position]? = some request →
        ((correlate requests elements)[position]? = some outcome ↔
          Entitled requests elements position request outcome)) ∧
      ((∀ e ∈ elements, ∃ asking ∈ requests, e.HasId asking.id) →
        Apart elements → ∀ reordered, elements.Perm reordered →
        correlate requests reordered = correlate requests elements ∧
          ∀ (position : Nat) (request : Request), requests[position]? = some request →
            (∀ e ∈ elements, ¬ e.HasId request.id) →
            (correlate requests reordered)[position]? =
              some (.error (.protocol (.noResponse request.id)))) ∧
      ((∀ e ∈ elements, ∀ asking ∈ requests, ¬ e.HasId asking.id) →
        ∀ (position : Nat) (request : Request), requests[position]? = some request →
          (correlate requests elements)[position]? =
            some (elements[position]?.elim (.error (.protocol (.noResponse request.id)))
              fun element => .ok element.raw)) := by
  refine ⟨(assigned_correlate requests elements).counted, ?_, ?_, ?_⟩
  · exact fun position request outcome isRequest => getElem?_correlate distinct isRequest
  · intro requested apart reordered permuted
    have same := correlate_perm distinct permuted requested apart
    refine ⟨same, fun position request isRequest unanswered => ?_⟩
    rw [same]
    exact (getElem?_correlate distinct isRequest).mpr (entitled_of_requested requested unanswered)
  · intro unrequested position request isRequest
    exact (getElem?_correlate distinct isRequest).mpr
      (entitled_of_unrequested isRequest unrequested)

/-- Four requests of different ids. -/
def distinctRequests : List Request :=
  ["1", "a", "b", "c"].map fun id => .make id "eth_call" []

/-- A reply with two messages of one id, with a number for an id, and with an id that nobody asked
for. -/
def repeatingReply : Bytes :=
  bytesOf ("[\x7b\"id\":\"a\",\"result\":0\x7d,\x7b\"id\":1,\"result\":1\x7d," ++
    "\x7b\"id\":\"z\",\"result\":2\x7d,\x7b\"id\":\"a\",\"result\":3\x7d]")

/-- The number is matched by its text, the later of two messages of one id counts, the message that
is nobody's goes to the request at its place, and the last request gets an error, since the message
at its place is another one's. -/
theorem correlate_exact_of_repeating :
    (distinctRequests.map Request.id).Nodup ∧
      ∃ elements, Envelope.decodeBatch repeatingReply = .ok elements ∧
        Entitled distinctRequests elements 0 (.make "1" "eth_call" [])
          (.ok (bytesOf "\x7b\"id\":1,\"result\":1\x7d")) ∧
        Entitled distinctRequests elements 1 (.make "a" "eth_call" [])
          (.ok (bytesOf "\x7b\"id\":\"a\",\"result\":3\x7d")) ∧
        Entitled distinctRequests elements 2 (.make "b" "eth_call" [])
          (.ok (bytesOf "\x7b\"id\":\"z\",\"result\":2\x7d")) ∧
        Entitled distinctRequests elements 3 (.make "c" "eth_call" [])
          (.error (.protocol (.noResponse "c"))) := by
  have distinct : (distinctRequests.map Request.id).Nodup := by decide +kernel
  -- whether ids are equal is left to the kernel, which evaluates strings
  have taken : ∃ elements, Envelope.decodeBatch repeatingReply = .ok elements ∧
      elements.map Envelope.validId = [some "a", some "1", some "z", some "a"] ∧
      elements.map (·.raw) = [bytesOf "\x7b\"id\":\"a\",\"result\":0\x7d",
        bytesOf "\x7b\"id\":1,\"result\":1\x7d", bytesOf "\x7b\"id\":\"z\",\"result\":2\x7d",
        bytesOf "\x7b\"id\":\"a\",\"result\":3\x7d"] :=
    ⟨_, rfl, by decide +kernel, by decide +kernel⟩
  obtain ⟨elements, read, ids, texts⟩ := taken
  have results : correlate distinctRequests elements =
      [.ok (bytesOf "\x7b\"id\":1,\"result\":1\x7d"),
        .ok (bytesOf "\x7b\"id\":\"a\",\"result\":3\x7d"),
        .ok (bytesOf "\x7b\"id\":\"z\",\"result\":2\x7d"),
        .error (.protocol (.noResponse "c"))] := by
    obtain ⟨a, _, rfl, _, more⟩ := List.map_eq_cons_iff.mp ids
    obtain ⟨b, _, rfl, _, more⟩ := List.map_eq_cons_iff.mp more
    obtain ⟨c, _, rfl, _, more⟩ := List.map_eq_cons_iff.mp more
    obtain ⟨d, _, rfl, _, more⟩ := List.map_eq_cons_iff.mp more
    obtain rfl := List.map_eq_nil_iff.mp more
    simp only [List.map_cons, List.map_nil, List.cons.injEq, and_true] at texts
    obtain ⟨_, rawB, rawC, rawD⟩ := texts
    rw [correlate, ids, ← rawB, ← rawC, ← rawD]
    rfl
  have exact := (correlate_exact distinctRequests elements distinct).2.1
  rw [results] at exact
  exact ⟨distinct, elements, read, (exact 0 _ _ rfl).mp rfl, (exact 1 _ _ rfl).mp rfl,
    (exact 2 _ _ rfl).mp rfl, (exact 3 _ _ rfl).mp rfl⟩

end RpcTransport.Gathering
