import RpcTransport.Proofs.Gathering.Correlation

/-!
Which element of a reply goes to which request. Whatever a node sends, requests that get an element
get different ones, and an element that answers requests of some id goes to none of another id.
-/

namespace RpcTransport.Gathering

/-! ### Handing out -/

section HandOut

variable {elements : List Envelope} {given : List Nat} {choices : List (Request × Option Nat)}
  {position other place : Nat} {text : Bytes}

/-- Each request gets a result. -/
theorem length_handOut (elements : List Envelope) (given : List Nat)
    (choices : List (Request × Option Nat)) :
    (handOut elements given choices).length = choices.length := by
  induction choices generalizing given with
  | nil => rfl
  | cons choice rest inductionHypothesis =>
      rw [handOut]
      split
      · exact congrArg (· + 1) (inductionHypothesis _)
      · exact congrArg (· + 1) (inductionHypothesis _)

/-- The first request gets the element at its place, if it is there and was not handed out. Then the
place counts as handed out for the others. -/
theorem handOut_cons (elements : List Envelope) (given : List Nat)
    (choice : Request × Option Nat) (rest : List (Request × Option Nat)) :
    (∃ place element, choice.2 = some place ∧ place ∉ given ∧ elements[place]? = some element ∧
      handOut elements given (choice :: rest) =
        .ok element.raw :: handOut elements (place :: given) rest) ∨
    handOut elements given (choice :: rest) =
      .error (.protocol (.noResponse choice.1.id)) :: handOut elements given rest := by
  obtain ⟨request, chosen⟩ := choice
  rw [handOut]
  split
  · next element found =>
      obtain ⟨place, rfl, there⟩ := Option.bind_eq_some_iff.mp found
      unfold elementAt? at there
      split at there
      · cases there
      · next free => exact Or.inl ⟨place, element, rfl, free, there, rfl⟩
  · exact Or.inr rfl

/-- A request that gets something gets the element at the place that was chosen for it, which had
not been handed out before. -/
theorem element_of_handOut (got : (handOut elements given choices)[position]? = some (.ok text)) :
    ∃ request place element, choices[position]? = some (request, some place) ∧ place ∉ given ∧
      elements[place]? = some element ∧ element.raw = text := by
  induction choices generalizing given position with
  | nil => simp [handOut] at got
  | cons choice rest inductionHypothesis =>
      rcases handOut_cons elements given choice rest with
        ⟨place, element, chosen, free, there, taken⟩ | refused
      · rw [taken] at got
        cases position with
        | zero =>
            cases got
            exact ⟨choice.1, place, element, by rw [← chosen]; rfl, free, there, rfl⟩
        | succ position =>
            obtain ⟨request, later, element, isChoice, unused, isThere, raw⟩ :=
              inductionHypothesis got
            exact ⟨request, later, element, isChoice,
              fun used => unused (List.mem_cons_of_mem _ used), isThere, raw⟩
      · rw [refused] at got
        cases position with
        | zero => cases got
        | succ position => exact inductionHypothesis got

/-- A request gets the text of an element, or learns that there is none for it. -/
theorem text_or_noResponse {result : Outcome Bytes}
    (got : (handOut elements given choices)[position]? = some result) :
    (∃ element ∈ elements, result = .ok element.raw) ∨
      ∃ choice, choices[position]? = some choice ∧
        result = .error (.protocol (.noResponse choice.1.id)) := by
  induction choices generalizing given position with
  | nil => simp [handOut] at got
  | cons choice rest inductionHypothesis =>
      rcases handOut_cons elements given choice rest with
        ⟨place, element, _, _, there, taken⟩ | refused
      · rw [taken] at got
        cases position with
        | zero =>
            cases got
            exact Or.inl ⟨element, List.mem_of_getElem? there, rfl⟩
        | succ position => exact inductionHypothesis got
      · rw [refused] at got
        cases position with
        | zero =>
            cases got
            exact Or.inr ⟨choice, rfl, rfl⟩
        | succ position => exact inductionHypothesis got

/-- Of two requests for which one place was chosen only one gets the element there. -/
theorem position_unique {request : Request} {otherText : Bytes}
    {otherRequest : Request} (chosen : choices[position]? = some (request, some place))
    (otherChosen : choices[other]? = some (otherRequest, some place))
    (got : (handOut elements given choices)[position]? = some (.ok text))
    (otherGot : (handOut elements given choices)[other]? = some (.ok otherText)) :
    position = other := by
  induction choices generalizing given position other with
  | nil => simp [handOut] at got
  | cons choice rest inductionHypothesis =>
      -- later requests do not get what the first one has got
      have notTwice : ∀ {taken later : Nat} {found : Bytes} {asks : Request},
          rest[later]? = some (asks, some taken) →
          (handOut elements (taken :: given) rest)[later]? = some (.ok found) → False := by
        intro taken later found asks isChoice isGiven
        obtain ⟨_, again, _, isAgain, unused, _⟩ := element_of_handOut isGiven
        cases isChoice.symm.trans isAgain
        exact unused List.mem_cons_self
      rcases handOut_cons elements given choice rest with
        ⟨taken, element, isTaken, _, _, results⟩ | refused
      · rw [results] at got otherGot
        cases position with
        | zero =>
            cases other with
            | zero => rfl
            | succ other =>
                cases chosen
                cases isTaken
                exact (notTwice otherChosen otherGot).elim
        | succ position =>
            cases other with
            | zero =>
                cases otherChosen
                cases isTaken
                exact (notTwice chosen got).elim
            | succ other =>
                exact congrArg (· + 1) (inductionHypothesis chosen otherChosen got otherGot)
      · rw [refused] at got otherGot
        cases position with
        | zero => cases got
        | succ position =>
            cases other with
            | zero => cases otherGot
            | succ other =>
                exact congrArg (· + 1) (inductionHypothesis chosen otherChosen got otherGot)

end HandOut

/-! ### Choices -/

section Choices

variable {requests : List Request} {ids : List (Option String)} {request : Request}
  {position place : Nat}

/-- A place is chosen for a request because the element there has its id, or because the place is
its own and is claimed by nobody. -/
theorem choose?_cases (chosen : choose? requests ids request position = some place) :
    ids[place]? = some (some request.id) ∨
      place = position ∧ isClaimed requests ids place = false := by
  unfold choose? at chosen
  cases last : lastIndexOf? request.id ids with
  | some index =>
      rw [last, Option.some_or] at chosen
      cases chosen
      exact Or.inl (getElem?_of_lastIndexOf? last)
  | none =>
      rw [last, Option.none_or] at chosen
      split at chosen
      · cases chosen
      · next unclaimed =>
          cases chosen
          exact Or.inr ⟨rfl, (Bool.not_eq_true _).mp unclaimed⟩

theorem isClaimed_iff : isClaimed requests ids place = true ↔
    ∃ asking ∈ requests, ids[place]? = some (some asking.id) := by
  unfold isClaimed
  cases ids[place]? with
  | none => simp
  | some entry =>
      cases entry with
      | none => simp
      | some id =>
          simp only [List.any_eq_true, beq_iff_eq, Option.some.injEq]
          exact exists_congr fun asking => and_congr_right fun _ => eq_comm

end Choices

/-! ### Batches -/

section Batch

variable {requests : List Request} {elements : List Envelope} {results : List (Outcome Bytes)}
  {position : Nat}

/-- The place that is chosen for the request at a position. -/
def placeOf? (requests : List Request) (elements : List Envelope) (position : Nat) : Option Nat :=
  requests[position]?.bind fun request =>
    choose? requests (elements.map Envelope.validId) request position

theorem getElem?_choices (requests : List Request) (ids : List (Option String)) (position : Nat) :
    (requests.zipIdx.map fun entry => (entry.1, choose? requests ids entry.1 entry.2))[position]? =
      requests[position]?.map fun request => (request, choose? requests ids request position) := by
  rw [List.getElem?_map, List.getElem?_zipIdx, Option.map_map]
  cases requests[position]? with
  | none => rfl
  | some request => simp only [Option.map_some, Function.comp_apply, Nat.zero_add]

/-- An element that carries the id of some request is chosen for requests of that id only. -/
theorem id_of_choose? {request asking : Request} {place : Nat} {element : Envelope}
    (chosen : choose? requests (elements.map Envelope.validId) request position = some place)
    (there : elements[place]? = some element) (member : asking ∈ requests)
    (answers : element.validId = some asking.id) : request.id = asking.id := by
  have hasId : (elements.map Envelope.validId)[place]? = some (some asking.id) := by
    rw [List.getElem?_map, there, Option.map_some, answers]
  rcases choose?_cases chosen with hasOwnId | ⟨_, unclaimed⟩
  · exact Option.some.inj (Option.some.inj (hasOwnId.symm.trans hasId))
  · -- at its own place a request gets no element that another one claims
    cases unclaimed.symm.trans (isClaimed_iff.mpr ⟨asking, member, hasId⟩)

/-- Results of a batch, of which those that are no failures are elements of the reply, and the
places where these stand. -/
structure Assigned (requests : List Request) (elements : List Envelope)
    (results : List (Outcome Bytes)) (place : Nat → Nat) : Prop where
  /-- There is exactly one result for each request. -/
  counted : results.length = requests.length
  raw : ∀ {position : Nat} {text : Bytes}, results[position]? = some (.ok text) →
    ∃ element, elements[place position]? = some element ∧ element.raw = text
  /-- No element is given to two requests. -/
  apart : ∀ {position other : Nat} {text otherText : Bytes},
    results[position]? = some (.ok text) → results[other]? = some (.ok otherText) →
    place position = place other → position = other
  /-- An element with the id of some request is given to no request of another id. -/
  own : ∀ {position : Nat} {text : Bytes} {element : Envelope} {asking : Request},
    results[position]? = some (.ok text) → elements[place position]? = some element →
    asking ∈ requests → element.validId = some asking.id →
    requests[position]?.map Request.id = some asking.id

/-- Handing out by ids and places assigns elements to requests. -/
theorem assigned_correlate (requests : List Request) (elements : List Envelope) :
    Assigned requests elements (correlate requests elements)
      fun position => (placeOf? requests elements position).getD 0 := by
  have origin : ∀ {position : Nat} {text : Bytes},
      (correlate requests elements)[position]? = some (.ok text) →
      ∃ request place element, requests[position]? = some request ∧
        choose? requests (elements.map Envelope.validId) request position = some place ∧
        (placeOf? requests elements position).getD 0 = place ∧
        elements[place]? = some element ∧ element.raw = text := by
    intro position text got
    obtain ⟨request, place, element, isChoice, _, there, raw⟩ := element_of_handOut got
    rw [getElem?_choices] at isChoice
    obtain ⟨asks, isRequest, same⟩ := Option.map_eq_some_iff.mp isChoice
    obtain ⟨rfl, chosen⟩ := Prod.mk.inj same
    refine ⟨asks, place, element, isRequest, chosen, ?_, there, raw⟩
    rw [placeOf?, isRequest, Option.bind_some, chosen, Option.getD_some]
  refine ⟨?_, ?_, ?_, ?_⟩
  · simp [correlate, length_handOut]
  · intro position text got
    obtain ⟨_, place, element, _, _, here, there, raw⟩ := origin got
    exact ⟨element, by rw [here, there], raw⟩
  · intro position other text otherText got otherGot same
    obtain ⟨request, place, _, isRequest, chosen, here, _⟩ := origin got
    obtain ⟨otherRequest, otherPlace, _, isOther, otherChosen, otherHere, _⟩ := origin otherGot
    obtain rfl : place = otherPlace := here.symm.trans (same.trans otherHere)
    have isChoice := getElem?_choices requests (elements.map Envelope.validId) position
    have otherIsChoice := getElem?_choices requests (elements.map Envelope.validId) other
    rw [isRequest, Option.map_some, chosen] at isChoice
    rw [isOther, Option.map_some, otherChosen] at otherIsChoice
    exact position_unique isChoice otherIsChoice got otherGot
  · intro position text element asking got there member answers
    obtain ⟨request, place, _, isRequest, chosen, here, _⟩ := origin got
    rw [here] at there
    rw [isRequest, Option.map_some, id_of_choose? chosen there member answers]

/-- A batch that does not fail as a whole has been handed the elements of its reply. -/
theorem ofElements_eq_ok (done : ofElements requests elements = .ok results) :
    results = correlate requests elements := by
  unfold ofElements at done
  split at done
  · split at done
    · cases done
    · cases done
      rfl
  · cases done
    rfl

/-- A ticket is good for the result at its position. -/
theorem settle_eq_ok {text : Bytes} :
    settle (.ok results) position = .ok text ↔ results[position]? = some (.ok text) := by
  show results[position]?.getD _ = _ ↔ _
  cases results[position]? with
  | none => simp
  | some result => simp

/-- Results do not cross, whatever a node sends. If a reply does not fail its batch as a whole, each
request has one result, and those that are no failures are texts of messages of the reply, no
message for two requests and none that has the id of a request for a request of another id. So the
caller of a position does not get what answers the request of another caller by its id. -/
theorem replies_never_cross {body : Bytes}
    (taken : ofReply requests (.ok body) = .ok results) :
    ∃ elements place, Envelope.decodeBatch body = .ok elements ∧
      Envelope.TextsOf (elements.map (·.raw)) body ∧ Assigned requests elements results place ∧
      ∀ position text, settle (ofReply requests (.ok body)) position = .ok text →
        ∃ element, elements[place position]? = some element ∧ element.raw = text ∧
          ∀ asking ∈ requests, element.validId = some asking.id →
            requests[position]?.map Request.id = some asking.id := by
  obtain ⟨_, same, decoded⟩ := bind_eq_ok.mp taken
  cases same
  obtain ⟨elements, read, done⟩ := bind_eq_ok.mp decoded
  obtain rfl := ofElements_eq_ok done
  have assigned := assigned_correlate requests elements
  refine ⟨elements, _, read, Envelope.textsOf_decodeBatch read, assigned, ?_⟩
  intro position text settled
  rw [taken, settle_eq_ok] at settled
  obtain ⟨element, there, raw⟩ := assigned.raw settled
  exact ⟨element, there, raw, fun asking member answers =>
    assigned.own settled there member answers⟩

end Batch

/-- Five requests, two of them under one id. -/
def mixedRequests : List Request :=
  ["1", "a", "a", "b", "c"].map fun id => .make id "eth_call" []

/-- A reply in another order, with a number for an id, with messages without id, and with one answer
to the two requests of one id. -/
def mixedReply : Bytes :=
  bytesOf ("[\x7b\"id\":\"b\",\"result\":0\x7d, \x7b\"id\":1,\"result\":1\x7d,\x7b\"result\":2\x7d," ++
    "\x7b\"id\":\"a\",\"result\":3\x7d,\x7b\"id\":null,\"result\":4\x7d]")

/-- The second request of the id gets nothing, not even the message at its own place. -/
theorem replies_never_cross_of_mixed :
    ∃ results elements place, ofReply mixedRequests (.ok mixedReply) = .ok results ∧
      results.map Except.toOption = [some (bytesOf "\x7b\"id\":1,\"result\":1\x7d"),
        some (bytesOf "\x7b\"id\":\"a\",\"result\":3\x7d"), none,
        some (bytesOf "\x7b\"id\":\"b\",\"result\":0\x7d"),
        some (bytesOf "\x7b\"id\":null,\"result\":4\x7d")] ∧
      Assigned mixedRequests elements results place := by
  have taken : ofReply mixedRequests (.ok mixedReply) = .ok _ := rfl
  obtain ⟨elements, place, _, _, assigned, _⟩ := replies_never_cross taken
  exact ⟨_, elements, place, taken, by decide +kernel, assigned⟩

end RpcTransport.Gathering
