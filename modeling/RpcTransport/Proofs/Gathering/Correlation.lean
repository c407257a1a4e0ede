import Mathlib.Data.List.Nodup
import RpcTransport.Gathering.Correlation
import RpcTransport.Proofs.Message.Replies

/-!
What the requests of a batch get. Requests that have chosen different elements do not get into each
other's way, and a request whose id one element has gets that element, wherever it stands.
-/

namespace RpcTransport.Gathering

/-! ### Places -/

section LastIndex

variable {id : String} {ids : List (Option String)} {place : Nat}

/-- The element at the place of an id has the id. -/
theorem getElem?_of_lastIndexOf? (found : lastIndexOf? id ids = some place) :
    ids[place]? = some (some id) := by
  obtain ⟨⟨entry, index⟩, last, rfl⟩ := Option.map_eq_some_iff.mp found
  obtain ⟨member, same⟩ := List.mem_filter.mp (List.mem_of_getLast? last)
  rw [List.mem_zipIdx_iff_getElem?.mp member]
  exact congrArg some (eq_of_beq same)

/-- An id that some element has has a place. -/
theorem exists_lastIndexOf? (member : some id ∈ ids) :
    ∃ place, lastIndexOf? id ids = some place := by
  obtain ⟨index, atIndex⟩ := List.mem_iff_getElem?.mp member
  have kept : (some id, index) ∈ ids.zipIdx.filter fun entry => entry.1 == some id :=
    List.mem_filter.mpr ⟨List.mem_zipIdx_iff_getElem?.mpr atIndex, beq_self_eq_true _⟩
  cases last : (ids.zipIdx.filter fun entry => entry.1 == some id).getLast? with
  | none =>
      rw [List.getLast?_eq_none_iff.mp last] at kept
      cases kept
  | some entry => exact ⟨entry.2, by rw [lastIndexOf?, last, Option.map_some]⟩

end LastIndex

/-! ### Handing out -/

/-- What a request gets of the elements when no other has chosen the same place. -/
def undisputed (elements : List Envelope) (choice : Request × Option Nat) : Outcome Bytes :=
  match choice.2.bind (elements[·]?) with
  | some element => .ok element.raw
  | none => .error (.protocol (.noResponse choice.1.id))

/-- Requests that have chosen different places all get what they have chosen. -/
theorem handOut_of_nodup (elements : List Envelope) {given : List Nat}
    {choices : List (Request × Option Nat)} (distinct : (choices.filterMap (·.2)).Nodup)
    (fresh : ∀ place ∈ choices.filterMap (·.2), place ∉ given) :
    handOut elements given choices = choices.map (undisputed elements) := by
  induction choices generalizing given with
  | nil => rfl
  | cons choice choices inductionHypothesis =>
      obtain ⟨request, chosen⟩ := choice
      cases chosen with
      | none =>
          simp only [List.filterMap_cons] at distinct fresh
          rw [List.map_cons, ← inductionHypothesis distinct fresh]
          rfl
      | some place =>
          simp only [List.filterMap_cons] at distinct fresh
          obtain ⟨unchosen, distinct⟩ := List.nodup_cons.mp distinct
          have free : place ∉ given := fresh place List.mem_cons_self
          have freshRest : ∀ other ∈ choices.filterMap (·.2), other ∉ given :=
            fun other member => fresh other (List.mem_cons_of_mem _ member)
          have freshAfter : ∀ other ∈ choices.filterMap (·.2), other ∉ place :: given := by
            intro other member taken
            rcases List.mem_cons.mp taken with rfl | taken
            · exact unchosen member
            · exact freshRest other member taken
          have atPlace : elementAt? elements given place = elements[place]? := if_neg free
          cases element : elements[place]? with
          | none =>
              rw [List.map_cons, ← inductionHypothesis distinct freshRest]
              simp only [handOut, undisputed, Option.bind_some, atPlace, element]
          | some element' =>
              rw [List.map_cons, ← inductionHypothesis distinct freshAfter]
              simp only [handOut, undisputed, Option.bind_some, atPlace, element]
              rfl

/-! ### Every request answered -/

section Answered

variable {requests : List Request} {elements : List Envelope} {answer : Request → Bytes}

/-- The elements answer the requests: they are, in some order, one element for each request, with
its id and its answer for a text. -/
def AnswersAll (requests : List Request) (answer : Request → Bytes) (elements : List Envelope) :
    Prop :=
  (elements.map fun e => (e.validId, e.raw)).Perm (requests.map fun r => (some r.id, answer r))

/-- A request's id is found among the elements' ids, and the element there has its answer. -/
theorem AnswersAll.element (answered : AnswersAll requests answer elements)
    (distinct : (requests.map Request.id).Nodup) {request : Request} (member : request ∈ requests) :
    ∃ place element, lastIndexOf? request.id (elements.map Envelope.validId) = some place ∧
      elements[place]? = some element ∧ element.raw = answer request := by
  have inPairs : (some request.id, answer request) ∈ elements.map fun e => (e.validId, e.raw) :=
    answered.mem_iff.mpr (List.mem_map_of_mem (f := fun r => (some r.id, answer r)) member)
  obtain ⟨e, isElement, same⟩ := List.mem_map.mp inPairs
  have sameId : e.validId = some request.id := congrArg Prod.fst same
  have hasId : some request.id ∈ elements.map Envelope.validId :=
    sameId ▸ List.mem_map_of_mem isElement
  obtain ⟨place, found⟩ := exists_lastIndexOf? hasId
  have atPlace := getElem?_of_lastIndexOf? found
  rw [List.getElem?_map] at atPlace
  obtain ⟨element, isThere, hasSameId⟩ := Option.map_eq_some_iff.mp atPlace
  refine ⟨place, element, found, isThere, ?_⟩
  -- the element belongs to a request of the same id, which is this one
  have pair := answered.mem_iff.mp
    (List.mem_map_of_mem (f := fun e => (e.validId, e.raw)) (List.mem_of_getElem? isThere))
  obtain ⟨other, isRequest, equal⟩ := List.mem_map.mp pair
  have sameId : other.id = request.id :=
    Option.some.inj ((congrArg Prod.fst equal).trans hasSameId)
  obtain rfl : other = request := List.inj_on_of_nodup_map distinct isRequest member sameId
  exact (congrArg Prod.snd equal).symm

/-- Where the elements answer requests of different ids, each request gets its answer. -/
theorem AnswersAll.correlate_eq (answered : AnswersAll requests answer elements)
    (distinct : (requests.map Request.id).Nodup) :
    correlate requests elements = requests.map fun r => .ok (answer r) := by
  let place := fun r : Request => lastIndexOf? r.id (elements.map Envelope.validId)
  have choices : (requests.zipIdx.map fun entry =>
      (entry.1, choose? requests (elements.map Envelope.validId) entry.1 entry.2)) =
        requests.map fun r => (r, place r) := by
    rw [show (requests.map fun r => (r, place r)) =
        requests.zipIdx.map ((fun r => (r, place r)) ∘ Prod.fst) by
      rw [← List.map_map, List.zipIdx_map_fst]]
    refine List.map_congr_left fun entry member => ?_
    obtain ⟨index, _, found, _⟩ := answered.element distinct (List.fst_mem_of_mem_zipIdx member)
    simp only [choose?, place, Function.comp_apply, found, Option.some_or]
  have nodup : ((requests.map fun r => (r, place r)).filterMap (·.2)).Nodup := by
    rw [List.filterMap_map]
    refine List.Pairwise.filterMap _ ?_ (List.pairwise_map.mp distinct)
    rintro r s different index first _ second rfl
    have equal := (getElem?_of_lastIndexOf? first).symm.trans (getElem?_of_lastIndexOf? second)
    exact different (Option.some.inj (Option.some.inj equal))
  show handOut elements [] _ = _
  rw [choices, handOut_of_nodup elements nodup (fun _ _ => List.not_mem_nil), List.map_map]
  refine List.map_congr_left fun r member => ?_
  obtain ⟨index, element, found, isThere, raw⟩ := answered.element distinct member
  show undisputed elements (r, place r) = _
  simp only [undisputed, place, found, Option.bind_some, isThere, raw]

/-- Elements that answer all requests are not taken for the rejection of the batch. -/
theorem AnswersAll.ofElements_eq (answered : AnswersAll requests answer elements)
    (distinct : (requests.map Request.id).Nodup) :
    ofElements requests elements = .ok (requests.map fun r => .ok (answer r)) := by
  rw [← answered.correlate_eq distinct]
  unfold ofElements
  split
  · next element =>
      have pair : (element.validId, element.raw) ∈ requests.map fun r => (some r.id, answer r) :=
        answered.mem_iff.mp List.mem_cons_self
      obtain ⟨request, _, same⟩ := List.mem_map.mp pair
      have hasId : some request.id = element.validId := congrArg Prod.fst same
      rw [if_neg]
      simp [← hasId]
  · rfl

end Answered

/-! ### Replies -/

/-- A text answers a request: it is the text of an object without blanks around it, which is read as
a message with the request's id. -/
structure Answers (request : Request) (text : Bytes) : Prop where
  utf8 : ∃ s : String, text = bytesOf s
  opens : text.head? = some Ascii.openBrace
  trimmed : ∀ b, text.getLast? = some b → Json.isBlank b = false
  message : ∃ e, Envelope.decode text = .ok e ∧ e.validId = some request.id

/-- A reply that holds the answers to these requests and nothing else: an array of them in any
order, with any blanks between them. -/
def HonestReply (answer : Request → Bytes) (requests : List Request) (body : Bytes) : Prop :=
  ∃ order : List Request, order.Perm requests ∧ Json.IsArrayOf (order.map answer) body

section HonestReply

variable {answer : Request → Bytes} {requests : List Request}

/-- The answers are read as messages with the ids of their requests. -/
theorem messages_of_answers (answers : ∀ r ∈ requests, Answers r (answer r)) :
    ∃ messages : List Envelope,
      List.Forall₂ (fun text e => Envelope.decode text = .ok e) (requests.map answer) messages ∧
        messages.map (fun e => (e.validId, e.raw)) =
          requests.map fun r => (some r.id, answer r) := by
  induction requests with
  | nil => exact ⟨[], .nil, rfl⟩
  | cons request requests inductionHypothesis =>
      obtain ⟨e, read, hasId⟩ := (answers request List.mem_cons_self).message
      obtain ⟨messages, others, pairs⟩ := inductionHypothesis fun r member =>
        answers r (List.mem_cons_of_mem _ member)
      refine ⟨e :: messages, .cons read others, ?_⟩
      rw [List.map_cons, List.map_cons, pairs, hasId, Envelope.raw_of_decode read]

/-- The requests of a batch get their own answers from a reply that holds them in any order. -/
theorem ofReply_of_honest {body : Bytes} (answers : ∀ r ∈ requests, Answers r (answer r))
    (distinct : (requests.map Request.id).Nodup) (honest : HonestReply answer requests body) :
    ofReply requests (.ok body) = .ok (requests.map fun r => .ok (answer r)) := by
  obtain ⟨order, reordered, isArray⟩ := honest
  have answersInOrder : ∀ r ∈ order, Answers r (answer r) := fun r member =>
    answers r (reordered.mem_iff.mp member)
  obtain ⟨messages, read, pairs⟩ := messages_of_answers answersInOrder
  have objects : ∀ text ∈ order.map answer, Json.IsObjectText text := by
    intro text member
    obtain ⟨r, isRequest, rfl⟩ := List.mem_map.mp member
    obtain ⟨utf8, opens, trimmed, e, decoded, _⟩ := answersInOrder r isRequest
    exact Envelope.isObjectText_of_decode utf8 opens trimmed decoded
  have answered : AnswersAll requests answer messages := by
    rw [AnswersAll, pairs]
    exact reordered.map _
  have elements := Envelope.decodeBatch_of_isArrayOf isArray objects read
  exact bind_eq_ok.mpr ⟨body, rfl,
    bind_eq_ok.mpr ⟨messages, elements, answered.ofElements_eq distinct⟩⟩

end HonestReply

end RpcTransport.Gathering
