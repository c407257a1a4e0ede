import RpcTransport.Endpoint.Loading
import RpcTransport.Proofs.Gathering.Assignment
import RpcTransport.Proofs.Json.Recognition

/-!
Batches and their elements. An array of values is read as a batch just as its elements are read one
by one, with the same messages and the same errors. So what a caller gets of a batch can be read
again, and is the same message again.
-/

namespace RpcTransport

namespace Envelope

open Json

variable {text body : Bytes} {texts : List Bytes} {e : Envelope} {messages : List Envelope}
  {error : TransportError}

/-- The text of a JSON value in UTF-8, without blanks around it. -/
structure IsElement (text : Bytes) : Prop where
  value : IsText .value text
  utf8 : ∃ s : String, text = bytesOf s

/-- An array is read as its elements are, one by one. -/
theorem decodeBatch_eq_mapM (isArray : IsArrayOf texts body)
    (areElements : ∀ text ∈ texts, IsElement text) : decodeBatch body = texts.mapM decode := by
  have sliced := slices_of_isArrayOf isArray
    (fun text member => (areElements text member).value.isValueText)
    fun text member => (areElements text member).utf8
  rw [decodeBatch, if_pos (find?_of_isArrayOf isArray), sliced]
  rfl

/-- What does not open as an array is read as one message. -/
theorem decodeBatch_of_first {b : UInt8} {rest : Bytes} (first : text = b :: rest)
    (noSpace : Ascii.isSpace b = false) (noBracket : b ≠ Ascii.openBracket) :
    decodeBatch text = (decode text).map fun e => [e] := by
  have found : (text.find? fun b => !Ascii.isSpace b) = some b := by
    rw [first]
    exact List.find?_cons_of_pos (by simp [noSpace])
  rw [decodeBatch, found, if_neg fun same => noBracket (Option.some.inj same)]
  rfl

theorem exists_mapM_decode_eq_ok :
    (∃ messages, texts.mapM decode = .ok messages) ↔ ∀ text ∈ texts, ∃ e, decode text = .ok e := by
  induction texts with
  | nil => simp [pure, Except.pure]
  | cons text texts inductionHypothesis =>
      rw [List.forall_mem_cons, ← inductionHypothesis]
      simp only [mapM_decode_eq_ok]
      constructor
      · rintro ⟨messages, each⟩
        obtain ⟨e, others, read, areOthers, _⟩ := List.forall₂_cons_left_iff.mp each
        exact ⟨⟨e, read⟩, others, areOthers⟩
      · rintro ⟨⟨e, read⟩, others, areOthers⟩
        exact ⟨e :: others, .cons read areOthers⟩

/-- The first text that is no message decides the error. -/
theorem mapM_decode_eq_error : texts.mapM decode = .error error ↔
    ∃ before text after, texts = before ++ text :: after ∧
      (∀ earlier ∈ before, ∃ e, decode earlier = .ok e) ∧ decode text = .error error := by
  constructor
  · intro failed
    induction texts with
    | nil => cases failed
    | cons text texts inductionHypothesis =>
        rw [List.mapM_cons] at failed
        rcases bind_eq_error.mp failed with first | ⟨e, read, failed⟩
        · exact ⟨[], text, texts, rfl, fun _ member => (nomatch member), first⟩
        · rcases bind_eq_error.mp failed with others | ⟨_, _, kept⟩
          · obtain ⟨before, found, after, rfl, areRead, unread⟩ := inductionHypothesis others
            exact ⟨text :: before, found, after, rfl,
              List.forall_mem_cons.mpr ⟨⟨e, read⟩, areRead⟩, unread⟩
          · cases kept
  · rintro ⟨before, text, after, rfl, areRead, unread⟩
    obtain ⟨messages, read⟩ := exists_mapM_decode_eq_ok.mpr areRead
    rw [List.mapM_append]
    refine bind_eq_error.mpr (Or.inr ⟨messages, read, ?_⟩)
    rw [List.mapM_cons]
    exact bind_eq_error.mpr (Or.inl (bind_eq_error.mpr (Or.inl unread)))

/-- An array is read as its elements are. -/
structure ElementWise (texts : List Bytes) (body : Bytes) : Prop where
  /-- It is read just if each of them is, -/
  reads : (∃ messages, decodeBatch body = .ok messages) ↔
    ∀ text ∈ texts, ∃ e, decode text = .ok e
  /-- and then as what they are, in their order. -/
  inOrder : ∀ messages, decodeBatch body = .ok messages ↔
    List.Forall₂ (fun text e => decode text = .ok e) texts messages
  /-- Each message keeps the text of its element. -/
  raw : ∀ messages, decodeBatch body = .ok messages → messages.map (·.raw) = texts
  /-- Otherwise it fails as the first element does that is no message, -/
  fails : ∀ error, decodeBatch body = .error error ↔
    ∃ before text after, texts = before ++ text :: after ∧
      (∀ earlier ∈ before, ∃ e, decode earlier = .ok e) ∧ decode text = .error error
  /-- with a fault of the protocol. -/
  fault : ∀ error, decodeBatch body = .error error → ∃ fault, error = .protocol fault

theorem elementWise_of_isArrayOf (isArray : IsArrayOf texts body)
    (areElements : ∀ text ∈ texts, IsElement text) : ElementWise texts body := by
  have same := decodeBatch_eq_mapM isArray areElements
  refine ⟨?_, ?_, ?_, ?_, fun error failed => exists_fault_of_decodeBatch failed⟩
  · rw [same]
    exact exists_mapM_decode_eq_ok
  · intro messages
    rw [same]
    exact mapM_decode_eq_ok
  · intro messages read
    rw [same] at read
    exact raw_of_mapM_decode read
  · intro error
    rw [same]
    exact mapM_decode_eq_error

/-- A message of a batch is read again from its own text. -/
theorem decode_raw_of_decodeBatch (read : decodeBatch body = .ok messages) (member : e ∈ messages) :
    decode e.raw = .ok e := by
  unfold decodeBatch at read
  split at read
  · obtain ⟨texts, _, read⟩ := bind_eq_ok.mp read
    have each := mapM_decode_eq_ok.mp read
    obtain ⟨⟨place, bound⟩, rfl⟩ := List.mem_iff_get.mp member
    have decoded := each.get (each.length_eq ▸ bound) bound
    have raw := raw_of_decode decoded
    rw [List.get_eq_getElem] at raw decoded ⊢
    rw [raw]
    exact decoded
  · obtain ⟨message, decoded, done⟩ := bind_eq_ok.mp read
    cases done
    rw [List.mem_singleton.mp member, raw_of_decode decoded]
    exact decoded

end Envelope

namespace Gathering

variable {node : Node} {dispatches : List Dispatch} {requests : List Request}
  {fetched : Fetched} {position : Nat} {text : Bytes}

/-- What a request gets of a batch is the text of a message of the reply, and is read as this
message. -/
theorem decode_of_settle (settled : settle (fetched.outcome requests) position = .ok text) :
    ∃ body messages e, fetched = .replied (.ok body) ∧
      Envelope.decodeBatch body = .ok messages ∧ e ∈ messages ∧ e.raw = text ∧
      Envelope.decode text = .ok e := by
  cases fetched with
  | died => cases settled
  | replied reply =>
      obtain ⟨results, outcome, settled⟩ := bind_eq_ok.mp settled
      obtain ⟨body, rfl, taken⟩ := bind_eq_ok.mp outcome
      obtain ⟨messages, read, done⟩ := bind_eq_ok.mp taken
      obtain rfl := ofElements_eq_ok done
      have got := settle_eq_ok.mp settled
      obtain ⟨e, there, raw⟩ := (assigned_correlate requests messages).raw got
      have member := List.mem_of_getElem? there
      have decoded := Envelope.decode_raw_of_decodeBatch read member
      rw [raw] at decoded
      exact ⟨body, messages, e, rfl, read, member, raw, decoded⟩

/-- What a ticket gets is what the fetch of some dispatch comes to at its position. -/
theorem Ticket.exists_settled {ticket : Ticket} {timed : Timed (Outcome Bytes)}
    (result : ticket.result? node dispatches = some timed) :
    ∃ m dispatch, dispatches[m]? = some dispatch ∧
      timed.value = settle ((node m dispatch).2.outcome dispatch.requests) ticket.position := by
  obtain ⟨⟨dispatch, m⟩, found, done⟩ := Option.bind_eq_some_iff.mp result
  cases done
  have atPlace := List.mem_zipIdx_iff_getElem?.mp (List.mem_of_find?_eq_some found)
  exact ⟨m, dispatch, atPlace, rfl⟩

/-- A ticket gets some result with this value. -/
def Gets (node : Node) (dispatches : List Dispatch) (value : Outcome Bytes) : Prop :=
  ∃ (ticket : Ticket) (timed : Timed (Outcome Bytes)),
    ticket.result? node dispatches = some timed ∧ timed.value = value

theorem gets_of_mapM {tickets : List Ticket} {results : List (Timed (Outcome Bytes))}
    (all : tickets.mapM (Ticket.result? node dispatches) = some results) :
    ∀ timed ∈ results, Gets node dispatches timed.value := by
  induction tickets generalizing results with
  | nil =>
      cases all
      exact fun _ member => nomatch member
  | cons ticket tickets inductionHypothesis =>
      rw [List.mapM_cons] at all
      obtain ⟨first, isFirst, all⟩ := Option.bind_eq_some_iff.mp all
      obtain ⟨others, areOthers, done⟩ := Option.bind_eq_some_iff.mp all
      cases done
      exact List.forall_mem_cons.mpr ⟨⟨ticket, first, isFirst, rfl⟩, inductionHypothesis areOthers⟩

theorem Caller.gets_of_awaited {caller : Caller} {result : CallerResult} {value : Outcome Bytes}
    (awaited : caller.awaited node dispatches = some result)
    (member : value ∈ Loading.value result) : Gets node dispatches value := by
  unfold Caller.awaited at awaited
  split at awaited
  · next ticket _ =>
      obtain ⟨timed, isTimed, rfl⟩ := Option.map_eq_some_iff.mp awaited
      exact ⟨ticket, timed, isTimed, (List.mem_singleton.mp member).symm⟩
  · next tickets _ =>
      obtain ⟨results, all, done⟩ := Option.bind_eq_some_iff.mp awaited
      cases done
      obtain ⟨timed, isTimed, rfl⟩ := List.mem_map.mp member
      exact gets_of_mapM all timed isTimed

/-- Whatever a caller ends with is what its tickets get. -/
theorem Caller.gets {caller : Caller} {value : Outcome Bytes}
    (member : value ∈ Loading.value (caller.result node dispatches)) :
    Gets node dispatches value := by
  unfold Caller.result at member
  split at member
  · next awaited _ => exact gets_of_awaited awaited member
  · next awaited _ =>
      split at member
      · exact gets_of_awaited awaited member
      · cases member
  · cases member

/-- A batch is read as its elements are, one by one, and an object as one message. A message of a
batch is read again from its own text; and so is whatever a caller of a run gets, as a message of a
reply that was fetched. -/
theorem batches_are_element_wise :
    (∀ (texts : List Bytes) (body : Bytes), Json.IsArrayOf texts body →
      (∀ text ∈ texts, Envelope.IsElement text) → Envelope.ElementWise texts body) ∧
    (∀ text : Bytes, Json.IsText .value text → text.head? = some Ascii.openBrace →
      Envelope.decodeBatch text = (Envelope.decode text).map fun e => [e]) ∧
    (∀ (body : Bytes) (messages : List Envelope), Envelope.decodeBatch body = .ok messages →
      ∀ e ∈ messages, Envelope.decode e.raw = .ok e) ∧
    ∀ (limits : Limits) (schedule : List Step) (node : Node) (n : Nat) (result : CallerResult)
      (text : Bytes), ((Execution.run limits schedule).results node)[n]? = some result →
      .ok text ∈ Loading.value result →
      ∃ m dispatch body messages e,
        (Execution.run limits schedule).timeline.dispatches[m]? = some dispatch ∧
        (node m dispatch).2 = .replied (.ok body) ∧
        Envelope.decodeBatch body = .ok messages ∧ e ∈ messages ∧ e.raw = text ∧
        Envelope.decode text = .ok e := by
  refine ⟨?_, ?_, ?_, ?_⟩
  · exact fun texts body isArray areElements =>
      Envelope.elementWise_of_isArrayOf isArray areElements
  · intro text _ opens
    obtain ⟨rest, rfl⟩ := List.head?_eq_some_iff.mp opens
    exact Envelope.decodeBatch_of_first rfl (by decide) (by decide)
  · exact fun body messages read e member => Envelope.decode_raw_of_decodeBatch read member
  · intro limits schedule node n result text isResult member
    rw [Execution.results, List.getElem?_map] at isResult
    obtain ⟨caller, _, rfl⟩ := Option.map_eq_some_iff.mp isResult
    obtain ⟨ticket, timed, isTimed, value⟩ := Caller.gets member
    obtain ⟨m, dispatch, atPlace, settled⟩ := ticket.exists_settled isTimed
    rw [value] at settled
    obtain ⟨body, messages, e, replied, found⟩ := decode_of_settle settled.symm
    exact ⟨m, dispatch, body, messages, e, atPlace, replied, found⟩

/-- An answer whose string has brackets, a comma and escapes in it. -/
def answerWithBrackets : Bytes :=
  bytesOf "\x7b\"id\":\"a\",\"result\":\"],[\\u005d\\\"\x7d\"\x7d"

/-- An answer with arrays and objects in it. -/
def nestedAnswer : Bytes :=
  bytesOf "\x7b\"id\":2,\"result\":[[], \x7b\"k\" :[\x7b\x7d,false]\x7d]\x7d"

/-- The two answers, with blanks around them. -/
def blankedReply : Bytes :=
  bytesOf " [\n" ++ answerWithBrackets ++ bytesOf " ,\t" ++ nestedAnswer ++ bytesOf "\r]\n"

/-- Brackets and commas in strings and nested values do not end an element, and blanks do not count.
-/
theorem batches_are_element_wise_of_two :
    Json.IsArrayOf [answerWithBrackets, nestedAnswer] blankedReply ∧
      (∀ text ∈ [answerWithBrackets, nestedAnswer], Envelope.IsElement text) ∧
      ∃ first second, Envelope.decode answerWithBrackets = .ok first ∧
        Envelope.decode nestedAnswer = .ok second ∧
        Envelope.decodeBatch blankedReply = .ok [first, second] ∧
        Envelope.decode second.raw = .ok second := by
  have isArray : Json.IsArrayOf [answerWithBrackets, nestedAnswer] blankedReply := by
    refine ⟨_, .more ⟨bytesOf "\n", bytesOf " ", ?_, ?_, rfl⟩
      (.last ⟨bytesOf "\t", bytesOf "\r", ?_, ?_, rfl⟩), bytesOf " ", bytesOf "\n", ?_, ?_, ?_⟩
    all_goals decide +kernel
  have areElements : ∀ text ∈ [answerWithBrackets, nestedAnswer], Envelope.IsElement text := by
    have first : Json.IsText .value answerWithBrackets :=
      Json.isText_iff.mpr ⟨rfl, Json.skim_eq_ok.mp rfl⟩
    have second : Json.IsText .value nestedAnswer :=
      Json.isText_iff.mpr ⟨rfl, Json.skim_eq_ok.mp rfl⟩
    exact List.forall_mem_cons.mpr ⟨⟨first, _, rfl⟩, List.forall_mem_singleton.mpr ⟨second, _, rfl⟩⟩
  obtain ⟨elementWise, _, again, _⟩ := batches_are_element_wise
  have firstRead : ∃ e, Envelope.decode answerWithBrackets = .ok e := ⟨_, rfl⟩
  have secondRead : ∃ e, Envelope.decode nestedAnswer = .ok e := ⟨_, rfl⟩
  obtain ⟨first, isFirst⟩ := firstRead
  obtain ⟨second, isSecond⟩ := secondRead
  have read := ((elementWise _ _ isArray areElements).inOrder [first, second]).mpr
    (.cons isFirst (.cons isSecond .nil))
  have readAgain := again _ _ read second (List.mem_cons_of_mem _ List.mem_cons_self)
  exact ⟨isArray, areElements, first, second, isFirst, isSecond, read, readAgain⟩

end Gathering

end RpcTransport
