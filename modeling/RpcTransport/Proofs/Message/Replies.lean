import Mathlib.Data.List.Forall2
import RpcTransport.Proofs.Json.ArrayText

/-!
Replies to batches. A reply that is an array of messages, with any blanks between them, is read as
these messages, in order, and each keeps its own text. Whatever is read as messages has such texts.
-/

namespace RpcTransport.Envelope

open Json

variable {text body : Bytes} {e : Envelope}

/-- A message keeps the text that it was read from. -/
theorem raw_of_decode (read : decode text = .ok e) : e.raw = text := by
  obtain ⟨found, _, done⟩ := bind_eq_ok.mp read
  cases done
  rfl

/-- An object that is read as a message is one value, up to its last byte. -/
theorem isObjectText_of_decode (utf8 : ∃ s : String, text = bytesOf s)
    (opens : text.head? = some Ascii.openBrace)
    (trimmed : ∀ b, text.getLast? = some b → isBlank b = false) (read : decode text = .ok e) :
    IsObjectText text := by
  obtain ⟨rest, skims, blank⟩ := skims_of_decode read
  cases shape : rest.getLast? with
  | none =>
      rw [List.getLast?_eq_none_iff.mp shape] at skims
      exact ⟨utf8, opens, skims⟩
  | some b =>
      have atEnd : text.getLast? = some b := by
        obtain ⟨consumed, rfl⟩ := skims.suffix
        rw [List.getLast?_append, shape, Option.some_or]
      have isBlank := List.dropWhile_eq_nil_iff.mp blank b (List.mem_of_getLast? shape)
      rw [trimmed b atEnd] at isBlank
      cases isBlank

theorem isSpace_of_isBlank {b : UInt8} (blank : isBlank b = true) : Ascii.isSpace b = true := by
  simp only [isBlank, Ascii.isSpace, Bool.or_eq_true] at blank ⊢
  tauto

/-- The first byte of an array that is not a space is its bracket. -/
theorem find?_of_isArrayOf {texts : List Bytes} (isArray : IsArrayOf texts body) :
    (body.find? fun b => !Ascii.isSpace b) = some Ascii.openBracket := by
  obtain ⟨inner, _, before, after, blank, _, rfl⟩ := isArray
  have none : (before.find? fun b => !Ascii.isSpace b) = none := by
    refine List.find?_eq_none.mpr ?_
    intro b member
    simp [isSpace_of_isBlank (blank b member)]
  rw [List.append_assoc, List.find?_append, none, Option.none_or]
  exact List.find?_cons_of_pos (by decide)

/-- Texts are read together as what each of them is read as. -/
theorem mapM_decode_eq_ok {texts : List Bytes} {messages : List Envelope} :
    texts.mapM decode = .ok messages ↔
      List.Forall₂ (fun text e => decode text = .ok e) texts messages := by
  constructor
  · intro read
    induction texts generalizing messages with
    | nil =>
        cases read
        exact .nil
    | cons text texts inductionHypothesis =>
        rw [List.mapM_cons] at read
        obtain ⟨first, isFirst, read⟩ := bind_eq_ok.mp read
        obtain ⟨others, areOthers, done⟩ := bind_eq_ok.mp read
        cases done
        exact .cons isFirst (inductionHypothesis areOthers)
  · intro read
    induction read with
    | nil => rfl
    | cons first others inductionHypothesis =>
        rw [List.mapM_cons]
        exact bind_eq_ok.mpr ⟨_, first, bind_eq_ok.mpr ⟨_, inductionHypothesis, rfl⟩⟩

/-- An array of messages is read as these messages. -/
theorem decodeBatch_of_isArrayOf {texts : List Bytes} {messages : List Envelope}
    (isArray : IsArrayOf texts body) (objects : ∀ text ∈ texts, IsObjectText text)
    (read : List.Forall₂ (fun text e => decode text = .ok e) texts messages) :
    decodeBatch body = .ok messages := by
  have sliced := slices_of_isArrayOf isArray (fun text member => (objects text member).isValueText)
    fun text member => (objects text member).utf8
  rw [decodeBatch, if_pos (find?_of_isArrayOf isArray), sliced]
  exact mapM_decode_eq_ok.mpr read

/-- The texts of the messages that a reply holds: of the elements of an array, or the one text that
is no array. -/
def TextsOf (texts : List Bytes) (body : Bytes) : Prop :=
  IsArrayOf texts body ∨ texts = [body]

theorem raw_of_mapM_decode {texts : List Bytes} {messages : List Envelope}
    (read : texts.mapM decode = .ok messages) : messages.map (·.raw) = texts := by
  have each : List.Forall₂ (· = ·) texts (messages.map (·.raw)) := by
    refine List.forall₂_map_right_iff.mpr ((mapM_decode_eq_ok.mp read).imp ?_)
    exact fun _ _ decoded => (raw_of_decode decoded).symm
  rw [List.forall₂_eq_eq_eq] at each
  exact each.symm

/-- The messages that are read from a reply have for their texts what the reply holds. -/
theorem textsOf_decodeBatch {messages : List Envelope} (read : decodeBatch body = .ok messages) :
    TextsOf (messages.map (·.raw)) body := by
  unfold decodeBatch at read
  split at read
  · obtain ⟨texts, found, read⟩ := bind_eq_ok.mp read
    rw [raw_of_mapM_decode read]
    exact Or.inl (isArrayOf_of_slices (mapError_eq_ok.mp found))
  · obtain ⟨message, isMessage, done⟩ := bind_eq_ok.mp read
    cases done
    exact Or.inr (congrArg (fun text => [text]) (raw_of_decode isMessage))

/-! ### Texts that are no messages -/

/-- An error says that a text is no message, or no array. -/
inductive SaysUnreadable : TransportError → Prop
  | message (cause : Json.Error) : SaysUnreadable (.protocol (.undecodableMessage cause))
  | batch (cause : Json.Error) : SaysUnreadable (.protocol (.undecodableBatch cause))

variable {error : TransportError}

theorem saysUnreadable_of_decode (failed : decode text = .error error) : SaysUnreadable error := by
  rcases bind_eq_error.mp failed with unread | ⟨_, _, kept⟩
  · obtain ⟨cause, _, rfl⟩ := mapError_eq_error.mp unread
    exact .message cause
  · cases kept

theorem saysUnreadable_of_mapM_decode {texts : List Bytes}
    (failed : texts.mapM decode = .error error) : SaysUnreadable error := by
  induction texts with
  | nil => cases failed
  | cons text texts inductionHypothesis =>
      rw [List.mapM_cons] at failed
      rcases bind_eq_error.mp failed with first | ⟨_, _, others⟩
      · exact saysUnreadable_of_decode first
      · rcases bind_eq_error.mp others with others | ⟨_, _, kept⟩
        · exact inductionHypothesis others
        · cases kept

/-- A reply that can not be read as messages fails with an error that says so. -/
theorem saysUnreadable_of_decodeBatch (failed : decodeBatch body = .error error) :
    SaysUnreadable error := by
  unfold decodeBatch at failed
  split at failed
  · rcases bind_eq_error.mp failed with unread | ⟨texts, _, failed⟩
    · obtain ⟨cause, _, rfl⟩ := mapError_eq_error.mp unread
      exact .batch cause
    · exact saysUnreadable_of_mapM_decode failed
  · rcases bind_eq_error.mp failed with failed | ⟨_, _, kept⟩
    · exact saysUnreadable_of_decode failed
    · cases kept

/-- So it is a fault of the protocol. -/
theorem exists_fault_of_decodeBatch (failed : decodeBatch body = .error error) :
    ∃ fault, error = .protocol fault := by
  cases saysUnreadable_of_decodeBatch failed with
  | message cause | batch cause => exact ⟨_, rfl⟩

end RpcTransport.Envelope
