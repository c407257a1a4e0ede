import RpcTransport.Message.Envelope

/-!
What messages are, by their ids, methods and parameters. A message with a usable id and no method
should answer the call of that id, whatever else it has. It does, unless it has parameters.
-/

namespace RpcTransport.Envelope

variable {e : Envelope} {id : String}

/-! ### Ids -/

/-- A message is matched to the call of this id: its id is this string, which neither is empty nor
looks like an array or object, or a number with this text. -/
inductive HasId (e : Envelope) : String → Prop
  | string {s : String} (isString : e.id = some (.string s)) (nonempty : s ≠ "")
    (noObject : s.toList.head? ≠ some '{') (noArray : s.toList.head? ≠ some '[') : HasId e s
  | number {n : Number} (isNumber : e.id = some (.number n)) : HasId e n.render

theorem isUsableId_iff {s : String} :
    isUsableId s = true ↔ s ≠ "" ∧ s.toList.head? ≠ some '{' ∧ s.toList.head? ≠ some '[' := by
  rw [show s ≠ "" ↔ s.toList ≠ [] from not_congr String.toList_eq_nil_iff.symm]
  unfold isUsableId
  cases s.toList with
  | nil => simp
  | cons c rest => simp

theorem validId_eq_some : e.validId = some id ↔ e.HasId id := by
  constructor
  · intro found
    unfold validId at found
    split at found
    · next s isString =>
        split at found
        · next usable =>
            cases found
            obtain ⟨nonempty, noObject, noArray⟩ := isUsableId_iff.mp usable
            exact .string isString nonempty noObject noArray
        · cases found
    · next n isNumber =>
        cases found
        exact .number isNumber
    · cases found
  · intro hasId
    cases hasId with
    | string isString nonempty noObject noArray =>
        simp only [validId, isString]
        exact if_pos (isUsableId_iff.mpr ⟨nonempty, noObject, noArray⟩)
    | number isNumber => simp only [validId, isNumber]

theorem isSome_validId : e.validId.isSome = true ↔ ∃ id, e.HasId id := by
  simp only [Option.isSome_iff_exists, validId_eq_some]

/-- A message has no id: none, null or an empty one. -/
def LacksId (e : Envelope) : Prop :=
  e.id = none ∨ e.id = some .null ∨ e.id = some (.string "")

theorem idIsEmpty_iff : e.idIsEmpty = true ↔ e.LacksId := by
  unfold idIsEmpty LacksId
  split <;> simp_all

theorem HasId.not_lacksId (hasId : e.HasId id) : ¬ e.LacksId := by
  rintro (noId | isNull | isEmpty)
  · cases hasId with
    | string isString => cases noId.symm.trans isString
    | number isNumber => cases noId.symm.trans isNumber
  · cases hasId with
    | string isString => cases isNull.symm.trans isString
    | number isNumber => cases isNull.symm.trans isNumber
  · cases hasId with
    | string isString nonempty =>
        cases isEmpty.symm.trans isString
        exact nonempty rfl
    | number isNumber => cases isEmpty.symm.trans isNumber

/-! ### Methods -/

/-- A message has no method: none or null, or an empty one. -/
def LacksMethod (e : Envelope) : Prop :=
  e.method = none ∨ e.method = some ""

theorem methodName_eq_empty : e.methodName = "" ↔ e.LacksMethod := by
  unfold methodName LacksMethod
  cases e.method <;> simp

/-! ### Kinds -/

theorem isResponse_iff :
    e.isResponse = true ↔ (∃ id, e.HasId id) ∧ e.LacksMethod ∧ e.params = none := by
  simp only [isResponse, Bool.and_eq_true, beq_iff_eq, Option.isNone_iff_eq_none, isSome_validId,
    methodName_eq_empty, and_assoc]

theorem isNotification_iff : e.isNotification = true ↔ e.LacksId ∧ ¬ e.LacksMethod := by
  simp only [isNotification, Bool.and_eq_true, bne_iff_ne, ne_eq, idIsEmpty_iff,
    methodName_eq_empty]

/-- No message is both an answer and a push. -/
theorem isNotification_of_isResponse (isResponse : e.isResponse = true) :
    e.isNotification = false := by
  obtain ⟨⟨_, hasId⟩, _⟩ := isResponse_iff.mp isResponse
  refine Bool.eq_false_iff.mpr fun isNotification => ?_
  exact hasId.not_lacksId (isNotification_iff.mp isNotification).1

theorem kind_eq_response : e.kind = .response ↔ e.isResponse = true := by
  unfold kind
  split
  · next isResponse => simp [isResponse]
  · next notResponse => split <;> simp [notResponse]

theorem kind_eq_notification : e.kind = .notification ↔ e.isNotification = true := by
  unfold kind
  split
  · next isResponse => simp [isNotification_of_isResponse isResponse]
  · next notResponse => split <;> simp [*]

theorem kind_eq_unrecognized :
    e.kind = .unrecognized ↔ e.kind ≠ .response ∧ e.kind ≠ .notification := by
  cases e.kind <;> decide

/-- A message is what its id and its method say: an answer if it has a usable id and no method, a
push if it has a method and no id, and nothing of use otherwise. -/
structure FollowsRule (e : Envelope) : Prop where
  response : e.kind = .response ↔ (∃ id, e.HasId id) ∧ e.LacksMethod
  notification : e.kind = .notification ↔ e.LacksId ∧ ¬ e.LacksMethod
  unrecognized : e.kind = .unrecognized ↔
    ¬ ((∃ id, e.HasId id) ∧ e.LacksMethod) ∧ ¬ (e.LacksId ∧ ¬ e.LacksMethod)

/-- Parameters are all that keeps a message from being what its id and its method say. -/
theorem followsRule_iff :
    e.FollowsRule ↔ ((∃ id, e.HasId id) → e.LacksMethod → e.params = none) := by
  have push := kind_eq_notification.trans (isNotification_iff (e := e))
  have answer := kind_eq_response.trans (isResponse_iff (e := e))
  constructor
  · intro follows hasId noMethod
    exact (answer.mp (follows.response.mpr ⟨hasId, noMethod⟩)).2.2
  · intro noParams
    have response : e.kind = .response ↔ (∃ id, e.HasId id) ∧ e.LacksMethod := by
      rw [answer]
      constructor
      · rintro ⟨hasId, noMethod, _⟩
        exact ⟨hasId, noMethod⟩
      · rintro ⟨hasId, noMethod⟩
        exact ⟨hasId, noMethod, noParams hasId noMethod⟩
    refine ⟨response, push, ?_⟩
    rw [kind_eq_unrecognized, ne_eq, ne_eq, response, push]

/-- A message with an id, without a method and with parameters is of no use. -/
theorem kind_of_params (hasId : e.HasId id) (params : e.params ≠ none) :
    e.kind = .unrecognized := by
  refine kind_eq_unrecognized.mpr ⟨?_, ?_⟩
  · intro isResponse
    exact params (isResponse_iff.mp (kind_eq_response.mp isResponse)).2.2
  · intro isNotification
    exact hasId.not_lacksId (isNotification_iff.mp (kind_eq_notification.mp isNotification)).1

end RpcTransport.Envelope
