import RpcTransport.Proofs.Json.Written

/-!
Objects that overlay defaults. A member that is there gives the setting of its name, and one that is
not leaves the default; the order of the members and others between them make no difference.
-/

namespace RpcTransport.Json

/-! ### Settings -/

/-- The member of a name holds the text of a setting. It is left out only where it may miss, and
there are not two of them. -/
structure Gives (members : List (String × Bytes)) (name : String) (isSetting : Bytes → Prop)
    (mayMiss : Prop) : Prop where
  once : (members.map Prod.fst).count name ≤ 1
  holds : (members.lookup name).elim mayMiss isSetting

/-- The text of an option: null if it is not set. -/
def IsOption {α : Type} (isSetting : α → Bytes → Prop) : Option α → Bytes → Prop
  | none, text => text = bytesOf "null"
  | some x, text => isSetting x text

/-- The text of an object whose members are such. -/
def IsTextOf (listed : List (String × Bytes) → Prop) (text : Bytes) : Prop :=
  ∃ members, IsObjectOf members text ∧ listed members

/-! ### What is found -/

section Found

variable {α : Type} {members : List (String × Bytes)} {name : String} {isSetting : Bytes → Prop}
  {mayMiss : Prop} {x default : α}

/-- A field finds the setting, or nothing where the setting is the default. -/
theorem Gives.found (gives : Gives members name isSetting mayMiss) (depth : Nat)
    (shape : Shape α)
    (reads : ∀ text, (name, text) ∈ members → isSetting text →
      (shape.text depth).outcome text = some x)
    (isDefault : mayMiss → x = default) :
    ∃ found, Record.found depth members name shape = some found ∧ found.getD default = x := by
  have holds := gives.holds
  cases isThere : members.lookup name with
  | none =>
      rw [isThere] at holds
      refine ⟨none, ?_, (isDefault holds).symm⟩
      rw [Record.found, isThere]
  | some text =>
      rw [isThere] at holds
      refine ⟨some x, Record.found_of_outcome isThere (reads text ?_ holds), rfl⟩
      obtain ⟨before, after, rfl, _⟩ := List.lookup_eq_some_iff.mp isThere
      exact List.mem_append_right _ List.mem_cons_self

/-- What must be there is found. -/
theorem Gives.found_required (gives : Gives members name isSetting False) (depth : Nat)
    (shape : Shape α)
    (reads : ∀ text, isSetting text → (shape.text depth).outcome text = some x) :
    Record.found depth members name shape = some (some x) := by
  have holds := gives.holds
  cases isThere : members.lookup name with
  | none =>
      rw [isThere] at holds
      exact holds.elim
  | some text =>
      rw [isThere] at holds
      exact Record.found_of_outcome isThere (reads text holds)

end Found

/-! ### Texts -/

section Options

variable {α : Type} {depth : Nat} {text : Bytes}

/-- An option is read from its text if what it holds is, and that is no null. -/
theorem IsOption.outcome {isSetting : α → Bytes → Prop} {shape : Shape α}
    {option : Option α} (isOption : IsOption isSetting option text) (faithful : shape.Faithful)
    (isText : IsText .value text)
    (reads : ∀ x, isSetting x text →
      text ≠ bytesOf "null" ∧ (shape.text depth).outcome text = some x) :
    ((Shape.optional shape).text depth).outcome text = some option := by
  cases option with
  | none =>
      rw [show text = bytesOf "null" from isOption]
      exact (Shape.optional_null depth).1
  | some x =>
      obtain ⟨notNull, made⟩ := reads x isOption
      exact Shape.optional_outcome faithful isText notNull made

end Options

/-- The values of an object's members are texts. -/
theorem IsObjectOf.isText {members : List (String × Bytes)} {text : Bytes}
    (isObject : IsObjectOf members text) : ∀ m ∈ members, IsText .value m.2 := by
  obtain ⟨written, _, _, _, areMembers, writes⟩ := isObject
  clear * - areMembers writes
  induction writes with
  | nil => exact List.forall_mem_nil _
  | cons isWritten _ inductionHypothesis =>
      obtain ⟨first, others⟩ := List.forall_mem_cons.mp areMembers
      exact List.forall_mem_cons.mpr ⟨isWritten.2 ▸ first.2, inductionHypothesis others⟩

/-- What a record makes of what the members of its fields' names hold. -/
def Record.madeOf {δ α : Type} (record : Record δ α) (depth : Nat)
    (members : List (String × Bytes)) : Option α :=
  (record.fields.foldlM (Record.putMember depth members) record.blank).bind
    fun draft => (record.finish draft).toOption

section Texts

variable {δ α : Type} {record : Record δ α} {listed : List (String × Bytes) → Prop} {text : Bytes}
  {x : α}

/-- What is made of the members that are listed is made of the text. -/
theorem IsTextOf.outcome (isTextOf : IsTextOf listed text) (orderly : record.Orderly)
    (once : ∀ members, listed members →
      ∀ field ∈ record.fields, (members.map Prod.fst).count field.name ≤ 1) {depth : Nat}
    (made : ∀ members, listed members → (∀ m ∈ members, IsText .value m.2) →
      record.madeOf depth members = some x) :
    (record.shape.text (depth + 1)).outcome text = some x := by
  obtain ⟨members, isObject, listed⟩ := isTextOf
  exact (orderly.outcome_eq isObject (once members listed)).trans
    (made members listed isObject.isText)

/-- What is made of the members that are listed is read from the text. -/
theorem IsTextOf.parse (isTextOf : IsTextOf listed text) (orderly : record.Orderly)
    (once : ∀ members, listed members →
      ∀ field ∈ record.fields, (members.map Prod.fst).count field.name ≤ 1)
    (made : ∀ members, listed members → (∀ m ∈ members, IsText .value m.2) →
      record.madeOf (depthLimit - 1) members = some x) :
    record.shape.parse text = .ok x := by
  obtain ⟨members, isObject, listed⟩ := isTextOf
  exact toOption_eq_some.mp ((orderly.parse_toOption isObject (once members listed)).trans
    (made members listed isObject.isText))

/-- The text of a record is no null. -/
theorem ne_null_of_outcome {depth : Nat}
    (made : (record.shape.text depth).outcome text = some x) : text ≠ bytesOf "null" := by
  rintro rfl
  cases (Record.shape_scalar .null).symm.trans made

end Texts

end RpcTransport.Json
