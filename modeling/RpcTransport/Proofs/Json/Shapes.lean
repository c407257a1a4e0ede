import RpcTransport.Message.Envelope
import RpcTransport.Proofs.Json.Reading

/-!
Every shape that a message is read in takes values of the grammar. So does a message: a text that is
read as a message holds one value and blanks.
-/

namespace RpcTransport.Json

/-- A shape whose texts are values of the grammar, up to where they end. -/
def Shape.PassesValues {α : Type} (shape : Shape α) : Prop :=
  ∀ depth, Json.PassesValues (shape.text depth)

namespace Shape.PassesValues

variable {α β : Type} {shape : Shape α}

theorem map (passes : shape.PassesValues) (f : α → β) : (shape.map f).PassesValues := by
  intro depth s y after read
  obtain ⟨⟨x, rest⟩, inner, done⟩ := bind_eq_ok.mp read
  cases done
  exact passes depth s x after inner

theorem any : Shape.any.PassesValues :=
  readValue_passesValues

theorem string : Shape.string.PassesValues :=
  fun _ => readString_passesValues "a string"

theorem integer (name : String) (low high : Int) : (Shape.integer name low high).PassesValues := by
  intro depth s x after read
  obtain ⟨⟨found, rest⟩, next, read⟩ := bind_eq_ok.mp read
  dsimp only at read
  split at read
  · split at read
    · cases read
      exact skims_of_readFound next (fun other => nomatch other) (fun other => nomatch other)
    · cases read
  · cases read

theorem optional (passes : shape.PassesValues) : (Shape.optional shape).PassesValues := by
  intro depth s x after read
  simp only [Shape.optional] at read
  split at read
  · obtain ⟨⟨y, rest⟩, inner, done⟩ := bind_eq_ok.mp read
    have short := (passes depth [] y rest inner).length_lt
    exact absurd short (Nat.not_lt_zero _)
  · next b rest found =>
      split at read
      · next isNull =>
          obtain ⟨⟨_, afterNull⟩, letters, done⟩ := bind_eq_ok.mp read
          cases done
          rw [isNull] at found
          exact .scalar found (by decide) (by decide) letters
      · obtain ⟨⟨y, afterValue⟩, inner, done⟩ := bind_eq_ok.mp read
        cases done
        have skims : Skims .value (b :: rest) afterValue := passes depth _ y afterValue inner
        rw [← found] at skims
        exact skims.congr (skipBlanks_skipBlanks s).symm

end Shape.PassesValues

/-! ### Records -/

/-- A field that is read from values of the grammar. -/
def Field.PassesValues {δ : Type} (field : Field δ) : Prop :=
  ∀ depth draft, Json.PassesValues (field.text depth draft)

theorem Field.PassesValues.of {α δ : Type} {shape : Shape α} (passes : shape.PassesValues)
    (name : String) (get : δ → Option α) (set : δ → α → δ) :
    (Field.of name shape get set).PassesValues := by
  intro depth draft s updated after read
  obtain ⟨⟨x, rest⟩, inner, done⟩ := bind_eq_ok.mp read
  cases done
  exact passes depth s x after inner

section Record

variable {δ α : Type} {record : Record δ α}

theorem remaining_of_textElements {fields : List (Field δ)}
    (passes : ∀ field ∈ fields, field.PassesValues) {depth : Nat} {first : Bool} {draft filled : δ}
    {s rest after : Bytes}
    (read : Record.textElements depth fields first draft s = .ok (filled, rest))
    (closed : closeArray rest = .ok ((), after)) :
    Remaining .elements Ascii.closeBracket first s after := by
  induction fields generalizing first draft s with
  | nil =>
      cases read
      exact .of_close (skipBlanks_of_closeArray closed)
  | cons field fields inductionHypothesis =>
      obtain ⟨⟨more, t⟩, next, read⟩ := bind_eq_ok.mp read
      cases more with
      | false =>
          cases read
          exact .of_noElement next closed
      | true =>
          obtain ⟨⟨updated, afterField⟩, value, read⟩ := bind_eq_ok.mp read
          have skims : Skims .value t afterField :=
            passes field List.mem_cons_self depth draft t updated afterField value
          have others := inductionHypothesis
            (fun field member => passes field (List.mem_cons_of_mem _ member)) read
          exact .of_nextElement next (Remaining.element skims others)

theorem remaining_of_textMembers (passes : ∀ field ∈ record.fields, field.PassesValues)
    {depth fuel : Nat} {first : Bool} {draft filled : δ} {s rest after : Bytes}
    (read : record.textMembers depth fuel first draft s = .ok (filled, rest))
    (closed : closeObject rest = .ok ((), after)) :
    Remaining .members Ascii.closeBrace first s after := by
  induction fuel generalizing first draft s with
  | zero => cases read
  | succ fuel inductionHypothesis =>
      obtain ⟨⟨more, t⟩, next, read⟩ := bind_eq_ok.mp read
      cases more with
      | false =>
          cases read
          exact .of_noMember next closed
      | true =>
          obtain ⟨⟨name, named⟩, string, read⟩ := bind_eq_ok.mp read
          dsimp only at read
          split at read
          · obtain ⟨⟨_, valued⟩, mark, read⟩ := bind_eq_ok.mp read
            obtain ⟨⟨_, afterValue⟩, skipped, read⟩ := bind_eq_ok.mp read
            have skims : Skims .value valued afterValue := skim_eq_ok.mp skipped
            exact .of_nextMember next string mark skims (inductionHypothesis read)
          · next field isField =>
              split at read
              · cases read
              · obtain ⟨⟨_, valued⟩, mark, read⟩ := bind_eq_ok.mp read
                obtain ⟨⟨updated, afterValue⟩, value, read⟩ := bind_eq_ok.mp read
                have skims : Skims .value valued afterValue :=
                  passes field (List.mem_of_find?_eq_some isField) depth draft _ _ _ value
                exact .of_nextMember next string mark skims (inductionHypothesis read)

/-- A record is read from values of the grammar if its fields are. Members that belong to no field
are passed over. -/
theorem Record.shape_passesValues (passes : ∀ field ∈ record.fields, field.PassesValues) :
    record.shape.PassesValues := by
  intro depth s x after read
  simp only [Record.shape] at read
  split at read
  · cases read
  · next b rest found =>
      split at read
      · next isArray =>
          rw [isArray] at found
          cases depth with
          | zero => cases read
          | succ depth =>
              obtain ⟨⟨draft, afterElements⟩, elements, read⟩ := bind_eq_ok.mp read
              dsimp only at read
              split at read
              · cases read
              · obtain ⟨⟨_, afterClose⟩, closed, done⟩ := bind_eq_ok.mp read
                cases done
                exact Remaining.array found (remaining_of_textElements passes elements closed)
      split at read
      · next isObject =>
          rw [isObject] at found
          cases depth with
          | zero => cases read
          | succ depth =>
              obtain ⟨⟨draft, afterMembers⟩, members, read⟩ := bind_eq_ok.mp read
              dsimp only at read
              split at read
              · cases read
              · obtain ⟨⟨_, afterClose⟩, closed, done⟩ := bind_eq_ok.mp read
                cases done
                exact Remaining.object found (remaining_of_textMembers passes members closed)
      · exact absurd read refuse_ne_ok

end Record

end RpcTransport.Json

namespace RpcTransport

open Json

theorem RpcError.shape_passesValues : RpcError.shape.PassesValues := by
  apply Record.shape_passesValues
  intro field member
  simp only [RpcError.record, List.mem_cons, List.not_mem_nil, or_false] at member
  rcases member with rfl | rfl | rfl
  · exact .of ((Shape.PassesValues.integer _ _ _).map _) _ _ _
  · exact .of .string _ _ _
  · exact .of (.optional .any) _ _ _

theorem Envelope.field_passesValues : ∀ field ∈ Envelope.record.fields, field.PassesValues := by
  intro field member
  simp only [Envelope.record, List.mem_cons, List.not_mem_nil, or_false] at member
  rcases member with rfl | rfl | rfl | rfl | rfl | rfl
  · exact .of .string _ _ _
  · exact .of (.optional .any) _ _ _
  · exact .of (.optional .string) _ _ _
  · exact .of (.optional .any) _ _ _
  · exact .of .any _ _ _
  · exact .of (.optional RpcError.shape_passesValues) _ _ _

theorem Envelope.shape_passesValues : Envelope.shape.PassesValues :=
  Record.shape_passesValues field_passesValues

/-- A text that is read as a message is read up to blanks. -/
theorem Envelope.exists_rest_of_decode {text : Bytes} {e : Envelope} (read : decode text = .ok e) :
    ∃ x rest, shape.text depthLimit text = .ok (x, rest) ∧ skipBlanks rest = [] := by
  obtain ⟨x, parsed, _⟩ := bind_eq_ok.mp read
  exact ⟨x, whole_eq_ok.mp (mapError_eq_ok.mp (mapError_eq_ok.mp parsed))⟩

/-- A text that is read as a message holds one value and blanks. -/
theorem Envelope.skims_of_decode {text : Bytes} {e : Envelope} (read : decode text = .ok e) :
    ∃ rest, Skims .value text rest ∧ skipBlanks rest = [] := by
  obtain ⟨x, rest, value, blank⟩ := exists_rest_of_decode read
  exact ⟨rest, shape_passesValues depthLimit text x rest value, blank⟩

end RpcTransport
