import RpcTransport.Proofs.Json.Lookups

/-!
What is made of texts that were written. The text of a plain value is read as the value, that of an
integer as the integer, and a member that holds such a text gives a record's field what was written.
-/

namespace RpcTransport.Json

/-! ### Texts -/

section Texts

variable {α : Type} {item : Reader α} {text : Bytes} {x : α}

theorem Reads.outcome_eq (reads : Reads item text x) : item.outcome text = some x := by
  have read := reads.read [] Reader.stops_nil
  rw [List.append_nil] at read
  rw [Reader.outcome, read]
  rfl

/-- What is read as it was written is a text. -/
theorem Reads.isText (reads : Reads item text x) (passes : PassesValues item) :
    IsText .value text := by
  have read := reads.read [] Reader.stops_nil
  rw [List.append_nil] at read
  obtain ⟨b, tail, rfl, notBlank, _⟩ := reads.starts
  exact isText_iff.mpr ⟨skipBlanks_cons_of_not_blank notBlank tail, passes _ _ _ read⟩

theorem IsPlain.isText {value : Json} (plain : value.IsPlain) : IsText .value value.render :=
  (plain.reads enclosed (Nat.le_refl _)).isText (valueWith_passesValues _ _)

theorem isText_render (s : String) : IsText .value (Quoted.render s) :=
  .string (render_quoted s).1

theorem isText_decimalOfInt {n : Int} (fits : Fits64 n) :
    IsText .value (bytesOf (decimalOfInt n)) :=
  (IsPlain.integer n fits).isText

theorem fits64_toInt (n : Int64) : Fits64 n.toInt := by
  have low := n.le_toInt
  have high := n.toInt_lt
  unfold Fits64
  omega

theorem fits64_toNat (n : UInt64) : Fits64 n.toNat :=
  fits64_natCast n.toNat_lt

end Texts

/-! ### Shapes -/

namespace Shape

variable {depth : Nat} {text : Bytes} {value : Json}

theorem any_outcome (plain : value.IsPlain) (shallow : value.nesting ≤ depth) :
    (any.text depth).outcome value.render = some value := by
  show (readValue depth).outcome value.render = some value
  rw [readValue_eq]
  exact (plain.reads enclosed shallow).outcome_eq

theorem string_outcome {said : String} (isString : IsString text)
    (isSaid : saying? text = some said) : (string.text depth).outcome text = some said := by
  show (readString "a string").outcome text = some said
  rw [(readString_makesOf enclosed "a string").outcome_eq, isString.outcome_eq, isSaid]
  rfl

theorem boolean_outcome (b : Bool) : (boolean.text depth).outcome (Json.bool b).render = some b := by
  have read : (valueWith enclosed 0).outcome (Json.bool b).render = some (.bool b) :=
    ((IsPlain.bool b).reads enclosed (Nat.le_refl _)).outcome_eq
  rw [(boolean_makesOf enclosed depth).outcome_eq, read]
  rfl

theorem integer_outcome {name : String} {low high n : Int} (within : low ≤ n ∧ n ≤ high)
    (fits : Fits64 n) :
    ((integer name low high).text depth).outcome (bytesOf (decimalOfInt n)) =
      some ⟨n, within⟩ := by
  have read : (valueWith enclosed 0).outcome (bytesOf (decimalOfInt n)) =
      some (.number (.integer n fits)) := (reads_integer n fits).outcome_eq
  rw [(integer_makesOf enclosed name low high depth).outcome_eq, read, Option.bind_some,
    asInteger?, dif_pos within]

theorem map_outcome {α β : Type} {shape : Shape α} {x : α} (f : α → β)
    (made : (shape.text depth).outcome text = some x) :
    ((shape.map f).text depth).outcome text = some (f x) := by
  rw [(map_makesOf f depth).outcome_eq, made]
  rfl

/-- The codes of errors and the sizes of batches are read as they were written. -/
theorem int64_outcome (n : Int64) :
    (int64.text depth).outcome (bytesOf (decimalOfInt n.toInt)) = some n := by
  have low := n.le_toInt
  have high := n.toInt_lt
  have within : (-0x8000000000000000 : Int) ≤ n.toInt ∧ n.toInt ≤ 0x7FFFFFFFFFFFFFFF := by omega
  have made := map_outcome (fun n => Int64.ofInt n.1)
    (@integer_outcome depth "i64" _ _ n.toInt within (fits64_toInt n))
  rwa [Int64.ofInt_toInt] at made

/-- Times and sizes are read as they were written. -/
theorem unsigned_outcome (name : String) (n : UInt64) :
    ((unsigned name).text depth).outcome (bytesOf (decimalOfNat n.toNat)) = some n := by
  have high := n.toNat_lt
  have within : (0 : Int) ≤ n.toNat ∧ (n.toNat : Int) ≤ 0xFFFFFFFFFFFFFFFF := by omega
  have made := map_outcome (fun n => UInt64.ofNat n.1.toNat)
    (@integer_outcome depth name _ _ n.toNat within (fits64_toNat n))
  rwa [Int.toNat_natCast, UInt64.ofNat_toNat] at made

/-- Where null counts as absent, what is no null is read as it is without the option. -/
theorem optional_outcome {α : Type} {shape : Shape α} {x : α} (faithful : shape.Faithful)
    (isText : IsText .value text) (notNull : text ≠ bytesOf "null")
    (made : (shape.text depth).outcome text = some x) :
    ((optional shape).text depth).outcome text = some (some x) := by
  obtain ⟨isNull, _⟩ | ⟨starts, _⟩ := null_or_of_alike isText.alike
  · exact absurd isNull notNull
  · rw [(optional_of_regular starts (faithful.regular isText depth)).1, made, Option.map_some]

end Shape

/-! ### Members -/

section Members

variable {α : Type} (name : String) (write : α → Bytes) (value : Option α)

/-- A member that may be left out is found if it is there. -/
theorem lookup_optional (other : String) :
    ((value.map fun x => (name, write x)).toList).lookup other =
      if other = name then value.map write else none := by
  cases value with
  | none => simp
  | some x =>
      by_cases same : other = name
      · simp [same]
      · simp [same, List.lookup_cons, beq_eq_false_iff_ne.mpr same]

theorem sublist_optional :
    ((value.map fun x => (name, write x)).toList.map Prod.fst).Sublist [name] := by
  cases value <;> simp

end Members

section Found

variable {α β : Type} {depth : Nat} {members : List (String × Bytes)} {name : String}
  {write : α → Bytes} {value : Option α}

theorem Record.found_of_outcome {shape : Shape α} {text : Bytes} {x : α}
    (holds : members.lookup name = some text)
    (made : (shape.text depth).outcome text = some x) :
    Record.found depth members name shape = some (some x) := by
  rw [found, holds]
  exact congrArg (Option.map some) made

/-- A member that may be left out is read as it was if it was written. -/
theorem Record.found_of_written {shape : Shape β} {f : α → β}
    (each : ∀ x ∈ value, (shape.text depth).outcome (write x) = some (f x))
    (holds : members.lookup name = value.map write) :
    Record.found depth members name shape = some (value.map f) := by
  cases value with
  | none => rw [found, holds, Option.map_none, Option.map_none]
  | some x => exact found_of_outcome holds (each x rfl)

theorem Record.found_of_optional {shape : Shape α}
    (each : ∀ x ∈ value, ((Shape.optional shape).text depth).outcome (write x) = some (some x))
    (holds : members.lookup name = value.map write) :
    (Record.found depth members name (.optional shape)).map Option.join = some value := by
  rw [found_of_written each holds]
  cases value <;> rfl

end Found

/-- Members that are some of those of different names come at most once. -/
theorem count_le_one_of_sublist {members : List (String × Bytes)} {names : List String}
    (some_ : (members.map Prod.fst).Sublist names) (distinct : names.Nodup) (name : String) :
    (members.map Prod.fst).count name ≤ 1 :=
  List.nodup_iff_count_le_one.mp (some_.nodup distinct) name

end RpcTransport.Json
