import RpcTransport.Proofs.Json.Likeness

/-!
Shapes that make the same of texts for the same value, wherever the texts stand: values, and what is
made of values. That an array or object is read alike follows from its parts.
-/

namespace RpcTransport.Json

/-! ### Values -/

section Values

variable {α β : Type} {inner : Bytes → Except Fault Json} {text other : Bytes} {depth : Nat}

/-- What is made of pairwise like things is the same. -/
theorem mapM_eq_of_pairs {pairs : List (α × α)} {f : α → Option β}
    (same : ∀ pair ∈ pairs, f pair.1 = f pair.2) :
    (pairs.map Prod.fst).mapM f = (pairs.map Prod.snd).mapM f := by
  induction pairs with
  | nil => rfl
  | cons pair pairs inductionHypothesis =>
      obtain ⟨sameFirst, sameOthers⟩ := List.forall_mem_cons.mp same
      simp only [List.map_cons, List.mapM_cons, sameFirst, inductionHypothesis sameOthers]

theorem valueWith_skips (s : Bytes) :
    valueWith inner depth (skipBlanks s) = valueWith inner depth s := by
  unfold valueWith
  rw [skipBlanks_skipBlanks]

theorem IsNumber.outcome_eq (isNumber : IsNumber text) :
    (valueWith inner depth).outcome text = (readNumber.outcome text).map .number := by
  obtain ⟨b, tail, _, rfl, first, _⟩ := isNumber.read
  have start := skipBlanks_cons_of_not_blank (isBlank_of_number first) tail
  have noArray : b ≠ Ascii.openBracket := ne_of_number first (by decide) (by decide)
  have noObject : b ≠ Ascii.openBrace := ne_of_number first (by decide) (by decide)
  rw [Reader.outcome, Reader.outcome]
  unfold valueWith
  rw [start]
  simp only [noArray, noObject, if_false]
  rw [readScalar_of_number first]
  cases readNumber (b :: tail) <;> rfl

theorem IsString.outcome_eq (isString : IsString text) :
    (valueWith inner depth).outcome text = (saying? text).map .string := by
  obtain ⟨tail, rfl, read⟩ := isString.starts
  have alone := read []
  rw [List.append_nil] at alone
  have start := skipBlanks_cons_of_not_blank (b := Ascii.doubleQuote) (by decide) tail
  rw [Reader.outcome]
  unfold valueWith
  rw [start]
  simp only [show Ascii.doubleQuote ≠ Ascii.openBracket by decide,
    show Ascii.doubleQuote ≠ Ascii.openBrace by decide, if_false]
  rw [alone]
  cases saying? (Ascii.doubleQuote :: tail) <;> rfl

/-- Too deep an array or object is nothing. -/
theorem valueWith_zero {b : UInt8} (isOpen : b = Ascii.openBracket ∨ b = Ascii.openBrace) :
    (valueWith inner 0).outcome (b :: text) = none ∧
      (valueWith inner 0).Regular (b :: text) := by
  rcases isOpen with rfl | rfl
  all_goals exact Reader.regular_of_starts valueWith_skips none rfl fun _ _ => rfl

/-- An array is what its elements are. -/
theorem valueWith_array {texts : List Bytes} (listed : Listed texts text)
    (areValues : ∀ text ∈ texts, IsValueText text)
    (regular : ∀ text ∈ texts, (valueWith inner depth).Regular text) :
    (valueWith inner (depth + 1)).outcome (Ascii.openBracket :: (text ++ [Ascii.closeBracket])) =
        (texts.mapM (valueWith inner depth).outcome).map .array ∧
      (valueWith inner (depth + 1)).Regular
        (Ascii.openBracket :: (text ++ [Ascii.closeBracket])) := by
  refine Reader.regular_of_starts valueWith_skips _ rfl fun rest _ => ?_
  rw [List.append_assoc, valueWith_of_array, toOption_bind, List.singleton_append,
    arrayOf_outcome listed areValues regular]
  cases texts.mapM (valueWith inner depth).outcome <;> rfl

/-- Arrays of elements that are treated alike are treated alike. -/
theorem treatsAlike_array {pairs : List (Bytes × Bytes)}
    (listed : Listed (pairs.map Prod.fst) text) (listedOther : Listed (pairs.map Prod.snd) other)
    (areValues : ∀ pair ∈ pairs, IsValueText pair.1 ∧ IsValueText pair.2)
    (alike : ∀ pair ∈ pairs, ∀ depth, (valueWith inner depth).TreatsAlike pair.1 pair.2) :
    (valueWith inner depth).TreatsAlike (Ascii.openBracket :: (text ++ [Ascii.closeBracket]))
      (Ascii.openBracket :: (other ++ [Ascii.closeBracket])) := by
  cases depth with
  | zero => exact .of (valueWith_zero (Or.inl rfl)) (valueWith_zero (Or.inl rfl))
  | succ depth =>
      have item := fun pair member => alike pair member depth
      have same : (pairs.map Prod.fst).mapM (valueWith inner depth).outcome =
          (pairs.map Prod.snd).mapM (valueWith inner depth).outcome :=
        mapM_eq_of_pairs fun pair member => (item pair member).same
      refine .of (valueWith_array listed ?_ ?_) (same ▸ valueWith_array listedOther ?_ ?_)
      · exact List.forall_mem_map.mpr fun pair member => (areValues pair member).1
      · exact List.forall_mem_map.mpr fun pair member => (item pair member).regular
      · exact List.forall_mem_map.mpr fun pair member => (areValues pair member).2
      · exact List.forall_mem_map.mpr fun pair member => (item pair member).otherRegular

/-- What is made of objects of members that are made alike, one by one, is the same. -/
theorem objectOutcome_eq_of_pairs {item : Reader Json}
    {pairs : List ((Bytes × Bytes) × (Bytes × Bytes))}
    (names : ∀ pair ∈ pairs, saying? pair.1.1 = saying? pair.2.1)
    (values : ∀ pair ∈ pairs, item.outcome pair.1.2 = item.outcome pair.2.2)
    (strings : ∀ pair ∈ pairs,
      (readString "raw value").outcome pair.1.2 = (readString "raw value").outcome pair.2.2) :
    objectOutcome item inner (pairs.map Prod.fst) =
      objectOutcome item inner (pairs.map Prod.snd) := by
  have members : (pairs.map Prod.fst).mapM (memberOutcome item) =
      (pairs.map Prod.snd).mapM (memberOutcome item) := by
    refine mapM_eq_of_pairs fun pair member => ?_
    rw [memberOutcome, memberOutcome, names pair member, values pair member]
  cases pairs with
  | nil => rfl
  | cons pair pairs =>
      simp only [List.map_cons] at members ⊢
      rw [objectOutcome, objectOutcome, members, names pair List.mem_cons_self,
        strings pair List.mem_cons_self]
      simp

end Values

/-! ### Parts of values -/

section Readers

variable {α : Type} {b : UInt8} {inner : Bytes → Except Fault Json} {rest s : Bytes}

theorem refuse_toOption (expected : String) (s : Bytes) :
    (refuse expected s : Except Fault (α × Bytes)).toOption = none := by
  cases refused : (refuse expected s : Except Fault (α × Bytes)) with
  | error fault => rfl
  | ok found => exact absurd refused refuse_ne_ok

/-- What a string value says. -/
def asString? : Json → Option String
  | .string s => some s
  | _ => none

/-- What starts with no quote is no string. -/
theorem asString?_of_readScalar {value : Json} {after : Bytes} (noQuote : b ≠ Ascii.doubleQuote)
    (read : readScalar b rest = .ok (value, after)) : asString? value = none := by
  unfold readScalar at read
  split at read
  · obtain ⟨_, _, done⟩ := bind_eq_ok.mp read
    cases done
    rfl
  split at read
  · obtain ⟨_, _, done⟩ := bind_eq_ok.mp read
    cases done
    rfl
  split at read
  · obtain ⟨_, _, done⟩ := bind_eq_ok.mp read
    cases done
    rfl
  split at read
  · obtain ⟨_, _, done⟩ := bind_eq_ok.mp read
    cases done
    rfl
  · cases read

/-- A reader of strings reads those of the values without arrays and objects that are strings. -/
theorem readString_makesOf (inner : Bytes → Except Fault Json) (expected : String) :
    (readString expected).MakesOf (valueWith inner 0) asString? := by
  intro s
  unfold readString valueWith
  cases skipBlanks s with
  | nil => rfl
  | cons b rest =>
      dsimp only
      split
      · next isQuote =>
          subst isQuote
          have scalar : readScalar Ascii.doubleQuote rest =
              Quoted.read rest >>= fun found => .ok (.string found.1, found.2) := rfl
          simp only [show Ascii.doubleQuote ≠ Ascii.openBracket by decide,
            show Ascii.doubleQuote ≠ Ascii.openBrace by decide, if_false]
          rw [scalar, toOption_bind]
          cases Quoted.read rest <;> rfl
      · next noQuote =>
          rw [refuse_toOption]
          split
          · rfl
          split
          · rfl
          cases read : readScalar b rest with
          | error fault => rfl
          | ok found =>
              show none = (asString? found.1).map _
              rw [asString?_of_readScalar noQuote read]
              rfl

/-- An object is what its members are. -/
theorem valueWith_object {ms : List (Bytes × Bytes)} {text : Bytes} {depth : Nat}
    (lists : Lists ms text) (areNames : ∀ m ∈ ms, IsString m.1)
    (regular : ∀ m ∈ ms, ∀ depth, (valueWith inner depth).Regular m.2) :
    (valueWith inner (depth + 1)).outcome (Ascii.openBrace :: (text ++ [Ascii.closeBrace])) =
        objectOutcome (valueWith inner depth) inner ms ∧
      (valueWith inner (depth + 1)).Regular (Ascii.openBrace :: (text ++ [Ascii.closeBrace])) := by
  refine Reader.regular_of_starts valueWith_skips _ rfl fun rest _ => ?_
  rw [List.append_assoc, valueWith_of_object, List.singleton_append]
  refine objectOf_outcome lists areNames ?_ ?_ rest
  · exact fun m member => regular m member depth
  · exact fun m member => (readString_makesOf inner "raw value").regular (regular m member 0)

/-- Objects of members that are treated alike are treated alike, in whatever order they stand. -/
theorem treatsAlike_object {pairs : List ((Bytes × Bytes) × (Bytes × Bytes))}
    {ms : List (Bytes × Bytes)} {text other : Bytes} {depth : Nat}
    (lists : Lists (pairs.map Prod.fst) text) (listsOther : Lists ms other)
    (rearranged : Rearranged (pairs.map Prod.snd) ms)
    (areNames : ∀ pair ∈ pairs, IsString pair.1.1 ∧ IsString pair.2.1)
    (names : ∀ pair ∈ pairs, saying? pair.1.1 = saying? pair.2.1)
    (alike : ∀ pair ∈ pairs, ∀ depth, (valueWith inner depth).TreatsAlike pair.1.2 pair.2.2) :
    (valueWith inner depth).TreatsAlike (Ascii.openBrace :: (text ++ [Ascii.closeBrace]))
      (Ascii.openBrace :: (other ++ [Ascii.closeBrace])) := by
  cases depth with
  | zero => exact .of (valueWith_zero (Or.inr rfl)) (valueWith_zero (Or.inr rfl))
  | succ depth =>
      have same : objectOutcome (valueWith inner depth) inner (pairs.map Prod.fst) =
          objectOutcome (valueWith inner depth) inner ms := by
        rw [← rearranged.objectOutcome_eq inner]
        refine objectOutcome_eq_of_pairs names (fun pair member => ?_) fun pair member => ?_
        · exact (alike pair member depth).same
        · exact ((readString_makesOf inner _).treatsAlike (alike pair member 0)).same
      refine .of (valueWith_object lists ?_ ?_) (same ▸ valueWith_object listsOther ?_ ?_)
      · exact List.forall_mem_map.mpr fun pair member => (areNames pair member).1
      · exact List.forall_mem_map.mpr fun pair member depth => (alike pair member depth).regular
      -- the members that were rearranged are those of the pairs
      all_goals
        intro m member
        obtain ⟨pair, isPair, rfl⟩ := List.mem_map.mp (rearranged.perm.mem_iff.mpr member)
      · exact (areNames pair isPair).2
      · exact fun depth => (alike pair isPair depth).otherRegular

end Readers

namespace Shape

variable {α β : Type} {shape : Shape α}

/-- What takes up one scalar makes its things of scalar values. -/
theorem makesOf_of_readFound {read : Reader α} {make : Json → Option α}
    {take : Found × Bytes → Except Fault (α × Bytes)} (inner : Bytes → Except Fault Json)
    (takes : ∀ s, read s = readFound s >>= take)
    (sequence : ∀ s, (take (.sequence, s)).toOption = none)
    (map : ∀ s, (take (.map, s)).toOption = none)
    (made : ∀ value s, (take (.ofValue value, s)).toOption = (make value).map fun x => (x, s)) :
    read.MakesOf (valueWith inner 0) make := by
  intro s
  rw [takes, readFound]
  unfold valueWith
  cases skipBlanks s with
  | nil => rfl
  | cons b rest =>
      dsimp only
      split
      · exact sequence _
      split
      · exact map _
      cases readScalar b rest with
      | error fault => rfl
      | ok found => exact made found.1 found.2

/-- The integer that a number is, if it is one in range. -/
def asInteger? (low high : Int) : Json → Option { n : Int // low ≤ n ∧ n ≤ high }
  | .number (.integer n _) => if within : low ≤ n ∧ n ≤ high then some ⟨n, within⟩ else none
  | _ => none

theorem integer_makesOf (inner : Bytes → Except Fault Json) (name : String) (low high : Int)
    (depth : Nat) :
    ((integer name low high).text depth).MakesOf (valueWith inner 0) (asInteger? low high) := by
  refine makesOf_of_readFound inner (fun _ => rfl) (fun _ => rfl) (fun _ => rfl)
    fun value rest => ?_
  cases value with
  | number n =>
      cases n with
      | integer n fits =>
          by_cases within : low ≤ n ∧ n ≤ high
          all_goals
            simp only [Found.ofValue, asInteger?, within, and_self, dite_true, dite_false]
            rfl
      | double x => rfl
  | _ => rfl

/-- What a boolean value is. -/
def asBoolean? : Json → Option Bool
  | .bool b => some b
  | _ => none

theorem boolean_makesOf (inner : Bytes → Except Fault Json) (depth : Nat) :
    (boolean.text depth).MakesOf (valueWith inner 0) asBoolean? := by
  refine makesOf_of_readFound inner (fun _ => rfl) (fun _ => rfl) (fun _ => rfl)
    fun value rest => ?_
  cases value with
  | number n => cases n <;> rfl
  | _ => rfl

theorem map_makesOf (f : α → β) (depth : Nat) :
    ((shape.map f).text depth).MakesOf (shape.text depth) (some ∘ f) := by
  intro s
  simp only [map]
  cases shape.text depth s <;> rfl

/-- A shape of which texts for the same value make the same. -/
def Faithful (shape : Shape α) : Prop :=
  ∀ ⦃text other : Bytes⦄, Alike text other → ∀ depth, (shape.text depth).TreatsAlike text other

theorem Faithful.regular (faithful : shape.Faithful) {text : Bytes} (isText : IsText .value text)
    (depth : Nat) : (shape.text depth).Regular text :=
  (faithful isText.alike depth).regular

end Shape

/-- Texts for the same value are read as the same value. -/
theorem Alike.valueWith {text other : Bytes} (alike : Alike text other)
    (inner : Bytes → Except Fault Json) (depth : Nat) :
    (valueWith inner depth).TreatsAlike text other := by
  -- by the two texts at once, a case for each form of value
  induction alike generalizing depth with
  | null => exact ⟨IsScalar.null.regular inner depth, IsScalar.null.regular inner depth, rfl⟩
  | true => exact ⟨IsScalar.true.regular inner depth, IsScalar.true.regular inner depth, rfl⟩
  | false => exact ⟨IsScalar.false.regular inner depth, IsScalar.false.regular inner depth, rfl⟩
  | number isNumber isOther same =>
      refine ⟨(IsScalar.number isNumber).regular inner depth,
        (IsScalar.number isOther).regular inner depth, ?_⟩
      rw [isNumber.outcome_eq, isOther.outcome_eq, same]
  | string isString isOther same =>
      refine ⟨(IsScalar.string isString).regular inner depth,
        (IsScalar.string isOther).regular inner depth, ?_⟩
      rw [isString.outcome_eq, isOther.outcome_eq, same]
  | array listed listedOther alike inductionHypothesis =>
      refine treatsAlike_array listed listedOther (fun pair member => ?_) inductionHypothesis
      obtain ⟨isText, isOther⟩ := (alike pair member).isText
      exact ⟨isText.isValueText, isOther.isValueText⟩
  | object lists listsOther rearranged areNames names _ inductionHypothesis =>
      exact treatsAlike_object lists listsOther rearranged areNames names inductionHypothesis

/-! ### Shapes -/

namespace Shape

variable {α β : Type} {shape : Shape α}

theorem Faithful.any : Shape.any.Faithful := by
  intro text other alike depth
  show (readValue depth).TreatsAlike text other
  rw [readValue_eq]
  exact alike.valueWith enclosed depth

theorem Faithful.string : Shape.string.Faithful := fun _ _ alike _ =>
  (readString_makesOf enclosed "a string").treatsAlike (alike.valueWith enclosed 0)

theorem Faithful.integer (name : String) (low high : Int) : (integer name low high).Faithful :=
  fun _ _ alike depth =>
    (integer_makesOf enclosed name low high depth).treatsAlike (alike.valueWith enclosed 0)

theorem Faithful.boolean : boolean.Faithful := fun _ _ alike depth =>
  (boolean_makesOf enclosed depth).treatsAlike (alike.valueWith enclosed 0)

theorem Faithful.map (faithful : shape.Faithful) (f : α → β) : (shape.map f).Faithful :=
  fun _ _ alike depth => (map_makesOf f depth).treatsAlike (faithful alike depth)

theorem Faithful.int64 : int64.Faithful :=
  (Faithful.integer _ _ _).map _

theorem Faithful.unsigned (name : String) : (unsigned name).Faithful :=
  (Faithful.integer _ _ _).map _

theorem Faithful.uint64 : uint64.Faithful :=
  .unsigned "u64"

/-- A text that starts with what null does not start with. -/
def StartsOther (text : Bytes) : Prop :=
  ∃ b tail, text = b :: tail ∧ isBlank b = false ∧ b ≠ Ascii.byte 'n'

theorem startsOther_of_number {text : Bytes} (isNumber : IsNumber text) : StartsOther text := by
  obtain ⟨b, tail, _, rfl, first, _⟩ := isNumber.read
  exact ⟨b, tail, rfl, isBlank_of_number first, ne_of_number first (by decide) (by decide)⟩

theorem startsOther_of_string {text : Bytes} (isString : IsString text) : StartsOther text := by
  obtain ⟨tail, rfl, _⟩ := isString.starts
  exact ⟨_, tail, rfl, rfl, by decide⟩

/-- Texts for the same value are both null, or neither is. -/
theorem null_or_of_alike {text other : Bytes} (alike : Alike text other) :
    (text = bytesOf "null" ∧ other = bytesOf "null") ∨ (StartsOther text ∧ StartsOther other) := by
  cases alike with
  | null => exact Or.inl ⟨rfl, rfl⟩
  | true => exact Or.inr ⟨⟨_, _, rfl, rfl, by decide⟩, ⟨_, _, rfl, rfl, by decide⟩⟩
  | false => exact Or.inr ⟨⟨_, _, rfl, rfl, by decide⟩, ⟨_, _, rfl, rfl, by decide⟩⟩
  | number isNumber isOther =>
      exact Or.inr ⟨startsOther_of_number isNumber, startsOther_of_number isOther⟩
  | string isString isOther =>
      exact Or.inr ⟨startsOther_of_string isString, startsOther_of_string isOther⟩
  | array => exact Or.inr ⟨⟨_, _, rfl, rfl, by decide⟩, ⟨_, _, rfl, rfl, by decide⟩⟩
  | object => exact Or.inr ⟨⟨_, _, rfl, rfl, by decide⟩, ⟨_, _, rfl, rfl, by decide⟩⟩

theorem optional_skips (depth : Nat) (s : Bytes) :
    (optional shape).text depth (skipBlanks s) = (optional shape).text depth s := by
  simp only [optional]
  rw [skipBlanks_skipBlanks]

theorem optional_null (depth : Nat) :
    ((optional shape).text depth).outcome (bytesOf "null") = some none ∧
      ((optional shape).text depth).Regular (bytesOf "null") :=
  Reader.regular_of_starts (optional_skips depth) (some none) rfl fun _ _ => rfl

/-- Where no null starts, something is read. -/
theorem optional_of_regular {depth : Nat} {text : Bytes} (starts : StartsOther text)
    (regular : (shape.text depth).Regular text) :
    ((optional shape).text depth).outcome text = ((shape.text depth).outcome text).map some ∧
      ((optional shape).text depth).Regular text := by
  obtain ⟨b, tail, rfl, notBlank, notNull⟩ := starts
  refine Reader.regular_of_starts (optional_skips depth) _ notBlank fun rest stops => ?_
  simp only [optional]
  rw [skipBlanks_cons_of_not_blank notBlank]
  simp only [notNull, if_false]
  rw [toOption_bind, ← List.cons_append, regular.read_eq stops]
  cases (shape.text depth).outcome (b :: tail) <;> rfl

theorem Faithful.optional (faithful : shape.Faithful) : (optional shape).Faithful := by
  intro text other alike depth
  obtain ⟨regular, otherRegular, same⟩ := faithful alike depth
  obtain ⟨rfl, rfl⟩ | ⟨starts, startsToo⟩ := null_or_of_alike alike
  · exact .of (optional_null depth) (optional_null depth)
  · refine .of (optional_of_regular starts regular) ?_
    rw [same]
    exact optional_of_regular startsToo otherRegular

end Shape

end RpcTransport.Json
