import Mathlib.Data.List.Pairwise
import RpcTransport.Proofs.Json.Faithful

/-!
What records make of texts. The members of an object are taken into a draft one by one. Members of
different names may change places, and a record whose members come at most once looks each of its
fields up among them; members that belong to no field make no difference.
-/

namespace RpcTransport.Json

variable {δ α β : Type}

/-! ### Fields -/

/-- A field of which texts for the same value make the same. -/
def Field.Faithful (field : Field δ) : Prop :=
  ∀ ⦃text other : Bytes⦄, Alike text other →
    ∀ depth draft, (field.text depth draft).TreatsAlike text other

theorem Field.Faithful.regular {field : Field δ} (faithful : field.Faithful) {text : Bytes}
    (isText : IsText .value text) (depth : Nat) (draft : δ) :
    (field.text depth draft).Regular text :=
  (faithful isText.alike depth draft).regular

/-- Takes a text into a draft that has not the field yet. -/
def Field.put (depth : Nat) (field : Field δ) (value : Bytes) (draft : δ) : Option δ :=
  if field.isSet draft then none else (field.text depth draft).outcome value

/-- Two fields that may be taken in either order. -/
def Field.Commutes (field other : Field δ) : Prop :=
  ∀ depth value otherValue draft,
    (field.put depth value draft).bind (other.put depth otherValue) =
      (other.put depth otherValue draft).bind (field.put depth value)

instance : Std.Symm (@Field.Commutes δ) :=
  ⟨fun _ _ commutes depth value otherValue draft =>
    (commutes depth otherValue value draft).symm⟩

theorem Field.Faithful.put_eq {field : Field δ} (faithful : field.Faithful) {text other : Bytes}
    (alike : Alike text other) (depth : Nat) : field.put depth text = field.put depth other := by
  funext draft
  rw [put, put, (faithful alike depth draft).same]

section Of

variable {name otherName : String} {shape : Shape α} {otherShape : Shape β} {get : δ → Option α}
  {set : δ → α → δ} {getOther : δ → Option β} {setOther : δ → β → δ}

theorem Field.of_makesOf (depth : Nat) (draft : δ) :
    ((Field.of name shape get set).text depth draft).MakesOf (shape.text depth)
      (some ∘ set draft) := by
  intro s
  simp only [Field.of]
  cases shape.text depth s <;> rfl

theorem Field.Faithful.of (faithful : shape.Faithful) : (Field.of name shape get set).Faithful :=
  fun _ _ alike depth draft => (Field.of_makesOf depth draft).treatsAlike (faithful alike depth)

theorem Field.outcome_of (depth : Nat) (value : Bytes) (draft : δ) :
    ((Field.of name shape get set).text depth draft).outcome value =
      ((shape.text depth).outcome value).map (set draft) := by
  rw [Reader.MakesOf.outcome_eq (Field.of_makesOf depth draft), Option.map_eq_bind]

theorem Field.put_of (depth : Nat) (value : Bytes) (draft : δ) :
    (Field.of name shape get set).put depth value draft =
      if (get draft).isSome then none else ((shape.text depth).outcome value).map (set draft) := by
  rw [put, outcome_of]
  rfl

/-- Fields that are kept at different places may be taken in either order. -/
theorem Field.Commutes.of (apart : ∀ draft y, get (setOther draft y) = get draft)
    (apartOther : ∀ draft x, getOther (set draft x) = getOther draft)
    (both : ∀ draft x y, setOther (set draft x) y = set (setOther draft y) x) :
    (Field.of name shape get set).Commutes (Field.of otherName otherShape getOther setOther) := by
  intro depth value other draft
  have puts := funext (@Field.put_of _ _ name shape get set depth value)
  have putsOther := funext (@Field.put_of _ _ otherName otherShape getOther setOther depth other)
  rw [puts, putsOther]
  generalize (shape.text depth).outcome value = x
  generalize (otherShape.text depth).outcome other = y
  cases isSet : (get draft).isSome <;> cases isSetOther : (getOther draft).isSome <;>
    cases x <;> cases y <;> simp [apart, apartOther, both, isSet, isSetOther]

end Of

/-! ### Members -/

namespace Record

variable {record : Record δ α} {depth : Nat}

/-- A record whose fields are read from texts for the same value alike, and in any order. -/
structure Orderly (record : Record δ α) : Prop where
  faithful : ∀ field ∈ record.fields, field.Faithful
  commutes : record.fields.Pairwise Field.Commutes
  distinct : (record.fields.map Field.name).Nodup

/-- Takes a member into a draft; one of no field is passed over. -/
def takeNamed (record : Record δ α) (depth : Nat) (draft : δ) (m : String × Bytes) : Option δ :=
  match record.field? m.1 with
  | none => some draft
  | some field => field.put depth m.2 draft

/-- Takes a member, given by its name and value as they are written. -/
def take (record : Record δ α) (depth : Nat) (draft : δ) (m : Bytes × Bytes) : Option δ :=
  (saying? m.1).bind fun name => record.takeNamed depth draft (name, m.2)

/-- What is made of an object of these members. -/
def objectOutcome (record : Record δ α) (depth : Nat) (ms : List (Bytes × Bytes)) : Option α :=
  (ms.foldlM (record.take depth) record.blank).bind fun draft => (record.finish draft).toOption

theorem mem_of_field? {name : String} {field : Field δ} (found : record.field? name = some field) :
    field ∈ record.fields ∧ field.name = name :=
  ⟨List.mem_of_find?_eq_some found, by simpa using List.find?_some found⟩

/-- Fields of different names may be taken in either order. -/
theorem Orderly.commutes_of_name_ne (orderly : record.Orderly) {field other : Field δ}
    (isField : field ∈ record.fields) (isOther : other ∈ record.fields)
    (different : field.name ≠ other.name) : field.Commutes other :=
  orderly.commutes.forall isField isOther fun same => different (congrArg Field.name same)

/-- Members of different names may be taken in either order. -/
theorem Orderly.takeNamed_comm (orderly : record.Orderly) {m other : String × Bytes}
    (different : m.1 ≠ other.1) (draft : δ) :
    (record.takeNamed depth draft m).bind (record.takeNamed depth · other) =
      (record.takeNamed depth draft other).bind (record.takeNamed depth · m) := by
  unfold takeNamed
  cases found : record.field? m.1 with
  | none => simp
  | some field =>
      cases foundOther : record.field? other.1 with
      | none => simp
      | some otherField =>
          obtain ⟨isField, named⟩ := mem_of_field? found
          obtain ⟨isOther, namedOther⟩ := mem_of_field? foundOther
          refine orderly.commutes_of_name_ne isField isOther ?_ depth m.2 other.2 draft
          rwa [named, namedOther]

theorem Orderly.take_comm (orderly : record.Orderly) {m other : Bytes × Bytes}
    (different : saying? m.1 ≠ saying? other.1) (draft : δ) :
    (record.take depth draft m).bind (record.take depth · other) =
      (record.take depth draft other).bind (record.take depth · m) := by
  unfold take
  cases said : saying? m.1 with
  | none => cases saying? other.1 <;> simp
  | some name =>
      cases saidOther : saying? other.1 with
      | none => simp
      | some otherName =>
          refine orderly.takeNamed_comm ?_ draft
          rintro rfl
          exact different (said.trans saidOther.symm)

/-- What is made of an object is the same if its members are rearranged. -/
theorem Orderly.objectOutcome_rearranged (orderly : record.Orderly) (depth : Nat)
    {ms others : List (Bytes × Bytes)} (rearranged : Rearranged ms others) :
    record.objectOutcome depth ms = record.objectOutcome depth others := by
  induction rearranged with
  | same => rfl
  | @swap before after _ first second exchangeable _ inductionHypothesis =>
      rw [← inductionHypothesis]
      simp only [objectOutcome, List.foldlM_append, List.foldlM_cons]
      cases before.foldlM (record.take depth) record.blank with
      | none => rfl
      | some draft =>
          have comm := @Orderly.take_comm _ _ _ depth orderly _ _ exchangeable.different draft
          simp only [Option.bind_eq_bind, Option.bind_some, ← Option.bind_assoc, comm]

/-- What is made of objects of members that are like each other, one by one, is the same. -/
theorem Orderly.objectOutcome_of_pairs (orderly : record.Orderly) (depth : Nat)
    {pairs : List ((Bytes × Bytes) × (Bytes × Bytes))}
    (names : ∀ pair ∈ pairs, saying? pair.1.1 = saying? pair.2.1)
    (values : ∀ pair ∈ pairs, Alike pair.1.2 pair.2.2) :
    record.objectOutcome depth (pairs.map Prod.fst) =
      record.objectOutcome depth (pairs.map Prod.snd) := by
  have same : ∀ pair ∈ pairs, ∀ draft,
      record.take depth draft pair.1 = record.take depth draft pair.2 := by
    intro pair member draft
    rw [take, take, names pair member]
    congr 1
    funext name
    unfold takeNamed
    cases found : record.field? name with
    | none => rfl
    | some field =>
        dsimp only
        rw [(orderly.faithful field (mem_of_field? found).1).put_eq (values pair member)]
  have taken : ∀ draft, (pairs.map Prod.fst).foldlM (record.take depth) draft =
      (pairs.map Prod.snd).foldlM (record.take depth) draft := by
    clear names values
    induction pairs with
    | nil => exact fun _ => rfl
    | cons pair pairs inductionHypothesis =>
        obtain ⟨sameFirst, sameOthers⟩ := List.forall_mem_cons.mp same
        intro draft
        simp only [List.map_cons, List.foldlM_cons, sameFirst,
          inductionHypothesis sameOthers]
  rw [objectOutcome, objectOutcome, taken]

/-- What is made of the members that come next is made of each, into one draft. -/
theorem Orderly.textMembers_outcome (orderly : record.Orderly) {first : Bool}
    {ms : List (Bytes × Bytes)} {s rest : Bytes} (coming : MembersFrom first ms s rest)
    (values : ∀ m ∈ ms, IsText .value m.2) {fuel : Nat} (enough : ms.length < fuel) (draft : δ) :
    (record.textMembers depth fuel first draft s).toOption =
      (ms.foldlM (record.take depth) draft).map
        fun filled => (filled, Ascii.closeBrace :: rest) := by
  induction coming generalizing fuel draft with
  | close closes =>
      obtain ⟨fuel, rfl⟩ := Nat.exists_eq_add_one_of_ne_zero (Nat.ne_of_gt enough)
      rw [textMembers, bind_of_ok (nextMember_of_close closes)]
      rfl
  | @member _ _ name named before value left _ others isName next mark blank stops coming
      inductionHypothesis =>
      obtain ⟨fuel, rfl⟩ := Nat.exists_eq_add_one_of_ne_zero (Nat.ne_zero_of_lt enough)
      obtain ⟨quoted, rfl, read⟩ := isName.read
      obtain ⟨isText, areTexts⟩ := List.forall_mem_cons.mp values
      have more := inductionHypothesis areTexts (Nat.lt_of_succ_lt_succ enough)
      rw [textMembers, bind_of_ok next]
      simp only [if_true, List.tail_cons]
      rw [toOption_bind, read named, List.foldlM_cons]
      simp only [take]
      cases saying? (Ascii.doubleQuote :: quoted) with
      | none => rfl
      | some said =>
          simp only [Option.map_some, Option.bind_some, takeNamed]
          cases found : record.field? said with
          | none =>
              have passed := skim_eq_ok.mpr (isText.isValueText.skims_of_blank blank stops)
              dsimp only
              rw [bind_of_ok mark, bind_of_ok passed]
              exact more draft
          | some field =>
              have regular := (orderly.faithful field (mem_of_field? found).1).regular isText depth
              dsimp only [Field.put]
              split
              · rfl
              · rw [bind_of_ok mark, toOption_bind, regular draft before left blank stops]
                cases (field.text depth draft).outcome value with
                | none => rfl
                | some filled => exact more filled

theorem Orderly.textObject_outcome (orderly : record.Orderly) {ms : List (Bytes × Bytes)}
    {inner : Bytes} (lists : Lists ms inner)
    (areMembers : ∀ m ∈ ms, IsString m.1 ∧ IsText .value m.2) (rest : Bytes) :
    (record.textObject depth (inner ++ Ascii.closeBrace :: rest)).toOption =
      (record.objectOutcome depth ms).map fun x => (x, rest) := by
  have coming := lists.membersFrom (fun m member => (areMembers m member).1) rest
  have enough := Nat.lt_succ_of_lt coming.length_lt
  rw [textObject, toOption_bind, objectOutcome,
    orderly.textMembers_outcome coming (fun m member => (areMembers m member).2) enough]
  cases ms.foldlM (record.take depth) record.blank with
  | none => rfl
  | some draft =>
      simp only [Option.map_some, Option.bind_some]
      cases record.finish draft <;> rfl

/-! ### Rows -/

/-- Takes elements into fields, in order; there may be fewer, but not more. -/
def takeRow (depth : Nat) : List (Field δ) → List Bytes → δ → Option δ
  | _, [], draft => some draft
  | [], _ :: _, _ => none
  | field :: fields, text :: texts, draft =>
    ((field.text depth draft).outcome text).bind (takeRow depth fields texts)

/-- Where another element comes, the array is not closed. -/
theorem closeArray_of_next {first : Bool} {s t : Bytes}
    (next : nextElement first s = .ok (true, t)) : (closeArray s).toOption = none := by
  cases closed : closeArray s with
  | error fault => rfl
  | ok found =>
      obtain ⟨_, after⟩ := found
      rw [nextElement_of_close (skipBlanks_of_closeArray closed)] at next
      cases next

theorem closeArray_of_close {s rest : Bytes} (close : skipBlanks s = Ascii.closeBracket :: rest) :
    closeArray s = .ok ((), rest) := by
  rw [closeArray, close]
  rfl

/-- What is made of the elements that come next is made of as many fields. -/
theorem textElements_outcome {first : Bool} {texts : List Bytes} {s rest : Bytes}
    (coming : ElementsFrom first texts s rest) {fields : List (Field δ)}
    (faithful : ∀ field ∈ fields, field.Faithful) (areTexts : ∀ text ∈ texts, IsText .value text)
    (draft : δ) (finish : δ → Option α) :
    ((textElements depth fields first draft s).toOption.bind fun found =>
        (finish found.1).bind fun x =>
          (closeArray found.2).toOption.map fun after => (x, after.2)) =
      ((takeRow depth fields texts draft).bind finish).map fun x => (x, rest) := by
  induction fields generalizing first texts s draft with
  | nil =>
      cases coming with
      | close closes =>
          show (finish draft).bind (fun x =>
              (closeArray s).toOption.map fun after => (x, after.2)) =
            (finish draft).map fun x => (x, rest)
          rw [closeArray_of_close closes]
          cases finish draft <;> rfl
      | element next =>
          show (finish draft).bind (fun x =>
              (closeArray s).toOption.map fun after => (x, after.2)) = none
          rw [closeArray_of_next next]
          cases finish draft <;> rfl
  | cons field fields inductionHypothesis =>
      cases coming with
      | close closes =>
          rw [textElements, bind_of_ok (nextElement_of_close closes)]
          show (finish draft).bind (fun x =>
              (closeArray (Ascii.closeBracket :: rest)).toOption.map fun after => (x, after.2)) =
            (finish draft).map fun x => (x, rest)
          rw [closeArray_of_close rfl]
          cases finish draft <;> rfl
      | @element _ _ text left _ texts next stops others =>
          obtain ⟨isText, areTexts⟩ := List.forall_mem_cons.mp areTexts
          obtain ⟨isFaithful, faithful⟩ := List.forall_mem_cons.mp faithful
          rw [textElements, bind_of_ok next]
          simp only [if_true, takeRow]
          rw [toOption_bind, (isFaithful.regular isText depth draft).read_eq stops]
          cases (field.text depth draft).outcome text with
          | none => rfl
          | some filled => exact inductionHypothesis others faithful areTexts filled

/-- What is made of an array of these elements. -/
def rowOutcome (record : Record δ α) (depth : Nat) (texts : List Bytes) : Option α :=
  (takeRow depth record.fields texts record.blank).bind fun draft =>
    (record.finish draft).toOption

theorem Orderly.textArray_outcome (orderly : record.Orderly) {texts : List Bytes} {inner : Bytes}
    (listed : Listed texts inner) (areTexts : ∀ text ∈ texts, IsText .value text) (rest : Bytes) :
    (record.textArray depth (inner ++ Ascii.closeBracket :: rest)).toOption =
      (record.rowOutcome depth texts).map fun x => (x, rest) := by
  have coming := listed.elementsFrom (fun text member => (areTexts text member).isValueText) rest
  rw [rowOutcome, ← textElements_outcome coming orderly.faithful areTexts, textArray, toOption_bind]
  congr 1
  funext found
  dsimp only
  cases record.finish found.1 with
  | error name => rfl
  | ok x =>
      show (closeArray found.2 >>= _).toOption = _
      rw [toOption_bind]
      cases closeArray found.2 <;> rfl

/-- What is made of arrays of elements that are like each other, one by one, is the same. -/
theorem Orderly.rowOutcome_of_pairs (orderly : record.Orderly) (depth : Nat)
    {pairs : List (Bytes × Bytes)} (alike : ∀ pair ∈ pairs, Alike pair.1 pair.2) :
    record.rowOutcome depth (pairs.map Prod.fst) =
      record.rowOutcome depth (pairs.map Prod.snd) := by
  have taken : ∀ (fields : List (Field δ)), (∀ field ∈ fields, field.Faithful) → ∀ draft,
      takeRow depth fields (pairs.map Prod.fst) draft =
        takeRow depth fields (pairs.map Prod.snd) draft := by
    induction pairs with
    | nil => exact fun fields _ draft => by cases fields <;> rfl
    | cons pair pairs inductionHypothesis =>
        obtain ⟨isAlike, areAlike⟩ := List.forall_mem_cons.mp alike
        intro fields faithful draft
        cases fields with
        | nil => rfl
        | cons field fields =>
            obtain ⟨isFaithful, faithful⟩ := List.forall_mem_cons.mp faithful
            simp only [List.map_cons, takeRow]
            rw [(isFaithful isAlike depth draft).same]
            congr 1
            funext filled
            exact inductionHypothesis areAlike fields faithful filled
  rw [rowOutcome, rowOutcome, taken record.fields orderly.faithful]

/-! ### Records -/

theorem shape_skips (s : Bytes) :
    record.shape.text depth (skipBlanks s) = record.shape.text depth s := by
  simp only [shape]
  rw [skipBlanks_skipBlanks]

/-- A record is no scalar. -/
theorem shape_of_scalar {b : UInt8} {tail : Bytes} (starts : StartsScalar b tail) (rest : Bytes) :
    (record.shape.text depth (b :: (tail ++ rest))).toOption = none := by
  simp only [shape]
  rw [skipBlanks_cons_of_not_blank starts.notBlank]
  simp only [starts.noArray, starts.noObject, if_false]
  exact refuse_toOption _ _

theorem shape_scalar {text : Bytes} (isScalar : IsScalar text) :
    (record.shape.text depth).outcome text = none := by
  obtain ⟨b, tail, rfl, starts⟩ := isScalar.starts
  exact (Reader.regular_of_starts shape_skips none starts.notBlank
    fun rest _ => shape_of_scalar starts rest).1

theorem treatsAlike_scalar {text other : Bytes} (isScalar : IsScalar text)
    (isScalarToo : IsScalar other) : (record.shape.text depth).TreatsAlike text other := by
  obtain ⟨b, tail, rfl, starts⟩ := isScalar.starts
  obtain ⟨c, otherTail, rfl, startsToo⟩ := isScalarToo.starts
  exact .of (Reader.regular_of_starts shape_skips none starts.notBlank
      fun rest _ => shape_of_scalar starts rest)
    (Reader.regular_of_starts shape_skips none startsToo.notBlank
      fun rest _ => shape_of_scalar startsToo rest)

/-- Too deep an array or object is no record. -/
theorem shape_zero {b : UInt8} {text : Bytes}
    (isOpen : b = Ascii.openBracket ∨ b = Ascii.openBrace) :
    (record.shape.text 0).outcome (b :: text) = none ∧
      (record.shape.text 0).Regular (b :: text) := by
  rcases isOpen with rfl | rfl
  all_goals exact Reader.regular_of_starts shape_skips none rfl fun _ _ => rfl

theorem Orderly.shape_array (orderly : record.Orderly) {texts : List Bytes} {inner : Bytes}
    (listed : Listed texts inner) (areTexts : ∀ text ∈ texts, IsText .value text) :
    (record.shape.text (depth + 1)).outcome
          (Ascii.openBracket :: (inner ++ [Ascii.closeBracket])) =
        record.rowOutcome depth texts ∧
      (record.shape.text (depth + 1)).Regular
        (Ascii.openBracket :: (inner ++ [Ascii.closeBracket])) := by
  refine Reader.regular_of_starts shape_skips _ rfl fun rest _ => ?_
  show (record.textArray depth ((inner ++ [Ascii.closeBracket]) ++ rest)).toOption = _
  rw [List.append_assoc, List.singleton_append]
  exact orderly.textArray_outcome listed areTexts rest

theorem Orderly.shape_object (orderly : record.Orderly) {ms : List (Bytes × Bytes)} {inner : Bytes}
    (lists : Lists ms inner) (areMembers : ∀ m ∈ ms, IsString m.1 ∧ IsText .value m.2) :
    (record.shape.text (depth + 1)).outcome (Ascii.openBrace :: (inner ++ [Ascii.closeBrace])) =
        record.objectOutcome depth ms ∧
      (record.shape.text (depth + 1)).Regular
        (Ascii.openBrace :: (inner ++ [Ascii.closeBrace])) := by
  refine Reader.regular_of_starts shape_skips _ rfl fun rest _ => ?_
  show (record.textObject depth ((inner ++ [Ascii.closeBrace]) ++ rest)).toOption = _
  rw [List.append_assoc, List.singleton_append]
  exact orderly.textObject_outcome lists areMembers rest

/-- Texts for the same value are read as the same record. -/
theorem Orderly.shape_faithful (orderly : record.Orderly) : record.shape.Faithful := by
  intro text other alike depth
  cases alike with
  | null => exact treatsAlike_scalar .null .null
  | true => exact treatsAlike_scalar .true .true
  | false => exact treatsAlike_scalar .false .false
  | number isNumber isOther => exact treatsAlike_scalar (.number isNumber) (.number isOther)
  | string isString isOther => exact treatsAlike_scalar (.string isString) (.string isOther)
  | array listed listedOther alike =>
      cases depth with
      | zero => exact .of (shape_zero (Or.inl rfl)) (shape_zero (Or.inl rfl))
      | succ depth =>
          have texts := fun pair member => (alike pair member).isText
          have same := orderly.rowOutcome_of_pairs depth alike
          refine .of (orderly.shape_array listed ?_) (same ▸ orderly.shape_array listedOther ?_)
          · exact List.forall_mem_map.mpr fun pair member => (texts pair member).1
          · exact List.forall_mem_map.mpr fun pair member => (texts pair member).2
  | object lists listsOther rearranged areNames names values =>
      cases depth with
      | zero => exact .of (shape_zero (Or.inr rfl)) (shape_zero (Or.inr rfl))
      | succ depth =>
          have texts := fun pair member => (values pair member).isText
          have same := (orderly.objectOutcome_of_pairs depth names values).trans
            (orderly.objectOutcome_rearranged depth rearranged)
          refine .of (orderly.shape_object lists ?_) (same ▸ orderly.shape_object listsOther ?_)
          · exact List.forall_mem_map.mpr fun pair member =>
              ⟨(areNames pair member).1, (texts pair member).1⟩
          · intro m member
            obtain ⟨pair, isPair, rfl⟩ := List.mem_map.mp (rearranged.perm.mem_iff.mpr member)
            exact ⟨(areNames pair isPair).2, (texts pair isPair).2⟩

end Record

end RpcTransport.Json
