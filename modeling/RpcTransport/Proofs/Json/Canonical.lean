import RpcTransport.Proofs.Json.Written

/-!
What has been read is as it would be written. A value that is read from a text has the members of
its objects in order and is nested no deeper than the reader goes; so where its numbers are integers
and no object of the text stands for a value in a string, it is read again from its own text.
-/

namespace RpcTransport

/-- A number is an integer of 64 bits. -/
def Number.IsInteger (n : Number) : Prop :=
  ∃ i fits, n = .integer i fits

namespace Json

mutual

/-- The numbers in a value. -/
def numbers : Json → List Number
  | .number n => [n]
  | .array items => numbersItems items
  | .object members => numbersMembers members
  | _ => []

/-- The numbers in the elements of an array. -/
def numbersItems : List Json → List Number
  | [] => []
  | x :: xs => x.numbers ++ numbersItems xs

/-- The numbers in the members of an object. -/
def numbersMembers : List (String × Json) → List Number
  | [] => []
  | (_, x) :: rest => x.numbers ++ numbersMembers rest

end

theorem numbersItems_eq_flatMap (items : List Json) :
    numbersItems items = items.flatMap numbers := by
  induction items with
  | nil => rfl
  | cons x items inductionHypothesis => rw [numbersItems, inductionHypothesis, List.flatMap_cons]

theorem numbersMembers_eq_flatMap (members : List (String × Json)) :
    numbersMembers members = members.flatMap fun m => m.2.numbers := by
  induction members with
  | nil => rfl
  | cons m members inductionHypothesis =>
      rw [numbersMembers, inductionHypothesis, List.flatMap_cons]

theorem nestingItems_le {items : List Json} {depth : Nat}
    (shallow : ∀ x ∈ items, x.nesting ≤ depth) : nestingItems items ≤ depth := by
  induction items with
  | nil => exact Nat.zero_le _
  | cons x items inductionHypothesis =>
      obtain ⟨first, others⟩ := List.forall_mem_cons.mp shallow
      exact Nat.max_le.mpr ⟨first, inductionHypothesis others⟩

theorem nestingMembers_le {members : List (String × Json)} {depth : Nat}
    (shallow : ∀ m ∈ members, m.2.nesting ≤ depth) : nestingMembers members ≤ depth := by
  induction members with
  | nil => exact Nat.zero_le _
  | cons m members inductionHypothesis =>
      obtain ⟨first, others⟩ := List.forall_mem_cons.mp shallow
      exact Nat.max_le.mpr ⟨first, inductionHypothesis others⟩

/-! ### Members in order -/

section Members

variable {α : Type} {name : String} {value : α} {members : List (String × α)}

theorem mem_of_mem_insertMember {m : String × α} (member : m ∈ insertMember name value members) :
    m = (name, value) ∨ m ∈ members := by
  induction members with
  | nil => exact Or.inl (List.mem_singleton.mp member)
  | cons first members inductionHypothesis =>
      rw [insertMember] at member
      grind

theorem pairwise_insertMember
    (sorted : members.Pairwise fun first second => first.1 < second.1) :
    (insertMember name value members).Pairwise fun first second => first.1 < second.1 := by
  induction members with
  | nil => exact List.pairwise_singleton _ _
  | cons first members inductionHypothesis =>
      obtain ⟨before, others⟩ := List.pairwise_cons.mp sorted
      rw [insertMember]
      split
      · next earlier =>
          refine List.pairwise_cons.mpr ⟨?_, sorted⟩
          exact List.forall_mem_cons.mpr
            ⟨earlier, fun m member => String.lt_trans earlier (before m member)⟩
      split
      · next same =>
          subst same
          exact List.pairwise_cons.mpr ⟨before, others⟩
      · next notEarlier different =>
          refine List.pairwise_cons.mpr ⟨fun m member => ?_, inductionHypothesis others⟩
          obtain rfl | member := mem_of_mem_insertMember member
          · obtain earlier | same | later := Std.lt_trichotomy name first.1
            · exact absurd earlier notEarlier
            · exact absurd same different
            · exact later
          · exact before m member

/-- An object keeps members in order, and none but those that it is made of. -/
theorem exists_sorted_ofMembers (members : List (String × Json)) :
    ∃ kept, ofMembers members = .object kept ∧ kept ⊆ members ∧
      kept.Pairwise fun first second => first.1 < second.1 := by
  have all : ∀ (members taken : List (String × Json)),
      (taken.Pairwise fun first second => first.1 < second.1) →
      members.foldl (fun acc m => insertMember m.1 m.2 acc) taken ⊆ taken ++ members ∧
        (members.foldl (fun acc m => insertMember m.1 m.2 acc) taken).Pairwise
          fun first second => first.1 < second.1 := by
    intro members
    induction members with
    | nil => exact fun taken sorted => ⟨by simp, sorted⟩
    | cons m members inductionHypothesis =>
        intro taken sorted
        obtain ⟨fromThem, stillSorted⟩ := inductionHypothesis _ (pairwise_insertMember sorted)
        refine ⟨fun kept member => ?_, stillSorted⟩
        obtain member | member := List.mem_append.mp (fromThem member)
        · obtain rfl | member := mem_of_mem_insertMember member
          · simp
          · exact List.mem_append_left _ member
        · simp [member]
  obtain ⟨fromThem, sorted⟩ := all members [] .nil
  exact ⟨_, rfl, fromThem, sorted⟩

end Members

/-! ### Parts of texts -/

/-- The text of an element of an array, or of a member's value in an object. -/
inductive IsPart : Bytes → Bytes → Prop
  | element {texts : List Bytes} {inner text : Bytes} (listed : Listed texts inner)
    (areTexts : ∀ text ∈ texts, IsText .value text) (element : text ∈ texts) :
    IsPart text (Ascii.openBracket :: (inner ++ [Ascii.closeBracket]))
  | value {ms : List (Bytes × Bytes)} {m : Bytes × Bytes} {inner : Bytes} (lists : Lists ms inner)
    (areMembers : ∀ m ∈ ms, IsString m.1 ∧ IsText .value m.2) (member : m ∈ ms) :
    IsPart m.2 (Ascii.openBrace :: (inner ++ [Ascii.closeBrace]))

/-- In the text of a value, some object has a member of this name. -/
inductive HasMember (name : String) : Bytes → Prop
  | here {ms : List (Bytes × Bytes)} {m : Bytes × Bytes} {inner : Bytes} (lists : Lists ms inner)
    (areMembers : ∀ m ∈ ms, IsString m.1 ∧ IsText .value m.2) (member : m ∈ ms)
    (named : saying? m.1 = some name) :
    HasMember name (Ascii.openBrace :: (inner ++ [Ascii.closeBrace]))
  | within {part text : Bytes} (isPart : IsPart part text) (has : HasMember name part) :
    HasMember name text

/-- In a text with blanks around it, some object has a member of this name. -/
def HoldsMember (name : String) (padded : Bytes) : Prop :=
  ∃ text, Padded text padded ∧ IsText .value text ∧ HasMember name text

theorem IsPart.isText {part text : Bytes} (isPart : IsPart part text) : IsText .value part := by
  cases isPart with
  | element _ areTexts element => exact areTexts _ element
  | value _ areMembers member => exact (areMembers _ member).2

theorem Listed.length_le_of_mem {texts : List Bytes} {inner text : Bytes}
    (listed : Listed texts inner) (element : text ∈ texts) : text.length ≤ inner.length := by
  induction listed with
  | empty => cases element
  | last padding =>
      obtain ⟨before, after, _, _, rfl⟩ := padding
      obtain rfl := List.mem_singleton.mp element
      simp only [List.length_append]
      omega
  | more padding _ inductionHypothesis =>
      obtain ⟨before, after, _, _, rfl⟩ := padding
      simp only [List.length_append, List.length_cons]
      obtain rfl | element := List.mem_cons.mp element
      · omega
      · have short := inductionHypothesis element
        omega

theorem Lists.length_le_of_mem {ms : List (Bytes × Bytes)} {inner : Bytes} {m : Bytes × Bytes}
    (lists : Lists ms inner) (member : m ∈ ms) : m.1.length + m.2.length ≤ inner.length := by
  obtain ⟨texts, listed, written⟩ := lists
  have isMember : ∃ text ∈ texts, IsMember m.1 m.2 text := by
    clear listed
    induction written with
    | nil => cases member
    | cons isMember _ inductionHypothesis =>
        obtain rfl | member := List.mem_cons.mp member
        · exact ⟨_, List.mem_cons_self, isMember⟩
        · obtain ⟨text, isText, isMember⟩ := inductionHypothesis member
          exact ⟨text, List.mem_cons_of_mem _ isText, isMember⟩
  obtain ⟨text, isText, before, after, _, _, rfl⟩ := isMember
  have short := listed.length_le_of_mem isText
  simp only [List.length_append, List.length_cons] at short
  omega

theorem IsPart.length_le {part text : Bytes} (isPart : IsPart part text) :
    part.length ≤ text.length := by
  cases isPart with
  | element listed _ element =>
      have short := listed.length_le_of_mem element
      simp only [List.length_cons, List.length_append, List.length_nil]
      omega
  | value lists _ member =>
      have short := lists.length_le_of_mem member
      simp only [List.length_cons, List.length_append, List.length_nil]
      omega

/-- What a string says is no longer than the string. -/
theorem length_le_of_saying? {text : Bytes} {said : String} (isSaid : saying? text = some said) :
    (bytesOf said).length ≤ text.length := by
  obtain ⟨⟨_, rest⟩, read, rfl⟩ := Option.map_eq_some_iff.mp isSaid
  have short := length_le_of_read (toOption_eq_some.mp read)
  rw [List.length_tail] at short
  dsimp only
  omega

/-- A text is at least as long as the names of its members. -/
theorem HasMember.length_le {name : String} {text : Bytes} (has : HasMember name text) :
    (bytesOf name).length ≤ text.length := by
  induction has with
  | here lists _ member named =>
      have short := lists.length_le_of_mem member
      have shorter := length_le_of_saying? named
      simp only [List.length_cons, List.length_append, List.length_nil]
      omega
  | within isPart _ inductionHypothesis => exact Nat.le_trans inductionHypothesis isPart.length_le

/-! ### What is read -/

/-- What can be told of a value that was read of a text: it is nested no deeper than the reader
goes, it is plain if its numbers are integers, and only null is read as null. -/
structure IsKept (depth : Nat) (text : Bytes) (value : Json) : Prop where
  shallow : value.nesting ≤ depth
  plain : (∀ n ∈ value.numbers, n.IsInteger) → value.IsPlain
  null : value = .null → text = bytesOf "null"

section Reading

variable {inner : Bytes → Except Fault Json} {depth : Nat} {text : Bytes} {value : Json}

/-- What `mapM` makes is made of some element. -/
theorem exists_of_mem_mapM {α β : Type} {f : α → Option β} {xs : List α} {ys : List β}
    (made : xs.mapM f = some ys) {y : β} (member : y ∈ ys) : ∃ x ∈ xs, f x = some y := by
  induction xs generalizing ys with
  | nil =>
      cases made
      cases member
  | cons x xs inductionHypothesis =>
      rw [List.mapM_cons] at made
      obtain ⟨first, madeFirst, made⟩ := Option.bind_eq_some_iff.mp made
      obtain ⟨others, madeOthers, made⟩ := Option.bind_eq_some_iff.mp made
      cases made
      obtain rfl | member := List.mem_cons.mp member
      · exact ⟨x, List.mem_cons_self, madeFirst⟩
      · obtain ⟨from_, isElement, made⟩ := inductionHypothesis madeOthers member
        exact ⟨from_, List.mem_cons_of_mem _ isElement, made⟩

theorem isKept_array {items : List Json} (kept : ∀ x ∈ items, ∃ part, IsKept depth part x) :
    IsKept (depth + 1) text (.array items) where
  shallow := by
    refine Nat.succ_le_succ (nestingItems_le fun x member => ?_)
    obtain ⟨_, isKept⟩ := kept x member
    exact isKept.shallow
  plain integers := by
    refine .array fun x member => ?_
    obtain ⟨_, isKept⟩ := kept x member
    refine isKept.plain fun n isNumber => integers n ?_
    rw [numbers, numbersItems_eq_flatMap]
    exact List.mem_flatMap.mpr ⟨x, member, isNumber⟩
  null := nofun

theorem isKept_object {members : List (String × Json)}
    (sorted : members.Pairwise fun first second => first.1 < second.1)
    (named : ∀ m ∈ members, m.1 ≠ embeddedName)
    (kept : ∀ m ∈ members, ∃ part, IsKept depth part m.2) :
    IsKept (depth + 1) text (.object members) where
  shallow := by
    refine Nat.succ_le_succ (nestingMembers_le fun m member => ?_)
    obtain ⟨_, isKept⟩ := kept m member
    exact isKept.shallow
  plain integers := by
    refine .object sorted named fun m member => ?_
    obtain ⟨_, isKept⟩ := kept m member
    refine isKept.plain fun n isNumber => integers n ?_
    rw [numbers, numbersMembers_eq_flatMap]
    exact List.mem_flatMap.mpr ⟨m, member, isNumber⟩
  null := nofun

/-- The texts of a members' list, by names and values. -/
theorem exists_lists {texts : List Bytes} {between : Bytes} (listed : Listed texts between)
    (areMembers : ∀ text ∈ texts, IsText .member text) :
    ∃ ms, Lists ms between ∧ ∀ m ∈ ms, IsString m.1 ∧ IsText .value m.2 := by
  have each : ∀ text ∈ texts, ∃ m : Bytes × Bytes,
      IsMember m.1 m.2 text ∧ IsString m.1 ∧ IsText .value m.2 := by
    intro text member
    cases areMembers text member with
    | @member name before after value isName blankBefore blankAfter isValue =>
        exact ⟨(name, value), ⟨before, after, blankBefore, blankAfter, rfl⟩, isName, isValue⟩
  obtain ⟨ms, written, areThese⟩ := exists_members each
  exact ⟨ms, ⟨texts, listed, written⟩, areThese⟩

/-- What is read of an object that has no member of the name for values in strings are its
members. -/
theorem exists_members_of_objectOutcome {item : Reader Json} {ms : List (Bytes × Bytes)}
    (unnamed : ∀ m ∈ ms, saying? m.1 ≠ some embeddedName)
    (made : objectOutcome item inner ms = some value) :
    ∃ members, value = .ofMembers members ∧ ∀ m ∈ members, ∃ w ∈ ms,
      saying? w.1 = some m.1 ∧ item.outcome w.2 = some m.2 := by
  cases ms with
  | nil =>
      cases made
      exact ⟨[], rfl, nofun⟩
  | cons first others =>
      rw [objectOutcome, if_neg (unnamed first List.mem_cons_self)] at made
      obtain ⟨members, madeThem, rfl⟩ := Option.map_eq_some_iff.mp made
      refine ⟨members, rfl, fun m member => ?_⟩
      obtain ⟨w, isMember, madeIt⟩ := exists_of_mem_mapM madeThem member
      obtain ⟨name, said, valued⟩ := Option.bind_eq_some_iff.mp madeIt
      obtain ⟨x, makes, rfl⟩ := Option.map_eq_some_iff.mp valued
      exact ⟨w, isMember, said, makes⟩

theorem isKept_of_scalar (isScalar : IsScalar text)
    (made : (valueWith inner depth).outcome text = some value) : IsKept depth text value := by
  have plain : ∀ {scalar : Json}, scalar.IsPlain → scalar.nesting = 0 → scalar.render = text →
      IsKept depth text value := by
    rintro scalar isPlain flat rfl
    have shallow : scalar.nesting ≤ depth := flat ▸ Nat.zero_le depth
    cases (isPlain.reads inner shallow).outcome_eq.symm.trans made
    exact ⟨shallow, fun _ => isPlain, fun isNull => by rw [isNull]; rfl⟩
  cases isScalar with
  | null => exact plain .null rfl rfl
  | true => exact plain (.bool true) rfl rfl
  | false => exact plain (.bool false) rfl rfl
  | number isNumber =>
      rw [isNumber.outcome_eq] at made
      obtain ⟨n, _, rfl⟩ := Option.map_eq_some_iff.mp made
      refine ⟨Nat.zero_le _, fun integers => ?_, nofun⟩
      obtain ⟨i, fits, rfl⟩ := integers n (List.mem_singleton_self n)
      exact .integer i fits
  | string isString =>
      rw [isString.outcome_eq] at made
      obtain ⟨said, _, rfl⟩ := Option.map_eq_some_iff.mp made
      exact ⟨Nat.zero_le _, fun _ => .string said, nofun⟩

theorem valueWith_regular (isText : IsText .value text) : (valueWith inner depth).Regular text :=
  (isText.alike.valueWith inner depth).regular

/-- Whatever is read of a text is kept as it would be written, if no object of the text stands for a
value in a string. -/
theorem isKept_of_outcome (isText : IsText .value text) (unnamed : ¬ HasMember embeddedName text)
    (made : (valueWith inner depth).outcome text = some value) : IsKept depth text value := by
  -- by how deep the reader goes, a case for each form of value
  induction depth using Nat.strongRecOn generalizing text value with
  | ind depth inductionHypothesis =>
      cases isText with
      | null => exact isKept_of_scalar .null made
      | true => exact isKept_of_scalar .true made
      | false => exact isKept_of_scalar .false made
      | number isNumber => exact isKept_of_scalar (.number isNumber) made
      | string isString => exact isKept_of_scalar (.string isString) made
      | array listed areTexts =>
          cases depth with
          | zero => cases (valueWith_zero (Or.inl rfl)).1.symm.trans made
          | succ depth =>
              rw [(valueWith_array listed (fun text member => (areTexts text member).isValueText)
                fun text member => valueWith_regular (areTexts text member)).1] at made
              obtain ⟨items, madeThem, rfl⟩ := Option.map_eq_some_iff.mp made
              refine isKept_array fun x member => ?_
              obtain ⟨part, isElement, makes⟩ := exists_of_mem_mapM madeThem member
              refine ⟨part, inductionHypothesis depth (Nat.lt_succ_self depth)
                (areTexts part isElement) (fun has => unnamed ?_) makes⟩
              exact .within (.element listed areTexts isElement) has
      | object listed areTexts =>
          obtain ⟨ms, lists, areMembers⟩ := exists_lists listed areTexts
          cases depth with
          | zero => cases (valueWith_zero (Or.inr rfl)).1.symm.trans made
          | succ depth =>
              rw [(valueWith_object lists (fun m member => (areMembers m member).1)
                fun m member _ => valueWith_regular (areMembers m member).2).1] at made
              have names : ∀ m ∈ ms, saying? m.1 ≠ some embeddedName := fun m member named =>
                unnamed (.here lists areMembers member named)
              obtain ⟨members, rfl, areMade⟩ := exists_members_of_objectOutcome names made
              obtain ⟨kept, object, fromThem, sorted⟩ := exists_sorted_ofMembers members
              rw [object]
              refine isKept_object sorted (fun m member => ?_) fun m member => ?_
              all_goals obtain ⟨w, isMember, said, makes⟩ := areMade m (fromThem member)
              · exact fun same => names w isMember (said.trans (congrArg some same))
              · refine ⟨w.2, inductionHypothesis depth (Nat.lt_succ_self depth)
                  (areMembers w isMember).2 (fun has => unnamed ?_) makes⟩
                exact .within (.value lists areMembers isMember) has

/-- Where null counts as absent, what is there is no null. -/
theorem Shape.exists_of_optional {α : Type} {shape : Shape α} (faithful : shape.Faithful) {x : α}
    (isText : IsText .value text)
    (made : ((optional shape).text depth).outcome text = some (some x)) :
    text ≠ bytesOf "null" ∧ (shape.text depth).outcome text = some x := by
  obtain ⟨rfl, _⟩ | ⟨starts, _⟩ := null_or_of_alike isText.alike
  · cases (optional_null depth).1.symm.trans made
  · rw [(optional_of_regular starts (faithful.regular isText depth)).1] at made
    obtain ⟨y, makes, same⟩ := Option.map_eq_some_iff.mp made
    cases same
    refine ⟨?_, makes⟩
    rintro rfl
    obtain ⟨b, tail, same, _, notNull⟩ := starts
    exact notNull (List.cons.inj same).1.symm

end Reading

/-! ### What records are made of -/

namespace Record

variable {δ α : Type} {record : Record δ α} {depth : Nat} {P : δ → Prop}

theorem foldlM_keeps {β : Type} {f : δ → β → Option δ} {xs : List β} {draft filled : δ}
    (holds : P draft)
    (step : ∀ x ∈ xs, ∀ draft filled, P draft → f draft x = some filled → P filled)
    (made : xs.foldlM f draft = some filled) : P filled := by
  induction xs generalizing draft with
  | nil =>
      cases made
      exact holds
  | cons x xs inductionHypothesis =>
      obtain ⟨first, others⟩ := List.forall_mem_cons.mp step
      obtain ⟨next, taken, made⟩ := Option.bind_eq_some_iff.mp made
      exact inductionHypothesis (first draft next holds taken) others made

theorem takeRow_keeps {fields : List (Field δ)} {texts : List Bytes} {draft filled : δ}
    (holds : P draft)
    (step : ∀ field ∈ fields, ∀ text ∈ texts, ∀ draft filled, P draft →
      (field.text depth draft).outcome text = some filled → P filled)
    (made : takeRow depth fields texts draft = some filled) : P filled := by
  induction fields generalizing texts draft with
  | nil =>
      cases texts with
      | nil =>
          cases made
          exact holds
      | cons text texts => cases made
  | cons field fields inductionHypothesis =>
      cases texts with
      | nil =>
          cases made
          exact holds
      | cons text texts =>
          obtain ⟨next, taken, made⟩ := Option.bind_eq_some_iff.mp made
          refine inductionHypothesis ?_ (fun field isField text isText => ?_) made
          · exact step field List.mem_cons_self text List.mem_cons_self draft next holds taken
          · exact step field (List.mem_cons_of_mem _ isField) text (List.mem_cons_of_mem _ isText)

/-- A record that is read of a text is finished from a draft into which fields were read of parts of
the text. -/
theorem Orderly.exists_draft (orderly : record.Orderly) {text : Bytes} {x : α}
    (isText : IsText .value text) (made : (record.shape.text (depth + 1)).outcome text = some x)
    (blank : P record.blank)
    (step : ∀ field ∈ record.fields, ∀ part, IsPart part text → ∀ draft filled, P draft →
      (field.text depth draft).outcome part = some filled → P filled) :
    ∃ draft, P draft ∧ record.finish draft = .ok x := by
  have finishes : ∀ {filled : Option δ}, (∀ draft, filled = some draft → P draft) →
      (filled.bind fun draft => (record.finish draft).toOption) = some x →
      ∃ draft, P draft ∧ record.finish draft = .ok x := by
    intro filled holds made
    obtain ⟨draft, rfl, finished⟩ := Option.bind_eq_some_iff.mp made
    exact ⟨draft, holds draft rfl, toOption_eq_some.mp finished⟩
  cases isText with
  | null => cases (shape_scalar .null).symm.trans made
  | true => cases (shape_scalar .true).symm.trans made
  | false => cases (shape_scalar .false).symm.trans made
  | number isNumber => cases (shape_scalar (.number isNumber)).symm.trans made
  | string isString => cases (shape_scalar (.string isString)).symm.trans made
  | array listed areTexts =>
      rw [(orderly.shape_array listed areTexts).1] at made
      refine finishes (fun filled taken => ?_) made
      refine takeRow_keeps blank (fun field isField text isElement => ?_) taken
      exact step field isField text (.element listed areTexts isElement)
  | object listed areTexts =>
      obtain ⟨ms, lists, areMembers⟩ := exists_lists listed areTexts
      rw [(orderly.shape_object lists areMembers).1] at made
      refine finishes (fun filled taken => ?_) made
      refine foldlM_keeps blank (fun m isMember draft filled holds takes => ?_) taken
      obtain ⟨name, _, takes⟩ := Option.bind_eq_some_iff.mp takes
      unfold takeNamed at takes
      split at takes
      · cases takes
        exact holds
      · next field found =>
          unfold Field.put at takes
          split at takes
          · cases takes
          · exact step field (mem_of_field? found).1 m.2 (.value lists areMembers isMember) draft
              filled holds takes

end Record

end Json

end RpcTransport
