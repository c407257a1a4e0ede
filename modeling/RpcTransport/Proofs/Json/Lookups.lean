import Mathlib.Data.List.Nodup
import RpcTransport.Proofs.Json.Drafts

/-!
Fields that are looked up among members. Where every field's name occurs at most once, what a record
makes of an object depends on nothing but what the members of those names hold: neither on the order
of the members nor on members of other names.
-/

namespace RpcTransport.Json

/-- A member is written as these texts of its name and its value. -/
def Writes (written : Bytes × Bytes) (m : String × Bytes) : Prop :=
  saying? written.1 = some m.1 ∧ written.2 = m.2

/-- The text of an object with these members, in this order, each given by its name and the text of
its value; there may be blanks around everything. -/
def IsObjectOf (members : List (String × Bytes)) (text : Bytes) : Prop :=
  ∃ written inner, Lists written inner ∧
    Padded (Ascii.openBrace :: (inner ++ [Ascii.closeBrace])) text ∧
    (∀ w ∈ written, IsString w.1 ∧ IsText .value w.2) ∧ List.Forall₂ Writes written members

theorem IsObjectOf.padded {members : List (String × Bytes)} {text before after : Bytes}
    (isObject : IsObjectOf members text) (blankBefore : Blank before) (blankAfter : Blank after) :
    IsObjectOf members (before ++ text ++ after) := by
  obtain ⟨written, inner, lists, ⟨first, last, blankFirst, blankLast, rfl⟩, areMembers, writes⟩ :=
    isObject
  refine ⟨written, inner, lists, ⟨before ++ first, last ++ after, ?_, ?_, ?_⟩, areMembers, writes⟩
  · exact List.forall_mem_append.mpr ⟨blankBefore, blankFirst⟩
  · exact List.forall_mem_append.mpr ⟨blankLast, blankAfter⟩
  · simp only [List.append_assoc]

theorem listed_commaSeparated : ∀ texts : List Bytes, Listed texts (commaSeparated texts)
  | [] => .empty nofun
  | [text] => .last ⟨[], [], nofun, nofun, (List.append_nil text).symm⟩
  | text :: next :: texts =>
    .more ⟨[], [], nofun, nofun, (List.append_nil text).symm⟩
      (listed_commaSeparated (next :: texts))

/-- What is written between braces lists these members. -/
theorem lists_commaSeparated (members : List (String × Bytes)) :
    Lists (members.map fun m => (Quoted.render m.1, m.2))
      (commaSeparated (members.map fun m => renderMember m.1 m.2)) := by
  refine ⟨_, listed_commaSeparated _, ?_⟩
  rw [List.forall₂_map_left_iff, List.forall₂_map_right_iff]
  exact List.forall₂_same.mpr fun m _ => ⟨[], [], nofun, nofun, rfl⟩

section Braced

variable {members : List (String × Bytes)}

theorem areMembers_of_values (values : ∀ m ∈ members, IsText .value m.2) :
    ∀ w ∈ members.map fun m => (Quoted.render m.1, m.2), IsString w.1 ∧ IsText .value w.2 :=
  List.forall_mem_map.mpr fun m member => ⟨(render_quoted m.1).1, values m member⟩

theorem isObjectOf_braced (values : ∀ m ∈ members, IsText .value m.2) :
    IsObjectOf members (braced members) := by
  refine ⟨_, _, lists_commaSeparated members, ⟨[], [], nofun, nofun, (List.append_nil _).symm⟩,
    areMembers_of_values values, ?_⟩
  rw [List.forall₂_map_left_iff]
  exact List.forall₂_same.mpr fun m _ => ⟨(render_quoted m.1).2, rfl⟩

/-- The text of members between braces is a text. -/
theorem isText_braced (values : ∀ m ∈ members, IsText .value m.2) :
    IsText .value (braced members) :=
  (lists_commaSeparated members).isText (areMembers_of_values values)

end Braced

theorem mapError_toOption {ε ζ α : Type} (x : Except ε α) (f : ε → ζ) :
    (x.mapError f).toOption = x.toOption := by
  cases x <;> rfl

theorem stops_of_blanks {after : Bytes} (blank : Blank after) : Numeral.Stops after := by
  cases after with
  | nil => exact Reader.stops_nil
  | cons b after => exact stops_blank (blank b List.mem_cons_self) after

section Padded

variable {α : Type} {read : Reader α} {text padded : Bytes}

/-- A text with blanks around it holds what the reader makes of the text. -/
theorem whole_of_padded (regular : read.Regular text) (padding : Padded text padded) :
    (whole read padded).toOption = read.outcome text := by
  obtain ⟨before, after, blankBefore, blankAfter, rfl⟩ := padding
  have ended : skipBlanks after = [] := by
    have skipped := @skipBlanks_append_of_blank after blankAfter []
    rwa [List.append_nil] at skipped
  rw [List.append_assoc, whole, toOption_bind,
    regular before after blankBefore (stops_of_blanks blankAfter)]
  cases read.outcome text with
  | none => rfl
  | some x =>
      simp only [Option.map_some, Option.bind_some, ended]
      rfl

theorem outcome_of_padded (regular : read.Regular text) (padding : Padded text padded) :
    read.outcome padded = read.outcome text := by
  obtain ⟨before, after, blankBefore, blankAfter, rfl⟩ := padding
  rw [List.append_assoc, Reader.outcome,
    regular before after blankBefore (stops_of_blanks blankAfter)]
  cases read.outcome text <;> rfl

end Padded

namespace Record

variable {δ α β : Type} {record : Record δ α} {depth : Nat} {members others : List (String × Bytes)}

/-- Puts what the member of a field's name holds into a draft, if there is one. -/
def putMember (depth : Nat) (members : List (String × Bytes)) (draft : δ) (field : Field δ) :
    Option δ :=
  match members.lookup field.name with
  | none => some draft
  | some value => field.put depth value draft

theorem lookup_cons_of_ne {name : String} {m : String × Bytes} (different : name ≠ m.1) :
    (m :: members).lookup name = members.lookup name := by
  rw [List.lookup_cons, beq_eq_false_iff_ne.mpr different]

theorem lookup_eq_none_of_count {name : String} (never : (members.map Prod.fst).count name = 0) :
    members.lookup name = none := by
  rw [List.lookup_eq_none_iff]
  intro m member
  have other : name ≠ m.1 := by
    rintro rfl
    exact List.count_eq_zero.mp never (List.mem_map_of_mem member)
  simpa using other

/-- Members of other names make no difference to the fields that are looked up. -/
theorem foldlM_putMember_cons {fields : List (Field δ)} {m : String × Bytes}
    (different : ∀ field ∈ fields, field.name ≠ m.1) (draft : δ) :
    fields.foldlM (putMember depth (m :: members)) draft =
      fields.foldlM (putMember depth members) draft := by
  induction fields generalizing draft with
  | nil => rfl
  | cons field fields inductionHypothesis =>
      obtain ⟨isDifferent, areDifferent⟩ := List.forall_mem_cons.mp different
      simp only [List.foldlM_cons, putMember, lookup_cons_of_ne isDifferent,
        inductionHypothesis areDifferent]

/-- A field may be put before others that it commutes with, or after them. -/
theorem put_foldlM_putMember {field : Field δ} {fields : List (Field δ)}
    (commutes : ∀ other ∈ fields, field.Commutes other) (value : Bytes) (draft : δ) :
    (field.put depth value draft).bind (fields.foldlM (putMember depth members)) =
      (fields.foldlM (putMember depth members) draft).bind (field.put depth value) := by
  induction fields generalizing draft with
  | nil => simp
  | cons other fields inductionHypothesis =>
      obtain ⟨first, areOthers⟩ := List.forall_mem_cons.mp commutes
      have past : (field.put depth value draft).bind (putMember depth members · other) =
          (putMember depth members draft other).bind (field.put depth value) := by
        unfold putMember
        cases members.lookup other.name with
        | none => simp
        | some otherValue => exact first depth value otherValue draft
      simp only [List.foldlM_cons, Option.bind_eq_bind]
      rw [← Option.bind_assoc, past, Option.bind_assoc, Option.bind_assoc]
      congr 1
      funext filled
      exact inductionHypothesis areOthers filled

theorem foldlM_putMember_nil (fields : List (Field δ)) (draft : δ) :
    fields.foldlM (putMember depth []) draft = some draft := by
  induction fields with
  | nil => rfl
  | cons field fields inductionHypothesis => exact inductionHypothesis

/-- Before a field stand others that it commutes with, and its name is that of no other field. -/
theorem Orderly.exists_split (orderly : record.Orderly) {name : String} {field : Field δ}
    (found : record.field? name = some field) :
    ∃ before after, record.fields = before ++ field :: after ∧
      (∀ other ∈ before, field.Commutes other) ∧ ∀ other ∈ before ++ after, other.name ≠ name := by
  obtain ⟨isField, rfl⟩ := mem_of_field? found
  obtain ⟨before, after, split⟩ := List.append_of_mem isField
  have distinct := orderly.distinct
  rw [split, List.map_append, List.map_cons, List.nodup_middle, List.nodup_cons,
    ← List.map_append] at distinct
  have different : ∀ other ∈ before ++ after, other.name ≠ field.name := fun other member same =>
    distinct.1 (List.mem_map.mpr ⟨other, member, same⟩)
  refine ⟨before, after, split, fun other member => ?_, different⟩
  have isOther : other ∈ record.fields := split ▸ List.mem_append_left _ member
  exact orderly.commutes_of_name_ne isField isOther
    (different other (List.mem_append_left _ member)).symm

/-- Where each field's name occurs at most once, the fields may as well be looked up one by one. -/
theorem Orderly.foldlM_takeNamed (orderly : record.Orderly)
    (once : ∀ field ∈ record.fields, (members.map Prod.fst).count field.name ≤ 1) (draft : δ) :
    members.foldlM (record.takeNamed depth) draft =
      record.fields.foldlM (putMember depth members) draft := by
  induction members generalizing draft with
  | nil => exact (foldlM_putMember_nil record.fields draft).symm
  | cons m members inductionHypothesis =>
      have onceOthers : ∀ field ∈ record.fields, (members.map Prod.fst).count field.name ≤ 1 :=
        fun field isField => Nat.le_trans List.count_le_count_cons (once field isField)
      have others := inductionHypothesis onceOthers
      rw [List.foldlM_cons, takeNamed]
      cases found : record.field? m.1 with
      | none =>
          have different : ∀ field ∈ record.fields, field.name ≠ m.1 := by
            simpa using List.find?_eq_none.mp found
          rw [foldlM_putMember_cons different]
          exact others draft
      | some field =>
          obtain ⟨isField, named⟩ := mem_of_field? found
          obtain ⟨before, after, split, commutes, different⟩ := orderly.exists_split found
          obtain ⟨differentBefore, differentAfter⟩ := List.forall_mem_append.mp different
          have here : (m :: members).lookup field.name = some m.2 := by
            rw [named, List.lookup_cons, beq_self_eq_true]
          have gone : members.lookup field.name = none := by
            apply lookup_eq_none_of_count
            have atMostOnce := once field isField
            rw [List.map_cons, ← named, List.count_cons_self] at atMostOnce
            exact Nat.le_zero.mp (Nat.le_of_succ_le_succ atMostOnce)
          -- the member is looked up after the fields before its own, with which this one commutes
          have past := @put_foldlM_putMember δ depth members field before commutes m.2 draft
          simp only [split, List.foldlM_append, List.foldlM_cons, putMember, gone, here,
            Option.bind_eq_bind, Option.bind_some, others] at past ⊢
          rw [foldlM_putMember_cons differentBefore, ← Option.bind_assoc, past, Option.bind_assoc]
          congr 1
          funext filled
          congr 1
          funext filled
          exact (foldlM_putMember_cons differentAfter filled).symm

/-- Members may be taken by their names as by the texts of their names. -/
theorem foldlM_take_eq {written : List (Bytes × Bytes)}
    (writes : List.Forall₂ Writes written members) (draft : δ) :
    written.foldlM (record.take depth) draft = members.foldlM (record.takeNamed depth) draft := by
  induction writes generalizing draft with
  | nil => rfl
  | @cons w m _ _ isWritten _ inductionHypothesis =>
      obtain ⟨said, same⟩ := isWritten
      have first : record.take depth draft w = record.takeNamed depth draft m := by
        rw [take, said, Option.bind_some, same]
      rw [List.foldlM_cons, List.foldlM_cons, first]
      congr 1
      funext filled
      exact inductionHypothesis filled

/-- A record whose fields' names occur at most once is made of what its fields find. -/
theorem Orderly.exists_padded (orderly : record.Orderly) {text : Bytes}
    (isObject : IsObjectOf members text)
    (once : ∀ field ∈ record.fields, (members.map Prod.fst).count field.name ≤ 1) :
    ∃ value, Padded value text ∧ (record.shape.text (depth + 1)).Regular value ∧
      (record.shape.text (depth + 1)).outcome value =
        (record.fields.foldlM (putMember depth members) record.blank).bind
          fun draft => (record.finish draft).toOption := by
  obtain ⟨written, inner, lists, padding, areMembers, writes⟩ := isObject
  obtain ⟨outcome, regular⟩ := orderly.shape_object lists areMembers
  refine ⟨_, padding, regular, outcome.trans ?_⟩
  rw [objectOutcome, foldlM_take_eq writes, orderly.foldlM_takeNamed once]

theorem Orderly.parse_toOption (orderly : record.Orderly) {text : Bytes}
    (isObject : IsObjectOf members text)
    (once : ∀ field ∈ record.fields, (members.map Prod.fst).count field.name ≤ 1) :
    (record.shape.parse text).toOption =
      (record.fields.foldlM (putMember (depthLimit - 1) members) record.blank).bind
        fun draft => (record.finish draft).toOption := by
  obtain ⟨value, padding, regular, outcome⟩ :=
    @Orderly.exists_padded _ _ _ (depthLimit - 1) _ orderly _ isObject once
  rw [Shape.parse, mapError_toOption]
  exact (whole_of_padded regular padding).trans outcome

theorem Orderly.outcome_eq (orderly : record.Orderly) {text : Bytes}
    (isObject : IsObjectOf members text)
    (once : ∀ field ∈ record.fields, (members.map Prod.fst).count field.name ≤ 1) :
    (record.shape.text (depth + 1)).outcome text =
      (record.fields.foldlM (putMember depth members) record.blank).bind
        fun draft => (record.finish draft).toOption := by
  obtain ⟨value, padding, regular, outcome⟩ := orderly.exists_padded isObject once
  exact (outcome_of_padded regular padding).trans outcome

/-- What the member of a name holds: nothing is made of a value that is not of the shape. -/
def found (depth : Nat) (members : List (String × Bytes)) (name : String) (shape : Shape β) :
    Option (Option β) :=
  match members.lookup name with
  | none => some none
  | some value => ((shape.text depth).outcome value).map some

/-- A field is put as its name's member holds it, if the draft has it not yet; `put` says what
becomes of the draft. -/
theorem foldlM_putMember_of {name : String} {shape : Shape β} {get : δ → Option β}
    {set : δ → β → δ} {fields : List (Field δ)} {draft : δ} (put : Option β → δ)
    (unset : get draft = none) (keeps : put none = draft)
    (sets : ∀ x, put (some x) = set draft x) :
    (Field.of name shape get set :: fields).foldlM (putMember depth members) draft =
      (found depth members name shape).bind fun x =>
        fields.foldlM (putMember depth members) (put x) := by
  have named : (Field.of name shape get set).name = name := rfl
  rw [List.foldlM_cons, putMember, found, named]
  cases members.lookup name with
  | none =>
      rw [Option.bind_some, keeps]
      rfl
  | some value =>
      simp only [Field.put_of, unset, Option.isSome_none, Bool.false_eq_true, if_false]
      cases (shape.text depth).outcome value with
      | none => rfl
      | some x =>
          simp only [Option.map_some, Option.bind_eq_bind, Option.bind_some, sets]

/-- A field that finds something, or nothing, is put as it found it. -/
theorem foldlM_putMember_of_found {name : String} {shape : Shape β} {get : δ → Option β}
    {set : δ → β → δ} {fields : List (Field δ)} {draft : δ} {x : Option β}
    (isFound : found depth members name shape = some x) (put : Option β → δ)
    (unset : get draft = none) (keeps : put none = draft)
    (sets : ∀ y, put (some y) = set draft y) :
    (Field.of name shape get set :: fields).foldlM (putMember depth members) draft =
      fields.foldlM (putMember depth members) (put x) := by
  rw [foldlM_putMember_of put unset keeps sets, isFound, Option.bind_some]

end Record

end RpcTransport.Json
