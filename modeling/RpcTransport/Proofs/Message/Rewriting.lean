import RpcTransport.Proofs.Json.Canonical
import RpcTransport.Proofs.Json.Elements
import RpcTransport.Proofs.Message.Members

/-!
Messages that are written again. A message that was read, with integers for its numbers, is read
from its own text as it was but for its bytes: a null result stays null, and what was absent stays
absent, within its error, too.
-/

namespace RpcTransport

namespace Json

/-- A value that is written where null counts as absent, and read as it was. -/
structure IsThere (depth : Nat) (value : Json) : Prop where
  notNull : value ≠ .null
  plain : value.IsPlain
  shallow : value.nesting ≤ depth

theorem IsThere.optional_outcome {depth : Nat} {value : Json} (isThere : value.IsThere depth) :
    ((Shape.optional .any).text depth).outcome value.render = some (some value) := by
  obtain ⟨notNull, plain, shallow⟩ := isThere
  have read := Shape.any_outcome plain shallow
  refine Shape.optional_outcome .any plain.isText (fun isNull => notNull ?_) read
  have null := @Shape.any_outcome depth _ .null (Nat.zero_le _)
  rw [isNull] at read
  exact Option.some.inj (read.symm.trans null)

/-- A value that is there, if its numbers are integers. -/
def WasThere (depth : Nat) (value : Json) : Prop :=
  (∀ n ∈ value.numbers, n.IsInteger) → value.IsThere depth

section Reading

variable {depth : Nat} {part : Bytes} {value : Json}

theorem isKept_of_any (isText : IsText .value part) (unnamed : ¬ HasMember embeddedName part)
    (made : (Shape.any.text depth).outcome part = some value) : IsKept depth part value := by
  replace made : (readValue depth).outcome part = some value := made
  rw [readValue_eq] at made
  exact isKept_of_outcome isText unnamed made

theorem wasThere_of_optional (isText : IsText .value part)
    (unnamed : ¬ HasMember embeddedName part)
    (made : ((Shape.optional .any).text depth).outcome part = some (some value)) :
    value.WasThere depth := by
  obtain ⟨notNull, read⟩ := Shape.exists_of_optional .any isText made
  have kept := isKept_of_any isText unnamed read
  exact fun integers => ⟨fun isNull => notNull (kept.null isNull), kept.plain integers,
    kept.shallow⟩

end Reading

end Json

open Json

/-! ### Errors -/

namespace RpcError

variable {error : RpcError} {depth : Nat}

theorem isText_members (isThere : ∀ data ∈ error.data, data.IsThere depth) :
    ∀ m ∈ error.members, IsText .value m.2 := by
  intro m member
  simp only [members, List.cons_append, List.nil_append, List.mem_cons, Option.mem_toList,
    Option.map_eq_some_iff] at member
  obtain rfl | rfl | ⟨data, isData, rfl⟩ := member
  · exact isText_decimalOfInt (fits64_toInt error.code)
  · exact isText_render error.message
  · exact (isThere data isData).plain.isText

theorem sublist_members (error : RpcError) :
    (error.members.map Prod.fst).Sublist (record.fields.map Field.name) := by
  rw [members, List.map_append]
  exact (List.Sublist.refl ["code", "message"]).append (sublist_optional "data" _ _)

/-- An error whose data is plain is read as it was written. -/
theorem outcome_render (isThere : ∀ data ∈ error.data, data.IsThere depth) :
    (shape.text (depth + 1)).outcome error.render = some error := by
  have once := count_le_one_of_sublist error.sublist_members record_orderly.distinct
  refine (record_orderly.outcome_eq (isObjectOf_braced (isText_members isThere))
    fun field _ => once field.name).trans ?_
  have code : Record.found depth error.members "code" .int64 = some (some error.code) :=
    Record.found_of_outcome rfl (Shape.int64_outcome error.code)
  have message : Record.found depth error.members "message" .string = some (some error.message) :=
    Record.found_of_outcome rfl (Shape.string_outcome (render_quoted error.message).1
      (render_quoted error.message).2)
  have holds : error.members.lookup "data" = error.data.map Json.render :=
    (lookup_optional "data" Json.render error.data "data").trans (if_pos rfl)
  obtain ⟨data, isFound, same⟩ := Option.map_eq_some_iff.mp
    (Record.found_of_optional (fun data isData => (isThere data isData).optional_outcome) holds)
  have filled : record.fields.foldlM (Record.putMember depth error.members) record.blank =
      some ⟨some error.code, some error.message, data⟩ := by
    refine (Record.foldlM_putMember_of_found code (Draft.mk · none none)
      rfl rfl fun _ => rfl).trans ?_
    refine (Record.foldlM_putMember_of_found message (Draft.mk (some error.code) · none)
      rfl rfl fun _ => rfl).trans ?_
    exact Record.foldlM_putMember_of_found isFound
      (Draft.mk (some error.code) (some error.message) ·) rfl rfl fun _ => rfl
  rw [filled]
  exact congrArg (fun data => some (RpcError.mk error.code error.message data)) same

/-- The data of an error that was read is there, if its numbers are integers. -/
theorem wasThere_of_outcome {text : Bytes} (isText : IsText .value text)
    (unnamed : ¬ HasMember embeddedName text)
    (made : (shape.text (depth + 1)).outcome text = some error) :
    ∀ data ∈ error.data, data.WasThere depth := by
  have step : ∀ field ∈ record.fields, ∀ part, IsPart part text → ∀ draft filled : Draft,
      (∀ data, draft.data = some (some data) → data.WasThere depth) →
      (field.text depth draft).outcome part = some filled →
      ∀ data, filled.data = some (some data) → data.WasThere depth := by
    intro field isField part isPart draft filled wasThere read
    simp only [record, List.mem_cons, List.not_mem_nil, or_false] at isField
    obtain rfl | rfl | rfl := isField
    all_goals
      rw [Field.outcome_of] at read
      obtain ⟨x, makes, rfl⟩ := Option.map_eq_some_iff.mp read
    · exact wasThere
    · exact wasThere
    · rintro data isData
      obtain rfl : x = some data := Option.some.inj isData
      exact wasThere_of_optional isPart.isText (fun has => unnamed (.within isPart has)) makes
  have blank : ∀ data, record.blank.data = some (some data) → data.WasThere depth := by
    intro data isData
    cases isData
  obtain ⟨⟨_ | code, _ | message, data⟩, wasThere, finished⟩ :=
    record_orderly.exists_draft isText made blank step
  all_goals cases finished
  intro value isData
  exact wasThere value (Option.join_eq_some_iff.mp isData)

end RpcError

/-! ### Messages -/

namespace Envelope

variable {e : Envelope} {text : Bytes}

/-- The numbers that a message keeps, besides the code of an error. -/
def numbers (e : Envelope) : List Number :=
  [e.id, e.params, e.result, e.error.bind (·.data)].flatMap fun value =>
    value.toList.flatMap Json.numbers

/-- A message that is read as it was written. -/
structure IsPlain (e : Envelope) : Prop where
  id : ∀ x ∈ e.id, x.IsThere (depthLimit - 1)
  params : ∀ x ∈ e.params, x.IsThere (depthLimit - 1)
  result : ∀ x ∈ e.result, x.IsPlain ∧ x.nesting ≤ depthLimit - 1
  error : ∀ error ∈ e.error, ∀ data ∈ error.data, data.IsThere (depthLimit - 2)

theorem IsPlain.isText_members (plain : e.IsPlain) : ∀ m ∈ e.members, IsText .value m.2 := by
  intro m member
  simp only [members, List.mem_append, List.mem_singleton, Option.mem_toList,
    Option.map_eq_some_iff] at member
  obtain ((((rfl | ⟨id, isId, rfl⟩) | ⟨method, _, rfl⟩) | ⟨params, areParams, rfl⟩) |
    ⟨result, isResult, rfl⟩) | ⟨error, isError, rfl⟩ := member
  · exact isText_render e.jsonrpc
  · exact (plain.id id isId).plain.isText
  · exact isText_render method
  · exact (plain.params params areParams).plain.isText
  · exact (plain.result result isResult).1.isText
  · exact isText_braced (RpcError.isText_members (plain.error error isError))

theorem sublist_members (e : Envelope) : (e.members.map Prod.fst).Sublist memberNames := by
  simp only [members, List.map_append]
  exact ((((List.Sublist.refl ["jsonrpc"]).append (sublist_optional "id" _ _)).append
    (sublist_optional "method" _ _)).append (sublist_optional "params" _ _)).append
    (sublist_optional "result" _ _) |>.append (sublist_optional "error" _ _)

/-- A message whose values are plain is read as it was written. -/
theorem IsPlain.decode_render (plain : e.IsPlain) :
    decode e.render = .ok { e with raw := e.render } := by
  have isObject : IsObjectOf e.members e.render := isObjectOf_braced plain.isText_members
  have once : AtMostOnce e.members := fun name _ =>
    count_le_one_of_sublist e.sublist_members (by decide) name
  have holds : e.members.lookup "jsonrpc" = some (Quoted.render e.jsonrpc) ∧
      e.members.lookup "id" = e.id.map Json.render ∧
      e.members.lookup "method" = e.method.map Quoted.render ∧
      e.members.lookup "params" = e.params.map Json.render ∧
      e.members.lookup "result" = e.result.map Json.render ∧
      e.members.lookup "error" = e.error.map RpcError.render := by
    simp only [members, List.lookup_append, lookup_optional]
    refine ⟨?_, ?_, ?_, ?_, ?_, ?_⟩
    all_goals simp
    all_goals rfl
  obtain ⟨holdsVersion, holdsId, holdsMethod, holdsParams, holdsResult, holdsError⟩ := holds
  have string : ∀ s : String,
      (Shape.string.text (depthLimit - 1)).outcome (Quoted.render s) = some s := fun s =>
    Shape.string_outcome (render_quoted s).1 (render_quoted s).2
  have jsonrpc : found e.members "jsonrpc" .string = some (some e.jsonrpc) :=
    Record.found_of_outcome holdsVersion (string e.jsonrpc)
  have id : present e.members "id" .any = some e.id :=
    Record.found_of_optional (fun x isId => (plain.id x isId).optional_outcome) holdsId
  have method : present e.members "method" .string = some e.method :=
    Record.found_of_optional (fun x _ => Shape.optional_outcome .string (isText_render x)
      (fun isNull => absurd (List.cons.inj isNull).1 (by decide)) (string x)) holdsMethod
  have params : present e.members "params" .any = some e.params :=
    Record.found_of_optional (fun x areParams => (plain.params x areParams).optional_outcome)
      holdsParams
  have result : found e.members "result" .any = some (e.result.map fun x => x) :=
    Record.found_of_written (fun x isResult => Shape.any_outcome (plain.result x isResult).1
      (plain.result x isResult).2) holdsResult
  have error : present e.members "error" RpcError.shape = some e.error := by
    refine Record.found_of_optional (fun x isError => ?_) holdsError
    have isThere := plain.error x isError
    exact Shape.optional_outcome RpcError.record_orderly.shape_faithful
      (isText_braced (RpcError.isText_members isThere))
      (fun isNull => absurd (List.cons.inj isNull).1 (by decide)) (RpcError.outcome_render isThere)
  apply decode_of_toOption
  rw [decode_toOption isObject once, frame, jsonrpc, id, method, params, result, error,
    Option.map_id']
  rfl

/-- What can be told of the draft of a message that was read. -/
structure Draft.WasRead (draft : Draft) : Prop where
  id : ∀ x, draft.id = some (some x) → x.WasThere (depthLimit - 1)
  params : ∀ x, draft.params = some (some x) → x.WasThere (depthLimit - 1)
  result : ∀ x, draft.result = some x → ∃ part, IsKept (depthLimit - 1) part x
  error : ∀ error, draft.error = some (some error) →
    ∀ data ∈ error.data, data.WasThere (depthLimit - 2)

theorem wasRead_of_field (unnamed : ¬ HasMember embeddedName text) :
    ∀ field ∈ record.fields, ∀ part, IsPart part text → ∀ draft filled : Draft, draft.WasRead →
      (field.text (depthLimit - 1) draft).outcome part = some filled → filled.WasRead := by
  intro field isField part isPart draft filled wasRead read
  have unnamedPart : ¬ HasMember embeddedName part := fun has => unnamed (.within isPart has)
  simp only [record, List.mem_cons, List.not_mem_nil, or_false] at isField
  obtain rfl | rfl | rfl | rfl | rfl | rfl := isField
  all_goals
    rw [Field.outcome_of] at read
    obtain ⟨x, makes, rfl⟩ := Option.map_eq_some_iff.mp read
  · exact { wasRead with }
  · refine { wasRead with id := fun value isId => ?_ }
    obtain rfl : x = some value := Option.some.inj isId
    exact wasThere_of_optional isPart.isText unnamedPart makes
  · exact { wasRead with }
  · refine { wasRead with params := fun value areParams => ?_ }
    obtain rfl : x = some value := Option.some.inj areParams
    exact wasThere_of_optional isPart.isText unnamedPart makes
  · refine { wasRead with result := fun value isResult => ?_ }
    obtain rfl : x = value := Option.some.inj isResult
    exact ⟨part, isKept_of_any isPart.isText unnamedPart makes⟩
  · refine { wasRead with error := fun error isError => ?_ }
    obtain rfl : x = some error := Option.some.inj isError
    obtain ⟨_, makes⟩ :=
      Shape.exists_of_optional RpcError.record_orderly.shape_faithful isPart.isText makes
    exact RpcError.wasThere_of_outcome isPart.isText unnamedPart makes

/-- A message that was read is read from its own text as it was, if it keeps no numbers but integers
and no object in its text stands for a value in a string. -/
theorem isPlain_of_decode (read : decode text = .ok e) (integers : ∀ n ∈ e.numbers, n.IsInteger)
    (unnamed : ¬ HoldsMember embeddedName text) : e.IsPlain := by
  obtain ⟨x, parsed, done⟩ := bind_eq_ok.mp read
  replace parsed : shape.parse text = .ok x := mapError_eq_ok.mp parsed
  obtain ⟨rest, skims, blank⟩ := skims_of_decode read
  obtain ⟨value, isValue, padding, _⟩ :=
    exists_padded_of_skims skims (List.dropWhile_eq_nil_iff.mp blank)
  have isText : IsText .value value := isText_iff.mpr isValue
  have regular : (shape.text depthLimit).Regular value :=
    record_orderly.shape_faithful.regular isText depthLimit
  have made : (shape.text depthLimit).outcome value = some x := by
    rw [← whole_of_padded regular padding]
    exact toOption_eq_some.mpr (mapError_eq_ok.mp parsed)
  have unnamedValue : ¬ HasMember embeddedName value := fun has =>
    unnamed ⟨value, padding, isText, has⟩
  obtain ⟨draft, wasRead, finished⟩ := @Record.Orderly.exists_draft _ _ _ (depthLimit - 1)
    Draft.WasRead record_orderly _ _ isText made ⟨nofun, nofun, nofun, nofun⟩
    (wasRead_of_field unnamedValue)
  cases finished
  cases done
  -- a value of the message keeps no other numbers than the message
  have areIntegers : ∀ value ∈ [draft.id.join, draft.params.join, draft.result,
      draft.error.join.bind (·.data)], ∀ x ∈ value, ∀ n ∈ x.numbers, n.IsInteger := by
    intro value isOne x isValue n isNumber
    refine integers n (List.mem_flatMap.mpr ⟨value, isOne, List.mem_flatMap.mpr ⟨x, ?_, isNumber⟩⟩)
    exact Option.mem_toList.mpr isValue
  simp only [List.forall_mem_cons] at areIntegers
  obtain ⟨id, params, result, error, _⟩ := areIntegers
  constructor
  case id =>
    intro x isId
    exact wasRead.id x (Option.join_eq_some_iff.mp isId) (id x isId)
  case params =>
    intro x areParams
    exact wasRead.params x (Option.join_eq_some_iff.mp areParams) (params x areParams)
  case result =>
    intro x isResult
    obtain ⟨_, kept⟩ := wasRead.result x isResult
    exact ⟨kept.plain (result x isResult), kept.shallow⟩
  case error =>
    intro found isError data isData
    refine wasRead.error found (Option.join_eq_some_iff.mp isError) data isData (error data ?_)
    exact Option.bind_eq_some_iff.mpr ⟨found, isError, isData⟩

/-- A message that was read is written and read again without loss. If its numbers are integers of
64 bits, and no object of its text has a member of the name that stands for a value in a string, it
is the same message but for its bytes, and it is written as before. -/
theorem survives_rewriting (read : decode text = .ok e) (integers : ∀ n ∈ e.numbers, n.IsInteger)
    (unnamed : ¬ HoldsMember embeddedName text) :
    ∃ again : Envelope, decode e.render = .ok again ∧ again = { e with raw := e.render } ∧
      again.kind = e.kind ∧ again.validId = e.validId ∧ again.notification = e.notification ∧
      again.intoResult = e.intoResult ∧ again.render = e.render :=
  ⟨_, (isPlain_of_decode read integers unnamed).decode_render, rfl, rfl, rfl, rfl, rfl, rfl⟩

/-- A null result stays null, and is not lost with what is absent. -/
theorem survives_rewriting_of_null_result :
    let text := bytesOf "\x7b\"id\":1,\"result\":null\x7d"
    let e : Envelope :=
      ⟨"", some (.number (.integer 1 (by decide))), none, none, some .null, none, text⟩
    decode text = .ok e ∧ (∀ n ∈ e.numbers, n.IsInteger) ∧ ¬ HoldsMember embeddedName text ∧
      ∃ again : Envelope, decode e.render = .ok again ∧ again = { e with raw := e.render } ∧
        again.kind = e.kind ∧ again.validId = e.validId ∧ again.notification = e.notification ∧
        again.intoResult = e.intoResult ∧ again.render = e.render := by
  intro text e
  have read : decode text = .ok e := rfl
  have integers : ∀ n ∈ e.numbers, n.IsInteger := by
    intro n isNumber
    obtain rfl := List.mem_singleton.mp isNumber
    exact ⟨1, by decide, rfl⟩
  have unnamed : ¬ HoldsMember embeddedName text := by
    rintro ⟨value, ⟨before, after, _, _, padded⟩, _, has⟩
    -- the name is longer than the text
    have short : text.length < (bytesOf embeddedName).length := by decide
    have long := has.length_le
    rw [padded] at short
    simp only [List.length_append] at short
    omega
  exact ⟨read, integers, unnamed, survives_rewriting read integers unnamed⟩

end Envelope

end RpcTransport
