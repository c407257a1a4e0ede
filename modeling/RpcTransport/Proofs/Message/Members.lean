import RpcTransport.Proofs.Json.Lookups
import RpcTransport.Proofs.Message.Results

/-!
What a message is read from. Its members of known names decide everything; their order, the blanks
between them and members of other names make no difference. An optional member that is null counts
as absent, but a null result is another outcome than none.
-/

namespace RpcTransport

open Json

theorem RpcError.record_orderly : RpcError.record.Orderly where
  faithful := by
    intro field member
    simp only [record, List.mem_cons, List.not_mem_nil, or_false] at member
    rcases member with rfl | rfl | rfl
    · exact .of .int64
    · exact .of .string
    · exact .of (.optional .any)
  commutes := by
    simp only [record, List.pairwise_cons, List.forall_mem_cons, List.not_mem_nil, false_implies,
      implies_true, and_true, List.Pairwise.nil]
    refine ⟨⟨?_, ?_⟩, ?_⟩
    all_goals exact .of (fun _ _ => rfl) (fun _ _ => rfl) (fun _ _ _ => rfl)
  distinct := by decide

namespace Envelope

theorem record_orderly : record.Orderly where
  faithful := by
    intro field member
    simp only [record, List.mem_cons, List.not_mem_nil, or_false] at member
    rcases member with rfl | rfl | rfl | rfl | rfl | rfl
    · exact .of .string
    · exact .of (.optional .any)
    · exact .of (.optional .string)
    · exact .of (.optional .any)
    · exact .of .any
    · exact .of (.optional RpcError.record_orderly.shape_faithful)
  commutes := by
    simp only [record, List.pairwise_cons, List.forall_mem_cons, List.not_mem_nil, false_implies,
      implies_true, and_true, List.Pairwise.nil]
    refine ⟨⟨?_, ?_, ?_, ?_, ?_⟩, ⟨?_, ?_, ?_, ?_⟩, ⟨?_, ?_, ?_⟩, ⟨?_, ?_⟩, ?_⟩
    all_goals exact .of (fun _ _ => rfl) (fun _ _ => rfl) (fun _ _ _ => rfl)
  distinct := by decide

/-- The names of a message's members. -/
def memberNames : List String :=
  ["jsonrpc", "id", "method", "params", "result", "error"]

/-- The names of the members for which null counts as absent. -/
def optionalNames : List String :=
  ["id", "method", "params", "error"]

/-- Each of a message's members is there at most once. -/
def AtMostOnce (members : List (String × Bytes)) : Prop :=
  ∀ name ∈ memberNames, (members.map Prod.fst).count name ≤ 1

/-- There is no member, or it is null. -/
def CountsAbsent (value : Option Bytes) : Prop :=
  value = none ∨ value = some (bytesOf "null")

/-- The members of a name hold the same value, or both count as absent, if they may. -/
def SameMember (members others : List (String × Bytes)) (name : String) : Prop :=
  Option.Rel Alike (members.lookup name) (others.lookup name) ∨
    (name ∈ optionalNames ∧ CountsAbsent (members.lookup name) ∧ CountsAbsent (others.lookup name))

/-- The member of a name holds what is not of its shape. -/
def Unread {α : Type} (members : List (String × Bytes)) (name : String) (shape : Shape α) : Prop :=
  ∃ value, members.lookup name = some value ∧ (shape.text (depthLimit - 1)).outcome value = none

/-- One of a message's members holds what is not read under its name. -/
def HoldsUnread (members : List (String × Bytes)) : Prop :=
  Unread members "jsonrpc" .string ∨ Unread members "id" (.optional .any) ∨
    Unread members "method" (.optional .string) ∨ Unread members "params" (.optional .any) ∨
    Unread members "result" .any ∨ Unread members "error" (.optional RpcError.shape)

/-- Neither text is a message. -/
def FailsOnBoth (text other : Bytes) : Prop :=
  (∃ failure, decode text = .error failure) ∧ ∃ failure, decode other = .error failure

section Lookups

variable {α : Type} {shape : Shape α} {members others : List (String × Bytes)} {name : String}
  {text other : Bytes}

/-- What the member of a name holds. -/
def found (members : List (String × Bytes)) (name : String) (shape : Shape α) :
    Option (Option α) :=
  Record.found (depthLimit - 1) members name shape

/-- What the member of a name holds, where null counts as absent. -/
def present (members : List (String × Bytes)) (name : String) (shape : Shape α) :
    Option (Option α) :=
  (found members name (.optional shape)).map Option.join

theorem found_eq_none : found members name shape = none ↔ Unread members name shape := by
  unfold found Record.found Unread
  cases members.lookup name with
  | none => simp
  | some value => simp

theorem found_congr (faithful : shape.Faithful)
    (same : Option.Rel Alike (members.lookup name) (others.lookup name)) :
    found members name shape = found others name shape := by
  unfold found Record.found
  generalize members.lookup name = value, others.lookup name = otherValue at same
  cases same with
  | none => rfl
  | some alike => exact congrArg (Option.map some) (faithful alike _).same

theorem present_of_countsAbsent (absent : CountsAbsent (members.lookup name)) :
    present members name shape = some none := by
  unfold present found Record.found
  rcases absent with isNone | isNull
  · rw [isNone]
    rfl
  · rw [isNull]
    rfl

theorem present_congr (faithful : shape.Faithful) (same : SameMember members others name) :
    present members name shape = present others name shape := by
  rcases same with alike | ⟨_, absent, absentToo⟩
  · rw [present, present, found_congr faithful.optional alike]
  · rw [present_of_countsAbsent absent, present_of_countsAbsent absentToo]

/-- The message of all members but the result. -/
def frame (members : List (String × Bytes)) : Option Envelope := do
  let jsonrpc ← found members "jsonrpc" .string
  let id ← present members "id" .any
  let method ← present members "method" .string
  let params ← present members "params" .any
  let error ← present members "error" RpcError.shape
  return ⟨jsonrpc.getD "", id, method, params, none, error, []⟩

theorem frame_congr
    (same : ∀ name ∈ memberNames, name ≠ "result" → SameMember members others name) :
    frame members = frame others := by
  have jsonrpc : found members "jsonrpc" .string = found others "jsonrpc" .string := by
    rcases same "jsonrpc" (by decide) (by decide) with alike | ⟨isOptional, _⟩
    · exact found_congr .string alike
    · exact absurd isOptional (by decide)
  have id := @present_congr _ .any _ _ _ .any (same "id" (by decide) (by decide))
  have method := @present_congr _ .string _ _ _ .string (same "method" (by decide) (by decide))
  have params := @present_congr _ .any _ _ _ .any (same "params" (by decide) (by decide))
  have error := @present_congr _ RpcError.shape _ _ _ RpcError.record_orderly.shape_faithful
    (same "error" (by decide) (by decide))
  rw [frame, frame, jsonrpc, id, method, params, error]

/-- The fields of a message find what their names' members hold. -/
theorem foldlM_putMember_eq (members : List (String × Bytes)) :
    record.fields.foldlM (Record.putMember (depthLimit - 1) members) record.blank =
      (found members "jsonrpc" .string).bind fun jsonrpc =>
        (found members "id" (.optional .any)).bind fun id =>
          (found members "method" (.optional .string)).bind fun method =>
            (found members "params" (.optional .any)).bind fun params =>
              (found members "result" .any).bind fun result =>
                (found members "error" (.optional RpcError.shape)).map fun error =>
                  ⟨jsonrpc, id, method, params, result, error⟩ := by
  refine (Record.foldlM_putMember_of (fun x => (⟨x, none, none, none, none, none⟩ : Draft))
    rfl rfl fun _ => rfl).trans (congrArg _ (funext fun jsonrpc => ?_))
  refine (Record.foldlM_putMember_of (fun x => (⟨jsonrpc, x, none, none, none, none⟩ : Draft))
    rfl rfl fun _ => rfl).trans (congrArg _ (funext fun id => ?_))
  refine (Record.foldlM_putMember_of (fun x => (⟨jsonrpc, id, x, none, none, none⟩ : Draft))
    rfl rfl fun _ => rfl).trans (congrArg _ (funext fun method => ?_))
  refine (Record.foldlM_putMember_of (fun x => (⟨jsonrpc, id, method, x, none, none⟩ : Draft))
    rfl rfl fun _ => rfl).trans (congrArg _ (funext fun params => ?_))
  refine (Record.foldlM_putMember_of (fun x => (⟨jsonrpc, id, method, params, x, none⟩ : Draft))
    rfl rfl fun _ => rfl).trans (congrArg _ (funext fun result => ?_))
  refine (Record.foldlM_putMember_of (fun x => (⟨jsonrpc, id, method, params, result, x⟩ : Draft))
    rfl rfl fun _ => rfl).trans ?_
  exact Option.map_eq_bind.symm

/-- A text is read as what is found under the names of a message's members. -/
theorem decode_toOption (isObject : IsObjectOf members text) (once : AtMostOnce members) :
    (decode text).toOption =
      (found members "result" .any).bind fun result =>
        (frame members).map fun e => { e with result := result, raw := text } := by
  have onceEach : ∀ field ∈ record.fields, (members.map Prod.fst).count field.name ≤ 1 :=
    fun field isField => once field.name (List.mem_map_of_mem isField)
  have parsed := record_orderly.parse_toOption isObject onceEach
  have decoded : (decode text).toOption =
      (record.shape.parse text).toOption.map fun e => { e with raw := text } := by
    rw [decode, toOption_bind, mapError_toOption, shape]
    cases record.shape.parse text <;> rfl
  rw [decoded, parsed, foldlM_putMember_eq]
  unfold frame present
  cases found members "jsonrpc" .string with
  | none => cases found members "result" .any <;> rfl
  | some jsonrpc =>
    cases found members "id" (.optional .any) with
    | none => cases found members "result" .any <;> rfl
    | some id =>
      cases found members "method" (.optional .string) with
      | none => cases found members "result" .any <;> rfl
      | some method =>
        cases found members "params" (.optional .any) with
        | none => cases found members "result" .any <;> rfl
        | some params =>
          cases found members "result" .any with
          | none => rfl
          | some result => cases found members "error" (.optional RpcError.shape) <;> rfl

/-- Where nothing is made of a text, it is no message. -/
theorem toOption_eq_none_iff :
    (decode text).toOption = none ↔ ∃ failure, decode text = .error failure := by
  cases decode text with
  | error failure => exact ⟨fun _ => ⟨failure, rfl⟩, fun _ => rfl⟩
  | ok e => exact ⟨nofun, nofun⟩

/-- A text is no message just if one of the members is not what is read under its name. -/
theorem decode_fails_iff (isObject : IsObjectOf members text) (once : AtMostOnce members) :
    (∃ failure, decode text = .error failure) ↔ HoldsUnread members := by
  rw [← toOption_eq_none_iff, decode_toOption isObject once, HoldsUnread]
  simp only [← found_eq_none, frame, present]
  cases found members "jsonrpc" .string with
  | none => cases found members "result" .any <;> simp
  | some jsonrpc =>
    cases found members "id" (.optional .any) with
    | none => cases found members "result" .any <;> simp
    | some id =>
      cases found members "method" (.optional .string) with
      | none => cases found members "result" .any <;> simp
      | some method =>
        cases found members "params" (.optional .any) with
        | none => cases found members "result" .any <;> simp
        | some params =>
          cases found members "result" .any with
          | none => simp
          | some result => cases found members "error" (.optional RpcError.shape) <;> simp

theorem decode_of_toOption {e : Envelope} (made : (decode text).toOption = some e) :
    decode text = .ok e := by
  cases read : decode text with
  | error failure =>
      rw [read] at made
      cases made
  | ok found =>
      rw [read] at made
      cases made
      rfl

/-- The error of a message is what its member holds. -/
theorem present_error_of_frame {e : Envelope} (made : frame members = some e) :
    present members "error" RpcError.shape = some e.error := by
  obtain ⟨jsonrpc, _, made⟩ := Option.bind_eq_some_iff.mp made
  obtain ⟨id, _, made⟩ := Option.bind_eq_some_iff.mp made
  obtain ⟨method, _, made⟩ := Option.bind_eq_some_iff.mp made
  obtain ⟨params, _, made⟩ := Option.bind_eq_some_iff.mp made
  obtain ⟨error, present, made⟩ := Option.bind_eq_some_iff.mp made
  cases made
  exact present

/-- Texts whose messages' members hold the same are both no message, or the same one. -/
theorem fails_or_same_frame (isObject : IsObjectOf members text) (isOther : IsObjectOf others other)
    (once : AtMostOnce members) (onceOther : AtMostOnce others)
    (same : ∀ name ∈ memberNames, name ≠ "result" → SameMember members others name)
    {result otherResult : Option (Option Json)} (holds : found members "result" .any = result)
    (otherHolds : found others "result" .any = otherResult)
    (both : result.isSome = otherResult.isSome) :
    FailsOnBoth text other ∨
      ∃ e x y, result = some x ∧ otherResult = some y ∧ frame members = some e ∧
        decode text = .ok { e with result := x, raw := text } ∧
        decode other = .ok { e with result := y, raw := other } := by
  have read := decode_toOption isObject once
  have readOther := decode_toOption isOther onceOther
  rw [holds] at read
  rw [otherHolds, ← frame_congr same] at readOther
  cases result with
  | none =>
      cases otherResult with
      | none =>
          exact Or.inl ⟨toOption_eq_none_iff.mp read, toOption_eq_none_iff.mp readOther⟩
      | some y => cases both
  | some x =>
      cases otherResult with
      | none => cases both
      | some y =>
          cases made : frame members with
          | none =>
              rw [made] at read readOther
              exact Or.inl ⟨toOption_eq_none_iff.mp read, toOption_eq_none_iff.mp readOther⟩
          | some e =>
              rw [made] at read readOther
              exact Or.inr ⟨e, x, y, rfl, rfl, rfl, decode_of_toOption read,
                decode_of_toOption readOther⟩

/-- Reading a message depends on nothing but its members. It fails just if one of them is not what
is read under its name. On two objects whose members hold the same, whatever else they hold and
however they are written, it fails on both or gives the same message but for its bytes. Null counts
as absent, except that a null result is another outcome than none where no error is reported. -/
theorem decode_of_same_members (isObject : IsObjectOf members text)
    (isOther : IsObjectOf others other) (once : AtMostOnce members) (onceOther : AtMostOnce others)
    (same : ∀ name ∈ memberNames, name ≠ "result" → SameMember members others name) :
    ((∃ failure, decode text = .error failure) ↔ HoldsUnread members) ∧
    (Option.Rel Alike (members.lookup "result") (others.lookup "result") →
      FailsOnBoth text other ∨
        ∃ e e' : Envelope, decode text = .ok e ∧ decode other = .ok e' ∧
          e' = { e with raw := e'.raw } ∧ e'.kind = e.kind ∧ e'.validId = e.validId ∧
          e'.notification = e.notification ∧ e'.intoResult = e.intoResult) ∧
    (members.lookup "result" = some (bytesOf "null") → others.lookup "result" = none →
      CountsAbsent (members.lookup "error") →
      FailsOnBoth text other ∨
        ∃ e e' : Envelope, decode text = .ok e ∧ decode other = .ok e' ∧
          e' = { e with result := none, raw := e'.raw } ∧
          e.intoResult = .error .nilResult ∧
          e'.intoResult = .error (.protocol .emptyResponse) ∧ e'.intoResult ≠ e.intoResult) := by
  have reads := @fails_or_same_frame _ _ _ _ isObject isOther once onceOther same
  refine ⟨decode_fails_iff isObject once, ?_, ?_⟩
  · intro sameResult
    have holds := found_congr .any sameResult
    obtain fails | ⟨e, x, y, isFirst, isSecond, _, read, readOther⟩ := reads rfl holds.symm rfl
    · exact Or.inl fails
    · obtain rfl := Option.some.inj (isFirst.symm.trans isSecond)
      exact Or.inr ⟨_, _, read, readOther, rfl, rfl, rfl, rfl, rfl⟩
  · intro isNull isAbsent noError
    have holds : found members "result" .any = some (some .null) := by
      rw [found, Record.found, isNull]
      rfl
    have otherHolds : found others "result" .any = some none := by
      rw [found, Record.found, isAbsent]
    obtain fails | ⟨e, x, y, isFirst, isSecond, made, read, readOther⟩ := reads holds otherHolds rfl
    · exact Or.inl fails
    · cases isFirst
      cases isSecond
      have none : e.error = none := by
        have absent := (present_error_of_frame made).symm.trans (present_of_countsAbsent noError)
        exact Option.some.inj absent
      have nil := @intoResult_of_null { e with result := some .null, raw := text } rfl
      have empty := @intoResult_of_noError { e with result := .none, raw := other } none
      refine Or.inr ⟨_, _, read, readOther, rfl, nil, empty, ?_⟩
      rw [nil, empty]
      intro same
      cases same

end Lookups

/-- An answer with a null result reads the same with its members in another order, blanks around it
and members that make no difference; without the result, its outcome is another. -/
theorem decode_of_same_members_of_null_result :
    let members := [("id", bytesOf "0"), ("result", bytesOf "null")]
    let longer := [("x", bytesOf "null"), ("result", bytesOf "null"), ("params", bytesOf "null"),
      ("id", bytesOf "0")]
    let shorter := [("params", bytesOf "null"), ("id", bytesOf "0"), ("x", bytesOf "true")]
    AtMostOnce members ∧ AtMostOnce longer ∧ AtMostOnce shorter ∧
      (∃ e e' : Envelope, decode (braced members) = .ok e ∧
        decode ([0x20] ++ braced longer ++ [0x0A]) = .ok e' ∧ e' = { e with raw := e'.raw } ∧
        e'.kind = e.kind ∧ e'.validId = e.validId ∧ e'.notification = e.notification ∧
        e'.intoResult = e.intoResult) ∧
      ∃ e e' : Envelope, decode (braced members) = .ok e ∧ decode (braced shorter) = .ok e' ∧
        e' = { e with result := none, raw := e'.raw } ∧ e.intoResult = .error .nilResult ∧
        e'.intoResult = .error (.protocol .emptyResponse) ∧ e'.intoResult ≠ e.intoResult := by
  intro members longer shorter
  have isNull : IsText .value (bytesOf "null") := .null
  have isZero : IsText .value (bytesOf "0") := .number (.positive .zero .none .none)
  have isMembers : IsObjectOf members (braced members) :=
    isObjectOf_braced (by simp [members, isNull, isZero])
  have isLonger : IsObjectOf longer ([0x20] ++ braced longer ++ [0x0A]) :=
    (isObjectOf_braced (by simp [longer, isNull, isZero])).padded (by decide) (by decide)
  have isShorter : IsObjectOf shorter (braced shorter) :=
    isObjectOf_braced (by simp [shorter, isNull, isZero, IsText.true])
  have once : AtMostOnce members ∧ AtMostOnce longer ∧ AtMostOnce shorter := by
    unfold AtMostOnce
    decide
  have same : ∀ others ∈ [longer, shorter], ∀ name ∈ memberNames, name ≠ "result" →
      SameMember members others name := by
    intro others isOther name member notResult
    simp only [memberNames, List.mem_cons, List.not_mem_nil, or_false] at isOther member
    rcases isOther with rfl | rfl
    all_goals
      rcases member with rfl | rfl | rfl | rfl | rfl | rfl
      · exact Or.inl .none
      · exact Or.inl (.some isZero.alike)
      · exact Or.inl .none
      · exact Or.inr ⟨by decide, Or.inl rfl, Or.inr rfl⟩
      · exact absurd rfl notResult
      · exact Or.inl .none
  obtain ⟨onceMembers, onceLonger, onceShorter⟩ := once
  have reads := decode_of_same_members isMembers isLonger onceMembers onceLonger
    (same longer (by simp))
  have fails := decode_of_same_members isMembers isShorter onceMembers onceShorter
    (same shorter (by simp))
  have isMessage : ∀ {other}, ¬ FailsOnBoth (braced members) other := by
    rintro _ ⟨⟨failure, failed⟩, _⟩
    cases failed
  exact ⟨onceMembers, onceLonger, onceShorter,
    (reads.2.1 (.some isNull.alike)).resolve_left isMessage,
    (fails.2.2 rfl rfl (Or.inl rfl)).resolve_left isMessage⟩

end Envelope

end RpcTransport
