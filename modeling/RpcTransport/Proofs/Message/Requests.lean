import RpcTransport.Message.Request
import RpcTransport.Proofs.Json.Roundtrip

/-!
Requests round-trip. A request, and a batch of requests, is read from its text as it was written;
and there is one text of a call, however it is made.
-/

namespace RpcTransport

open Json

namespace Json

section Record

variable {δ α β : Type} {record : Record δ α} {shape : Shape β} {get : δ → Option β}
  {set : δ → β → δ} {draft : δ} {depth fuel : Nat} {first : Bool} {name : String}
  {value rest : Bytes} {x : β}

/-- A member of a field's name is read into the field. -/
theorem Record.textMembers_separator (isField : record.field? name = some (.of name shape get set))
    (unset : get draft = none) (reads : Reads (shape.text depth) value x)
    (stops : Numeral.Stops rest) :
    record.textMembers depth (fuel + 1) first draft
        (separator first ++ (renderMember name value ++ rest)) =
      record.textMembers depth fuel false (set draft x) rest := by
  have isUnset : (Field.of name shape get set).isSet draft = false := by
    simp [Field.of, unset]
  have read : (Field.of name shape get set).text depth draft (value ++ rest) =
      .ok (set draft x, rest) := bind_eq_ok.mpr ⟨_, reads.read rest stops, rfl⟩
  rw [renderMember_append, Record.textMembers, bind_of_ok nextMember_separator]
  simp only [if_true]
  rw [bind_of_ok (Quoted.read_encode name _)]
  simp only [isField, isUnset, Bool.false_eq_true, if_false]
  rw [bind_of_ok colon_mark, bind_of_ok read]

/-- The brace ends the members. -/
theorem Record.textMembers_close :
    record.textMembers depth (fuel + 1) first draft (Ascii.closeBrace :: rest) =
      .ok (draft, Ascii.closeBrace :: rest) :=
  bind_of_ok nextMember_close

theorem braced_append (members : List (String × Bytes)) (rest : Bytes) :
    braced members ++ rest =
      Ascii.openBrace :: (separated true (memberTexts (·) members) ++ Ascii.closeBrace :: rest) := by
  rw [← commaSeparated_eq]
  simp [braced, memberTexts]

/-- A record is read from members between braces if a draft is read from them that is finished. -/
theorem Record.reads_braced {members : List (String × Bytes)} {x : α}
    (filled : ∀ (fuel : Nat) (rest : Bytes),
      record.textMembers depth (fuel + members.length + 1) true record.blank
          (separated true (memberTexts (·) members) ++ Ascii.closeBrace :: rest) =
        .ok (draft, Ascii.closeBrace :: rest))
    (finished : record.finish draft = .ok x) :
    Reads (record.shape.text (depth + 1)) (braced members) x := by
  refine ⟨⟨_, _, rfl, by decide, by decide⟩, ?_⟩
  intro rest _
  -- the members are read with the number of bytes as fuel
  have few : members.length ≤
      (separated true (memberTexts (·) members) ++ Ascii.closeBrace :: rest).length := by
    rw [List.length_append]
    exact Nat.le_add_right_of_le (length_le_memberTexts (·) members true)
  obtain ⟨fuel, enough⟩ := Nat.exists_eq_add_of_le' few
  have read := filled fuel rest
  rw [← enough] at read
  have made : record.textObject depth
      (separated true (memberTexts (·) members) ++ Ascii.closeBrace :: rest) = .ok (x, rest) := by
    refine bind_eq_ok.mpr ⟨_, read, ?_⟩
    dsimp only
    rw [finished]
    exact bind_eq_ok.mpr ⟨_, closeObject_close, rfl⟩
  rw [braced_append]
  exact made

end Record

section Shapes

variable {α : Type} {depth : Nat}

/-- A string is read as it was written. -/
theorem Shape.string_reads (s : String) : Reads (Shape.string.text depth) (Quoted.render s) s := by
  refine ⟨⟨_, _, rfl, by decide, by decide⟩, ?_⟩
  intro rest _
  have starts : Quoted.render s ++ rest =
      Ascii.doubleQuote :: (Quoted.encode (bytesOf s) ++ Ascii.doubleQuote :: rest) := by
    simp [Quoted.render]
  rw [starts]
  exact Quoted.read_encode s rest

/-- Values of a shape in an array. -/
theorem Shape.list_reads {shape : Shape α} {write : α → Bytes} {xs : List α}
    (each : ∀ x ∈ xs, Reads (shape.text depth) (write x) x) :
    Reads ((Shape.list shape).text (depth + 1)) (bracketed (xs.map write)) xs := by
  refine ⟨⟨_, _, rfl, by decide, by decide⟩, ?_⟩
  intro rest _
  rw [bracketed]
  simp only [List.cons_append, List.append_assoc, List.nil_append]
  exact arrayOf_commaSeparated each rest

theorem Shape.any_reads {x : Json} (plain : x.IsPlain) (shallow : x.nesting ≤ depth) :
    Reads (Shape.any.text depth) x.render x where
  starts := (plain.reads (embedded 0) shallow).starts
  read rest stops := (plain.reads _ shallow).read rest stops

/-- What is there is read as it is without the option. -/
theorem Shape.optional_reads {shape : Shape α} {value : Bytes} {x : α}
    (reads : Reads (shape.text depth) value x)
    (notNull : value.head? ≠ some (Ascii.byte 'n')) :
    Reads ((Shape.optional shape).text depth) value (some x) := by
  refine ⟨reads.starts, ?_⟩
  intro rest stops
  have read := reads.read rest stops
  obtain ⟨b, tail, rfl, notBlank, _⟩ := reads.starts
  have noN : b ≠ Ascii.byte 'n' := fun isN => notNull (congrArg some isN)
  simp only [List.cons_append] at read ⊢
  simp only [Shape.optional, skipBlanks_cons_of_not_blank notBlank, if_neg noN]
  exact bind_eq_ok.mpr ⟨_, read, rfl⟩

theorem Shape.optional_reads_null {shape : Shape α} :
    Reads ((Shape.optional shape).text depth) (Json.render .null) none := by
  refine ⟨⟨_, _, rfl, by decide, by decide⟩, fun rest _ => ?_⟩
  rfl

/-- What is read to the end of a text is what the text stands for. -/
theorem Shape.parse_of_reads {shape : Shape α} {text : Bytes} {x : α}
    (reads : Reads (shape.text depthLimit) text x) : shape.parse text = .ok x := by
  have read := reads.read [] (by simp [Numeral.Stops])
  rw [List.append_nil] at read
  exact mapError_eq_ok.mpr (whole_eq_ok.mpr ⟨[], read, rfl⟩)

end Shapes

end Json

namespace Request

/-- All fields of a request are read from its members. -/
theorem textMembers_members {request : Request} {depth : Nat} (fuel : Nat)
    (params : Reads ((Shape.list .any).text depth) (Json.render (.array request.params))
      request.params) (rest : Bytes) :
    record.textMembers depth (fuel + 5) true {}
        (separated true (memberTexts (·) request.members) ++ Ascii.closeBrace :: rest) =
      .ok (⟨some request.jsonrpc, some request.method, some request.params, some request.id⟩,
        Ascii.closeBrace :: rest) := by
  have comma : ∀ s, Numeral.Stops (separator false ++ s) := fun s => stops_mark (Or.inl rfl)
  have close : Numeral.Stops (Ascii.closeBrace :: rest) := stops_mark (Or.inr (Or.inr rfl))
  simp only [members, memberTexts, List.map_cons, List.map_nil, separated, List.append_assoc,
    List.append_nil]
  rw [Record.textMembers_separator (by rfl) (by rfl) (Shape.string_reads _) (comma _),
    Record.textMembers_separator (by rfl) (by rfl) (Shape.string_reads _) (comma _),
    Record.textMembers_separator (by rfl) (by rfl) params (comma _),
    Record.textMembers_separator (by rfl) (by rfl) (Shape.string_reads _) close]
  exact Record.textMembers_close

/-- A request is read as it was written. -/
theorem reads {request : Request} {depth : Nat} (plain : ∀ x ∈ request.params, x.IsPlain)
    (shallow : (Json.array request.params).nesting ≤ depth) :
    Reads (shape.text (depth + 1)) request.encode request := by
  have params : Reads ((Shape.list .any).text depth) (Json.render (.array request.params))
      request.params := by
    obtain ⟨depth, rfl⟩ := Nat.exists_eq_add_of_le' (Nat.le_trans (Nat.le_add_left 1 _) shallow)
    rw [Json.render, renderItems_eq_map]
    apply Shape.list_reads
    intro x member
    exact Shape.any_reads (plain x member)
      (Nat.le_trans (nesting_le_items x member) (Nat.le_of_succ_le_succ shallow))
  exact Record.reads_braced (fun fuel rest => textMembers_members fuel params rest) rfl

/-- How deep brackets are nested in the text of a request. -/
def nesting (request : Request) : Nat :=
  (Json.array request.params).nesting + 1

/-- Texts separated by commas are those between which commas stand. -/
theorem commaSeparated_eq_intercalate (texts : List Bytes) :
    commaSeparated texts = [Ascii.comma].intercalate texts := by
  match texts with
  | [] => rfl
  | [x] => simp [commaSeparated, List.intercalate]
  | x :: y :: rest =>
      rw [commaSeparated, commaSeparated_eq_intercalate (y :: rest)]
      simp [List.intercalate]

/-- Requests round-trip. There is one text of a call; it is read as the request that makes the call;
and a batch is the texts of its requests between brackets and with commas between them, and is read
as these requests in their order. This holds for all strings, and for all parameters that are plain
and not nested deeper than a reader goes. -/
theorem round_trips :
    (∀ (method id : String) (params : List Json),
      encodeCall method params id = (make id method params).encode ∧
        ((∀ x ∈ params, x.IsPlain) → (make id method params).nesting ≤ depthLimit →
          shape.parse (encodeCall method params id) = .ok ⟨"2.0", method, params, id⟩)) ∧
      ∀ requests : List Request,
        encodeBatch requests =
            Ascii.openBracket :: [Ascii.comma].intercalate (requests.map encode) ++
              [Ascii.closeBracket] ∧
          ((∀ r ∈ requests, (∀ x ∈ r.params, x.IsPlain) ∧ r.nesting + 1 ≤ depthLimit) →
            (Shape.list shape).parse (encodeBatch requests) = .ok requests) := by
  refine ⟨?_, ?_⟩
  · intro method id params
    have same : encodeCall method params id = (make id method params).encode := rfl
    refine ⟨same, ?_⟩
    intro plain shallow
    have inside : (Json.array params).nesting ≤ 126 := Nat.le_of_succ_le_succ shallow
    have whole : Reads (shape.text depthLimit) (make id method params).encode
        (make id method params) := reads plain inside
    rw [same]
    exact Shape.parse_of_reads whole
  · intro requests
    refine ⟨by rw [encodeBatch, bracketed, commaSeparated_eq_intercalate], ?_⟩
    intro each
    apply Shape.parse_of_reads
    apply Shape.list_reads
    intro request member
    obtain ⟨plain, shallow⟩ := each request member
    exact reads plain (Nat.le_of_succ_le_succ (Nat.le_of_succ_le_succ shallow))

/-- Parameters with the ends of the integers, with characters that are escaped, with empty arrays,
objects and strings, and with members in order. -/
def cornerParams : List Json :=
  [.number (.integer 0xFFFFFFFFFFFFFFFF (by decide)), .array [],
    .number (.integer (-0x8000000000000000) (by decide)), .string "\"\\\n\u0001/é",
    .object [("", .object []), ("a", .bool true), ("b", .array [.null, .string ""])]]

theorem isPlain_of_mem_cornerParams : ∀ x ∈ cornerParams, x.IsPlain := by
  have noItems : IsPlain (.array []) := .array (by simp)
  have items : IsPlain (.array [.null, .string ""]) := by
    apply IsPlain.array
    simp [IsPlain.null, IsPlain.string]
  have members : IsPlain (.object [("", .object []), ("a", .bool true),
      ("b", .array [.null, .string ""])]) := by
    apply IsPlain.object (by decide) (by decide)
    have noMembers : IsPlain (.object []) := .object .nil (by simp) (by simp)
    simp [noMembers, items, IsPlain.bool]
  simp [cornerParams, IsPlain.integer, IsPlain.string, noItems, members]

/-- They are read as they were written, one call by itself and two in a batch. -/
theorem round_trips_of_corner_cases :
    shape.parse (encodeCall "m\t" cornerParams "") = .ok ⟨"2.0", "m\t", cornerParams, ""⟩ ∧
      (Shape.list shape).parse (encodeBatch [make "1" "m" cornerParams, make "1" "" []]) =
        .ok [make "1" "m" cornerParams, make "1" "" []] := by
  have plain := isPlain_of_mem_cornerParams
  constructor
  · exact (round_trips.1 "m\t" "" cornerParams).2 plain (by decide)
  · apply (round_trips.2 _).2
    intro request member
    rcases List.mem_cons.mp member with rfl | member
    · exact ⟨plain, by decide⟩
    · rw [List.mem_singleton.mp member]
      exact ⟨fun x none => (nomatch none), by decide⟩

end Request

end RpcTransport
