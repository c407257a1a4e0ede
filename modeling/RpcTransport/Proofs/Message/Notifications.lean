import RpcTransport.Message.Method
import RpcTransport.Proofs.Message.Kinds
import RpcTransport.Proofs.Message.Requests

/-!
Notifications as a node writes them: a method of some namespace, and parameters with the id of a
subscription and a value. They are read as they were written. But an empty id counts as none, though
it was written.
-/

namespace RpcTransport

namespace Json

/-! ### Values that are taken over as they are -/

theorem rereadItems_eq_self {items : List Json} (each : ∀ x ∈ items, x.reread = .ok x) :
    rereadItems items = .ok items := by
  induction items with
  | nil => rfl
  | cons x items inductionHypothesis =>
      have others := inductionHypothesis fun y member => each y (List.mem_cons_of_mem x member)
      exact bind_eq_ok.mpr ⟨_, each x List.mem_cons_self, bind_eq_ok.mpr ⟨_, others, rfl⟩⟩

theorem rereadMembers_eq_self {members : List (String × Json)}
    (each : ∀ m ∈ members, m.2.reread = .ok m.2) : rereadMembers members = .ok members := by
  induction members with
  | nil => rfl
  | cons m members inductionHypothesis =>
      have others :=
        inductionHypothesis fun other member => each other (List.mem_cons_of_mem m member)
      exact bind_eq_ok.mpr ⟨_, each m List.mem_cons_self, bind_eq_ok.mpr ⟨_, others, rfl⟩⟩

/-- A plain value is taken over as it is. -/
theorem IsPlain.reread {value : Json} (plain : value.IsPlain) : value.reread = .ok value := by
  induction plain with
  | null | bool | integer | string => rfl
  | array plain inductionHypothesis =>
      rw [Json.reread]
      exact bind_eq_ok.mpr ⟨_, rereadItems_eq_self inductionHypothesis, rfl⟩
  | @object members sorted named plain inductionHypothesis =>
      cases members with
      | nil => rfl
      | cons m members =>
          have first := inductionHypothesis m List.mem_cons_self
          have others := rereadMembers_eq_self fun other member =>
            inductionHypothesis other (List.mem_cons_of_mem m member)
          rw [Json.reread.eq_def]
          dsimp only
          rw [if_neg (named m List.mem_cons_self)]
          exact bind_eq_ok.mpr ⟨_, first, bind_eq_ok.mpr ⟨_, others, rfl⟩⟩

end Json

open Json

namespace Notification

variable {notice : Notification} {depth : Nat}

/-- The parameters of a notification as a value. -/
def toJson (notice : Notification) : Json :=
  .object [("result", notice.result), ("subscription", .string notice.subscription)]

/-- The text of a notification's parameters is read as this value, -/
theorem reads (plain : notice.result.IsPlain) (shallow : notice.result.nesting ≤ depth) :
    Reads (Shape.any.text (depth + 1)) notice.render notice.toJson := by
  let members : List (String × Json) :=
    [("subscription", .string notice.subscription), ("result", notice.result)]
  have isObject : Json.ofMembers members = notice.toJson := by
    have before : "result" < "subscription" := by decide
    simp [members, Json.ofMembers, insertMember, before, toJson]
  have named : ∀ m ∈ members, m.1 ≠ embeddedName := by
    simp [members, embeddedName]
  have each : ∀ inner, ∀ m ∈ members, Reads (valueWith inner depth) m.2.render m.2 := by
    intro inner m member
    simp only [members, List.mem_cons, List.not_mem_nil, or_false] at member
    rcases member with rfl | rfl
    · exact (IsPlain.string notice.subscription).reads inner (Nat.zero_le depth)
    · exact plain.reads inner shallow
  have whole : ∀ inner, Reads (valueWith inner (depth + 1)) notice.render notice.toJson :=
    fun inner => isObject ▸ reads_braced named (each inner)
  exact ⟨(whole (embedded 0)).starts, fun rest stops => (whole _).read rest stops⟩

/-- and the value as the notification. -/
theorem value_toJson (plain : notice.result.IsPlain) :
    Notification.shape.value notice.toJson = .ok notice := by
  have result : Notification.record.valueMembers
      [("result", notice.result), ("subscription", .string notice.subscription)] {} =
      .ok ⟨some notice.subscription, some notice.result⟩ := by
    refine bind_eq_ok.mpr ⟨⟨none, some notice.result⟩, ?_, rfl⟩
    exact bind_eq_ok.mpr ⟨_, plain.reread, rfl⟩
  exact bind_eq_ok.mpr ⟨_, result, rfl⟩

/-! ### Whole messages -/

/-- The members of a notification under the method of a namespace. -/
def members (ns : String) (notice : Notification) : List (String × Bytes) :=
  [("jsonrpc", Quoted.render "2.0"),
    ("method", Quoted.render (ns ++ Method.subscriptionSuffix)), ("params", notice.render)]

/-- Their text. -/
def text (ns : String) (notice : Notification) : Bytes :=
  braced (members ns notice)

/-- The message with this text. -/
def message (ns : String) (notice : Notification) : Envelope where
  jsonrpc := "2.0"
  id := none
  method := some (ns ++ Method.subscriptionSuffix)
  params := some notice.toJson
  result := none
  error := none
  raw := text ns notice

/-- What the members say is read from them. -/
theorem textMembers_members (ns : String) (fuel : Nat)
    (params : Reads (Shape.any.text depth) notice.render notice.toJson) (rest : Bytes) :
    Envelope.record.textMembers depth (fuel + 4) true {}
        (separated true (memberTexts (·) (members ns notice)) ++ Ascii.closeBrace :: rest) =
      .ok ({ jsonrpc := some "2.0", method := some (some (ns ++ Method.subscriptionSuffix)),
             params := some (some notice.toJson) }, Ascii.closeBrace :: rest) := by
  have comma : ∀ s, Numeral.Stops (separator false ++ s) := fun s => stops_mark (Or.inl rfl)
  have close : Numeral.Stops (Ascii.closeBrace :: rest) := stops_mark (Or.inr (Or.inr rfl))
  have noNull : ∀ b : UInt8, b = Ascii.doubleQuote ∨ b = Ascii.openBrace →
      some b ≠ some (Ascii.byte 'n') := by
    rintro b (rfl | rfl) <;> decide
  have method : Reads ((Shape.optional .string).text depth)
      (Quoted.render (ns ++ Method.subscriptionSuffix))
      (some (ns ++ Method.subscriptionSuffix)) :=
    Shape.optional_reads (Shape.string_reads _) (noNull _ (Or.inl rfl))
  simp only [members, memberTexts, List.map_cons, List.map_nil, separated, List.append_assoc,
    List.append_nil]
  rw [Record.textMembers_separator (by rfl) (by rfl) (Shape.string_reads _) (comma _),
    Record.textMembers_separator (by rfl) (by rfl) method (comma _),
    Record.textMembers_separator (by rfl) (by rfl)
      (Shape.optional_reads params (noNull _ (Or.inr rfl))) close]
  exact Record.textMembers_close

/-- A notification is read as it was written, as far as arrays and objects may be nested. -/
theorem decode_text (ns : String) (plain : notice.result.IsPlain)
    (shallow : notice.result.nesting + 2 ≤ depthLimit) :
    Envelope.decode (text ns notice) = .ok (message ns notice) := by
  have shallow : notice.result.nesting ≤ 125 := Nat.le_of_add_le_add_right shallow
  have whole : Reads (Envelope.shape.text depthLimit) (text ns notice)
      { message ns notice with raw := [] } :=
    Record.reads_braced
      (fun fuel rest => textMembers_members ns fuel (reads plain shallow) rest) rfl
  exact bind_eq_ok.mpr ⟨_, mapError_eq_ok.mpr (Shape.parse_of_reads whole), rfl⟩

theorem kind_message (ns : String) (notice : Notification) :
    (message ns notice).kind = .notification := by
  have named : ns ++ Method.subscriptionSuffix ≠ "" := by
    intro empty
    have noChars := congrArg String.toList empty
    rw [String.toList_append] at noChars
    cases (List.append_eq_nil_iff.mp noChars).2
  refine Envelope.kind_eq_notification.mpr (Envelope.isNotification_iff.mpr ⟨Or.inl rfl, ?_⟩)
  rintro (absent | isEmpty)
  · cases absent
  · exact named (Option.some.inj isEmpty)

/-- What the message notifies of: the value, unless the id is empty. -/
theorem notification_message (ns : String) (plain : notice.result.IsPlain) :
    (message ns notice).notification =
      if notice.subscription = "" then .error (.protocol .missingSubscription)
      else .ok notice := by
  show (((Notification.shape.value notice.toJson).mapError _) >>= _) = _
  rw [value_toJson plain]
  rfl

end Notification

end RpcTransport
