import RpcTransport.Proofs.Gathering.Isolation
import RpcTransport.Proofs.Json.Elements
import RpcTransport.Proofs.Message.Requests
import RpcTransport.Proofs.Session.Calls

/-!
Which texts are taken for messages. Objects are, and so are arrays that are read as the members of a
message in their order. Nothing else is: a reply with any other element fails as a whole, and a
frame with any other text does nothing.
-/

namespace RpcTransport

namespace Json

/-! ### How texts start -/

/-- A step that takes only texts whose first byte that is not blank is of some kind. -/
def Reader.StartsWith {α : Type} (starts : UInt8 → Prop) (read : Reader α) : Prop :=
  ∀ s x rest, read s = .ok (x, rest) → ∃ b tail, skipBlanks s = b :: tail ∧ starts b

/-- A shape whose texts start in some way. -/
def Shape.StartsWith {α : Type} (starts : UInt8 → Prop) (shape : Shape α) : Prop :=
  ∀ depth, Reader.StartsWith starts (shape.text depth)

/-- A field whose texts start in some way. -/
def Field.StartsWith {δ : Type} (starts : UInt8 → Prop) (field : Field δ) : Prop :=
  ∀ depth draft, Reader.StartsWith starts (field.text depth draft)

section StartsWith

variable {α : Type} {shape : Shape α} {starts : UInt8 → Prop}

theorem Shape.string_startsWith : Shape.string.StartsWith (· = Ascii.doubleQuote) := by
  intro depth s x rest read
  simp only [Shape.string, readString] at read
  split at read
  · cases read
  · next b tail found =>
      split at read
      · next isQuote => exact ⟨b, tail, found, isQuote⟩
      · exact absurd read refuse_ne_ok

/-- Any value starts in some way. -/
theorem Shape.PassesValues.startsWith (passes : shape.PassesValues) :
    shape.StartsWith fun _ => True := by
  intro depth s x rest read
  obtain ⟨b, tail, found, _⟩ := (passes depth s x rest read).head_value rfl
  exact ⟨b, tail, found, trivial⟩

theorem Shape.StartsWith.optional (starting : shape.StartsWith starts) :
    (Shape.optional shape).StartsWith fun b => b = Ascii.byte 'n' ∨ starts b := by
  intro depth s x rest read
  simp only [Shape.optional] at read
  split at read
  · next empty =>
      obtain ⟨⟨y, after⟩, inner, _⟩ := bind_eq_ok.mp read
      obtain ⟨b, tail, found, _⟩ := starting depth _ _ _ inner
      cases found
  · next b tail found =>
      split at read
      · next isNull => exact ⟨b, tail, found, Or.inl isNull⟩
      · obtain ⟨⟨y, after⟩, inner, _⟩ := bind_eq_ok.mp read
        obtain ⟨c, more, same, starts⟩ := starting depth _ _ _ inner
        rw [← found, skipBlanks_skipBlanks] at same
        exact ⟨c, more, same, Or.inr starts⟩

theorem Record.shape_startsWith {δ : Type} (record : Record δ α) :
    record.shape.StartsWith fun b => b = Ascii.openBracket ∨ b = Ascii.openBrace := by
  intro depth s x rest read
  simp only [Record.shape] at read
  split at read
  · cases read
  · next b tail found =>
      split at read
      · next isArray => exact ⟨b, tail, found, Or.inl isArray⟩
      split at read
      · next isObject => exact ⟨b, tail, found, Or.inr isObject⟩
      · exact absurd read refuse_ne_ok

theorem Field.StartsWith.of {δ : Type} (starting : shape.StartsWith starts) (name : String)
    (get : δ → Option α) (set : δ → α → δ) : (Field.of name shape get set).StartsWith starts := by
  intro depth draft s updated after read
  obtain ⟨⟨x, rest⟩, inner, _⟩ := bind_eq_ok.mp read
  exact starting depth s x rest inner

end StartsWith

/-! ### Arrays that are read as records -/

/-- Texts of which each starts in the way that its place asks for. There may be fewer of them than
places, but not more. -/
def StartInOrder : List (UInt8 → Prop) → List Bytes → Prop
  | _, [] => True
  | [], _ :: _ => False
  | starts :: places, text :: texts => (∃ b ∈ text.head?, starts b) ∧ StartInOrder places texts

section Rows

variable {δ α : Type} {fields : List (Field δ)} {places : List (UInt8 → Prop)}

/-- The elements that fields are read from stand in the text as elements of an array, and start as
the fields ask for. -/
theorem listed_of_textElements (passes : ∀ field ∈ fields, field.PassesValues)
    (starting : List.Forall₂ Field.StartsWith places fields) {depth : Nat} {first : Bool}
    {draft filled : δ} {s rest after : Bytes}
    (read : Record.textElements depth fields first draft s = .ok (filled, rest))
    (closed : closeArray rest = .ok ((), after)) :
    ∃ texts, StartInOrder places texts ∧ (∀ text ∈ texts, IsValueText text) ∧
      ListedNext first texts s (Ascii.closeBracket :: after) := by
  have ends := skipBlanks_of_closeArray closed
  induction starting generalizing first draft s with
  | nil =>
      cases read
      exact ⟨[], trivial, (fun _ member => nomatch member), .nil ends⟩
  | @cons starts field places fields startsField starting inductionHypothesis =>
      obtain ⟨passesField, passes⟩ := List.forall_mem_cons.mp passes
      obtain ⟨⟨more, t⟩, next, read⟩ := bind_eq_ok.mp read
      cases more with
      | false =>
          cases read
          have close := skipBlanks_of_nextElement_false next
          rw [← close, skipBlanks_skipBlanks] at ends
          exact ⟨[], trivial, (fun _ member => nomatch member), .nil ends⟩
      | true =>
          obtain ⟨⟨updated, u⟩, value, read⟩ := bind_eq_ok.mp read
          obtain ⟨texts, startTexts, areValues, others⟩ := inductionHypothesis passes read
          have atElement := (eq_append_of_nextElement next).1
          obtain ⟨b, tail, start, startsSo⟩ := startsField depth draft t updated u value
          have skims := passesField depth draft t updated u value
          obtain ⟨text, rfl⟩ := skims.suffix
          have isValue : IsValueText text := .of_skims skims atElement
          refine ⟨text :: texts, ⟨?_, startTexts⟩, ?_, .cons next others⟩
          · obtain ⟨c, more, rfl, _⟩ := isValue.eq_cons
            rw [atElement] at start
            exact ⟨c, rfl, (List.cons.inj start).1 ▸ startsSo⟩
          · exact List.forall_mem_cons.mpr ⟨isValue, areValues⟩

end Rows

section Reads

variable {α δ : Type} {shape : Shape α} {depth : Nat} {value rest : Bytes} {x : α}

/-- An element is read into the next field. -/
theorem Record.textElements_separator {name : String} {get : δ → Option α} {set : δ → α → δ}
    {fields : List (Field δ)} {first : Bool} {draft : δ} (reads : Reads (shape.text depth) value x)
    (stops : Numeral.Stops rest) :
    Record.textElements depth (.of name shape get set :: fields) first draft
        (separator first ++ (value ++ rest)) =
      Record.textElements depth fields false (set draft x) rest := by
  obtain ⟨b, tail, starts, notBlank, noClose⟩ := reads.starts
  have next : nextElement first (separator first ++ (value ++ rest)) =
      .ok (true, value ++ rest) := by
    rw [starts]
    exact nextElement_separator notBlank noClose
  have read : (Field.of name shape get set).text depth draft (value ++ rest) =
      .ok (set draft x, rest) := bind_eq_ok.mpr ⟨_, reads.read rest stops, rfl⟩
  rw [Record.textElements, bind_of_ok next]
  exact bind_of_ok read

/-- The bracket ends the elements, and the fields that are left are missing. -/
theorem Record.textElements_close {fields : List (Field δ)} {first : Bool} {draft : δ} :
    Record.textElements depth fields first draft (Ascii.closeBracket :: rest) =
      .ok (draft, Ascii.closeBracket :: rest) := by
  cases fields with
  | nil => rfl
  | cons field fields =>
      have close := skipBlanks_cons_of_not_blank (b := Ascii.closeBracket) (by decide) rest
      exact bind_of_ok (nextElement_of_close close)

end Reads

/-- The text of an object, with any blanks around it. -/
def HoldsObject (text : Bytes) : Prop :=
  ∃ value, IsValueText value ∧ value.head? = some Ascii.openBrace ∧ Padded value text

/-- The text of an array of values that start in the ways that their places ask for, with any blanks
around it. -/
def IsRow (places : List (UInt8 → Prop)) (text : Bytes) : Prop :=
  ∃ texts, IsArrayOf texts text ∧ (∀ element ∈ texts, IsValueText element) ∧
    StartInOrder places texts

theorem HoldsObject.skipBlanks_eq {text : Bytes} (holds : HoldsObject text) :
    ∃ tail, skipBlanks text = Ascii.openBrace :: tail := by
  obtain ⟨value, isValue, opens, before, after, blank, _, rfl⟩ := holds
  obtain ⟨tail, rfl⟩ := List.head?_eq_some_iff.mp opens
  refine ⟨tail ++ after, ?_⟩
  rw [List.append_assoc]
  exact isValue.skipBlanks_append blank after

/-- Numbers, strings, null and booleans are no rows. -/
theorem IsRow.skipBlanks_eq {places : List (UInt8 → Prop)} {text : Bytes}
    (isRow : IsRow places text) : ∃ tail, skipBlanks text = Ascii.openBracket :: tail := by
  obtain ⟨texts, isArray, _⟩ := isRow
  obtain ⟨inner, after, _, _, start⟩ := isArray.skipBlanks_eq
  exact ⟨_, start⟩

/-- A record is read from an object or a row. -/
theorem Record.holdsObject_or_isRow {δ α : Type} {record : Record δ α}
    {places : List (UInt8 → Prop)} (passes : ∀ field ∈ record.fields, field.PassesValues)
    (starting : List.Forall₂ Field.StartsWith places record.fields) {depth : Nat}
    {text rest : Bytes} {x : α} (read : record.shape.text depth text = .ok (x, rest))
    (blankAfter : Blank rest) : HoldsObject text ∨ IsRow places text := by
  have skims := Record.shape_passesValues passes depth text x rest read
  simp only [Record.shape] at read
  split at read
  · cases read
  · next b inside found =>
      split at read
      · next isArray =>
          cases depth with
          | zero => cases read
          | succ depth =>
              obtain ⟨⟨draft, u⟩, elements, read⟩ := bind_eq_ok.mp read
              dsimp only at read
              split at read
              · cases read
              · obtain ⟨⟨_, after⟩, closed, done⟩ := bind_eq_ok.mp read
                cases done
                obtain ⟨texts, starts, areValues, next⟩ :=
                  listed_of_textElements passes starting elements closed
                obtain ⟨inner, listed, rfl⟩ := next.1 rfl
                obtain ⟨before, blank, rfl⟩ := exists_blank_of_skipBlanks found
                refine Or.inr ⟨texts, ⟨inner, listed, ?_⟩, areValues, starts⟩
                exact ⟨before, after, blank, blankAfter, by simp [isArray]⟩
      split at read
      · next isObject =>
          obtain ⟨value, isValue, padding, start⟩ := exists_padded_of_skims skims blankAfter
          obtain ⟨c, tail, rfl, _⟩ := isValue.eq_cons
          rw [found] at start
          cases start
          exact Or.inl ⟨_, isValue, congrArg some isObject, padding⟩
      · exact absurd read refuse_ne_ok

end Json

namespace Envelope

open Json

variable {text body : Bytes} {e : Envelope}

/-- How the elements of an array start that is read as the members of a message, in their order: the
version is a string, the method a string or null, and the error an object, an array or null. -/
def rowStarts : List (UInt8 → Prop) :=
  [(· = Ascii.doubleQuote), fun _ => True, fun b => b = Ascii.byte 'n' ∨ b = Ascii.doubleQuote,
    fun _ => True, fun _ => True,
    fun b => b = Ascii.byte 'n' ∨ b = Ascii.openBracket ∨ b = Ascii.openBrace]

theorem startsWith_rowStarts : List.Forall₂ Field.StartsWith rowStarts record.fields :=
  .cons (.of Shape.string_startsWith _ _ _) <|
  .cons (.of (Shape.PassesValues.any.optional.startsWith) _ _ _) <|
  .cons (.of (Shape.string_startsWith.optional) _ _ _) <|
  .cons (.of (Shape.PassesValues.any.optional.startsWith) _ _ _) <|
  .cons (.of Shape.PassesValues.any.startsWith _ _ _) <|
  .cons (.of ((Record.shape_startsWith _).optional) _ _ _) .nil

/-- Only objects and rows are messages. -/
theorem holdsObject_or_isRow_of_decode (read : decode text = .ok e) :
    HoldsObject text ∨ IsRow rowStarts text := by
  obtain ⟨x, rest, value, blank⟩ := exists_rest_of_decode read
  exact Record.holdsObject_or_isRow field_passesValues startsWith_rowStarts value
    (List.dropWhile_eq_nil_iff.mp blank)

/-! ### Rows that are messages -/

/-- The members of an answer by their values, in their order. -/
def rowTexts (id : String) (result : Json) : List Bytes :=
  [Quoted.render "2.0", Json.render (.string id), Json.render .null, Json.render .null,
    result.render]

/-- The members of an answer in an array. -/
def row (id : String) (result : Json) : Bytes :=
  bracketed (rowTexts id result)

/-- The first five fields of a message are read from a row. -/
theorem textElements_row (id : String) {result : Json} {depth : Nat} (plain : result.IsPlain)
    (shallow : result.nesting ≤ depth) (rest : Bytes) :
    Record.textElements depth record.fields true {}
        (separated true (rowTexts id result) ++ Ascii.closeBracket :: rest) =
      .ok (⟨some "2.0", some (some (.string id)), some none, some none, some result, none⟩,
        Ascii.closeBracket :: rest) := by
  have comma : ∀ s, Numeral.Stops (separator false ++ s) := fun s => stops_mark (Or.inl rfl)
  have close : Numeral.Stops (Ascii.closeBracket :: rest) := stops_mark (Or.inr (Or.inl rfl))
  have string : Reads (Shape.any.text depth) (Json.render (.string id)) (.string id) :=
    Shape.any_reads (.string id) (Nat.zero_le _)
  have notNull : (Json.render (.string id)).head? ≠ some (Ascii.byte 'n') := by
    intro isNull
    exact absurd (Option.some.inj isNull) (by decide)
  simp only [rowTexts, separated, List.append_assoc, List.append_nil, record]
  rw [Record.textElements_separator (Shape.string_reads "2.0") (comma _),
    Record.textElements_separator (Shape.optional_reads string notNull) (comma _),
    Record.textElements_separator Shape.optional_reads_null (comma _),
    Record.textElements_separator Shape.optional_reads_null (comma _),
    Record.textElements_separator (Shape.any_reads plain shallow) close]
  exact Record.textElements_close

/-- An answer is read from the array of its members as it is read from the object. -/
theorem decode_row (id : String) {result : Json} (plain : result.IsPlain)
    (shallow : result.nesting + 1 ≤ depthLimit) :
    decode (row id result) =
      .ok ⟨"2.0", some (.string id), none, none, some result, none, row id result⟩ := by
  have reads : Reads (shape.text depthLimit) (row id result)
      ⟨"2.0", some (.string id), none, none, some result, none, []⟩ := by
    refine ⟨⟨_, _, rfl, by decide, by decide⟩, ?_⟩
    intro rest _
    have elements := textElements_row id plain (Nat.le_of_succ_le_succ shallow) rest
    rw [row, bracketed, commaSeparated_eq]
    simp only [List.cons_append, List.append_assoc, List.nil_append]
    exact bind_eq_ok.mpr ⟨_, elements, bind_eq_ok.mpr ⟨_, closeArray_close, rfl⟩⟩
  rw [decode, Shape.parse_of_reads reads]
  rfl

/-! ### Replies and frames -/

/-- Where an array is read as messages, each of its elements is. -/
theorem exists_decode_of_decodeBatch {texts : List Bytes} {messages : List Envelope}
    (isArray : IsArrayOf texts body) (areValues : ∀ text ∈ texts, IsValueText text)
    (read : decodeBatch body = .ok messages) : ∀ text ∈ texts, ∃ e, decode text = .ok e := by
  rw [decodeBatch, if_pos (find?_of_isArrayOf isArray)] at read
  obtain ⟨found, sliced, read⟩ := bind_eq_ok.mp read
  have sliced := mapError_eq_ok.mp sliced
  rw [isArray.unique (isArrayOf_of_slices sliced) areValues (isValueText_of_slices sliced)]
  have each := mapM_decode_eq_ok.mp read
  intro text member
  obtain ⟨⟨place, bound⟩, rfl⟩ := List.mem_iff_get.mp member
  exact ⟨_, each.get bound (each.length_eq ▸ bound)⟩

/-- An array with an element that is no message is a fault of the protocol. -/
theorem exists_fault_of_element (unreadable : ∀ e, decode text ≠ .ok e) {texts : List Bytes}
    (isArray : IsArrayOf texts body) (areValues : ∀ text ∈ texts, IsValueText text)
    (member : text ∈ texts) : ∃ fault, decodeBatch body = .error (.protocol fault) := by
  cases read : decodeBatch body with
  | error error =>
      obtain ⟨fault, rfl⟩ := exists_fault_of_decodeBatch read
      exact ⟨fault, rfl⟩
  | ok messages =>
      obtain ⟨e, decoded⟩ := exists_decode_of_decodeBatch isArray areValues read text member
      exact (unreadable e decoded).elim

end Envelope

namespace Gathering

open Json Envelope

/-- A reply brings nothing but one error: it is read as this error, and in every run every caller
gets it for every request whose window has this reply. -/
def FailsAsAWhole (body : Bytes) (error : TransportError) : Prop :=
  decodeBatch body = .error error ∧
    ∀ (limits : Limits) (schedule : List Step) (node : Node) (n : Nat) (caller : Caller),
      (Execution.run limits schedule).callers[n]? = some caller → n ∉ leavers schedule →
      ∃ result, ((Execution.run limits schedule).results node)[n]? = some result ∧
        List.Forall₂ (fun ticket value => ∃ m dispatch,
            ticket.SentIn (Execution.run limits schedule).timeline.dispatches m dispatch ∧
              ((node m dispatch).2 = .replied (.ok body) → value = .error error))
          caller.demand.tickets (Loading.value result)

/-- A reply that can not be read gives one error to every position of its window. -/
theorem settle_of_unread {body : Bytes} {error : TransportError}
    (unread : decodeBatch body = .error error) (requests : List Request) (position : Nat) :
    settle ((Fetched.replied (.ok body)).outcome requests) position = .error error := by
  have failed : ofReply requests (.ok body) = .error error :=
    bind_eq_error.mpr (Or.inr ⟨body, rfl, bind_eq_error.mpr (Or.inl unread)⟩)
  exact bind_eq_error.mpr (Or.inl failed)

theorem failsAsAWhole_of_unread {body : Bytes} {error : TransportError}
    (unread : decodeBatch body = .error error) : FailsAsAWhole body error := by
  refine ⟨unread, ?_⟩
  intro limits schedule node n caller isCaller stays
  obtain ⟨result, isResult, each⟩ := Execution.exists_result limits schedule node isCaller stays
  refine ⟨result, isResult, each.imp ?_⟩
  rintro ticket value ⟨m, dispatch, sentIn, rfl⟩
  refine ⟨m, dispatch, sentIn, ?_⟩
  intro replied
  rw [replied]
  exact settle_of_unread unread dispatch.requests ticket.position

end Gathering

namespace Envelope

open Json

/-- It holds of a text that only objects are messages: if it is read as a message, it is an object.
And if it is no object, it changes nothing as a frame, and as an element it makes a reply fail as a
whole. -/
structure OnlyIfObject (text : Bytes) : Prop where
  decodes : ∀ e, decode text = .ok e → HoldsObject text
  inFrame : ¬ HoldsObject text → ∀ session : Session, session.frame text = session
  inReply : ¬ HoldsObject text → ∀ texts body, IsArrayOf texts body →
    (∀ element ∈ texts, IsValueText element) → text ∈ texts →
    ∃ fault, Gathering.FailsAsAWhole body (.protocol fault)

/-- What is no message changes nothing and makes replies fail. -/
theorem onlyIfObject_of_decodes {text : Bytes}
    (decodes : ∀ e, decode text = .ok e → HoldsObject text) : OnlyIfObject text where
  decodes := decodes
  inFrame noObject session := by
    cases read : decode text with
    | error error => rw [Session.frame, read]
    | ok e => exact (noObject (decodes e read)).elim
  inReply noObject texts body isArray areValues member := by
    have unreadable : ∀ e, decode text ≠ .ok e := fun e read => noObject (decodes e read)
    obtain ⟨fault, unread⟩ := exists_fault_of_element unreadable isArray areValues member
    exact ⟨fault, Gathering.failsAsAWhole_of_unread unread⟩

/-- No object is a row of an answer. -/
theorem not_holdsObject_row (id : String) (result : Json) : ¬ HoldsObject (row id result) := by
  intro holds
  obtain ⟨tail, start⟩ := holds.skipBlanks_eq
  have bracket : skipBlanks (row id result) = row id result :=
    skipBlanks_cons_of_not_blank (by decide) _
  rw [bracket] at start
  exact absurd (List.cons.inj start).1 (by decide)

/-- Only objects are messages, except for rows. This holds of every text that is no row. It holds of
a row just if the row is not read as a message. And it does not hold of the rows of answers, which
are read as these answers. -/
theorem onlyIfObject_unless_row (text : Bytes) :
    (¬ IsRow rowStarts text → OnlyIfObject text) ∧
      (IsRow rowStarts text → (OnlyIfObject text ↔ ∀ e, decode text ≠ .ok e)) ∧
      ∀ (id : String) (result : Json), result.IsPlain → result.nesting + 1 ≤ depthLimit →
        text = row id result →
        decode text = .ok ⟨"2.0", some (.string id), none, none, some result, none, text⟩ ∧
          ¬ OnlyIfObject text := by
  refine ⟨?_, ?_, ?_⟩
  · intro noRow
    apply onlyIfObject_of_decodes
    intro e read
    exact (holdsObject_or_isRow_of_decode read).resolve_right noRow
  · intro isRow
    constructor
    · intro only e read
      obtain ⟨_, object⟩ := (only.decodes e read).skipBlanks_eq
      obtain ⟨_, bracket⟩ := isRow.skipBlanks_eq
      rw [object] at bracket
      exact absurd (List.cons.inj bracket).1 (by decide)
    · intro unreadable
      exact onlyIfObject_of_decodes fun e read => (unreadable e read).elim
  · rintro id result plain shallow rfl
    have read := decode_row id plain shallow
    exact ⟨read, fun only => not_holdsObject_row id result (only.decodes _ read)⟩

/-- An answer and a null. -/
def replyWithNull : Bytes :=
  bytesOf "[\x7b\"id\":\"a\",\"result\":1\x7d, null]"

/-- A null is no message, in a frame as little as in a reply. The row of an answer is one. -/
theorem onlyIfObject_unless_row_of_null :
    (∀ session : Session, session.frame (bytesOf "null") = session) ∧
      (∃ fault, Gathering.FailsAsAWhole replyWithNull (.protocol fault)) ∧
      IsRow rowStarts (row "a" (.bool true)) ∧ ¬ OnlyIfObject (row "a" (.bool true)) := by
  have notOpen : ∀ {b tail}, skipBlanks (bytesOf "null") = b :: tail → b = Ascii.byte 'n' := by
    rintro b tail start
    cases (show bytesOf "null" = b :: tail from start)
    rfl
  have noObject : ¬ HoldsObject (bytesOf "null") := by
    intro holds
    obtain ⟨_, start⟩ := holds.skipBlanks_eq
    exact absurd (notOpen start) (by decide)
  have noRow : ¬ IsRow rowStarts (bytesOf "null") := by
    intro isRow
    obtain ⟨_, start⟩ := isRow.skipBlanks_eq
    exact absurd (notOpen start) (by decide)
  have only := (onlyIfObject_unless_row (bytesOf "null")).1 noRow
  refine ⟨only.inFrame noObject, ?_, ?_⟩
  · have answer : IsValueText (bytesOf "\x7b\"id\":\"a\",\"result\":1\x7d") :=
      ⟨rfl, skim_eq_ok.mp rfl⟩
    have null : IsValueText (bytesOf "null") := ⟨rfl, skim_eq_ok.mp rfl⟩
    have isArray : IsArrayOf [bytesOf "\x7b\"id\":\"a\",\"result\":1\x7d", bytesOf "null"]
        replyWithNull := by
      refine ⟨_, .more ⟨[], [], ?_, ?_, rfl⟩ (.last ⟨bytesOf " ", [], ?_, ?_, rfl⟩),
        [], [], ?_, ?_, rfl⟩
      all_goals decide
    exact only.inReply noObject _ _ isArray (by simp [answer, null]) (by simp)
  · obtain ⟨_, ofRow, ofAnswer⟩ := onlyIfObject_unless_row (row "a" (.bool true))
    obtain ⟨read, _⟩ := ofAnswer "a" (.bool true) (.bool true) (by decide) rfl
    have isRow := (holdsObject_or_isRow_of_decode read).resolve_left (not_holdsObject_row _ _)
    exact ⟨isRow, fun only => (ofRow isRow).mp only _ read⟩

/-- The members of an answer, in an array. -/
def rowAnswer : Bytes :=
  bytesOf "[\"2.0\",\"a\",null,null,1]"

open Gathering in
/-- It would be wrong to say that only objects are messages. This array is read as an answer, is
handed out to the request with its id, and gives a call that waits over a connection its result. -/
theorem row_is_message :
    (∃ e, decode rowAnswer = .ok e) ∧ ¬ HoldsObject rowAnswer ∧
      ofReply [.make "a" "eth_chainId" []]
          (.ok (Ascii.openBracket :: rowAnswer ++ [Ascii.closeBracket])) = .ok [.ok rowAnswer] ∧
      ∃ e, (({ url := "ws://node", config := {} } : Session).run
        [.start, .dialSucceeded 0, .launch 0, .call "a" "eth_chainId" [],
          .frame rowAnswer]).outcome? 0 = some (.ok e) := by
  refine ⟨⟨_, rfl⟩, ?_, rfl, ⟨_, rfl⟩⟩
  intro holds
  obtain ⟨tail, start⟩ := holds.skipBlanks_eq
  have same : some Ascii.openBracket = some Ascii.openBrace := congrArg List.head? start
  exact absurd same (by decide)

end Envelope

end RpcTransport
