import RpcTransport.Json.Shape

/-!
Types with named fields. A record is read from an object, whose members may come in any order and
may include unknown ones, or from an array of its fields in order. What has been read so far is a
draft; when no more members come, the draft is finished, which fills in what may be missing.
-/

namespace RpcTransport.Json

/-- A field of a record whose drafts are of type `δ`. -/
structure Field (δ : Type) where
  name : String
  /-- Whether a draft has the field. -/
  isSet : δ → Bool
  /-- Reads the field into a draft. -/
  text : Nat → δ → Reader δ
  /-- Takes the field into a draft. -/
  value : δ → Json → Except Error δ

/-- The field of the given name and shape that a draft keeps at a given place. -/
def Field.of (name : String) (shape : Shape α) (get : δ → Option α) (set : δ → α → δ) :
    Field δ where
  name := name
  isSet draft := (get draft).isSome
  text depth draft s := do
    let (x, s) ← shape.text depth s
    return (set draft x, s)
  value draft v := do
    let x ← shape.value v
    return set draft x

/-- A type with named fields. -/
structure Record (δ α : Type) where
  /-- What the type is called in messages. -/
  title : String
  /-- The draft with no field. -/
  blank : δ
  fields : List (Field δ)
  /-- The record of a draft, or the first field that is missing and has no default. -/
  finish : δ → Except String α

namespace Record

variable {δ α : Type}

/-- The field of a name. -/
def field? (record : Record δ α) (name : String) : Option (Field δ) :=
  record.fields.find? fun field => field.name == name

/-- Reads members into a draft up to the closing brace; `fuel` bounds their number. -/
def textMembers (record : Record δ α) (depth : Nat) : Nat → Bool → δ → Reader δ
  | 0, _, _, s => .error (.peek .endOfObject s)
  | fuel + 1, first, draft, s => do
    let (more, s) ← nextMember first s
    if more then
      let (name, s) ← Quoted.read s
      match record.field? name with
      | none =>
        let ((), s) ← colon s
        let ((), s) ← skim s
        textMembers record depth fuel false draft s
      | some field =>
        if field.isSet draft then
          .error (.here (.duplicateField name) (afterObject s))
        else
          let ((), s) ← colon s
          let (draft, s) ← field.text depth draft s
          textMembers record depth fuel false draft s
    else
      return (draft, s)

/-- A record from an object after its opening brace. -/
def textObject (record : Record δ α) (depth : Nat) : Reader α := fun s => do
  let (draft, s) ← record.textMembers depth (s.length + 1) true record.blank s
  match record.finish draft with
  | .error name => .error (.here (.missingField name) (afterObject s))
  | .ok x =>
    let ((), s) ← closeObject s
    return (x, s)

/-- Reads elements into fields, in order, as far as both reach. -/
def textElements (depth : Nat) : List (Field δ) → Bool → δ → Reader δ
  | [], _, draft, s => .ok (draft, s)
  | field :: fields, first, draft, s => do
    let (more, s) ← nextElement first s
    if more then
      let (draft, s) ← field.text depth draft s
      textElements depth fields false draft s
    else
      return (draft, s)

/-- The complaint about an array that ends before a field without default. -/
def tooShort (record : Record δ α) (name : String) : Cause :=
  .invalidLength (record.fields.findIdx fun field => field.name == name)
    (record.title ++ " with " ++ decimalOfNat record.fields.length ++ " elements")

/-- A record from an array after its opening bracket. -/
def textArray (record : Record δ α) (depth : Nat) : Reader α := fun s => do
  let (draft, s) ← textElements depth record.fields true record.blank s
  match record.finish draft with
  | .error name => .error (.here (record.tooShort name) (afterArray s))
  | .ok x =>
    let ((), s) ← closeArray s
    return (x, s)

/-- Takes members into a draft. -/
def valueMembers (record : Record δ α) : List (String × Json) → δ → Except Error δ
  | [], draft => .ok draft
  | (name, x) :: rest, draft =>
    match record.field? name with
    | none => valueMembers record rest draft
    | some field => do
      let draft ← field.value draft x
      valueMembers record rest draft

/-- Takes elements into fields, in order, as far as both reach. Gives the number of elements left
over, too. -/
def valueElements : List (Field δ) → List Json → δ → Except Error (δ × Nat)
  | [], items, draft => .ok (draft, items.length)
  | _ :: _, [], draft => .ok (draft, 0)
  | field :: fields, x :: items, draft => do
    let draft ← field.value draft x
    valueElements fields items draft

/-- How a record is read. -/
def shape (record : Record δ α) : Shape α where
  text depth s :=
    match skipBlanks s with
    | [] => .error (.peek .endOfValue [])
    | b :: rest =>
      if b = Ascii.openBracket then
        match depth with
        | 0 => .error (.peek .recursionLimit (b :: rest))
        | depth + 1 => record.textArray depth rest
      else if b = Ascii.openBrace then
        match depth with
        | 0 => .error (.peek .recursionLimit (b :: rest))
        | depth + 1 => record.textObject depth rest
      else refuse record.title (b :: rest)
  value
    | .object members => do
      let draft ← record.valueMembers members record.blank
      (record.finish draft).mapError fun name => .ofCause (.missingField name)
    | .array items => do
      let (draft, extra) ← valueElements record.fields items record.blank
      let x ← (record.finish draft).mapError fun name => Error.ofCause (record.tooShort name)
      if extra = 0 then return x
      else .error (.ofCause (.invalidLength items.length "fewer elements in array"))
    | other => mismatch other record.title

end Record

end RpcTransport.Json
