import RpcTransport.Json.Skim
import RpcTransport.Json.Printer

/-!
How a type is read from JSON. A `Shape` reads its type both from a text, where faults have a place,
and from a value that has been read before.
-/

namespace RpcTransport.Json

/-- How values of a type are read. -/
structure Shape (α : Type) where
  /-- From a text in which at most so many arrays and objects may still be nested. -/
  text : Nat → Reader α
  /-- From a value. -/
  value : Json → Except Error α

/-- The refusal of a value where something else was expected. -/
def mismatch (value : Json) (expected : String) : Except Error α :=
  .error (.ofCause (.invalidType (.ofValue value) expected))

mutual

/-- A value taken over from a value. An object whose first member is `embeddedName` stands for the
value written in that member, and may have no other. -/
def reread : Json → Except Error Json
  | .array items => do
    let items ← rereadItems items
    return .array items
  | .object [] => .ok (.object [])
  | .object ((name, x) :: rest) =>
    if name = embeddedName then
      match x with
      | .string text =>
        do
          let value ← parse (bytesOf text)
          if rest.isEmpty then return value
          else .error (.ofCause (.invalidLength (rest.length + 1) "fewer elements in map"))
      | other => mismatch other "raw value"
    else do
      let x ← reread x
      let rest ← rereadMembers rest
      return .object ((name, x) :: rest)
  | other => .ok other

/-- The elements of an array taken over. -/
def rereadItems : List Json → Except Error (List Json)
  | [] => .ok []
  | x :: xs => do
    let x ← reread x
    let xs ← rereadItems xs
    return x :: xs

/-- The members of an object taken over. -/
def rereadMembers : List (String × Json) → Except Error (List (String × Json))
  | [] => .ok []
  | (name, x) :: rest => do
    let x ← reread x
    let rest ← rereadMembers rest
    return (name, x) :: rest

end

namespace Shape

/-- The value that a text in some type's shape stands for. -/
def parse (shape : Shape α) (text : Bytes) : Except Error α :=
  (whole (shape.text depthLimit) text).mapError (Error.ofFault text)

/-- What is made of the values of another shape. -/
def map (f : α → β) (shape : Shape α) : Shape β where
  text depth s := do
    let (x, s) ← shape.text depth s
    return (f x, s)
  value v := do
    let x ← shape.value v
    return f x

/-- Any value. -/
def any : Shape Json where
  text := readValue
  value := reread

/-- A string. -/
def string : Shape String where
  text _ := readString "a string"
  value
    | .string s => .ok s
    | other => mismatch other "a string"

/-- `true` or `false`. -/
def boolean : Shape Bool where
  text _ s := do
    let (found, rest) ← readFound s
    match found with
    | .boolean b => return (b, rest)
    | found => .error (.here (.invalidType found "a boolean") rest)
  value
    | .bool b => .ok b
    | other => mismatch other "a boolean"

/-- An integer from `low` to `high`. -/
def integer (name : String) (low high : Int) : Shape { n : Int // low ≤ n ∧ n ≤ high } where
  text _ s := do
    let (found, rest) ← readFound s
    match found with
    | .integer n =>
      if h : low ≤ n ∧ n ≤ high then return (⟨n, h⟩, rest)
      else .error (.here (.invalidValue (.integer n) name) rest)
    | found => .error (.here (.invalidType found name) rest)
  value
    | .number (.integer n _) =>
      if h : low ≤ n ∧ n ≤ high then .ok ⟨n, h⟩
      else .error (.ofCause (.invalidValue (.integer n) name))
    | other => mismatch other name

/-- A signed integer of 64 bits. -/
def int64 : Shape Int64 :=
  (integer "i64" (-0x8000000000000000) 0x7FFFFFFFFFFFFFFF).map fun n => Int64.ofInt n.1

/-- An unsigned integer of 64 bits, named in messages as given. -/
def unsigned (name : String) : Shape UInt64 :=
  (integer name 0 0xFFFFFFFFFFFFFFFF).map fun n => UInt64.ofNat n.1.toNat

/-- An unsigned integer of 64 bits. -/
def uint64 : Shape UInt64 :=
  unsigned "u64"

/-- An unsigned integer of 8 bits. -/
def uint8 : Shape UInt8 :=
  (integer "u8" 0 255).map fun n => UInt8.ofNat n.1.toNat

/-- Something that may be null. -/
def optional (shape : Shape α) : Shape (Option α) where
  text depth s :=
    match skipBlanks s with
    | [] => do
      let (x, rest) ← shape.text depth []
      return (some x, rest)
    | b :: rest =>
      if b = Ascii.byte 'n' then do
        let ((), rest) ← keyword afterN rest
        return (none, rest)
      else do
        let (x, rest) ← shape.text depth (b :: rest)
        return (some x, rest)
  value
    | .null => .ok none
    | other => do
      let x ← shape.value other
      return some x

/-- An array of things of one shape. -/
def list (shape : Shape α) : Shape (List α) where
  text depth s :=
    match skipBlanks s with
    | [] => .error (.peek .endOfValue [])
    | b :: rest =>
      if b = Ascii.openBracket then
        match depth with
        | 0 => .error (.peek .recursionLimit (b :: rest))
        | depth + 1 => arrayOf (shape.text depth) rest
      else refuse "a sequence" (b :: rest)
  value
    | .array items => items.mapM shape.value
    | other => mismatch other "a sequence"

end Shape

end RpcTransport.Json
