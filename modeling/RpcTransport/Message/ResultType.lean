import RpcTransport.Message.Envelope
import RpcTransport.Message.Request

/-!
The types that a caller may ask for as a result, and the JSON in which each of them is written.
-/

namespace RpcTransport

/-- A type with its reading from JSON and its writing as JSON. -/
structure ResultType where
  Carrier : Type
  shape : Json.Shape Carrier
  render : Carrier → Bytes

namespace Json.Shape

/-- A shape for things that are only taken from values. -/
def ofValueOnly (value : Json → Except Error α) : Shape α where
  text depth s := do
    let (v, rest) ← readValue depth s
    match value v with
    | .ok x => return (x, rest)
    | .error error => .error (.here error.cause rest)
  value := value

/-- A string of one character. -/
def character : Shape Char :=
  ofValueOnly fun
    | .string s =>
      match s.toList with
      | [c] => .ok c
      | _ => .error (.ofCause (.invalidValue (.text s) "a character"))
    | other => mismatch other "a character"

/-- Null, which says nothing. -/
def unit : Shape Unit :=
  ofValueOnly fun
    | .null => .ok ()
    | other => mismatch other "unit"

/-- An array of two things. -/
def pair (first : Shape α) (second : Shape β) : Shape (α × β) :=
  ofValueOnly fun
    | .array items =>
      match items with
      | [] => .error (.ofCause (.invalidLength 0 "a tuple of size 2"))
      | x :: rest => do
        let x ← first.value x
        match rest with
        | [] => .error (.ofCause (.invalidLength 1 "a tuple of size 2"))
        | y :: more => do
          let y ← second.value y
          if more.isEmpty then return (x, y)
          else .error (.ofCause (.invalidLength items.length "fewer elements in array"))
    | other => mismatch other "a tuple of size 2"

/-- An object whose members are all of one shape. -/
def mapOf (shape : Shape α) : Shape (List (String × α)) :=
  ofValueOnly fun
    | .object members => members.mapM fun (name, v) => do
      let x ← shape.value v
      return (name, x)
    | other => mismatch other "a map"

end Json.Shape

namespace ResultType

/-- An integer in decimal. -/
def decimal (n : Int) : Bytes :=
  bytesOf (decimalOfInt n)

/-- Any JSON value. -/
def value : ResultType := ⟨Json, .any, Json.render⟩

/-- A string. -/
def string : ResultType := ⟨String, .string, Json.Quoted.render⟩

/-- An unsigned integer of 64 bits. -/
def uint64 : ResultType := ⟨UInt64, .uint64, fun n => decimal n.toNat⟩

/-- A signed integer of 64 bits. -/
def int64 : ResultType := ⟨Int64, .int64, fun n => decimal n.toInt⟩

/-- An unsigned integer of 8 bits. -/
def uint8 : ResultType := ⟨UInt8, .uint8, fun n => decimal n.toNat⟩

/-- `true` or `false`. -/
def boolean : ResultType := ⟨Bool, .boolean, fun b => Json.render (.bool b)⟩

/-- One character. -/
def character : ResultType := ⟨Char, .character, fun c => Json.Quoted.render c.toString⟩

/-- Nothing. -/
def unit : ResultType := ⟨Unit, .unit, fun _ => Json.render .null⟩

/-- A list of things of a type. -/
def list (item : ResultType) : ResultType :=
  ⟨List item.Carrier, .list item.shape, fun xs => Json.bracketed (xs.map item.render)⟩

/-- Two things of two types. -/
def pair (first second : ResultType) : ResultType :=
  ⟨first.Carrier × second.Carrier, .pair first.shape second.shape,
    fun x => Json.bracketed [first.render x.1, second.render x.2]⟩

/-- Things of a type by name, listed by name. -/
def map (item : ResultType) : ResultType :=
  ⟨List (String × item.Carrier), .mapOf item.shape,
    fun xs => Json.braced (xs.map fun x => (x.1, item.render x.2))⟩

/-- A thing of a type, or null. -/
def optional (item : ResultType) : ResultType :=
  ⟨Option item.Carrier, .optional item.shape, fun x => x.elim (Json.render .null) item.render⟩

/-- The parameters of a notification. -/
def notification : ResultType := ⟨Notification, Notification.shape, Notification.render⟩

/-- A node's error object. -/
def rpcError : ResultType := ⟨RpcError, RpcError.shape, RpcError.render⟩

/-- A request. -/
def request : ResultType := ⟨Request, Request.shape, Request.encode⟩

/-- The result that a message carries, as a type, written again. -/
def text (type : ResultType) (e : Envelope) : Outcome Bytes := do
  let x ← e.decodeResult type.shape
  return type.render x

end ResultType

end RpcTransport
