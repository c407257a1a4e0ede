import RpcTransport.Json.Basic
import RpcTransport.Decimal.Shortest
import RpcTransport.Text.Escaped

/-!
What can be wrong with a JSON text or value, and where. A `Fault` is found while reading and counts
its place from the end of the text; an `Error` is what is reported, with line and column.
-/

namespace RpcTransport.Json

/-- What was found where something else was expected. -/
inductive Found
  | boolean (b : Bool)
  | integer (n : Int)
  | double (x : Float)
  | text (s : String)
  | null
  | sequence
  | map

namespace Found

/-- The kind of a value. -/
def ofValue : Json → Found
  | .null => .null
  | .bool b => .boolean b
  | .number (.integer n _) => .integer n
  | .number (.double x) => .double x
  | .string s => .text s
  | .array _ => .sequence
  | .object _ => .map

/-- The finding in words. -/
def describe : Found → String
  | .boolean true => "boolean `true`"
  | .boolean false => "boolean `false`"
  | .integer n => "integer `" ++ decimalOfInt n ++ "`"
  | .double x => "floating point `" ++ Decimal.wireFormat.render x ++ "`"
  | .text s => "string " ++ Escaped.quote s
  | .null => "null"
  | .sequence => "sequence"
  | .map => "map"

end Found

/-- A place in a text: the line counted from one, the column counted in bytes. -/
structure Position where
  line : Nat
  column : Nat
  deriving DecidableEq

/-- The place after the given bytes. -/
def Position.after (read : Bytes) : Position where
  line := 1 + read.count 0x0A
  column := (read.reverse.takeWhile (· != 0x0A)).length

/-- Why a text or a value can not be read. -/
inductive Cause
  | endOfList
  | endOfObject
  | endOfString
  | endOfValue
  | expectedColon
  | expectedListCommaOrEnd
  | expectedObjectCommaOrEnd
  | expectedIdent
  | expectedValue
  | invalidEscape
  | invalidNumber
  | numberOutOfRange
  /-- The content of a string is not UTF-8 from `back` bytes before its end on. -/
  | invalidCodePoint (back : Nat)
  | controlCharacter
  | keyMustBeString
  | loneSurrogate
  | trailingComma
  | trailingCharacters
  | endOfHexEscape
  | recursionLimit
  | invalidType (found : Found) (expected : String)
  | invalidValue (found : Found) (expected : String)
  | invalidLength (count : Nat) (expected : String)
  | missingField (name : String)
  | duplicateField (name : String)

/-- A position as it is appended to a message. -/
def Position.suffix (p : Position) : String :=
  " at line " ++ decimalOfNat p.line ++ " column " ++ decimalOfNat p.column

/-- A cause in words. -/
def Cause.message : Cause → String
  | .endOfList => "EOF while parsing a list"
  | .endOfObject => "EOF while parsing an object"
  | .endOfString => "EOF while parsing a string"
  | .endOfValue => "EOF while parsing a value"
  | .expectedColon => "expected `:`"
  | .expectedListCommaOrEnd => "expected `,` or `]`"
  | .expectedObjectCommaOrEnd => "expected `,` or `\x7d`"
  | .expectedIdent => "expected ident"
  | .expectedValue => "expected value"
  | .invalidEscape => "invalid escape"
  | .invalidNumber => "invalid number"
  | .numberOutOfRange => "number out of range"
  | .invalidCodePoint _ => "invalid unicode code point"
  | .controlCharacter => "control character (\\u0000-\\u001F) found while parsing a string"
  | .keyMustBeString => "key must be a string"
  | .loneSurrogate => "lone leading surrogate in hex escape"
  | .trailingComma => "trailing comma"
  | .trailingCharacters => "trailing characters"
  | .endOfHexEscape => "unexpected end of hex escape"
  | .recursionLimit => "recursion limit exceeded"
  | .invalidType found expected => "invalid type: " ++ found.describe ++ ", expected " ++ expected
  | .invalidValue found expected => "invalid value: " ++ found.describe ++ ", expected " ++ expected
  | .invalidLength count expected =>
    "invalid length " ++ decimalOfNat count ++ ", expected " ++ expected
  | .missingField name => "missing field `" ++ name ++ "`"
  | .duplicateField name => "duplicate field `" ++ name ++ "`"

/-- Where a fault lies. -/
inductive Place
  /-- So many bytes of the text are still to come. -/
  | left (count : Nat)
  /-- In a text inside the text. -/
  | inside (position : Position)

/-- A fault met while reading. -/
structure Fault where
  cause : Cause
  place : Place

namespace Fault

/-- A fault right after the bytes read so far, with `rest` to come. -/
def here (cause : Cause) (rest : Bytes) : Fault :=
  ⟨cause, .left rest.length⟩

/-- A fault at the next byte, counted as if it had been read when there is one. -/
def peek (cause : Cause) (rest : Bytes) : Fault :=
  ⟨cause, .left (rest.length - 1)⟩

/-- The line and column of a fault in a text. Bytes that are no UTF-8 move the column back. -/
def position (input : Bytes) (fault : Fault) : Position :=
  match fault.place with
  | .inside position => position
  | .left count =>
    let position := Position.after (input.take (input.length - count))
    match fault.cause with
    | .invalidCodePoint back => { position with column := position.column - back }
    | _ => position

end Fault

/-- What is reported about a text or value that can not be read. -/
structure Error where
  cause : Cause
  position : Option Position

namespace Error

/-- The report of a fault in a text. -/
def ofFault (input : Bytes) (fault : Fault) : Error :=
  ⟨fault.cause, some (fault.position input)⟩

/-- The report of a value that does not fit, which has no lines. -/
def ofCause (cause : Cause) : Error :=
  ⟨cause, none⟩

/-- The report in words. -/
def message (error : Error) : String :=
  match error.position with
  | none => error.cause.message
  | some p => error.cause.message ++ p.suffix

end Error

end RpcTransport.Json
