import RpcTransport.Json.Quoted

/-!
The compact text of a JSON value: no blanks, members by increasing name.
-/

namespace RpcTransport

/-- The text of a number. -/
def Number.render : Number → String
  | .integer n _ => decimalOfInt n
  | .double x => Decimal.wireFormat.render x

namespace Json

/-- Texts separated by commas. -/
def commaSeparated : List Bytes → Bytes
  | [] => []
  | [x] => x
  | x :: y :: rest => x ++ Ascii.comma :: commaSeparated (y :: rest)

/-- Texts between brackets. -/
def bracketed (items : List Bytes) : Bytes :=
  Ascii.openBracket :: commaSeparated items ++ [Ascii.closeBracket]

/-- A member's text, from its name and the text of its value. -/
def renderMember (name : String) (value : Bytes) : Bytes :=
  Quoted.render name ++ Ascii.colon :: value

/-- Members between braces, from their names and the texts of their values. -/
def braced (members : List (String × Bytes)) : Bytes :=
  Ascii.openBrace :: commaSeparated (members.map fun m => renderMember m.1 m.2)
    ++ [Ascii.closeBrace]

mutual

/-- The text of a value. -/
def render : Json → Bytes
  | .null => Ascii.byte 'n' :: afterN
  | .bool true => Ascii.byte 't' :: afterT
  | .bool false => Ascii.byte 'f' :: afterF
  | .number n => bytesOf n.render
  | .string s => Quoted.render s
  | .array items => bracketed (renderItems items)
  | .object members => braced (renderMembers members)

/-- The texts of the elements of an array. -/
def renderItems : List Json → List Bytes
  | [] => []
  | x :: xs => x.render :: renderItems xs

/-- The names of the members of an object with the texts of their values. -/
def renderMembers : List (String × Json) → List (String × Bytes)
  | [] => []
  | (name, x) :: rest => (name, x.render) :: renderMembers rest

end

/-- The text of a value as a string. -/
def text (value : Json) : String :=
  (stringOf? value.render).getD ""

end Json

end RpcTransport
