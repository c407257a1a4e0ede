import RpcTransport.Json.Record

/-!
The error object by which a node reports that a call failed.
-/

namespace RpcTransport

/-- A JSON-RPC error object. -/
structure RpcError where
  code : Int64
  message : String
  data : Option Json := none

namespace RpcError

/-- The code of some nodes for a failed execution in their virtual machine. -/
def vmExecutionCode : Int64 := -32015

/-- The data for a reader: a string as it is, anything else as JSON, and nothing for null. -/
def details (error : RpcError) : String :=
  match error.data with
  | none | some .null => ""
  | some (.string s) => s
  | some other => other.text

/-- The error in words. -/
def display (error : RpcError) : String :=
  "JSON-RPC error " ++ decimalOfInt error.code.toInt ++ ": " ++ error.message

/-- The members of an error object's text; absent data is left out. -/
def members (error : RpcError) : List (String × Bytes) :=
  [("code", bytesOf (decimalOfInt error.code.toInt)),
    ("message", Json.Quoted.render error.message)]
  ++ (error.data.map fun data => ("data", data.render)).toList

/-- The text of an error object. -/
def render (error : RpcError) : Bytes :=
  Json.braced error.members

/-- What has been read of an error object. -/
structure Draft where
  code : Option Int64 := none
  message : Option String := none
  data : Option (Option Json) := none

/-- The error object of a draft. -/
def Draft.finish : Draft → Except String RpcError
  | ⟨none, _, _⟩ => .error "code"
  | ⟨_, none, _⟩ => .error "message"
  | ⟨some code, some message, data⟩ => .ok ⟨code, message, data.join⟩

/-- The fields of an error object. Null data counts as none. -/
def record : Json.Record Draft RpcError where
  title := "struct JsonRpcError"
  blank := {}
  fields :=
    [.of "code" .int64 (·.code) fun d x => { d with code := some x },
      .of "message" .string (·.message) fun d x => { d with message := some x },
      .of "data" (.optional .any) (·.data) fun d x => { d with data := some x }]
  finish := Draft.finish

/-- How an error object is read. -/
def shape : Json.Shape RpcError :=
  record.shape

end RpcError

end RpcTransport
