import RpcTransport.Json.Record

/-!
Requests: a method call with its parameters under an id. A request is written as an object, several
requests as an array of such objects.
-/

namespace RpcTransport

/-- A JSON-RPC request. -/
structure Request where
  jsonrpc : String
  method : String
  params : List Json
  id : String

namespace Request

/-- The one version of the protocol that is spoken. -/
def version : String := "2.0"

/-- The request that calls `method` under `id`. -/
def make (id method : String) (params : List Json) : Request :=
  ⟨version, method, params, id⟩

/-- The members of a request's text. -/
def members (request : Request) : List (String × Bytes) :=
  [("jsonrpc", Json.Quoted.render request.jsonrpc),
    ("method", Json.Quoted.render request.method),
    ("params", Json.render (.array request.params)),
    ("id", Json.Quoted.render request.id)]

/-- The text of a request. -/
def encode (request : Request) : Bytes :=
  Json.braced request.members

/-- The text of the request that calls `method` under `id`. -/
def encodeCall (method : String) (params : List Json) (id : String) : Bytes :=
  Json.braced
    [("jsonrpc", Json.render (.string version)),
      ("method", Json.render (.string method)),
      ("params", Json.render (.array params)),
      ("id", Json.render (.string id))]

/-- The text of a batch of requests, in order. -/
def encodeBatch (requests : List Request) : Bytes :=
  Json.bracketed (requests.map encode)

/-- Equality of requests; doubles in parameters are compared as numbers. -/
def same (a b : Request) : Bool :=
  a.jsonrpc == b.jsonrpc && a.method == b.method && Json.sameItems a.params b.params && a.id == b.id

/-- What has been read of a request. -/
structure Draft where
  jsonrpc : Option String := none
  method : Option String := none
  params : Option (List Json) := none
  id : Option String := none

/-- The request of a draft that has all fields. -/
def Draft.finish : Draft → Except String Request
  | ⟨none, _, _, _⟩ => .error "jsonrpc"
  | ⟨_, none, _, _⟩ => .error "method"
  | ⟨_, _, none, _⟩ => .error "params"
  | ⟨_, _, _, none⟩ => .error "id"
  | ⟨some jsonrpc, some method, some params, some id⟩ => .ok ⟨jsonrpc, method, params, id⟩

/-- A request's fields, all required. -/
def record : Json.Record Draft Request where
  title := "struct JsonRpcRequest"
  blank := {}
  fields :=
    [.of "jsonrpc" .string (·.jsonrpc) fun d x => { d with jsonrpc := some x },
      .of "method" .string (·.method) fun d x => { d with method := some x },
      .of "params" (.list .any) (·.params) fun d x => { d with params := some x },
      .of "id" .string (·.id) fun d x => { d with id := some x }]
  finish := Draft.finish

/-- How a request is read. -/
def shape : Json.Shape Request :=
  record.shape

end Request

end RpcTransport
