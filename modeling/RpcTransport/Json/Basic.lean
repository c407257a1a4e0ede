import RpcTransport.Text.Ascii

/-!
JSON values. An object keeps its members by name, in the order of the names; a number is an integer
of 64 bits or a double.
-/

namespace RpcTransport

/-- The integers that a number keeps exactly: those of 64 bits, signed or unsigned. -/
abbrev Fits64 (n : Int) : Prop :=
  -0x8000000000000000 ≤ n ∧ n < 0x10000000000000000

theorem fits64_natCast {n : Nat} (h : n < 0x10000000000000000) : Fits64 n := by
  constructor <;> omega

/-- A JSON number. -/
inductive Number
  /-- An integer of 64 bits. -/
  | integer (n : Int) (fits : Fits64 n)
  /-- Any other number, as the double nearest to its text's reading. -/
  | double (x : Float)
  deriving DecidableEq

namespace Number

/-- Numbers are the same when they are of one kind and compare equal. -/
def same : Number → Number → Bool
  | .integer m _, .integer n _ => m == n
  | .double x, .double y => x == y
  | _, _ => false

end Number

/-- A JSON value. -/
inductive Json
  | null
  | bool (b : Bool)
  | number (n : Number)
  | string (s : String)
  | array (items : List Json)
  | object (members : List (String × Json))

namespace Json

instance : Inhabited Json := ⟨.null⟩

/-- A natural number below `2 ^ 64` as a value. -/
def ofNat (n : Nat) (h : n < 0x10000000000000000) : Json :=
  .number (.integer n (fits64_natCast h))

/-- Members are listed by increasing name. Putting a member in replaces one of the same name. -/
def insertMember (name : String) (value : α) : List (String × α) → List (String × α)
  | [] => [(name, value)]
  | (k, v) :: rest =>
    if name < k then (name, value) :: (k, v) :: rest
    else if name = k then (name, value) :: rest
    else (k, v) :: insertMember name value rest

/-- The object with the given members; of two with one name the later one counts. -/
def ofMembers (members : List (String × Json)) : Json :=
  .object (members.foldl (fun acc m => insertMember m.1 m.2 acc) [])

/-- The member of a name. -/
def member? (name : String) : Json → Option Json
  | .object members => members.lookup name
  | _ => none

mutual

/-- Equality of values; doubles are compared as numbers. -/
def same : Json → Json → Bool
  | .null, .null => true
  | .bool a, .bool b => a == b
  | .number a, .number b => a.same b
  | .string a, .string b => a == b
  | .array a, .array b => sameItems a b
  | .object a, .object b => sameMembers a b
  | _, _ => false

/-- Equality of lists of values, element by element. -/
def sameItems : List Json → List Json → Bool
  | [], [] => true
  | a :: as, b :: bs => same a b && sameItems as bs
  | _, _ => false

/-- Equality of lists of members, name by name and value by value. -/
def sameMembers : List (String × Json) → List (String × Json) → Bool
  | [], [] => true
  | (j, a) :: as, (k, b) :: bs => j == k && same a b && sameMembers as bs
  | _, _ => false

end

end Json

end RpcTransport
