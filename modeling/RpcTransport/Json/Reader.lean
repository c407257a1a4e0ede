import RpcTransport.Json.Numeral
import RpcTransport.Json.Quoted

/-!
Reading JSON values that are kept. Arrays and objects may be nested 127 deep.
-/

namespace RpcTransport.Json

/-- How deep arrays and objects may be nested in a text. -/
def depthLimit : Nat := 127

/-- An object whose first member has this name stands for the value written in that member, a
string. -/
def embeddedName : String := "$serde_json::private::RawValue"

/-- A member's name, its colon and its value, read as `item` says for that name. The opening quote
has been read. -/
def member (item : String → Reader α) : Reader (String × α) := fun s => do
  let (name, s) ← Quoted.read s
  let ((), s) ← colon s
  let (x, s) ← item name s
  return ((name, x), s)

/-- The members of an object up to its brace; `fuel` bounds their number. -/
def members (item : String → Reader α) : Nat → Bool → Reader (List (String × α))
  | 0, _, s => .error (.peek .endOfObject s)
  | fuel + 1, first, s => do
    let (more, s) ← nextMember first s
    if more then
      let (m, s) ← member item s
      let (ms, s) ← members item fuel false s
      return (m :: ms, s)
    else
      return ([], s)

/-- A value that is neither array nor object, given its first byte and the bytes after it. -/
def readScalar (b : UInt8) (rest : Bytes) : Except Fault (Json × Bytes) :=
  if b = Ascii.byte 'n' then do
    let ((), rest) ← keyword afterN rest
    return (.null, rest)
  else if b = Ascii.byte 't' then do
    let ((), rest) ← keyword afterT rest
    return (.bool true, rest)
  else if b = Ascii.byte 'f' then do
    let ((), rest) ← keyword afterF rest
    return (.bool false, rest)
  else if b = Ascii.minus ∨ Ascii.isDigit b then do
    let (n, rest) ← readNumber (b :: rest)
    return (.number n, rest)
  else if b = Ascii.doubleQuote then do
    let (text, rest) ← Quoted.read rest
    return (.string text, rest)
  else .error (.peek .expectedValue (b :: rest))

/-- What comes next, as it is named in messages. An array or object is not read. -/
def readFound : Reader Found := fun s =>
  match skipBlanks s with
  | [] => .error (.peek .endOfValue [])
  | b :: rest =>
    if b = Ascii.openBracket then .ok (.sequence, b :: rest)
    else if b = Ascii.openBrace then .ok (.map, b :: rest)
    else do
      let (value, rest) ← readScalar b rest
      return (.ofValue value, rest)

/-- The refusal of whatever comes next, where something else was expected. -/
def refuse (expected : String) : Reader α := fun s => do
  let (found, rest) ← readFound s
  .error (.here (.invalidType found expected) rest)

/-- A string, named in messages by what it is wanted for. -/
def readString (expected : String) : Reader String := fun s =>
  match skipBlanks s with
  | [] => .error (.peek .endOfValue [])
  | b :: rest =>
    if b = Ascii.doubleQuote then Quoted.read rest else refuse expected (b :: rest)

/-- An object after its opening brace, whose values are read by `item`. `embedded` reads the text in
a string that stands for a value. -/
def objectOf (item : Reader Json) (embedded : Bytes → Except Fault Json) : Reader Json :=
    fun s => do
  let (more, s) ← nextMember true s
  if !more then
    let ((), s) ← closeObject s
    return (.object [], s)
  else
    let (name, s) ← Quoted.read s
    let ((), s) ← colon s
    if name = embeddedName then
      let (text, s) ← readString "raw value" s
      let value ← embedded (bytesOf text)
      let ((), s) ← closeObject s
      return (value, s)
    else
      let (x, s) ← item s
      let (rest, s) ← members (fun _ => item) (s.length + 1) false s
      let ((), s) ← closeObject s
      return (.ofMembers ((name, x) :: rest), s)

/-- A value with at most `depth` arrays and objects nested in it. -/
def valueWith (embedded : Bytes → Except Fault Json) : Nat → Reader Json
  | depth, s =>
    match skipBlanks s with
    | [] => .error (.peek .endOfValue [])
    | b :: rest =>
      if b = Ascii.openBracket then
        match depth with
        | 0 => .error (.peek .recursionLimit (b :: rest))
        | depth + 1 => do
          let (items, rest) ← arrayOf (valueWith embedded depth) rest
          return (.array items, rest)
      else if b = Ascii.openBrace then
        match depth with
        | 0 => .error (.peek .recursionLimit (b :: rest))
        | depth + 1 => objectOf (valueWith embedded depth) embedded rest
      else readScalar b rest

/-- A fault in an embedded text, with its own line and column. -/
def Fault.embed (text : Bytes) (fault : Fault) : Fault :=
  ⟨fault.cause, .inside (fault.position text)⟩

/-- The value in a text that stands in a string; `nesting` bounds how often texts stand in texts,
and each is shorter than the one around it. -/
def embedded : Nat → Bytes → Except Fault Json
  | 0, _ => .error (.here .endOfValue [])
  | nesting + 1, text =>
    (whole (valueWith (embedded nesting) depthLimit) text).mapError (Fault.embed text)

/-- A value with at most `depth` arrays and objects nested in it. -/
def readValue (depth : Nat) : Reader Json := fun s =>
  valueWith (embedded s.length) depth s

/-- The value of a text. -/
def parse (text : Bytes) : Except Error Json :=
  (whole (readValue depthLimit) text).mapError (Error.ofFault text)

end RpcTransport.Json
