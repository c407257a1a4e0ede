import RpcTransport.Json.Reader

/-!
Passing over JSON values that are not kept: their shape is checked, with no limit on nesting, but
neither the range of numbers nor the characters of strings.
-/

namespace RpcTransport.Json

/-- Passes over a number. -/
def skimNumber : Reader Unit := fun s =>
  match Numeral.read s with
  | .ok (_, rest) => .ok ((), rest)
  | .error fault => .error { fault with cause := .invalidNumber }

/-- Passes over a value that is neither array nor object. -/
def skimScalar (b : UInt8) (rest : Bytes) : Except Fault (Unit × Bytes) :=
  if b = Ascii.byte 'n' then keyword afterN rest
  else if b = Ascii.byte 't' then keyword afterT rest
  else if b = Ascii.byte 'f' then keyword afterF rest
  else if b = Ascii.minus ∨ Ascii.isDigit b then skimNumber (b :: rest)
  else if b = Ascii.doubleQuote then Quoted.skim rest
  else .error (.peek .expectedValue (b :: rest))

/-- Passes over the elements of an array from one element on, and over the bracket; `fuel` bounds
their number. -/
def skimElements (item : Reader Unit) : Nat → Reader Unit
  | 0, s => .error (.peek .endOfList s)
  | fuel + 1, s => do
    let ((), s) ← item s
    match skipBlanks s with
    | [] => .error (.peek .endOfList [])
    | b :: rest =>
      if b = Ascii.comma then skimElements item fuel rest
      else if b = Ascii.closeBracket then .ok ((), rest)
      else .error (.peek .expectedListCommaOrEnd (b :: rest))

/-- Passes over an array after its opening bracket. -/
def skimArray (item : Reader Unit) : Reader Unit := fun s =>
  match skipBlanks s with
  | [] => .error (.peek .endOfList [])
  | b :: rest =>
    if b = Ascii.closeBracket then .ok ((), rest) else skimElements item s.length (b :: rest)

/-- Passes over a member. -/
def skimMember (item : Reader Unit) : Reader Unit := fun s =>
  match skipBlanks s with
  | [] => .error (.peek .endOfObject [])
  | b :: rest =>
    if b = Ascii.doubleQuote then do
      let ((), s) ← Quoted.skim rest
      let ((), s) ← colon s
      item s
    else .error (.peek .keyMustBeString (b :: rest))

/-- Passes over the members of an object from one member on, and over the brace; `fuel` bounds their
number. -/
def skimMembers (item : Reader Unit) : Nat → Reader Unit
  | 0, s => .error (.peek .endOfObject s)
  | fuel + 1, s => do
    let ((), s) ← skimMember item s
    match skipBlanks s with
    | [] => .error (.peek .endOfObject [])
    | b :: rest =>
      if b = Ascii.comma then skimMembers item fuel rest
      else if b = Ascii.closeBrace then .ok ((), rest)
      else .error (.peek .expectedObjectCommaOrEnd (b :: rest))

/-- Passes over an object after its opening brace. -/
def skimObject (item : Reader Unit) : Reader Unit := fun s =>
  match skipBlanks s with
  | [] => .error (.peek .endOfObject [])
  | b :: rest =>
    if b = Ascii.closeBrace then .ok ((), rest) else skimMembers item s.length (b :: rest)

/-- Passes over a value with at most `depth` arrays and objects nested in it. -/
def skimWithin : Nat → Reader Unit
  | depth, s =>
    match skipBlanks s with
    | [] => .error (.peek .endOfValue [])
    | b :: rest =>
      if b = Ascii.openBracket then
        match depth with
        | 0 => .error (.peek .endOfList rest)
        | depth + 1 => skimArray (skimWithin depth) rest
      else if b = Ascii.openBrace then
        match depth with
        | 0 => .error (.peek .endOfObject rest)
        | depth + 1 => skimObject (skimWithin depth) rest
      else skimScalar b rest

/-- Passes over a value. A text has no more nested values than bytes. -/
def skim : Reader Unit := fun s =>
  skimWithin s.length s

/-- The text of a value, without the blanks before it; it must be UTF-8. -/
def readSlice : Reader Bytes := fun s => do
  let start := skipBlanks s
  let ((), rest) ← skim start
  let slice := start.take (start.length - rest.length)
  let valid := Utf8.validPrefix slice
  if valid = slice.length then
    return (slice, rest)
  else
    .error ⟨.invalidCodePoint 0, .left (start.length - (valid + 1))⟩

/-- The texts of the elements of an array. -/
def readSlices : Reader (List Bytes) := fun s =>
  match skipBlanks s with
  | [] => .error (.peek .endOfValue [])
  | b :: rest =>
    if b = Ascii.openBracket then arrayOf readSlice rest else refuse "a sequence" (b :: rest)

/-- The texts of the elements of the array that a text holds. -/
def slices (text : Bytes) : Except Error (List Bytes) :=
  (whole readSlices text).mapError (Error.ofFault text)

end RpcTransport.Json
