import RpcTransport.Json.Fault

/-!
The smallest steps of reading JSON: blanks, keywords and the marks between elements and members.
A reader takes the bytes still to come and gives back what it read and the bytes after it.
-/

namespace RpcTransport.Json

/-- Reads something from the start of a text. -/
abbrev Reader (α : Type) := Bytes → Except Fault (α × Bytes)

/-- JSON's blanks: space, line feed, tab and carriage return. -/
def isBlank (b : UInt8) : Bool :=
  b == 0x20 || b == 0x0A || b == 0x09 || b == 0x0D

/-- The text from its first byte that is not blank on. -/
def skipBlanks (s : Bytes) : Bytes :=
  s.dropWhile isBlank

/-- `null` after its first letter. -/
def afterN : Bytes := [Ascii.byte 'u', Ascii.byte 'l', Ascii.byte 'l']

/-- `true` after its first letter. -/
def afterT : Bytes := [Ascii.byte 'r', Ascii.byte 'u', Ascii.byte 'e']

/-- `false` after its first letter. -/
def afterF : Bytes := [Ascii.byte 'a', Ascii.byte 'l', Ascii.byte 's', Ascii.byte 'e']

/-- The letters of a keyword after its first one. -/
def keyword : Bytes → Reader Unit
  | [], s => .ok ((), s)
  | _ :: _, [] => .error (.here .endOfValue [])
  | c :: letters, b :: rest =>
    if b = c then keyword letters rest else .error (.here .expectedIdent rest)

/-- Whether an array has another element. Stands then at that element, else at the bracket; `first`
tells that no element has been read. -/
def nextElement (first : Bool) (s : Bytes) : Except Fault (Bool × Bytes) :=
  match skipBlanks s with
  | [] => .error (.peek .endOfList [])
  | b :: rest =>
    if b = Ascii.closeBracket then .ok (false, b :: rest)
    else if first then .ok (true, b :: rest)
    else if b = Ascii.comma then
      match skipBlanks rest with
      | [] => .error (.peek .endOfValue [])
      | c :: more =>
        if c = Ascii.closeBracket then .error (.peek .trailingComma (c :: more))
        else .ok (true, c :: more)
    else .error (.peek .expectedListCommaOrEnd (b :: rest))

/-- The end of an array, when no more elements are wanted. -/
def closeArray : Reader Unit := fun s =>
  match skipBlanks s with
  | [] => .error (.peek .endOfList [])
  | b :: rest =>
    if b = Ascii.closeBracket then .ok ((), rest)
    else if b = Ascii.comma then
      match skipBlanks rest with
      | [] => .error (.peek .trailingCharacters [])
      | c :: more =>
        if c = Ascii.closeBracket then .error (.peek .trailingComma (c :: more))
        else .error (.peek .trailingCharacters (c :: more))
    else .error (.peek .trailingCharacters (b :: rest))

/-- Whether an object has another member. Stands then after the quote that opens its name, else at
the brace; `first` tells that no member has been read. -/
def nextMember (first : Bool) (s : Bytes) : Except Fault (Bool × Bytes) :=
  match skipBlanks s with
  | [] => .error (.peek .endOfObject [])
  | b :: rest =>
    if b = Ascii.closeBrace then .ok (false, b :: rest)
    else if first then
      if b = Ascii.doubleQuote then .ok (true, rest)
      else .error (.peek .keyMustBeString (b :: rest))
    else if b = Ascii.comma then
      match skipBlanks rest with
      | [] => .error (.peek .endOfValue [])
      | c :: more =>
        if c = Ascii.doubleQuote then .ok (true, more)
        else if c = Ascii.closeBrace then .error (.peek .trailingComma (c :: more))
        else .error (.peek .keyMustBeString (c :: more))
    else .error (.peek .expectedObjectCommaOrEnd (b :: rest))

/-- The colon after a member's name. -/
def colon : Reader Unit := fun s =>
  match skipBlanks s with
  | [] => .error (.peek .endOfObject [])
  | b :: rest =>
    if b = Ascii.colon then .ok ((), rest) else .error (.peek .expectedColon (b :: rest))

/-- The end of an object, when no more members are wanted. -/
def closeObject : Reader Unit := fun s =>
  match skipBlanks s with
  | [] => .error (.peek .endOfObject [])
  | b :: rest =>
    if b = Ascii.closeBrace then .ok ((), rest)
    else if b = Ascii.comma then .error (.peek .trailingComma (b :: rest))
    else .error (.peek .trailingCharacters (b :: rest))

/-- Where a report about an array as a whole is placed: after its bracket if that comes next, and
after a comma. -/
def afterArray (s : Bytes) : Bytes :=
  match skipBlanks s with
  | [] => []
  | b :: rest =>
    if b = Ascii.closeBracket then rest
    else if b = Ascii.comma then skipBlanks rest
    else b :: rest

/-- Where a report about an object as a whole is placed: after its brace if that comes next. -/
def afterObject (s : Bytes) : Bytes :=
  match skipBlanks s with
  | [] => []
  | b :: rest => if b = Ascii.closeBrace then rest else b :: rest

/-- The elements of an array up to its bracket; `fuel` bounds their number. -/
def elements (item : Reader α) : Nat → Bool → Reader (List α)
  | 0, _, s => .error (.peek .endOfList s)
  | fuel + 1, first, s => do
    let (more, s) ← nextElement first s
    if more then
      let (x, s) ← item s
      let (xs, s) ← elements item fuel false s
      return (x :: xs, s)
    else
      return ([], s)

/-- An array after its opening bracket. -/
def arrayOf (item : Reader α) : Reader (List α) := fun s => do
  let (xs, s) ← elements item (s.length + 1) true s
  let ((), s) ← closeArray s
  return (xs, s)

/-- A text that holds one thing and blanks. -/
def whole (read : Reader α) (s : Bytes) : Except Fault α := do
  let (x, rest) ← read s
  match skipBlanks rest with
  | [] => return x
  | b :: more => .error (.peek .trailingCharacters (b :: more))

end RpcTransport.Json
