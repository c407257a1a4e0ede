import RpcTransport.Text.Ascii

/-!
UTF-8 by its table of well-formed byte sequences: how much of a text is well formed, and the text
with every malformed piece replaced.
-/

namespace RpcTransport.Utf8

/-- Whether a byte may continue a character. -/
def isTail (b : UInt8) : Bool :=
  0x80 ≤ b && b ≤ 0xBF

/-- The length of a character that starts with a given byte, and the range of its second byte. -/
def lead? (b : UInt8) : Option (Nat × UInt8 × UInt8) :=
  if b < 0x80 then some (1, 0, 0)
  else if 0xC2 ≤ b && b ≤ 0xDF then some (2, 0x80, 0xBF)
  else if b = 0xE0 then some (3, 0xA0, 0xBF)
  else if b = 0xED then some (3, 0x80, 0x9F)
  else if 0xE1 ≤ b && b ≤ 0xEF then some (3, 0x80, 0xBF)
  else if b = 0xF0 then some (4, 0x90, 0xBF)
  else if 0xF1 ≤ b && b ≤ 0xF3 then some (4, 0x80, 0xBF)
  else if b = 0xF4 then some (4, 0x80, 0x8F)
  else none

/-- What the start of a text is. -/
inductive Chunk
  /-- A character of so many bytes. -/
  | char (length : Nat)
  /-- So many bytes that no character starts with. -/
  | malformed (length : Nat)

/-- The first character of a non-empty text, or the bytes that could have started one before the
byte that rules it out. -/
def firstChunk (first : UInt8) (rest : Bytes) : Chunk :=
  match lead? first with
  | none => .malformed 1
  | some (length, low, high) =>
    if length = 1 then .char 1
    else
      match rest with
      | second :: more =>
        if low ≤ second && second ≤ high then
          let tails := ((more.take (length - 2)).takeWhile isTail).length
          if tails = length - 2 then .char length else .malformed (2 + tails)
        else .malformed 1
      | [] => .malformed 1

/-- The number of bytes before the first malformed piece, looking at `fuel` characters. -/
def validPrefixWithin : Nat → Bytes → Nat
  | 0, _ => 0
  | _, [] => 0
  | fuel + 1, b :: rest =>
    match firstChunk b rest with
    | .char length => length + validPrefixWithin fuel (rest.drop (length - 1))
    | .malformed _ => 0

/-- The number of bytes before the first malformed piece of a text. -/
def validPrefix (bytes : Bytes) : Nat :=
  validPrefixWithin bytes.length bytes

/-- The bytes of U+FFFD. -/
def replacement : Bytes :=
  [0xEF, 0xBF, 0xBD]

/-- A text of `fuel` characters with its malformed pieces replaced. -/
def repairWithin : Nat → Bytes → Bytes
  | 0, _ => []
  | _, [] => []
  | fuel + 1, b :: rest =>
    match firstChunk b rest with
    | .char length => b :: rest.take (length - 1) ++ repairWithin fuel (rest.drop (length - 1))
    | .malformed length => replacement ++ repairWithin fuel (rest.drop (length - 1))

/-- A text as a string, each malformed piece replaced by U+FFFD. -/
def repair (bytes : Bytes) : String :=
  (stringOf? (repairWithin bytes.length bytes)).getD ""

end RpcTransport.Utf8
