/-!
Bytes of a text and the ASCII characters that the formats of this library give a meaning to.
-/

namespace RpcTransport

/-- A wire text, byte by byte. -/
abbrev Bytes := List UInt8

/-- The bytes of a string in UTF-8. -/
def bytesOf (s : String) : Bytes :=
  s.toByteArray.data.toList

/-- The string whose UTF-8 form a text is, if it is one. -/
def stringOf? (bytes : Bytes) : Option String :=
  String.fromUTF8? ⟨bytes.toArray⟩

namespace Ascii

/-- The byte of an ASCII character. -/
abbrev byte (c : Char) : UInt8 :=
  c.toNat.toUInt8

abbrev doubleQuote : UInt8 := byte '"'
abbrev backslash : UInt8 := byte '\\'
abbrev comma : UInt8 := byte ','
abbrev colon : UInt8 := byte ':'
abbrev openBracket : UInt8 := byte '['
abbrev closeBracket : UInt8 := byte ']'
abbrev openBrace : UInt8 := byte '{'
abbrev closeBrace : UInt8 := byte '}'
abbrev minus : UInt8 := byte '-'
abbrev plus : UInt8 := byte '+'
abbrev point : UInt8 := byte '.'

/-- One of `0` to `9`. -/
def isDigit (b : UInt8) : Bool :=
  byte '0' ≤ b && b ≤ byte '9'

/-- The value of a decimal digit. -/
def digitValue (b : UInt8) : Nat :=
  b.toNat - 48

/-- The value of a hexadecimal digit, in either case. -/
def hexValue? (b : UInt8) : Option Nat :=
  if isDigit b then some (digitValue b)
  else if byte 'a' ≤ b && b ≤ byte 'f' then some (b.toNat - 87)
  else if byte 'A' ≤ b && b ≤ byte 'F' then some (b.toNat - 55)
  else none

/-- The lower-case hexadecimal digit of a value below sixteen. -/
def hexDigit (n : Nat) : UInt8 :=
  if n < 10 then (48 + n).toUInt8 else (87 + n).toUInt8

/-- Space, tab, line feed, form feed or carriage return. -/
def isSpace (b : UInt8) : Bool :=
  b == 0x20 || b == 0x09 || b == 0x0A || b == 0x0C || b == 0x0D

end Ascii

/-- The decimal digits of a natural number, most significant first. -/
def decimalDigits (n : Nat) : List Nat :=
  if n < 10 then [n] else decimalDigits (n / 10) ++ [n % 10]

/-- A natural number in decimal. -/
def decimalOfNat (n : Nat) : String :=
  String.ofList ((decimalDigits n).map fun d => Char.ofNat (48 + d))

/-- An integer in decimal, with a sign only if it is negative. -/
def decimalOfInt : Int → String
  | .ofNat n => decimalOfNat n
  | .negSucc n => "-" ++ decimalOfNat (n + 1)

end RpcTransport
