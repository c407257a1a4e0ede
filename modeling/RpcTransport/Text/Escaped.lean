import RpcTransport.Text.CharClass

/-!
Quoted texts in messages. A quote, a backslash and every character that would not be seen are
escaped; a code point has its hexadecimal number between braces.
-/

namespace RpcTransport.Escaped

/-- Whether a character is seen as itself between quotes. -/
def isShown (c : Char) : Bool :=
  if c.toNat < 0x7F then 0x20 ≤ c.toNat
  else !(CharClass.isFormless c || CharClass.isExtending c || CharClass.isFiller c)

/-- A natural number in lower-case hexadecimal. -/
def hexadecimal (n : Nat) : List Char :=
  Nat.toDigits 16 n

/-- A character as it stands between quotes. -/
def escapeChar (c : Char) : List Char :=
  if c = '"' then ['\\', '"']
  else if c = '\\' then ['\\', '\\']
  else if c = '\n' then ['\\', 'n']
  else if c = '\r' then ['\\', 'r']
  else if c = '\t' then ['\\', 't']
  else if c = '\x00' then ['\\', '0']
  else if isShown c then [c]
  else ['\\', 'u', '{'] ++ hexadecimal c.toNat ++ ['}']

/-- A text between quotes. -/
def quote (s : String) : String :=
  "\"" ++ String.ofList (s.toList.flatMap escapeChar) ++ "\""

end RpcTransport.Escaped
