import RpcTransport.Text.Ascii

/-!
Percent-encoding: bytes that may not stand in a part of a URL are written as `%` and two hexadecimal
digits.
-/

namespace RpcTransport.Url.Percent

/-- Whether a byte is a control character or above ASCII, and so encoded in every part. -/
def isControl (b : UInt8) : Bool :=
  b < 0x20 || b ≥ 0x7F

/-- Whether a byte is one of some ASCII characters. -/
def isAmong (characters : List Char) (b : UInt8) : Bool :=
  characters.any fun c => Ascii.byte c == b

/-- What is encoded in a path. -/
def inPath (b : UInt8) : Bool :=
  isControl b || isAmong [' ', '"', '#', '<', '>', '?', '\x60', '{', '}'] b

/-- What is encoded in a query. -/
def inQuery (b : UInt8) : Bool :=
  isControl b || isAmong [' ', '"', '#', '<', '>', '\''] b

/-- What is encoded in a fragment. -/
def inFragment (b : UInt8) : Bool :=
  isControl b || isAmong [' ', '"', '<', '>', '\x60'] b

/-- The upper-case hexadecimal digit of a value below sixteen. -/
def upperHexDigit (n : Nat) : UInt8 :=
  if n < 10 then (48 + n).toUInt8 else (55 + n).toUInt8

/-- A text with the bytes of a set encoded. -/
def encode (set : UInt8 → Bool) (text : Bytes) : Bytes :=
  text.flatMap fun b =>
    if set b then [Ascii.byte '%', upperHexDigit (b.toNat / 16), upperHexDigit (b.toNat % 16)]
    else [b]

/-- A text with every encoded byte decoded. A `%` without two digits stands for itself. -/
def decode : Bytes → Bytes
  | [] => []
  | [a] => [a]
  | [a, b] => [a, b]
  | a :: b :: c :: rest =>
    if a = Ascii.byte '%' then
      match Ascii.hexValue? b, Ascii.hexValue? c with
      | some high, some low => (high * 16 + low).toUInt8 :: decode rest
      | _, _ => a :: decode (b :: c :: rest)
    else a :: decode (b :: c :: rest)

end RpcTransport.Url.Percent
