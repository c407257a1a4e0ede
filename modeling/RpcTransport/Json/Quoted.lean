import RpcTransport.Json.Lexical
import RpcTransport.Text.Utf8

/-!
Strings in JSON texts. Writing escapes quotes, backslashes and control characters and leaves every
other byte as it is; reading takes the content apart again, escapes included, and then requires
UTF-8.
-/

namespace RpcTransport.Json.Quoted

/-- The letter that stands after a backslash for a byte with a short escape. -/
def shortEscape? (b : UInt8) : Option UInt8 :=
  if b = Ascii.doubleQuote then some b
  else if b = Ascii.backslash then some b
  else if b = 0x08 then some (Ascii.byte 'b')
  else if b = 0x09 then some (Ascii.byte 't')
  else if b = 0x0A then some (Ascii.byte 'n')
  else if b = 0x0C then some (Ascii.byte 'f')
  else if b = 0x0D then some (Ascii.byte 'r')
  else none

/-- A byte as it is written in a string. -/
def encodeByte (b : UInt8) : Bytes :=
  match shortEscape? b with
  | some letter => [Ascii.backslash, letter]
  | none =>
    if b < 0x20 then
      [Ascii.backslash, Ascii.byte 'u', Ascii.byte '0', Ascii.byte '0',
        Ascii.hexDigit (b.toNat / 16), Ascii.hexDigit (b.toNat % 16)]
    else [b]

/-- The content of a string as it is written. -/
def encode (content : Bytes) : Bytes :=
  content.flatMap encodeByte

/-- A string between quotes. -/
def render (s : String) : Bytes :=
  Ascii.doubleQuote :: encode (bytesOf s) ++ [Ascii.doubleQuote]

/-- The byte that a letter stands for after a backslash. -/
def unescape? (letter : UInt8) : Option UInt8 :=
  if letter = Ascii.doubleQuote then some letter
  else if letter = Ascii.backslash then some letter
  else if letter = Ascii.byte '/' then some letter
  else if letter = Ascii.byte 'b' then some 0x08
  else if letter = Ascii.byte 'f' then some 0x0C
  else if letter = Ascii.byte 'n' then some 0x0A
  else if letter = Ascii.byte 'r' then some 0x0D
  else if letter = Ascii.byte 't' then some 0x09
  else none

/-- Four hexadecimal digits. -/
def fourDigits : Reader Nat
  | a :: b :: c :: d :: rest =>
    match Ascii.hexValue? a, Ascii.hexValue? b, Ascii.hexValue? c, Ascii.hexValue? d with
    | some a, some b, some c, some d => .ok (((a * 16 + b) * 16 + c) * 16 + d, rest)
    | _, _, _, _ => .error (.here .invalidEscape rest)
  | _ => .error (.here .endOfString [])

/-- One expected byte inside a surrogate pair. -/
def pairMark (mark : UInt8) : Reader Unit
  | [] => .error (.here .endOfString [])
  | b :: rest => if b = mark then .ok ((), rest) else .error (.here .endOfHexEscape rest)

/-- The code point of a `\u` escape, after the `u`. A high surrogate needs its low one. -/
def codePoint : Reader Nat := fun s => do
  let (high, s) ← fourDigits s
  if 0xDC00 ≤ high ∧ high ≤ 0xDFFF then
    .error (.here .loneSurrogate s)
  else if high < 0xD800 ∨ 0xDFFF < high then
    return (high, s)
  else
    let ((), s) ← pairMark Ascii.backslash s
    let ((), s) ← pairMark (Ascii.byte 'u') s
    let (low, s) ← fourDigits s
    if low < 0xDC00 ∨ 0xDFFF < low then
      .error (.here .loneSurrogate s)
    else
      return (0x10000 + (high - 0xD800) * 0x400 + (low - 0xDC00), s)

/-- An escape after its backslash, as the bytes that it stands for. -/
def escape : Reader Bytes
  | [] => .error (.here .endOfString [])
  | letter :: rest =>
    match unescape? letter with
    | some b => .ok ([b], rest)
    | none =>
      if letter = Ascii.byte 'u' then do
        let (n, rest) ← codePoint rest
        return (String.utf8EncodeChar (Char.ofNat n), rest)
      else .error (.here .invalidEscape rest)

/-- The content of a string and the text after its closing quote; `fuel` bounds its length. -/
def content : Nat → Reader Bytes
  | 0, _ => .error (.here .endOfString [])
  | _ + 1, [] => .error (.here .endOfString [])
  | fuel + 1, b :: rest =>
    if b = Ascii.doubleQuote then .ok ([], rest)
    else if b = Ascii.backslash then do
      let (head, rest) ← escape rest
      let (tail, rest) ← content fuel rest
      return (head ++ tail, rest)
    else if b < 0x20 then .error (.here .controlCharacter rest)
    else do
      let (tail, rest) ← content fuel rest
      return (b :: tail, rest)

/-- A string after its opening quote. -/
def read : Reader String := fun s => do
  let (bytes, rest) ← content s.length s
  match stringOf? bytes with
  | some text => return (text, rest)
  | none => .error (.here (.invalidCodePoint (bytes.length - Utf8.validPrefix bytes)) rest)

/-- Passes over an escape whose value is not wanted: only its shape counts. -/
def skimEscape : Reader Unit
  | [] => .error (.here .endOfString [])
  | letter :: rest =>
    match unescape? letter with
    | some _ => .ok ((), rest)
    | none =>
      if letter = Ascii.byte 'u' then do
        let (_, rest) ← fourDigits rest
        return ((), rest)
      else .error (.here .invalidEscape rest)

/-- Passes over the content of a string and its closing quote; `fuel` bounds its length. -/
def skimContent : Nat → Reader Unit
  | 0, _ => .error (.here .endOfString [])
  | _ + 1, [] => .error (.here .endOfString [])
  | fuel + 1, b :: rest =>
    if b = Ascii.doubleQuote then .ok ((), rest)
    else if b = Ascii.backslash then do
      let ((), rest) ← skimEscape rest
      skimContent fuel rest
    else if b < 0x20 then .error (.here .controlCharacter (b :: rest))
    else skimContent fuel rest

/-- Passes over a string after its opening quote. -/
def skim : Reader Unit := fun s =>
  skimContent s.length s

end RpcTransport.Json.Quoted
