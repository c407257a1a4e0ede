import RpcTransport.Json.Lexical

/-!
Numbers in JSON texts. A numeral is read digit by digit; integers of 64 bits are kept exactly, and
any other numeral becomes a double: its leading digits as far as they fit 64 bits, scaled by one
power of ten.
-/

namespace RpcTransport.Json

/-- The parts of a number in a text. An integer has neither fraction nor exponent. -/
structure Numeral where
  negative : Bool
  whole : Bytes
  fraction : Bytes
  /-- The sign and digits of the exponent. -/
  exponent : Option (Bool × Bytes)

namespace Numeral

/-- The digits before the point: a lone zero or no leading zero. -/
def readWhole : Reader Bytes
  | [] => .error (.here .endOfValue [])
  | b :: rest =>
    if b = Ascii.byte '0' then
      match rest with
      | [] => .ok ([b], [])
      | c :: more =>
        if Ascii.isDigit c then .error (.peek .invalidNumber (c :: more)) else .ok ([b], c :: more)
    else if Ascii.isDigit b then
      .ok (b :: rest.takeWhile Ascii.isDigit, rest.dropWhile Ascii.isDigit)
    else .error (.here .invalidNumber rest)

/-- The digits after a point, if there is a point; then at least one. -/
def readFraction : Reader Bytes
  | [] => .ok ([], [])
  | b :: rest =>
    if b = Ascii.point then
      match rest.takeWhile Ascii.isDigit, rest.dropWhile Ascii.isDigit with
      | [], [] => .error (.peek .endOfValue [])
      | [], c :: more => .error (.peek .invalidNumber (c :: more))
      | digits, after => .ok (digits, after)
    else .ok ([], b :: rest)

/-- The digits of an exponent after its sign: at least one. -/
def readExponentDigits (negative : Bool) : Reader (Option (Bool × Bytes))
  | [] => .error (.here .endOfValue [])
  | b :: rest =>
    if Ascii.isDigit b then
      .ok (some (negative, b :: rest.takeWhile Ascii.isDigit), rest.dropWhile Ascii.isDigit)
    else .error (.here .invalidNumber rest)

/-- The exponent, if there is one. -/
def readExponent : Reader (Option (Bool × Bytes))
  | [] => .ok (none, [])
  | b :: rest =>
    if b = Ascii.byte 'e' || b = Ascii.byte 'E' then
      match rest with
      | [] => readExponentDigits false []
      | c :: more =>
        if c = Ascii.plus then readExponentDigits false more
        else if c = Ascii.minus then readExponentDigits true more
        else readExponentDigits false (c :: more)
    else .ok (none, b :: rest)

/-- A number whose sign has been read. -/
def readUnsigned (negative : Bool) : Reader Numeral := fun s => do
  let (whole, s) ← readWhole s
  let (fraction, s) ← readFraction s
  let (exponent, s) ← readExponent s
  return (⟨negative, whole, fraction, exponent⟩, s)

/-- A number from its first byte on. -/
def read : Reader Numeral := fun s =>
  match s with
  | [] => readUnsigned false []
  | b :: rest => if b = Ascii.minus then readUnsigned true rest else readUnsigned false (b :: rest)

/-- Appends digits to a number as long as it stays below `2 ^ 64`. Gives the number and the count of
the digits left over. -/
def accumulate : Nat → Bytes → Nat × Nat
  | n, [] => (n, 0)
  | n, d :: ds =>
    if n * 10 + Ascii.digitValue d < 0x10000000000000000 then
      accumulate (n * 10 + Ascii.digitValue d) ds
    else (n, (d :: ds).length)

/-- The power of ten nearest to `10 ^ n`. -/
def power (n : Nat) : Float :=
  Float.ofScientific 1 false n

/-- Divides by `10 ^ n`, which need not itself be a double. -/
def scaleDown (x : Float) (n : Nat) : Float :=
  if n ≤ 308 then x / power n
  else if x == 0 then x
  else scaleDown (x / power 308) (n - 308)
termination_by n

/-- A significand times a power of ten, unless it is too large for a double. -/
def scale? (significand : Nat) (exponent : Int) : Option Float :=
  let x := significand.toUInt64.toFloat
  if exponent < 0 then some (scaleDown x exponent.natAbs)
  else if exponent ≤ 308 then
    let scaled := x * power exponent.natAbs
    if scaled.isInf then none else some scaled
  else if significand = 0 then some x
  else none

/-- The largest exponent that is looked at. -/
def exponentLimit : Nat :=
  0x7FFFFFFF

/-- Reads the digits of an exponent up to the one that takes it over the limit. Gives the exponent,
or the number of digits after that one. -/
def exponentValue : Nat → Bytes → Except Nat Nat
  | n, [] => .ok n
  | n, d :: ds =>
    let next := n * 10 + Ascii.digitValue d
    if next ≤ exponentLimit then exponentValue next ds else .error ds.length

/-- A double with a sign. -/
def signed (negative : Bool) (x : Float) : Number :=
  .double (if negative then -x else x)

/-- An integer below `2 ^ 64` with a sign. Zero keeps its sign as a double. -/
def ofInteger (negative : Bool) (n : Nat) (h : n < 0x10000000000000000) : Number :=
  if negative then
    if hn : 0 < n ∧ n ≤ 0x8000000000000000 then .integer (-n) (by omega)
    else signed true n.toUInt64.toFloat
  else .integer n (fits64_natCast h)

/-- The number that a numeral stands for, or the number of the numeral's last bytes that come after
the place where it is found to be out of range. -/
def value (numeral : Numeral) : Except Nat Number :=
  let (whole, beyond) := accumulate 0 numeral.whole
  let (significand, unused) := accumulate whole numeral.fraction
  let shift : Int := beyond - ((numeral.fraction.length : Int) - unused)
  let scaled (exponent : Int) : Except Nat Number :=
    match scale? significand exponent with
    | some x => .ok (signed numeral.negative x)
    | none => .error 0
  match numeral.exponent with
  | none =>
    if h : numeral.fraction = [] ∧ beyond = 0 ∧ whole < 0x10000000000000000 then
      .ok (ofInteger numeral.negative whole h.2.2)
    else scaled shift
  | some (negative, digits) =>
    match exponentValue 0 digits with
    | .ok e => scaled (if negative then shift - e else shift + e)
    | .error after =>
      if significand = 0 || negative then .ok (signed numeral.negative 0) else .error after

end Numeral

/-- A number from its first byte on. -/
def readNumber : Reader Number := fun s => do
  let (numeral, rest) ← Numeral.read s
  match numeral.value with
  | .ok n => return (n, rest)
  | .error back => .error ⟨.numberOutOfRange, .left (rest.length + back)⟩

end RpcTransport.Json
