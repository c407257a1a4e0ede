import RpcTransport.Text.Ascii

/-!
The shortest decimal text of a double: the fewest digits that read back as the same double, and of
those the nearest to it. The digits come from exact arithmetic on the double's significand and
exponent; how they are laid out is a `Format`.
-/

namespace RpcTransport.Decimal

/-- A positive double as `significand * 2 ^ exponent`, with `boundary` when the next smaller double
is only half as far away as the next larger one. -/
structure Binary where
  significand : Nat
  exponent : Int
  boundary : Bool

/-- The significand and exponent of the magnitude of a finite double. -/
def Binary.ofBits (bits : UInt64) : Binary :=
  let fraction : Nat := bits.toNat % 0x10000000000000
  let biased : Nat := bits.toNat / 0x10000000000000 % 0x800
  if biased = 0 then ⟨fraction, -1074, false⟩
  else ⟨0x10000000000000 + fraction, Int.ofNat biased - 1075, fraction == 0 && biased > 1⟩

/-- A decimal number `0.d₁d₂… * 10 ^ exponent`. -/
structure Digits where
  digits : List Nat
  exponent : Int
  deriving DecidableEq

/-- The place of the first decimal digit of `num / den`: the `k` with
`10 ^ (k - 1) ≤ num / den < 10 ^ k`. -/
def leadingPlace (num den : Nat) : Int :=
  if den ≤ num then (decimalDigits (num / den)).length
  else
    let ceiling := (den + num - 1) / num
    1 - (decimalDigits (ceiling - 1)).length

/-- Which of two points a number takes that lies in the middle between them. -/
inductive Tie
  /-- The point with an even number. -/
  | even
  /-- The point further from zero. -/
  | away
  deriving DecidableEq

/-- Whether a number in the middle between the points `below` and `below + 1` takes the first. -/
def Tie.takesLower (tie : Tie) (below : Nat) : Bool :=
  match tie with
  | .even => below % 2 = 0
  | .away => false

/-- The nearest point to `num / den` on the grid of `count` digits that lies between `low / den` and
`high / den`, in units of the grid. The ends count if `closed`. -/
def gridPoint? (tie : Tie) (num low high den : Nat) (closed : Bool) (place : Int) (count : Nat) :
    Option Nat :=
  -- The grid's unit is `10 ^ (place - count)`; both sides are multiplied out to naturals.
  let shift := place - count
  let up := if shift < 0 then Nat.pow 10 shift.natAbs else 1
  let unit := den * (if shift < 0 then 1 else Nat.pow 10 shift.natAbs)
  let below := num * up / unit
  let inside (k : Nat) : Bool :=
    let point := k * unit
    if closed then low * up ≤ point && point ≤ high * up
    else low * up < point && point < high * up
  let gapBelow := num * up - below * unit
  let gapAbove := (below + 1) * unit - num * up
  match inside below, inside (below + 1) with
  | true, true =>
    if gapBelow < gapAbove || (gapBelow = gapAbove && tie.takesLower below) then some below
    else some (below + 1)
  | true, false => some below
  | false, true => some (below + 1)
  | false, false => none

/-- The shortest digits among grids of `count`, `count + 1`, … digits, at most `more` of them. -/
def searchGrid (tie : Tie) (num low high den : Nat) (closed : Bool) (place : Int) :
    Nat → Nat → Digits
  | 0, count => ⟨decimalDigits (num / den), count⟩
  | more + 1, count =>
    match gridPoint? tie num low high den closed place count with
    | some k =>
      let digits := decimalDigits k
      -- A point that gained a digit is a power of ten.
      ⟨(digits.take count), if digits.length > count then place + 1 else place⟩
    | none => searchGrid tie num low high den closed place more (count + 1)

/-- The shortest digits that read back as a positive double. Seventeen always suffice. -/
def Binary.shortest (tie : Tie) (x : Binary) : Digits :=
  -- In units of a quarter of the last place: the value, and the halfway points to its neighbours.
  let value := 4 * x.significand
  let low := if x.boundary then value - 1 else value - 2
  let high := value + 2
  let quarter := x.exponent - 2
  let factor := Nat.pow 2 quarter.natAbs
  let (scale, den) := if quarter < 0 then (1, factor) else (factor, 1)
  let place := leadingPlace (value * scale) den
  searchGrid tie (value * scale) (low * scale) (high * scale) den (x.significand % 2 = 0) place 17 1

/-- How the digits of a double are laid out. Numbers with their first digit within `positional`
places of the point are written without an exponent. -/
structure Format where
  /-- The least place of a first digit that is written positionally. -/
  least : Int
  /-- The greatest place of a first digit that is written positionally. -/
  greatest : Int
  /-- Whether a positive exponent has its sign. -/
  signed : Bool
  /-- Which of two digits at the end is taken when both are equally near. -/
  tie : Tie
  infinity : String
  notANumber : String

/-- JSON numbers. -/
def wireFormat : Format := ⟨-4, 16, true, .even, "null", "null"⟩

/-- Diagnostic output. -/
def debugFormat : Format := ⟨-3, 16, false, .away, "inf", "NaN"⟩

/-- Digits as characters. -/
def digitText (digits : List Nat) : String :=
  String.ofList (digits.map fun d => Char.ofNat (48 + d))

/-- So many zeros. -/
def zeros (n : Nat) : String :=
  String.ofList (List.replicate n '0')

namespace Format

/-- The text of a positive number given by its digits. -/
def layout (format : Format) (d : Digits) : String :=
  let count := d.digits.length
  if format.least ≤ d.exponent ∧ d.exponent ≤ format.greatest then
    if d.exponent ≤ 0 then "0." ++ zeros d.exponent.natAbs ++ digitText d.digits
    else
      let whole := d.exponent.natAbs
      if count ≤ whole then digitText d.digits ++ zeros (whole - count) ++ ".0"
      else digitText (d.digits.take whole) ++ "." ++ digitText (d.digits.drop whole)
  else
    let mantissa :=
      digitText (d.digits.take 1) ++ (if count ≤ 1 then "" else "." ++ digitText (d.digits.drop 1))
    let exponent := d.exponent - 1
    let sign := if 0 < exponent && format.signed then "+" else ""
    mantissa ++ "e" ++ sign ++ decimalOfInt exponent

/-- The text of a double. -/
def render (format : Format) (x : Float) : String :=
  if x.isNaN then format.notANumber
  else
    let bits := x.toBits
    let magnitude :=
      if x.isInf then format.infinity
      else if bits.toNat % 0x8000000000000000 = 0 then "0.0"
      else format.layout ((Binary.ofBits bits).shortest format.tie)
    if bits.toNat ≥ 0x8000000000000000 then "-" ++ magnitude else magnitude

end Format

end RpcTransport.Decimal
