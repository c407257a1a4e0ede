/-!
Punycode, by which a label of a host name with characters above ASCII is written in ASCII.
-/

namespace RpcTransport.Url.Punycode

def base : Nat := 36
def tMin : Nat := 1
def tMax : Nat := 26
def skew : Nat := 38
def damp : Nat := 700
def initialBias : Nat := 72
def firstCode : Nat := 128

/-- Reduces a delta until it is small; each step divides it by 35. -/
def shrink (delta k : Nat) : Nat × Nat :=
  if delta > (base - tMin) * tMax / 2 then shrink (delta / (base - tMin)) (k + base)
  else (delta, k)
termination_by delta
decreasing_by
  simp only [base, tMin, tMax] at *
  omega

/-- The bias after a delta, when so many characters are known. -/
def adapt (delta count : Nat) (first : Bool) : Nat :=
  let delta := if first then delta / damp else delta / 2
  let (delta, k) := shrink (delta + delta / count) 0
  k + (base - tMin + 1) * delta / (delta + skew)

/-- The threshold of the digit at place `k`. -/
def threshold (k bias : Nat) : Nat :=
  if k ≤ bias + tMin then tMin else if k ≥ bias + tMax then tMax else k - bias

/-- Every threshold is positive. -/
theorem tMin_le_threshold (k bias : Nat) : tMin ≤ threshold k bias := by
  unfold threshold
  split
  · exact Nat.le_refl _
  · split
    · decide
    · simp only [tMin] at *
      omega

/-- The value of a digit. -/
def digit? (c : Char) : Option Nat :=
  if 'a' ≤ c ∧ c ≤ 'z' then some (c.toNat - 97)
  else if 'A' ≤ c ∧ c ≤ 'Z' then some (c.toNat - 65)
  else if '0' ≤ c ∧ c ≤ '9' then some (c.toNat - 22)
  else none

/-- The digit of a value below 36. -/
def digit (n : Nat) : Char :=
  if n < 26 then Char.ofNat (97 + n) else Char.ofNat (22 + n)

/-- All numbers of a reading stay below this one. -/
def limit : Nat := 0x100000000

/-- Adds the number that the first digits stand for to `sum`. Gives the sum and the digits after
it. -/
def addNumber? (bias : Nat) : List Char → Nat → Nat → Nat → Option (Nat × List Char)
  | [], _, _, _ => none
  | c :: rest, sum, weight, k => do
    let d ← digit? c
    let sum := sum + d * weight
    let t := threshold k bias
    if limit ≤ sum then none
    else if d < t then some (sum, rest)
    else if limit ≤ weight * (base - t) then none
    else addNumber? bias rest sum (weight * (base - t)) (k + base)

/-- Inserts the characters that digits stand for into the ones known; `fuel` bounds their number.
The next one is at least `code`, and at least at `place` if it is `code`. -/
def insertAll : Nat → List Char → Nat → Nat → Nat → List Nat → Option (List Nat)
  | _, [], _, _, _, known => some known
  | 0, _ :: _, _, _, _, _ => none
  | fuel + 1, digits, code, place, bias, known => do
    let (sum, rest) ← addNumber? bias digits place 1 base
    let count := known.length + 1
    let code := code + sum / count
    if Nat.isValidChar code then
      insertAll fuel rest code (sum % count + 1) (adapt (sum - place) count (place == 0))
        (known.take (sum % count) ++ code :: known.drop (sum % count))
    else none

/-- The characters of a label without its `xn--`. A hyphen divides basic characters from digits, but
is no digit itself. -/
def decode? (label : List Char) : Option (List Char) :=
  let digits := (label.reverse.takeWhile (· != '-')).reverse
  let basic := label.take (label.length - digits.length - 1)
  if basic.all (·.toNat < firstCode) && !(basic.isEmpty && digits != label) then
    (insertAll digits.length digits firstCode 0 initialBias (basic.map (·.toNat))).map
      fun codes => codes.map Char.ofNat
  else none

/-- The digits of a delta. -/
def digitsOf (bias delta k : Nat) : List Char :=
  let t := threshold k bias
  if delta < t ∨ t ≥ base then [digit delta]
  else digit (t + (delta - t) % (base - t)) :: digitsOf bias ((delta - t) / (base - t)) (k + base)
termination_by delta
decreasing_by
  have ht := tMin_le_threshold k bias
  simp only [tMin] at ht
  have hle : (delta - threshold k bias) / (base - threshold k bias) ≤ delta - threshold k bias :=
    Nat.div_le_self _ _
  omega

/-- What has been written when the characters below `code` are. -/
structure Progress where
  text : List Char
  delta : Nat
  bias : Nat
  written : Nat

/-- Writes the places of one character of a label with so many basic characters. -/
def writeCode (basicCount code : Nat) (p : Progress) (c : Nat) : Progress :=
  if c < code then { p with delta := p.delta + 1 }
  else if c = code then
    { text := p.text ++ digitsOf p.bias p.delta base
      delta := 0
      bias := adapt p.delta (p.written + 1) (p.written == basicCount)
      written := p.written + 1 }
  else p

/-- The label after `xn--`. -/
def encode (label : List Char) : List Char :=
  let basic := label.filter (·.toNat < firstCode)
  let codes := label.map (·.toNat)
  let extended := ((codes.filter (firstCode ≤ ·)).mergeSort (· ≤ ·)).eraseDups
  let start : Progress :=
    ⟨if basic.isEmpty then [] else basic ++ ['-'], 0, initialBias, basic.length⟩
  let step (state : Progress × Nat) (code : Nat) : Progress × Nat :=
    let p := { state.1 with delta := state.1.delta + (code - state.2) * (state.1.written + 1) }
    let p := codes.foldl (writeCode basic.length code) p
    ({ p with delta := p.delta + 1 }, code + 1)
  (extended.foldl step (start, firstCode)).1.text

end RpcTransport.Url.Punycode
