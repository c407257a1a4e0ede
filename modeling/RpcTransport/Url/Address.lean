import RpcTransport.Text.Ascii
import RpcTransport.Url.Fault

/-!
Numeric hosts. An IPv4 address has up to four numbers, decimal, octal or hexadecimal, the last of
which fills the rest of the address; an IPv6 address has eight pieces of sixteen bits, of which `::`
leaves out a run of zeros.
-/

namespace RpcTransport.Url

/-- The parts of a text between separators. -/
def splitAt (separator : Char) : List Char → List (List Char)
  | [] => [[]]
  | c :: rest =>
    if c = separator then [] :: splitAt separator rest
    else
      match splitAt separator rest with
      | [] => [[c]]
      | part :: parts => (c :: part) :: parts

/-- The value of a digit in a base of up to sixteen. -/
def digit? (base : Nat) (c : Char) : Option Nat := do
  let value ← Ascii.hexValue? (if c.toNat < 128 then Ascii.byte c else 0)
  if value < base then some value else none

/-- The number that digits in a base stand for; no digits stand for zero. -/
def number? (base : Nat) (digits : List Char) : Option Nat :=
  digits.foldlM (fun n c => (digit? base c).map (n * base + ·)) 0

namespace IPv4

/-- A number in an address: hexadecimal after `0x`, octal after another `0`, or else decimal. -/
def part? : List Char → Option Nat
  | [] => none
  | '0' :: 'x' :: rest => number? 16 rest
  | '0' :: 'X' :: rest => number? 16 rest
  | '0' :: c :: rest => number? 8 (c :: rest)
  | digits => number? 10 digits

/-- Whether a host is meant as an address: its last label is a number. -/
def isMeant (host : List Char) : Bool :=
  let labels := (splitAt '.' host).reverse
  let last :=
    match labels with
    | [] :: previous :: _ => previous
    | [] :: [] => []
    | label :: _ => label
    | [] => []
  (!last.isEmpty && last.all Char.isDigit) || (part? last).isSome

/-- The labels of a host, one empty one at the end not counted. -/
def labels (host : List Char) : List (List Char) :=
  let all := splitAt '.' host
  if all.getLast? = some [] then all.dropLast else all

/-- The address of a host that is meant as one. -/
def parse? (host : List Char) : Option Nat := do
  let parts := labels host
  if parts.length > 4 then none
  else
    let numbers ← parts.mapM part?
    let last ← numbers.getLast?
    let leading := numbers.dropLast
    if leading.any (· > 255) || last ≥ Nat.pow 256 (4 - leading.length) then none
    else
      some (leading.foldl (fun n x => n * 256 + x) 0 * Nat.pow 256 (4 - leading.length) + last)

/-- An address in four decimal numbers. -/
def render (address : Nat) : String :=
  let octet (k : Nat) : String := decimalOfNat (address / Nat.pow 256 k % 256)
  octet 3 ++ "." ++ octet 2 ++ "." ++ octet 1 ++ "." ++ octet 0

end IPv4

namespace IPv6

/-- A piece of an address: one to four hexadecimal digits. -/
def piece? (digits : List Char) : Option Nat :=
  if digits.isEmpty || digits.length > 4 then none else number? 16 digits

/-- A decimal number below 256 without leading zeros. -/
def octet? (digits : List Char) : Option Nat :=
  match digits with
  | [] => none
  | '0' :: _ :: _ => none
  | digits =>
    if digits.length > 3 then none
    else (number? 10 digits).filter (· ≤ 255)

/-- The two pieces of an IPv4 address at the end. -/
def embedded? (text : List Char) : Option (List Nat) :=
  match (splitAt '.' text).mapM octet? with
  | some [a, b, c, d] => some [a * 256 + b, c * 256 + d]
  | _ => none

/-- The pieces of one side of `::`. The last may be an IPv4 address if the side ends the whole. -/
def side? (atEnd : Bool) (text : List Char) : Option (List Nat) :=
  if text.isEmpty then some []
  else
    let parts := splitAt ':' text
    match parts.getLast? with
    | none => none
    | some last => do
      let leading ← parts.dropLast.mapM piece?
      if atEnd && last.contains '.' then
        let ending ← embedded? last
        some (leading ++ ending)
      else
        let ending ← piece? last
        some (leading ++ [ending])

/-- A text before and after its first `::`. -/
def splitDouble : List Char → List Char × Option (List Char)
  | ':' :: ':' :: rest => ([], some rest)
  | [] => ([], none)
  | c :: rest =>
    let (before, after) := splitDouble rest
    (c :: before, after)

/-- The eight pieces of an address. -/
def parse? (text : List Char) : Option (List Nat) :=
  match splitDouble text with
  | (all, none) => do
    let pieces ← side? true all
    if pieces.length = 8 then some pieces else none
  | (before, some after) => do
    let left ← side? false before
    let right ← side? true after
    if left.length + right.length ≤ 7 then
      some (left ++ List.replicate (8 - left.length - right.length) 0 ++ right)
    else none

/-- The number of zeros that a list starts with. -/
def zeroRun (pieces : List Nat) : Nat :=
  (pieces.takeWhile (· == 0)).length

/-- Where the first of the longest runs of at least two zeros starts, and its length. -/
def longestRun (pieces : List Nat) : Option (Nat × Nat) :=
  let runs := (List.range pieces.length).map fun k => (k, zeroRun (pieces.drop k))
  let best := runs.foldl (fun best run => if run.2 > best.2 then run else best) (0, 1)
  if best.2 ≥ 2 then some best else none

/-- Pieces in hexadecimal, separated by colons. -/
def renderPieces (pieces : List Nat) : String :=
  ":".intercalate (pieces.map fun piece => String.ofList (Nat.toDigits 16 piece))

/-- An address in its shortest form. -/
def render (pieces : List Nat) : String :=
  match longestRun pieces with
  | none => renderPieces pieces
  | some (start, length) =>
    renderPieces (pieces.take start) ++ "::" ++ renderPieces (pieces.drop (start + length))

end IPv6

end RpcTransport.Url
