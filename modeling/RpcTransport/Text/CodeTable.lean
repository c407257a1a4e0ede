/-!
Tables of characters, written out. The rows of a table stand between commas or on lines of their
own; a row is a list of hexadecimal numbers, with a blank between two of them.
-/

namespace RpcTransport.CodeTable

/-- The value of a hexadecimal digit in upper case. -/
def digitValue (c : Char) : Nat :=
  if c.isDigit then c.toNat - 48 else c.toNat - 55

/-- The number that hexadecimal digits stand for. -/
def number (digits : String) : Nat :=
  digits.toList.foldl (fun n c => n * 16 + digitValue c) 0

/-- The rows of a table. -/
def rows (text : String) : List (List Nat) :=
  ((text.splitOn "\n").flatMap (·.splitOn ",")).map fun row => (row.splitOn " ").map number

/-- The numbers from `low` to `high`. -/
def span (low high : Nat) : List Nat :=
  List.range' low (high + 1 - low)

end RpcTransport.CodeTable
