import RpcTransport.Text.Composition
import RpcTransport.Text.Direction
import RpcTransport.Text.Folding
import RpcTransport.Text.Joining
import RpcTransport.Url.Address
import RpcTransport.Url.Punycode

/-!
Domain names. A name may be given with any characters; it is folded and composed, and each of its
labels is checked as it is shown and then written in ASCII.
-/

namespace RpcTransport.Url.Domain

/-- The ASCII characters that no domain contains. -/
def isForbidden (c : Char) : Bool :=
  c.toNat ≤ 0x20 || c == '\x7f' || "%#/:<>?@[\\]^|".toList.contains c

/-- Signs that no domain contains, and signs among them that do not fold to themselves: numbers with
a full stop, rows of dots and signs that describe or replace others. -/
def barredRanges : List (Nat × Nat) :=
  [(0x2024, 0x2026), (0x2488, 0x249B), (0x2FF0, 0x2FFF), (0x31EF, 0x31EF), (0x33C2, 0x33D8),
   (0xFE12, 0xFE19), (0xFE30, 0xFE30), (0xFE52, 0xFE52), (0xFFFC, 0xFFFD), (0x1F100, 0x1F100)]

/-- Whether a character that folds to itself may stand in a domain. -/
def isAllowed (c : Char) : Bool :=
  if c.toNat < 0x80 then !isForbidden c
  else Joining.isJoiner c || !(CharClass.isFormless c || CharClass.isIn barredRanges c)

/-- A domain as it is compared with others. -/
def normalize (text : List Char) : List Char :=
  Composition.compose (Folding.fold text)

/-- Whether all characters of a text are in ASCII. -/
def isAscii (text : List Char) : Bool :=
  text.all (·.toNat < 0x80)

/-- The number of characters of the longest label that is written in Punycode. -/
def longestShown : Nat := 1000

/-- The number of characters of the longest Punycode that is read. -/
def longestWritten : Nat := 2000

/-- Whether a label above ASCII is well-formed. It does not start with a mark, its joiners make a
difference, and it is not too long. -/
def isWellFormed (label : List Char) : Bool :=
  !label.head?.any CharClass.isMark && Joining.areFit [] label && label.length ≤ longestShown

/-- What a label that is written in Punycode starts with. -/
def punycodeMark : List Char :=
  "xn--".toList

/-- A label as it is shown and as it is written in ASCII. -/
structure Label where
  shown : List Char
  written : List Char

/-- The label of a Punycode text, which lacks its `xn--` here. What it stands for must need this
form and be normalized already. -/
def ofPunycode? (text : List Char) : Option Label := do
  if isAscii text && text.length ≤ longestWritten then
    let shown ← Punycode.decode? text
    if !isAscii shown && normalize shown == shown && shown.all isAllowed && isWellFormed shown then
      some ⟨shown, punycodeMark ++ text⟩
    else none
  else none

/-- The label of a normalized text. -/
def label? (text : List Char) : Option Label :=
  if punycodeMark.isPrefixOf text then ofPunycode? (text.drop punycodeMark.length)
  else if isAscii text then some ⟨text, text⟩
  else if isWellFormed text then some ⟨text, punycodeMark ++ Punycode.encode text⟩
  else none

/-- The domain of a text, in ASCII. -/
def ofText? (text : List Char) : Option (List Char) := do
  let text := normalize text
  if text.all isAllowed then
    let labels ← (splitAt '.' text).mapM label?
    if Direction.areOrderly (labels.map Label.shown) then
      some (['.'].intercalate (labels.map Label.written))
    else none
  else none

end RpcTransport.Url.Domain
