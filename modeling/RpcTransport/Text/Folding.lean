import RpcTransport.Text.CharClass
import RpcTransport.Text.Folding.Table
import Std.Data.HashMap

/-!
Folding, which makes names equal that differ only in case or in the form in which their characters
are presented. Folding works character by character; the characters that one folds to fold to
themselves.
-/

namespace RpcTransport.Folding

/-- What the characters above ASCII fold to that do not fold to themselves or to nothing. -/
def images : Std.HashMap Nat (List Char) :=
  Std.HashMap.ofList (allImages.map fun (c, image) => (c, image.map Char.ofNat))

/-- What a character folds to. -/
def image (c : Char) : List Char :=
  if c.toNat < 0x80 then [c.toLower]
  else if CharClass.isIn ignoredRanges c then []
  else images.getD c.toNat [c]

/-- A folded text. -/
def fold (text : List Char) : List Char :=
  text.flatMap image

end RpcTransport.Folding
