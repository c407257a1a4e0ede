import RpcTransport.Text.Ascii

/-!
URIs, as requests and connections carry them. A URI is stricter than a text that is read as a URL:
it has a longest length, and its characters are those that have a place in it.
-/

namespace RpcTransport.Url.Uri

/-- The number of bytes of the longest URI. -/
def longest : Nat := 65534

/-- A character of an authority that has no meaning of its own there. -/
def isPlain (c : Char) : Bool :=
  c.isAlphanum || "-._~!$&'()*+,;=".toList.contains c

/-- Whether a character is neither a control nor a blank of ASCII. -/
def isSeen (c : Char) : Bool :=
  c.toNat > 0x20 && c != '\x7f'

/-- A character of a path. -/
def isPathChar (c : Char) : Bool :=
  isSeen c && !"#<>?\x60".toList.contains c

/-- A character of a query. -/
def isQueryChar (c : Char) : Bool :=
  isSeen c && !"\"#<>".toList.contains c

end RpcTransport.Url.Uri
