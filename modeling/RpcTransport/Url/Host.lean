import RpcTransport.Text.Utf8
import RpcTransport.Url.Address
import RpcTransport.Url.Domain
import RpcTransport.Url.Percent

/-!
Hosts. A host in brackets is an IPv6 address; any other is decoded, brought into ASCII and checked,
and is an IPv4 address if it ends in a number.
-/

namespace RpcTransport.Url

/-- The host of a URL. -/
inductive Host
  | domain (name : List Char)
  | ipv4 (address : Nat)
  | ipv6 (pieces : List Nat)
  deriving DecidableEq

namespace Host

/-- A text with every encoded byte decoded, if that is a text. -/
def decoded? (text : List Char) : Option (List Char) :=
  (stringOf? (Percent.decode (bytesOf (String.ofList text)))).map String.toList

/-- The host of a URL whose scheme calls for one. -/
def parse (text : List Char) : Except Fault Host :=
  match text with
  | '[' :: rest =>
    if rest.getLast? = some ']' then
      match IPv6.parse? rest.dropLast with
      | some pieces => .ok (.ipv6 pieces)
      | none => .error .invalidIPv6
    else .error .invalidIPv6
  | text =>
    match (decoded? text).bind Domain.ofText? with
    | none => .error .invalidDomain
    | some [] => .error .emptyHost
    | some name =>
      if IPv4.isMeant name then
        match IPv4.parse? name with
        | some address => .ok (.ipv4 address)
        | none => .error .invalidIPv4
      else .ok (.domain name)

/-- The host of a URL with a scheme of its own, which is not decoded. -/
def parseForeign (text : List Char) : Except Fault Host :=
  match text with
  | '[' :: _ => parse text
  | text =>
    if text.any fun c => "\x00\t\n\r #/:<>?@[\\]^|".toList.contains c then .error .invalidCharacter
    else .ok (.domain text)

/-- A host as it stands in a URL. -/
def render : Host → String
  | .domain name => String.ofList name
  | .ipv4 address => IPv4.render address
  | .ipv6 pieces => "[" ++ IPv6.render pieces ++ "]"

end Host

end RpcTransport.Url
