/-!
What makes a text no URL.
-/

namespace RpcTransport.Url

/-- Why a text is no URL. -/
inductive Fault
  | relativeWithoutBase
  | emptyHost
  | invalidPort
  | invalidIPv4
  | invalidIPv6
  | invalidDomain
  | invalidCharacter
  deriving DecidableEq

/-- A fault in words. -/
def Fault.message : Fault → String
  | .relativeWithoutBase => "relative URL without a base"
  | .emptyHost => "empty host"
  | .invalidPort => "invalid port number"
  | .invalidIPv4 => "invalid IPv4 address"
  | .invalidIPv6 => "invalid IPv6 address"
  | .invalidDomain => "invalid international domain name"
  | .invalidCharacter => "invalid domain character"

end RpcTransport.Url
