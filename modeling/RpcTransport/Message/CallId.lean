import RpcTransport.Text.Ascii

/-!
Ids for calls, made from random bits.
-/

namespace RpcTransport.CallId

/-- The lower-case hexadecimal digits of a number, without leading zeros. -/
def hexadecimal (n : Nat) : String :=
  String.ofList (Nat.toDigits 16 n)

/-- The id that 128 random bits give: the upper 63 of them. -/
def ofRandom (bits : BitVec 128) : String :=
  hexadecimal (bits.toNat >>> 65)

end RpcTransport.CallId
