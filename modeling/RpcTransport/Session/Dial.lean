import RpcTransport.Url.Uri

/-!
What is dialed. The text of a URL must be a URI as it stands: here nothing is trimmed, put into
lower case or encoded, and backslashes are no slashes. What is dialed is the host and port of its
authority.
-/

namespace RpcTransport

/-- Why a dial fails. -/
inductive DialFault
  /-- A character that no URI has. -/
  | invalidCharacter
  | invalidAuthority
  | tooLong
  /-- Neither an authority alone nor a scheme followed by an authority. -/
  | invalidFormat
  | unsupportedScheme
  /-- The node can not be reached, or does not accept the connection. -/
  | refused (text : String)

/-- A fault in words. -/
def DialFault.message : DialFault → String
  | .invalidCharacter => "HTTP format error: invalid uri character"
  | .invalidAuthority => "HTTP format error: invalid authority"
  | .tooLong => "HTTP format error: uri too long"
  | .invalidFormat => "HTTP format error: invalid format"
  | .unsupportedScheme => "URL error: URL scheme not supported"
  | .refused text => text

namespace Dial

open Url.Uri (isPlain isPathChar isQueryChar)

/-- A character of a scheme. -/
def isSchemeChar (c : Char) : Bool :=
  c.isAlphanum || c == '+' || c == '-' || c == '.'

/-- The scheme of a URI and the text after it; a URI may lack a scheme. -/
def splitScheme (text : List Char) : Option (List Char) × List Char :=
  match text.dropWhile isSchemeChar with
  | ':' :: '/' :: '/' :: rest => (some (text.takeWhile isSchemeChar), rest)
  | _ => (none, text)

/-- Whether a character ends an authority. -/
def endsAuthority (c : Char) : Bool :=
  c == '/' || c == '?' || c == '#'

/-- The characters after the last `@`. -/
def hostAndPort (authority : List Char) : List Char :=
  (authority.reverse.takeWhile (· != '@')).reverse

/-- What comes after a bracketed address; all of the text if there is none. -/
def afterBracket (text : List Char) : List Char :=
  (text.reverse.takeWhile (· != ']')).reverse

/-- What counts of an authority that has been read up to some place. -/
structure Scan where
  /-- The colons since the last `@` or closing bracket. -/
  colons : Nat := 0
  hasOpened : Bool := false
  hasClosed : Bool := false
  /-- Whether there is a percent sign since the last `@` or closing bracket. -/
  hasPercent : Bool := false

/-- The most colons that may stand together: those of an address and one before its port. -/
def mostColons : Nat := 8

/-- Reads one more character. There is one pair of brackets at most, and no percent sign before it
unless an `@` follows that sign. -/
def Scan.read (scan : Scan) (c : Char) : Except DialFault Scan :=
  if c = ':' then
    if scan.colons < mostColons then .ok { scan with colons := scan.colons + 1 }
    else .error .invalidAuthority
  else if c = '[' then
    if scan.hasPercent || scan.hasOpened then .error .invalidAuthority
    else .ok { scan with hasOpened := true }
  else if c = ']' then
    if scan.hasOpened && !scan.hasClosed then
      .ok { scan with hasClosed := true, colons := 0, hasPercent := false }
    else .error .invalidAuthority
  else if c = '@' then .ok { scan with colons := 0, hasPercent := false }
  else if c = '%' then .ok { scan with hasPercent := true }
  else if isPlain c then .ok scan
  else .error .invalidCharacter

/-- Whether a whole authority is well-formed: its bracket is closed, at most one colon stands before
the port, and there is no percent sign in host and port. -/
def Scan.isWellFormed (scan : Scan) : Bool :=
  scan.hasOpened == scan.hasClosed && scan.colons ≤ 1 && !scan.hasPercent

/-- Checks an authority. The first fault counts. -/
def checkAuthority (authority : List Char) : Except DialFault Unit := do
  let scan ← authority.foldlM Scan.read {}
  if scan.isWellFormed && authority.getLast? != some '@' then return ()
  else .error .invalidAuthority

/-- The port that is said. -/
def port? (authority : List Char) : Option Nat :=
  let outside := afterBracket (hostAndPort authority)
  match outside.dropWhile (· != ':') with
  | ':' :: digits =>
    if !digits.isEmpty && digits.all Char.isDigit then
      let port := digits.foldl (fun n c => n * 10 + (c.toNat - 48)) 0
      if port < 65536 then some port else none
    else none
  | _ => none

/-- What is to be dialed. -/
structure Target where
  scheme : Option (List Char)
  authority : List Char

/-- Whether a connection can be spoken over in the scheme as it is written. -/
def Target.isSupported (target : Target) : Bool :=
  target.scheme == some "ws".toList || target.scheme == some "wss".toList

/-- The target of a URI. -/
def Target.ofText (text : String) : Except DialFault Target := do
  if Url.Uri.longest < text.utf8ByteSize then throw .tooLong
  let (scheme, rest) := splitScheme text.toList
  let authority := rest.takeWhile fun c => !endsAuthority c
  let after := rest.dropWhile fun c => !endsAuthority c
  checkAuthority authority
  if authority.isEmpty || (scheme.isNone && !after.isEmpty) then .error .invalidFormat
  else
    let path := after.takeWhile fun c => c != '?' && c != '#'
    let query := (after.dropWhile fun c => c != '?' && c != '#').takeWhile (· != '#')
    if path.all isPathChar && query.all isQueryChar then return ⟨scheme, authority⟩
    else .error .invalidCharacter

/-- Dials, given how the node or the network answers. A port that is not said follows from the
scheme. -/
def dial (text : String) (answer : Except DialFault Unit) : Except DialFault Unit := do
  let target ← Target.ofText text
  if (port? target.authority).isNone && !target.isSupported then .error .unsupportedScheme
  else
    answer
    if target.isSupported then return () else .error .unsupportedScheme

end Dial

end RpcTransport
