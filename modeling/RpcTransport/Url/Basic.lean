import RpcTransport.Url.Host

/-!
URLs. A text is taken apart into scheme, host, port, path, query and fragment; blanks and controls
around it and tabs and line ends in it do not count. Only the schemes of the web and of files have
rules for what follows them.
-/

namespace RpcTransport

/-- A URL, taken apart. Credentials are not kept. -/
structure Url where
  scheme : List Char
  host : Option Url.Host
  port : Option Nat
  /-- The path with its query and fragment, as they are requested. -/
  path : String

namespace Url

/-- The scheme, in lower case. -/
def schemeName (url : Url) : String :=
  String.ofList url.scheme

/-- Which rules a scheme has. -/
inductive SchemeKind
  /-- A scheme of the web: a host must follow. -/
  | web
  | file
  | other
  deriving DecidableEq

/-- The schemes with rules of their own, and their default ports. -/
def webPorts : List (String × Nat) :=
  [("http", 80), ("https", 443), ("ws", 80), ("wss", 443), ("ftp", 21)]

/-- The rules of a scheme. -/
def schemeKind (scheme : List Char) : SchemeKind :=
  if webPorts.any fun entry => entry.1.toList == scheme then .web
  else if scheme = "file".toList then .file
  else .other

/-- The port that need not be said. -/
def defaultPort (scheme : List Char) : Option Nat :=
  (webPorts.find? fun entry => entry.1.toList == scheme).map (·.2)

/-- The text of a URL without what does not count. -/
def strip (text : List Char) : List Char :=
  let isEdge (c : Char) : Bool := c.toNat ≤ 0x20
  let inner := ((text.dropWhile isEdge).reverse.dropWhile isEdge).reverse
  inner.filter fun c => c != '\t' && c != '\n' && c != '\r'

/-- The scheme in lower case and the text after its colon. -/
def splitScheme? (text : List Char) : Option (List Char × List Char) :=
  match text with
  | [] => none
  | c :: _ =>
    if c.isAlpha then
      let isPart (c : Char) : Bool := c.isAlphanum || c == '+' || c == '-' || c == '.'
      match text.dropWhile isPart with
      | ':' :: rest => some ((text.takeWhile isPart).map Char.toLower, rest)
      | _ => none
    else none

/-- Whether a character separates parts of a path. In a web URL a backslash does so, too. -/
def isSlash (kind : SchemeKind) (c : Char) : Bool :=
  c == '/' || (c == '\\' && kind != .other)

/-- Whether a character ends the part of a URL that names host and port. -/
def endsAuthority (kind : SchemeKind) (c : Char) : Bool :=
  isSlash kind c || c == '?' || c == '#'

/-- The text after the credentials, if there are any. Credentials that say something need a host
after them. -/
def dropCredentials (kind : SchemeKind) (text : List Char) : Except Fault (List Char) :=
  let authority := text.takeWhile fun c => !endsAuthority kind c
  let rest := text.dropWhile fun c => !endsAuthority kind c
  if authority.contains '@' then
    let host := (authority.reverse.takeWhile (· != '@')).reverse
    let credentials := authority.take (authority.length - host.length - 1)
    let needsHost := if credentials.isEmpty then !rest.isEmpty else credentials != [':']
    if host.isEmpty && needsHost then .error .emptyHost else .ok (host ++ rest)
  else .ok text

/-- The characters of a host, in which a colon counts only between brackets. -/
def hostLength (kind : SchemeKind) : Bool → List Char → Nat
  | _, [] => 0
  | inBrackets, c :: rest =>
    if endsAuthority kind c || (c == ':' && !inBrackets) then 0
    else
      1 + hostLength kind (if c == '[' then true else if c == ']' then false else inBrackets) rest

/-- The port and the text after it. The default port counts as none. -/
def readPort (scheme : List Char) (text : List Char) : Except Fault (Option Nat × List Char) :=
  let digits := text.takeWhile Char.isDigit
  let rest := text.dropWhile Char.isDigit
  let stop :=
    match rest with
    | [] => true
    | c :: _ => c == '/' || c == '\\' || c == '?' || c == '#'
  match (number? 10 digits).filter (· < 65536) with
  | none => .error .invalidPort
  | some port =>
    if !stop then .error .invalidPort
    else if digits.isEmpty || defaultPort scheme == some port then .ok (none, rest)
    else .ok (some port, rest)

/-- A part of a URL, encoded. -/
def encodePart (set : UInt8 → Bool) (part : List Char) : String :=
  (stringOf? (Percent.encode set (bytesOf (String.ofList part)))).getD ""

/-- Whether a segment of a path stands for the directory that it is in. -/
def isSingleDot (segment : List Char) : Bool :=
  [".", "%2e"].any fun s => s.toList == segment.map Char.toLower

/-- Whether a segment of a path stands for the directory above. -/
def isDoubleDot (segment : List Char) : Bool :=
  ["..", ".%2e", "%2e.", "%2e%2e"].any fun s => s.toList == segment.map Char.toLower

/-- Whether a text is the letter of a drive. -/
def isDrive : List Char → Bool
  | [letter, mark] => letter.isAlpha && (mark == ':' || mark == '|')
  | _ => false

/-- The segments above the last one, nearest first. Above a drive there is nothing. -/
def leave : List (List Char) → List (List Char)
  | [] => []
  | segment :: above => if isDrive segment then segment :: above else above

/-- The segments of a path without dots, in order, after the segments in `above`, nearest first. -/
def normalize (above : List (List Char)) : List (List Char) → List (List Char)
  | [] => above.reverse
  | segment :: rest =>
    if isDoubleDot segment then
      normalize (if rest.isEmpty then [] :: leave above else leave above) rest
    else if isSingleDot segment then normalize (if rest.isEmpty then [] :: above else above) rest
    else normalize (segment :: above) rest

/-- The path of a web URL, from the text after the port. -/
def renderPath (text : List Char) : String :=
  let slashed := text.map fun c => if c == '\\' then '/' else c
  let inner := match slashed with
    | '/' :: rest => rest
    | other => other
  let segments := normalize [] (splitAt '/' inner)
  "/" ++ "/".intercalate (segments.map (encodePart Percent.inPath))

/-- Path, query and fragment of a web URL as they are requested. -/
def renderTarget (text : List Char) : String :=
  let path := text.takeWhile fun c => c != '?' && c != '#'
  let afterPath := text.dropWhile fun c => c != '?' && c != '#'
  let (query, fragment) : String × List Char :=
    match afterPath with
    | '?' :: rest =>
      ("?" ++ encodePart Percent.inQuery (rest.takeWhile (· != '#')), rest.dropWhile (· != '#'))
    | other => ("", other)
  let fragment :=
    match fragment with
    | '#' :: rest => "#" ++ encodePart Percent.inFragment rest
    | _ => ""
  renderPath path ++ query ++ fragment

/-- The URL whose authority follows. -/
def ofAuthority (scheme : List Char) (text : List Char) : Except Fault Url := do
  let kind := schemeKind scheme
  let text ← dropCredentials kind text
  let length := hostLength kind false text
  let name := text.take length
  let rest := text.drop length
  if kind = .web && name.isEmpty then .error .emptyHost
  else
    let host ← if kind = .web then Host.parse name else Host.parseForeign name
    match rest with
    | ':' :: rest =>
      if name.isEmpty then .error .emptyHost
      else do
        let (port, rest) ← readPort scheme rest
        return ⟨scheme, some host, port, renderTarget rest⟩
    | rest => return ⟨scheme, some host, none, renderTarget rest⟩

/-- The URL of a file, from the text after the scheme. -/
def ofFile (scheme : List Char) (text : List Char) : Except Fault Url :=
  match text with
  | a :: b :: rest =>
    if isSlash .file a && isSlash .file b then do
      let name := rest.takeWhile fun c => !endsAuthority .file c
      if name.isEmpty || isDrive name then
        return ⟨scheme, none, none, String.ofList rest⟩
      else
        let host ← Host.parse name
        return ⟨scheme, some host, none, String.ofList (rest.drop name.length)⟩
    else return ⟨scheme, none, none, String.ofList text⟩
  | _ => return ⟨scheme, none, none, String.ofList text⟩

/-- The URL that a text is. -/
def parse (text : String) : Except Fault Url :=
  match splitScheme? (strip text.toList) with
  | none => .error .relativeWithoutBase
  | some (scheme, rest) =>
    match schemeKind scheme with
    | .web => ofAuthority scheme (rest.dropWhile (isSlash .web))
    | .file => ofFile scheme rest
    | .other =>
      match rest with
      | '/' :: '/' :: rest => ofAuthority scheme rest
      | rest => .ok ⟨scheme, none, none, String.ofList rest⟩

/-- A URL with a host, as it is requested. -/
def render (url : Url) : String :=
  url.schemeName ++ "://" ++ (url.host.elim "" Host.render)
    ++ (url.port.elim "" fun port => ":" ++ decimalOfNat port) ++ url.path

end Url

end RpcTransport
