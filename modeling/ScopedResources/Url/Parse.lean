import ScopedResources.Url.Address
import ScopedResources.Url.DomainName
import ScopedResources.Url.Fault
import ScopedResources.Numeral

/-!
# Absolute URLs

A URL is read from left to right: scheme, login, host, port and path; what follows the path plays no
part here. Schemes of the web are special: their hosts are domain names or addresses, a backslash
serves as a slash, any number of slashes may follow the colon, and most have a default port. A URL
of any other scheme has a host only behind two slashes, and the host is kept as it is written. -/

namespace ScopedResources

namespace Url

/-- What a scheme is by its name. -/
inductive SchemeKind where
  | special
  | file
  | other
  deriving DecidableEq

namespace SchemeKind

def defaultPort? (scheme : String) : Option Nat :=
  [("http", 80), ("ws", 80), ("https", 443), ("wss", 443), ("ftp", 21)].lookup scheme

/-- The kind of the scheme with this name. -/
def ofName (scheme : String) : SchemeKind :=
  if (defaultPort? scheme).isSome then special else if scheme = "file" then file else other

/-- Whether a character separates the parts of a path. -/
def isSlash (kind : SchemeKind) (c : Char) : Bool :=
  c = '/' || (c = '\\' && kind ≠ other)

end SchemeKind

end Url

/-- What a URL says about the place of a service. -/
structure Url where
  scheme : String
  username : String := ""
  password : Option String := none
  host : Option String := none
  port : Option Nat := none
  /-- The parts of the path behind its first slash. -/
  path : List (List Char) := []

namespace Url

/-- The port that is given, or else the default of the scheme. -/
def portOrDefault? (url : Url) : Option Nat :=
  url.port <|> SchemeKind.defaultPort? url.scheme

def pathText (url : Url) : String :=
  String.ofList (((List.intercalate ['/'] url.path)).dropWhile (· = '/'))

/-- A text without the controls and spaces at its ends, and without tabs and line ends. -/
def cleaned (text : List Char) : List Char :=
  let isEdge := fun (c : Char) => decide (c.toNat ≤ 0x20)
  (((text.dropWhile isEdge).reverse.dropWhile isEdge).reverse).filter
    fun c => c ≠ '\t' && c ≠ '\n' && c ≠ '\r'

/-- The scheme in small letters, and what follows its colon. -/
def splitScheme? (text : List Char) : Option (String × List Char) :=
  let name := text.takeWhile fun c => c.isAlphanum || ['+', '-', '.'].contains c
  match text.drop name.length with
  | ':' :: rest =>
    if name.head?.any Char.isAlpha then some ((String.ofList name).toLower, rest) else none
  | _ => none

/-- Whether a character ends the part of a URL that holds login, host and port. -/
def endsAuthority (kind : SchemeKind) (c : Char) : Bool :=
  kind.isSlash c || c = '?' || c = '#'

/-- User name and password in front of a host. An empty password counts as none. -/
def splitLogin (login : List Char) : String × Option String :=
  let user := login.takeWhile (· ≠ ':')
  let secret := login.drop (user.length + 1)
  (String.ofList (encode isEncodedInLogin user),
    if secret.isEmpty then none else some (String.ofList (encode isEncodedInLogin secret)))

/-- The host at the start of a text. A colon between brackets belongs to the host. -/
def hostPart (kind : SchemeKind) (inBrackets : Bool) : List Char → List Char
  | [] => []
  | c :: rest =>
    if (c = ':' && !inBrackets) || endsAuthority kind c then []
    else c :: hostPart kind (if c = '[' then true else if c = ']' then false else inBrackets) rest

/-- Whether a character may not stand in a host that is kept as it is written. -/
def isForbiddenInHost (c : Char) : Bool :=
  [Char.ofNat 0, '\t', '\n', '\r', ' ', '#', '/', ':', '<', '>', '?', '@', '[', '\\', ']', '^',
    '|'].contains c

/-- The address between the brackets of a host, if it begins with one. -/
def bracketed? : List Char → Option (Except Fault String)
  | '[' :: rest =>
    some <| match rest.reverse with
      | ']' :: body =>
        match Ipv6.parse? body.reverse with
        | some pieces => .ok (Ipv6.shown pieces)
        | none => .error .invalidIpv6
      | _ => .error .invalidIpv6
  | _ => none

/-- The host of a special scheme: an address or a domain name. -/
def domainHost (host : List Char) : Except Fault String :=
  match bracketed? host with
  | some address => address
  | none =>
    match DomainName.toAscii? (decodedBytes host) with
    | none => .error .internationalName
    | some [] => .error .emptyHost
    | some name =>
      if Ipv4.endsInNumber name then
        match Ipv4.parse? name with
        | some address => .ok (Ipv4.shown address)
        | none => .error .invalidIpv4
      else .ok (String.ofList name)

/-- The host of another scheme: an address, or any text. -/
def plainHost (host : List Char) : Except Fault String :=
  match bracketed? host with
  | some address => address
  | none =>
    if host.any isForbiddenInHost then .error .invalidDomainCharacter
    else .ok (String.ofList (encode isControlOrWide host))

/-- The port behind a colon, and what follows it. -/
def splitPort (text : List Char) : Except Fault (Option Nat × List Char) :=
  let digits := text.takeWhile Char.isDigit
  let rest := text.drop digits.length
  let value := digits.foldl (fun n c => n * 10 + (c.toNat - 48)) 0
  if Numeral.maxPort < value then .error .invalidPort
  else if rest.head?.any fun c => !(['/', '\\', '?', '#'].contains c) then .error .invalidPort
  else .ok (if digits.isEmpty then none else some value, rest)

/-- Whether a part of a path is a letter and a colon or a bar. -/
def isDriveLetter : List Char → Bool
  | [c, d] => c.isAlpha && (d = ':' || d = '|')
  | _ => false

/-- Whether a part of a path stands for the place itself. -/
def isSingleDot (part : List Char) : Bool :=
  [".", "%2e"].contains (String.ofList part).toLower

/-- Whether a part of a path stands for the place above. -/
def isDoubleDot (part : List Char) : Bool :=
  ["..", "%2e%2e", "%2e.", ".%2e"].contains (String.ofList part).toLower

/-- The parts of a path that remain, last one first, once the dots among further parts are followed.
A drive letter is not stepped over. -/
def followDots (done : List (List Char)) : List (List Char) → List (List Char)
  | [] => done
  | part :: rest =>
    -- dots at the end of a path leave an empty part behind
    let isLast := rest.isEmpty
    if isDoubleDot part then
      let above := match done with
        | [] => []
        | top :: below => if isDriveLetter top then done else below
      followDots (if isLast then [] :: above else above) rest
    else if isSingleDot part then followDots (if isLast then [] :: done else done) rest
    else followDots (part :: done) rest

/-- The parts of the path that a text begins with. -/
def pathParts (kind : SchemeKind) (text : List Char) : List (List Char) :=
  let written := text.takeWhile fun c => c ≠ '?' && c ≠ '#'
  let body := match written with
    | c :: rest => if kind.isSlash c then rest else written
    | [] => []
  let parts := Text.parts kind.isSlash body
  (followDots [] (parts.map (encode isEncodedInPath))).reverse

/-- Reads login, host, port and path behind the slashes of a scheme that is not `file`. -/
def parseAuthority (scheme : String) (kind : SchemeKind) (text : List Char) : Except Fault Url :=
  let authority := text.takeWhile fun c => !endsAuthority kind c
  -- the last at sign ends the login; those in front of it belong to the password
  let beforeAt := match (authority.reverse.dropWhile (· ≠ '@')) with
    | _ :: login => login.length
    | [] => 0
  let hasAt := authority.contains '@'
  let login := authority.take beforeAt
  let text := if hasAt then text.drop (beforeAt + 1) else text
  let (username, password) := splitLogin login
  let host := hostPart kind false text
  let rest := text.drop host.length
  if hasAt && login.isEmpty && rest.length = text.length && rest.head?.any (endsAuthority kind) then
    .error .emptyHost
  else if host.isEmpty then
    if kind = .special || rest.head? = some ':' || username ≠ "" || password.isSome then
      .error .emptyHost
    else .ok { scheme, path := pathParts kind rest }
  else do
    let shown ← if kind = .special then domainHost host else plainHost host
    let (port, rest) ← match rest with
      | ':' :: behind => splitPort behind
      | _ => .ok (none, rest)
    return { scheme, username, password, host := some shown, port, path := pathParts kind rest }

/-- Reads what follows `file:`. A host is there only behind two slashes; the name of this machine
does not count, and neither does a host in front of a drive letter. -/
def parseFile (text : List Char) : Except Fault Url :=
  match text with
  | c :: d :: rest =>
    if SchemeKind.file.isSlash c && SchemeKind.file.isSlash d then
      let host := rest.takeWhile fun c => !endsAuthority .file c
      if host.isEmpty || isDriveLetter host then .ok { scheme := "file" }
      else do
        let shown ← domainHost host
        let path := pathParts .file (rest.drop host.length)
        if shown = "localhost" || path.head?.any isDriveLetter then return { scheme := "file" }
        else return { scheme := "file", host := some shown, path }
    else .ok { scheme := "file" }
  | _ => .ok { scheme := "file" }

def parse (text : String) : Except Fault Url :=
  match splitScheme? (cleaned text.toList) with
  | none => .error .relative
  | some (scheme, rest) =>
    match SchemeKind.ofName scheme with
    | .file => parseFile rest
    | .special =>
      parseAuthority scheme .special (rest.dropWhile fun c => SchemeKind.special.isSlash c)
    | .other =>
      match rest with
      | '/' :: '/' :: behind => parseAuthority scheme .other behind
      | _ => .ok { scheme }

end Url

end ScopedResources
