import RaceLink.Endpoint.Host

/-!
# Addresses

An address names a host, how to talk to it, and what to ask it for.

* `Url.parse` — the address that a text stands for.  Readers are lenient about blanks, slashes and
  case, so one address has many texts.
* `Url.text` — the one text of an address.

Only addresses with a server behind them matter here: the schemes of the web and of sockets, whose
rules agree.  Any other scheme is read as far as it can be told from a mistake, and kept as its
name.
-/

set_option autoImplicit false

namespace RaceLink
namespace Endpoint

/-- How to talk to a server. -/
inductive Scheme where
  | http | https | ws | wss | ftp
  deriving DecidableEq, Repr

namespace Scheme

/-- The name of a scheme. -/
def name : Scheme → String
  | http => "http"
  | https => "https"
  | ws => "ws"
  | wss => "wss"
  | ftp => "ftp"

/-- The scheme with this name. -/
def ofName? (s : String) : Option Scheme :=
  [http, https, ws, wss, ftp].find? fun t => t.name = s

/-- The port at which a server is expected. -/
def port : Scheme → UInt16
  | http => 80
  | https => 443
  | ws => 80
  | wss => 443
  | ftp => 21

end Scheme

/-- An address of a server. -/
structure Url where
  scheme : Scheme
  /-- The name of the user, escaped; may be empty. -/
  user : List Char
  /-- The password of the user, escaped; may be empty. -/
  password : List Char
  host : Host
  /-- The port, if it is not that of the scheme. -/
  port : Option UInt16
  /-- The segments of the path, escaped. -/
  path : List (List Char)
  query : Option (List Char)
  fragment : Option (List Char)
  deriving DecidableEq, Repr

/-- What a text stands for. -/
inductive Address where
  | server (url : Url)
  /-- An address without a server, or with rules of its own. -/
  | other (scheme : String)
  deriving DecidableEq, Repr

namespace Address

/-- The name of the scheme of an address. -/
def scheme : Address → String
  | server url => url.scheme.name
  | other name => name

end Address

namespace Url

/-! ## The text of an address -/

/-- The user and the password, as they stand before the host. -/
def userInfo (u : Url) : List Char :=
  if u.user.isEmpty && u.password.isEmpty then []
  else u.user ++ (if u.password.isEmpty then [] else ':' :: u.password) ++ ['@']

/-- The port, as it stands behind the host. -/
def portText (u : Url) : List Char :=
  match u.port with
  | none => []
  | some p => ':' :: Nat.toDigits 10 p.toNat

/-- The path, which starts with a slash. -/
def pathText (u : Url) : List Char := '/' :: List.intercalate ['/'] u.path

/-- The text of an address. -/
def text (u : Url) : String :=
  String.ofList (u.scheme.name.toList ++ [':', '/', '/'] ++ u.userInfo ++ u.host.text.toList ++
    u.portText ++ u.pathText ++
    (match u.query with
      | none => []
      | some q => '?' :: q) ++
    (match u.fragment with
      | none => []
      | some f => '#' :: f))

/-- The port at which the server is. -/
def effectivePort (u : Url) : UInt16 := u.port.getD u.scheme.port

/-! ## Reading: the parts -/

/-- The text that is read: without blanks and controls around it, and without tabs and line breaks
anywhere. -/
def clean (s : List Char) : List Char :=
  let blank (c : Char) : Bool := decide (c.toNat ≤ 32)
  let trimmed := ((s.dropWhile blank).reverse.dropWhile blank).reverse
  trimmed.filter fun c => c ≠ '\t' && c ≠ '\n' && c ≠ '\r'

/-- The name of the scheme in small letters, and what comes after its colon. -/
def splitScheme (s : List Char) : Option (List Char × List Char) :=
  let inName (c : Char) : Bool := c.isAlphanum || c = '+' || c = '-' || c = '.'
  match s.takeWhile inName, s.dropWhile inName with
  | c :: name, ':' :: rest => if c.isAlpha then some ((c :: name).map Char.toLower, rest) else none
  | _, _ => none

/-- Whether a character ends the part of an address that names the server; for an address with a
server a backslash counts as a slash. -/
def endsServer (lenient : Bool) (c : Char) : Bool :=
  c = '/' || c = '?' || c = '#' || (lenient && c = '\\')

/-- The text before the last `@` if there is one, and the text after it. -/
def splitUser (s : List Char) : Option (List Char) × List Char :=
  let host := (s.reverse.takeWhile (· ≠ '@')).reverse
  if host.length < s.length then (some (s.take (s.length - host.length - 1)), host) else (none, s)

/-- The text before the first colon, and the text from it on. -/
def splitColon (s : List Char) : List Char × List Char :=
  (s.takeWhile (· ≠ ':'), s.dropWhile (· ≠ ':'))

/-- The host, and the text from the colon of the port on; colons in brackets belong to the host. -/
def splitPort (inside : Bool) : List Char → List Char × List Char
  | [] => ([], [])
  | c :: rest =>
    if c = ':' && !inside then ([], c :: rest)
    else
      let (host, port) := splitPort (c = '[' || (inside && c ≠ ']')) rest
      (c :: host, port)

/-- The port after the colon that `s` begins with, if any; an empty one counts as none. -/
def readPort (s : List Char) : Except Refusal (Option UInt16) :=
  let digits := s.drop 1
  let n := digits.foldl (fun n c => 10 * n + (c.toNat - 48)) 0
  if !digits.all Char.isDigit || 65535 < n then .error .badPort
  else if digits.isEmpty then .ok none
  else .ok (some (UInt16.ofNat n))

/-! ## Reading: the path -/

/-- Whether a segment says to stay where one is. -/
def isHere (s : List Char) : Bool := ["." , "%2e"].contains (String.ofList (s.map Char.toLower))

/-- Whether a segment says to go back one segment. -/
def isUp (s : List Char) : Bool :=
  ["..", ".%2e", "%2e.", "%2e%2e"].contains (String.ofList (s.map Char.toLower))

/-- Whether a segment is the name of a drive; one does not go back beyond it. -/
def isDrive : List Char → Bool
  | [c, mark] => c.isAlpha && (mark = ':' || mark = '|')
  | _ => false

/-- The segments, last one first, after going back by one. -/
def goUp : List (List Char) → List (List Char)
  | [] => []
  | s :: before => if isDrive s then s :: before else before

/-- Walks the segments of a path; `before` are those already passed, last one first. -/
def walk (before : List (List Char)) : List (List Char) → List (List Char)
  | [] => before.reverse
  | [s] =>
    if isUp s then ([] :: goUp before).reverse
    else if isHere s then ([] :: before).reverse
    else (s :: before).reverse
  | s :: rest =>
    if isUp s then walk (goUp before) rest
    else if isHere s then walk before rest
    else walk (s :: before) rest

/-- The segments of a path, of which the slash at the start is not part. -/
def segments (s : List Char) : List (List Char) :=
  let rooted :=
    match s with
    | c :: rest => if c = '/' || c = '\\' then rest else s
    | [] => []
  walk [] ((Text.partsAt (fun c => c = '/' || c = '\\') rooted).map (Percent.encode Percent.inPath))

/-- The path, the query and the fragment of what comes after the server. -/
def splitRest (s : List Char) : List Char × Option (List Char) × Option (List Char) :=
  let beforeHash := s.takeWhile (· ≠ '#')
  let fragment := (s.dropWhile (· ≠ '#')).tail?
  let query := (beforeHash.dropWhile (· ≠ '?')).tail?
  (beforeHash.takeWhile (· ≠ '?'), query, fragment)

/-! ## Reading -/

/-- Reads the address of a server behind the colon of its scheme. -/
def parseServer (scheme : Scheme) (s : List Char) : Except Refusal Url := do
  let s := s.dropWhile fun c => c = '/' || c = '\\'
  let server := s.takeWhile fun c => !endsServer true c
  let rest := s.dropWhile fun c => !endsServer true c
  let (info, place) := splitUser server
  let (hostText, portText) := splitPort false place
  if hostText.isEmpty then throw .noHost
  let host ← Host.parse hostText
  let port ← readPort portText
  let (user, password) := splitColon (info.getD [])
  let (path, query, fragment) := splitRest rest
  pure
    { scheme := scheme
      user := Percent.encode Percent.inUserInfo user
      password := Percent.encode Percent.inUserInfo (password.drop 1)
      host := host
      port := if port = some scheme.port then none else port
      path := segments path
      query := query.map (Percent.encode Percent.inQuery)
      fragment := fragment.map (Percent.encode Percent.inFragment) }

/-- Looks for mistakes in the host of a file, behind the colon of the scheme. -/
def checkFile (s : List Char) : Except Refusal Unit :=
  let slash (c : Char) : Bool := c = '/' || c = '\\'
  match s with
  | a :: b :: rest =>
    if slash a && slash b then
      let host := rest.takeWhile fun c => !endsServer true c
      if host.isEmpty || isDrive host then .ok ()
      else
        match Host.parse host with
        | .ok _ => .ok ()
        | .error e => .error e
    else .ok ()
  | _ => .ok ()

/-- Whether no host may have a character, whatever the scheme. -/
def outsideHost (c : Char) : Bool :=
  ['\x00', '\t', '\n', '\r', ' ', '#', '/', ':', '<', '>', '?', '@', '[', '\\', ']', '^',
    '|'].contains c

/-- Looks for mistakes in the server of an address with an unknown scheme, behind the colon. -/
def checkOther (s : List Char) : Except Refusal Unit := do
  match s with
  | '/' :: '/' :: rest =>
    let server := rest.takeWhile fun c => !endsServer false c
    let (info, place) := splitUser server
    if info = some [] ∧ place.isEmpty ∧ server.length < rest.length then throw .noHost
    let (hostText, portText) := splitPort false place
    if hostText.head? = some '[' then
      let _ ← Host.bracketed hostText
    else if hostText.any outsideHost then throw .badHostCharacter
    if hostText.isEmpty ∧ !portText.isEmpty then throw .noHost
    let _ ← readPort (portText.takeWhile (· ≠ '\\'))
    let (user, password) := splitColon (info.getD [])
    if hostText.isEmpty ∧ (user ++ password.drop 1) ≠ [] then throw .noHost
  | _ => pure ()

/-- The address that a text stands for. -/
def parse (s : String) : Except Refusal Address :=
  match splitScheme (clean s.toList) with
  | none => .error .noScheme
  | some (name, rest) =>
    let name := String.ofList name
    match Scheme.ofName? name with
    | some scheme => (parseServer scheme rest).map .server
    | none =>
      ((if name = "file" then checkFile rest else checkOther rest)).map fun _ => .other name

end Url
end Endpoint
end RaceLink
