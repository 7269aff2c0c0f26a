import TokenClient.Url.Basic
import TokenClient.Url.Domain

/-! Reading an absolute URL the way browsers do: slashes may be missing or doubled, letters of
scheme and host are lowered, default ports are dropped and dot segments resolved. -/
namespace TokenClient.Url

/-- The schemes that always have a host, with their default ports. -/
def defaultPorts : List (String × Nat) :=
  [("http", 80), ("https", 443), ("ws", 80), ("wss", 443), ("ftp", 21)]

inductive Kind where
  | file
  | special
  | other
  deriving DecidableEq, Repr

def Kind.ofScheme (scheme : List Char) : Kind :=
  let name := String.ofList scheme
  if name = "file" then .file
  else if (defaultPorts.lookup name).isSome then .special
  else .other

def isSlash (kind : Kind) (c : Char) : Bool := c == '/' || kind != .other && c == '\\'

def endsAuthority (kind : Kind) (c : Char) : Bool := isSlash kind c || c == '?' || c == '#'

def isAlpha (c : Char) : Bool := 'a' ≤ c && c ≤ 'z' || 'A' ≤ c && c ≤ 'Z'

def isSchemeChar (c : Char) : Bool :=
  isAlpha c || Decimal.isDigit c || c == '+' || c == '-' || c == '.'

def scheme? : List Char → Option (List Char × List Char)
  | c :: rest =>
    if isAlpha c then
      match rest.dropWhile isSchemeChar with
      | ':' :: after => some ((c :: rest.takeWhile isSchemeChar).map Char.toLower, after)
      | _ => none
    else none
  | [] => none

def splitLast (isMark : Char → Bool) : List Char → Option (List Char × List Char)
  | [] => none
  | c :: rest =>
    match splitLast isMark rest with
    | some (before, after) => some (c :: before, after)
    | none => if isMark c then some ([], rest) else none

def hostOf (kind : Kind) (cs : List Char) : Except Fault (List Char) :=
  match cs with
  | '[' :: rest =>
    match rest.reverse with
    | ']' :: inner =>
      match Ipv6.read? inner.reverse with
      | some pieces => .ok (Ipv6.chars pieces)
      | none => .error .invalidIpv6
    | _ => .error .invalidIpv6
  | _ =>
    if kind = .other then
      let forbidden := ['\x00', ' ', '#', '/', ':', '<', '>', '?', '@', '[', '\\', ']', '^', '|']
      if cs.any forbidden.contains then .error .invalidHostCharacter
      else .ok (encode isControl cs)
    else
      match Domain.ascii? (decode (Bytes.ofString (String.ofList cs))) with
      | none => .error .invalidDomain
      | some [] => .error .emptyHost
      | some domain =>
        if Ipv4.endsInNumber domain then
          match Ipv4.read? domain with
          | some address => .ok (Ipv4.chars address)
          | none => .error .invalidIpv4
        else .ok domain

/-- The host ends at the first colon outside square brackets. -/
def splitHost : (bracketed : Bool) → List Char → List Char × List Char
  | _, [] => ([], [])
  | bracketed, c :: rest =>
    if c = ':' ∧ ¬ bracketed then ([], c :: rest)
    else
      let (host, rest) := splitHost (if c = '[' then true else if c = ']' then false else bracketed) rest
      (c :: host, rest)

def portOf (scheme digits : List Char) : Except Fault (Option Nat) :=
  if digits.all Decimal.isDigit then
    let port := Decimal.value digits
    if 65535 < port then .error .invalidPort
    else if digits = [] ∨ defaultPorts.lookup (String.ofList scheme) = some port then .ok none
    else .ok (some port)
  else .error .invalidPort

/-- Name and password, encoded. A colon without a password behind it is dropped. -/
def userOf (cs : List Char) : List Char × List Char :=
  (encode inUserSet (cs.takeWhile (· != ':')), encode inUserSet ((cs.dropWhile (· != ':')).drop 1))

/-- `follows` is the character after the authority, if any. -/
def authorityOf (kind : Kind) (scheme cs : List Char) (follows : Option Char) :
    Except Fault Authority := do
  let (userInfo, address) := match splitLast (· == '@') cs with
    | some (before, after) => (some before, after)
    | none => (none, cs)
  if userInfo = some [] ∧ address = [] ∧ follows.isSome then throw .emptyHost
  let (user, password) := userOf (userInfo.getD [])
  let (name, rest) := splitHost false address
  if kind = .special ∧ name = [] then throw .emptyHost
  let host ← hostOf kind name
  if host = [] ∧ rest ≠ [] then throw .emptyHost
  let port ← portOf scheme (rest.drop 1)
  if host = [] ∧ (user ≠ [] ∨ password ≠ []) then throw .emptyHost
  return ⟨user, password, host, port⟩

def isDot (part : List Char) : Bool := [".", "%2e"].contains (String.ofList (part.map Char.toLower))

def isDoubleDot (part : List Char) : Bool :=
  ["..", ".%2e", "%2e.", "%2e%2e"].contains (String.ofList (part.map Char.toLower))

def isDriveLetter : List Char → Bool
  | [c, mark] => isAlpha c && (mark == ':' || mark == '|')
  | _ => false

/-- Without the last segment; a drive letter at the top stays. -/
def shorten (kind : Kind) (path : List (List Char)) : List (List Char) :=
  match path with
  | [[c, ':']] => if kind = .file ∧ isAlpha c then path else []
  | _ => path.dropLast

def resolve (kind : Kind) (path : List (List Char)) : List (List Char) → List (List Char)
  | [] => path
  | part :: rest =>
    let next :=
      if isDoubleDot part then shorten kind path ++ (if rest = [] then [[]] else [])
      else if isDot part then path ++ (if rest = [] then [[]] else [])
      else if kind = .file ∧ path = [] ∧ isDriveLetter part then path ++ [part.take 1 ++ [':']]
      else path ++ [encode inPathSet part]
    resolve kind next rest

/-- The segments of a path. A file's path does not open with empty ones. -/
def segmentsOf (kind : Kind) (cs : List Char) : List (List Char) :=
  match cs with
  | [] => if kind = .other then [] else [[]]
  | c :: rest =>
    let parts := resolve kind [] (Text.splitOn (isSlash kind) (if isSlash kind c then rest else cs))
    if kind = .file then
      match parts.dropWhile (· == []) with
      | [] => [[]]
      | parts => parts
    else parts

def splitTail (cs : List Char) : List Char × Option (List Char) × Option (List Char) :=
  let (front, fragment) := match cs.dropWhile (· != '#') with
    | _ :: fragment => (cs.takeWhile (· != '#'), some fragment)
    | [] => (cs, none)
  match front.dropWhile (· != '?') with
  | _ :: query => (front.takeWhile (· != '?'), some query, fragment)
  | [] => (front, none, fragment)

def finish (kind : Kind) (scheme : List Char) (authority : Option Authority) (path : Path)
    (query fragment : Option (List Char)) : Url :=
  { scheme, authority, path
    query := query.map (encode (if kind = .other then inQuerySet else inSpecialQuerySet))
    fragment := fragment.map (encode inFragmentSet) }

def withAuthority (kind : Kind) (scheme cs : List Char) : Except Fault Url := do
  let rest := cs.dropWhile fun c => !endsAuthority kind c
  let authority ← authorityOf kind scheme (cs.takeWhile fun c => !endsAuthority kind c) rest.head?
  let (path, query, fragment) := splitTail rest
  return finish kind scheme (some authority) (.segments (segmentsOf kind path)) query fragment

/-- A local file: the host may be missing, and a drive letter is never taken for one. -/
def fileUrl (scheme cs : List Char) : Except Fault Url := do
  let noHost : Authority := ⟨[], [], [], none⟩
  let close (authority : Authority) (rest : List Char) : Url :=
    let (path, query, fragment) := splitTail rest
    finish .file scheme (some authority) (.segments (segmentsOf .file path)) query fragment
  match cs with
  | a :: b :: rest =>
    if isSlash .file a ∧ isSlash .file b then
      let name := rest.takeWhile fun c => !endsAuthority .file c
      let after := rest.dropWhile fun c => !endsAuthority .file c
      if isDriveLetter name then return close noHost rest
      else if name = [] then return close noHost after
      else
        let host ← hostOf .file name
        return close ⟨[], [], if host = "localhost".toList then [] else host, none⟩ after
    else return close noHost cs
  | _ => return close noHost cs

def isTabOrNewline (c : Char) : Bool := c == '\t' || c == '\n' || c == '\r'

def isEdge (c : Char) : Bool := c.toNat ≤ 32

def parse (text : String) : Except Fault Url := do
  let trimmed := ((text.toList.dropWhile isEdge).reverse.dropWhile isEdge).reverse
  let cs := trimmed.filter fun c => !isTabOrNewline c
  match scheme? cs with
  | none => throw .relative
  | some (scheme, rest) =>
    match Kind.ofScheme scheme with
    | .file => fileUrl scheme rest
    | .special => withAuthority .special scheme (rest.dropWhile (isSlash .special))
    | .other =>
      match rest with
      | '/' :: '/' :: rest => withAuthority .other scheme rest
      | '/' :: _ =>
        let (path, query, fragment) := splitTail rest
        return finish .other scheme none (.segments (segmentsOf .other path)) query fragment
      | _ =>
        let (path, query, fragment) := splitTail rest
        return finish .other scheme none (.plain (encode isControl path)) query fragment

end TokenClient.Url
