import TokenClient.Url.Percent
import TokenClient.Url.Address

/-! The parts of a URL and the text they make. -/
namespace TokenClient

namespace Url

structure Authority where
  user : List Char
  password : List Char
  host : List Char
  port : Option Nat
  deriving DecidableEq, Repr

inductive Path where
  /-- A path that is not made of segments, as after `localhost:`. -/
  | plain (text : List Char)
  | segments (parts : List (List Char))
  deriving DecidableEq, Repr

inductive Fault where
  | relative
  | emptyHost
  | invalidPort
  | invalidDomain
  | invalidIpv4
  | invalidIpv6
  | invalidHostCharacter
  deriving DecidableEq, Repr

def Fault.message : Fault → String
  | .relative => "relative URL without a base"
  | .emptyHost => "empty host"
  | .invalidPort => "invalid port number"
  | .invalidDomain => "invalid international domain name"
  | .invalidIpv4 => "invalid IPv4 address"
  | .invalidIpv6 => "invalid IPv6 address"
  | .invalidHostCharacter => "invalid domain character"

end Url

/-- All parts are held as they are written out, already encoded. -/
structure Url where
  scheme : List Char
  authority : Option Url.Authority
  path : Url.Path
  query : Option (List Char)
  fragment : Option (List Char)
  deriving DecidableEq, Repr

namespace Url

def Authority.chars (a : Authority) : List Char :=
  let password := if a.password = [] then [] else ':' :: a.password
  let user := a.user ++ password
  let port := match a.port with
    | none => []
    | some port => ':' :: Decimal.digits port
  (if user = [] then [] else user ++ ['@']) ++ a.host ++ port

def segmentChars (parts : List (List Char)) : List Char := parts.flatMap fun part => '/' :: part

/-- Without an authority a path that opens with two slashes is kept apart from one by `/.`. -/
def pathChars (authority : Option Authority) : Path → List Char
  | .plain text => text
  | .segments parts =>
    match authority, parts with
    | none, [] :: _ :: _ => '/' :: '.' :: segmentChars parts
    | _, _ => segmentChars parts

def chars (url : Url) : List Char :=
  url.scheme ++ ':' ::
    ((match url.authority with | none => [] | some a => '/' :: '/' :: a.chars) ++
      pathChars url.authority url.path ++
      (match url.query with | none => [] | some query => '?' :: query) ++
      (match url.fragment with | none => [] | some fragment => '#' :: fragment))

def text (url : Url) : String := String.ofList url.chars

end Url
end TokenClient
