import Courier.Text.Encoding
import Courier.Url.Address
import Courier.Url.Domain

/-! Parsed URLs and their text. -/

namespace Courier

inductive UrlError where
  | emptyHost
  | badDomain
  | badPort
  | badIpv4
  | badIpv6
  | badHostCharacter
  | relative
  deriving DecidableEq

def UrlError.message : UrlError → String
  | emptyHost => "empty host"
  | badDomain => "invalid international domain name"
  | badPort => "invalid port number"
  | badIpv4 => "invalid IPv4 address"
  | badIpv6 => "invalid IPv6 address"
  | badHostCharacter => "invalid domain character"
  | relative => "relative URL without a base"

inductive Host where
  | name (s : String)
  | ipv4 (address : Nat)
  | ipv6 (pieces : List Nat)
  deriving DecidableEq

namespace Host

def spell : Host → String
  | name s => s
  | ipv4 a => String.ofList (Ipv4.spell a)
  | ipv6 ps => String.ofList ('[' :: Ipv6.spell ps ++ [']'])

def bracketed? (s : List Char) : Option (List Char) :=
  match s, s.getLast? with
  | '[' :: rest, some ']' => some rest.dropLast
  | _, _ => none

/-- The host of a URL whose scheme says nothing about hosts: it stays as written. -/
def parseName (s : List Char) : Except UrlError Host :=
  if s.head? = some '[' then
    match (bracketed? s).bind Ipv6.parse? with
    | some ps => .ok (.ipv6 ps)
    | none => .error .badIpv6
  else if s.any fun c =>
      ['\x00', '\t', '\n', '\r', ' ', '#', '/', ':', '<', '>', '?', '@', '[', '\\', ']', '^',
        '|'].contains c
  then .error .badHostCharacter
  else .ok (.name (String.ofList (Percent.encode Percent.isControl s)))

/-- The host of a URL with a special scheme: an address or a domain. -/
def parse (s : List Char) : Except UrlError Host :=
  if s.head? = some '[' then
    match (bracketed? s).bind Ipv6.parse? with
    | some ps => .ok (.ipv6 ps)
    | none => .error .badIpv6
  else
    match (Utf8.decode? (Percent.decode s)).bind Domain.toAscii? with
    | none => .error .badDomain
    | some [] => .error .emptyHost
    | some domain =>
      if Ipv4.endsInNumber domain then
        match Ipv4.parse? domain with
        | some a => .ok (.ipv4 a)
        | none => .error .badIpv4
      else .ok (.name (String.ofList domain))

end Host

/-- The parts of a URL, percent-encoded where they need to be. `hasAuthority` tells `a:///b` from
`a:/b`: both are without host. -/
structure Url where
  scheme : String
  hasAuthority : Bool
  username : String
  password : Option String
  host : Option Host
  port : Option Nat
  path : String
  query : Option String
  fragment : Option String
  deriving DecidableEq

namespace Url

def credentials (u : Url) : String :=
  match u.password with
  | some p => u.username ++ ":" ++ p ++ "@"
  | none => if u.username.isEmpty then "" else u.username ++ "@"

def portText (u : Url) : String :=
  match u.port with
  | some p => ":" ++ toString p
  | none => ""

def hostText (u : Url) : String := (u.host.map Host.spell).getD ""

/-- Path and query, as a request asks for them. -/
def target (u : Url) : String :=
  u.path ++ (match u.query with
    | some q => "?" ++ q
    | none => "")

/-- Without an authority, a path that starts with two slashes is kept apart from one by a dot. -/
def text (u : Url) : String :=
  u.scheme ++ ":" ++
    (if u.hasAuthority then "//" ++ u.credentials ++ u.hostText ++ u.portText
      else if u.path.startsWith "//" then "/." else "") ++
    u.target ++
    (match u.fragment with
      | some f => "#" ++ f
      | none => "")

end Url

end Courier
