import EntitlementRules.Url.Address
import EntitlementRules.Url.Domain
import EntitlementRules.Url.Percent

/-! The host part of a URL. -/
namespace EntitlementRules

inductive Url.Error where
  | relativeWithoutBase
  | relativeToOpaque
  | emptyHost
  | invalidDomain
  | invalidHostCharacter
  | invalidPort
  | invalidIPv4
  | invalidIPv6
  deriving Repr, DecidableEq

def Url.Error.message : Url.Error → String
  | relativeWithoutBase => "relative URL without a base"
  | relativeToOpaque => "relative URL with a cannot-be-a-base base"
  | emptyHost => "empty host"
  | invalidDomain => "invalid international domain name"
  | invalidHostCharacter => "invalid domain character"
  | invalidPort => "invalid port number"
  | invalidIPv4 => "invalid IPv4 address"
  | invalidIPv6 => "invalid IPv6 address"

/-- A host: a name, which may be empty, or an address. -/
inductive Host where
  | domain (name : String)
  | ipv4 (address : IPv4)
  | ipv6 (address : IPv6)
  deriving Repr, DecidableEq

namespace Host

def text : Host → String
  | domain name => name
  | ipv4 address => address.text
  | ipv6 address => "[" ++ address.text ++ "]"

/-- Whether a host is the machine itself: by the name `localhost`, a name below it, or an address. -/
def isLoopback : Host → Bool
  | domain name =>
    let lower := (name.map Char.toLower).toList
    lower == "localhost".toList || ".localhost".toList.isSuffixOf lower
  | ipv4 address => address.isLoopback
  | ipv6 address => address.isLoopback

/-- The address between brackets. -/
def bracketed (text : List Char) : Except Url.Error Host :=
  if text.getLast? = some ']' then
    match IPv6.parse? (String.ofList text.dropLast) with
    | some address => .ok (ipv6 address)
    | none => .error .invalidIPv6
  else .error .invalidIPv6

/-- The host that a name stands for in a scheme with a meaning of its own. -/
def ofDomain (name : String) : Except Url.Error Host :=
  if name = "" then .error .emptyHost
  else if IPv4.isNumeric name then
    match IPv4.parse? name with
    | some address => .ok (ipv4 address)
    | none => .error .invalidIPv4
  else .ok (domain name)

/-- The characters that no host of another scheme may hold. -/
def isForbidden (c : Char) : Bool := "\x00\t\n\r #/:<>?@[\\]^|".toList.contains c

def parse (special : Bool) (text : List Char) : Except Url.Error Host :=
  match text with
  | '[' :: rest => bracketed rest
  | other =>
    if special then
      match (Text.Utf8.decode? (Percent.decode (Text.Utf8.encode (String.ofList other)))).bind
          Domain.toAscii? with
      | some name => ofDomain name
      | none => .error .invalidDomain
    else if other.any isForbidden then .error .invalidHostCharacter
    else .ok (domain (String.ofList (Percent.encode Percent.controls other)))

end Host

end EntitlementRules
