import BulkIngest.Http.Domain.Name
import BulkIngest.Http.Ipv4
import BulkIngest.Http.Ipv6
import BulkIngest.Http.Percent

/-!
The host of a web address: a name or an internet address. Hosts of schemes that are not known are
left as they are.
-/

namespace BulkIngest

/-- What is wrong with a web address. -/
inductive UrlProblem
  | noScheme
  | emptyHost
  | invalidName
  | invalidCharacter
  | invalidIpv4
  | invalidIpv6
  | invalidPort
deriving DecidableEq

def UrlProblem.message : UrlProblem → String
  | .noScheme => "relative URL without a base"
  | .emptyHost => "empty host"
  | .invalidName => "invalid international domain name"
  | .invalidCharacter => "invalid domain character"
  | .invalidIpv4 => "invalid IPv4 address"
  | .invalidIpv6 => "invalid IPv6 address"
  | .invalidPort => "invalid port number"

inductive Host
  | name (name : String)
  | ipv4 (address : Ipv4)
  | ipv6 (address : Ipv6)
deriving DecidableEq

namespace Host

def text : Host → String
  | .name shown => shown
  | .ipv4 address => address.text
  | .ipv6 address => "[" ++ address.text ++ "]"

def isEmpty (host : Host) : Bool := host = .name ""

/-- An address in square brackets, behind the first of them. -/
def bracketed (cs : List Char) : Except UrlProblem Host :=
  match cs.getLast? with
  | some ']' =>
    match Ipv6.parse? cs.dropLast with
    | some address => .ok (.ipv6 address)
    | none => .error .invalidIpv6
  | _ => .error .invalidIpv6

/-- A host in its one form. -/
def parse : List Char → Except UrlProblem Host
  | '[' :: rest => bracketed rest
  | cs =>
    match Domain.ascii? (Percent.decode (Text.bytes (String.ofList cs))) with
    | none => .error .invalidName
    | some text =>
      if text = "" then .error .emptyHost
      else if Ipv4.isMeant text.toList then
        match Ipv4.parse? text.toList with
        | some address => .ok (.ipv4 address)
        | none => .error .invalidIpv4
      else .ok (.name text)

/-- Characters that end the host wherever it stands, or are no part of any. -/
def isForbidden (c : Char) : Bool := "\x00\t\n\r #/:<>?@[\\]^|".contains c

/-- A host that is left as it is. -/
def parsePlain : List Char → Except UrlProblem Host
  | '[' :: rest => bracketed rest
  | cs =>
    if cs.any isForbidden then .error .invalidCharacter
    else .ok (.name (Percent.encode Percent.isControl cs))

end Host

end BulkIngest
