import IdeaBoard.Url.Address
import IdeaBoard.Url.Domain
import IdeaBoard.Url.Percent

/-!
# IdeaBoard — hosts

The host of a URL: after a special scheme a domain name or an address, after any other scheme an
address in brackets or a text of its own.
-/

namespace IdeaBoard

inductive Url.Fault where
  | relativeWithoutBase
  /-- The URL that a path is to be followed from has no list of segments. -/
  | noBase
  | emptyHost
  | invalidPort
  | invalidIpv4
  | invalidIpv6
  | invalidDomain
  | invalidDomainCharacter
deriving DecidableEq, Repr

def Url.Fault.message : Url.Fault → String
  | .relativeWithoutBase => "relative URL without a base"
  | .noBase => "relative URL with a cannot-be-a-base base"
  | .emptyHost => "empty host"
  | .invalidPort => "invalid port number"
  | .invalidIpv4 => "invalid IPv4 address"
  | .invalidIpv6 => "invalid IPv6 address"
  | .invalidDomain => "invalid international domain name"
  | .invalidDomainCharacter => "invalid domain character"

namespace Url

open IdeaBoard.Text

inductive Host where
  | domain (name : List Char)
  | ipv4 (address : Nat)
  | ipv6 (groups : List Nat)
  /-- The host of a scheme with rules of its own; it may be empty. -/
  | other (text : List Char)
deriving DecidableEq, Repr

namespace Host

def text : Host → List Char
  | domain name => name
  | ipv4 a => ipv4Text a
  | ipv6 gs => ipv6Text gs
  | other cs => cs

/-- The host of a text in brackets, for a text that starts with one. -/
def parseBracketed (cs : List Char) : Except Fault Host :=
  match cs.getLast? with
  | some ']' =>
    match parseIpv6? (cs.drop 1).dropLast with
    | some gs => .ok (.ipv6 gs)
    | none => .error .invalidIpv6
  | _ => .error .invalidIpv6

def parseSpecial (cs : List Char) : Except Fault Host :=
  if cs.head? = some '[' then parseBracketed cs
  else
    match Domain.toAscii? (Form.percentDecode (Utf8.encode cs)) with
    | none => .error .invalidDomain
    | some [] => .error .emptyHost
    | some name =>
      if endsInNumber name then
        match parseIpv4? name with
        | some a => .ok (.ipv4 a)
        | none => .error .invalidIpv4
      else .ok (.domain name)

def isForbidden (c : Char) : Bool :=
  c ∈ [Char.ofNat 0, '\t', '\n', '\r', ' ', '#', '/', ':', '<', '>', '?', '@', '[', '\\', ']',
    '^', '|']

def parseOther (cs : List Char) : Except Fault Host :=
  if cs.head? = some '[' then parseBracketed cs
  else if cs.any isForbidden then .error .invalidDomainCharacter
  else .ok (.other (percentEncode isControl cs))

end Host

end Url

end IdeaBoard
