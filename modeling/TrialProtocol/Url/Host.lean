import TrialProtocol.Idna
import TrialProtocol.Text.Percent
import TrialProtocol.Url.Ipv4
import TrialProtocol.Url.Ipv6

/-!
# Hosts

The machine that an address names. Under a special scheme it is a domain name, in ASCII and small
letters, or an address of a machine; under any other scheme a name is taken as it is. Most of what can
be wrong with an address is wrong with its host, so the faults of reading are here.
-/

namespace TrialProtocol

/-! ## 1. Faults -/

/-- Why a text is no address. -/
inductive UrlFault where
  | emptyHost
  | invalidDomain
  | invalidHostCharacter
  | invalidIpv4
  | invalidIpv6
  | invalidPort
  /-- There is no scheme, and no address to start from. -/
  | relativeWithoutBase
  /-- There is no scheme, and the address to start from has no hierarchy. -/
  | relativeToFlatBase
  deriving DecidableEq, Repr

/-- The wording of a fault. -/
def UrlFault.message : UrlFault → String
  | .emptyHost => "empty host"
  | .invalidDomain => "invalid international domain name"
  | .invalidHostCharacter => "invalid domain character"
  | .invalidIpv4 => "invalid IPv4 address"
  | .invalidIpv6 => "invalid IPv6 address"
  | .invalidPort => "invalid port number"
  | .relativeWithoutBase => "relative URL without a base"
  | .relativeToFlatBase => "relative URL with a cannot-be-a-base base"

namespace Url

/-! ## 2. Hosts -/

/-- A host. The empty name is the host of a local file. -/
inductive Host where
  | named (name : List Char)
  | ipv4 (address : UInt32)
  | ipv6 (address : Ipv6)
  deriving DecidableEq, Repr

namespace Host

/-- The written host. -/
def text : Host → List Char
  | .named name => name
  | .ipv4 address => ipv4Text address
  | .ipv6 address => '[' :: address.text ++ [']']

/-- Whether there is nothing to write. -/
def isEmpty : Host → Bool
  | .named name => name.isEmpty
  | _ => false

/-- The host between brackets, the first of which is already gone. -/
def readBracketed (s : List Char) : Except UrlFault Host :=
  match s.reverse with
  | ']' :: inner =>
    match Ipv6.read? inner.reverse with
    | some address => .ok (.ipv6 address)
    | none => .error .invalidIpv6
  | _ => .error .invalidIpv6

/-- The host of a domain name. -/
def ofDomain (domain : List Char) : Except UrlFault Host :=
  if domain.isEmpty then .error .emptyHost
  else if endsInNumber domain then
    match readIpv4? domain with
    | some address => .ok (.ipv4 address)
    | none => .error .invalidIpv4
  else .ok (.named domain)

/-- Reads the host of a special address. Escapes are undone before the name is looked at. -/
def readDomain (s : List Char) : Except UrlFault Host :=
  match s with
  | '[' :: rest => readBracketed rest
  | s =>
    match (Percent.decode? s).bind Idna.toAscii? with
    | some domain => ofDomain domain
    | none => .error .invalidDomain

/-- A character that no host holds. -/
def isForbidden (c : Char) : Bool :=
  "\x00\t\n\r #/:<>?@[\\]^|".toList.contains c

/-- Reads the host of any other address. -/
def readName (s : List Char) : Except UrlFault Host :=
  match s with
  | '[' :: rest => readBracketed rest
  | s =>
    if s.any isForbidden then .error .invalidHostCharacter
    else .ok (.named (Percent.encode (fun c => c.toNat < 0x20 || c == '\x7f') s))

end Host

end Url

end TrialProtocol
