/-!
Why a text is no URL.
-/

namespace OfflineAgent.Url

inductive Fault where
  | relativeWithoutBase
  | relativeToRootless
  | emptyHost
  | invalidDomain
  | invalidHostCharacter
  | invalidPort
  | invalidIpv4
  | invalidIpv6
deriving DecidableEq, Repr

def Fault.message : Fault → String
  | relativeWithoutBase => "relative URL without a base"
  | relativeToRootless => "relative URL with a cannot-be-a-base base"
  | emptyHost => "empty host"
  | invalidDomain => "invalid international domain name"
  | invalidHostCharacter => "invalid domain character"
  | invalidPort => "invalid port number"
  | invalidIpv4 => "invalid IPv4 address"
  | invalidIpv6 => "invalid IPv6 address"

end OfflineAgent.Url
