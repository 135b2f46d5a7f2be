import OfflineAgent.Url.Host

/-!
Addresses to listen on: an IP address and a port.
-/

namespace OfflineAgent.Machine

/-- The scope of an IPv6 address is zero where none is written. -/
structure SocketAddress where
  host : Host
  port : Nat
  scope : Nat
deriving DecidableEq, Repr

namespace SocketAddress

def number? (limit : Nat) (digits : List Char) : Option Nat :=
  if digits.isEmpty || !digits.all Host.isDigit then none
  else
    let n := Host.radixValue 10 digits
    if n < limit then some n else none

def port? (digits : List Char) : Option Nat :=
  number? UInt16.size digits

def ipv4? (text : List Char) : Option Host :=
  match (Host.splitDots text).mapM Host.decimalByte with
  | some [a, b, c, d] => some (.ipv4 (((a * 256 + b) * 256 + c) * 256 + d))
  | _ => none

/-- An IPv6 address with its scope after a percent sign, if it has one. -/
def ipv6? (text : List Char) : Option (Host × Nat) := do
  let (address, scope) := (Text.cut '%' text).getD (text, ['0'])
  return (.ipv6 (← Host.ipv6Pieces address), ← number? UInt32.size scope)

def parse? (text : String) : Option SocketAddress :=
  match text.toList with
  | '[' :: rest => do
    let (inside, after) ← Text.cut ']' rest
    let (host, scope) ← ipv6? inside
    match after with
    | ':' :: digits => return ⟨host, ← port? digits, scope⟩
    | _ => none
  | chars => do
    let (address, digits) ← Text.cut ':' chars
    return ⟨← ipv4? address, ← port? digits, 0⟩

/-- An IPv6 address that stands for an IPv4 one shows it. -/
def hostText : Host → String
  | .ipv6 [0, 0, 0, 0, 0, 0xFFFF, high, low] => "::ffff:" ++ Host.ipv4Text (high * 65536 + low)
  | .ipv6 pieces => Host.ipv6Text pieces
  | host => host.text

def text (address : SocketAddress) : String :=
  let scope := if address.scope = 0 then "" else "%" ++ toString address.scope
  match address.host with
  | .ipv6 _ => "[" ++ hostText address.host ++ scope ++ "]:" ++ toString address.port
  | host => hostText host ++ ":" ++ toString address.port

end SocketAddress

end OfflineAgent.Machine
