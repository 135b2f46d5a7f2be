import OfflineAgent.Url.Basic
import OfflineAgent.Url.Fault
import OfflineAgent.Url.Percent
import OfflineAgent.Domain.Name
import OfflineAgent.Text.Utf8

/-!
Reading the host of a URL: an IPv6 address in brackets, an IPv4 address in any of its spellings,
a domain, or for other schemes any text without characters that would end it.
-/

namespace OfflineAgent.Host

open Url (Fault)

def isDigit (c : Char) : Bool :=
  '0' ≤ c ∧ c ≤ '9'

def isOctal (c : Char) : Bool :=
  '0' ≤ c ∧ c ≤ '7'

def radixValue (radix : Nat) (digits : List Char) : Nat :=
  digits.foldl (fun n c => radix * n + (Hex.digitValue c).getD 0) 0

/-- A part of an IPv4 address: decimal, octal after a zero, or hexadecimal after `0x`. -/
def ipv4Number : List Char → Option Nat
  | [] => none
  | '0' :: 'x' :: rest | '0' :: 'X' :: rest =>
    if rest.all Hex.isDigit then some (radixValue 16 rest) else none
  | '0' :: d :: rest => if (d :: rest).all isOctal then some (radixValue 8 (d :: rest)) else none
  | digits => if digits.all isDigit then some (radixValue 10 digits) else none

def splitDots (text : List Char) : List (List Char) :=
  Text.split '.' text

/-- The parts of a name between dots, without an empty one at the end. -/
def labels (text : List Char) : List (List Char) :=
  let parts := splitDots text
  if parts.getLast? = some [] then parts.dropLast else parts

/-- A name whose last label is a number is an address, or nothing. -/
def endsInNumber (text : List Char) : Bool :=
  match (labels text).getLast? with
  | some last => (!last.isEmpty && last.all isDigit) || (ipv4Number last).isSome
  | none => false

/-- All parts but the last are bytes; the last one fills what they leave of 32 bits. -/
def ipv4Address (parts : List Nat) : Option Nat :=
  match parts.reverse with
  | [] => none
  | last :: front =>
    if 4 < parts.length ∨ front.any (255 < ·) ∨ 1 <<< (8 * (4 - front.length)) ≤ last then none
    else
      some (last + ((List.range front.length).zip front.reverse).foldl
        (fun sum (i, n) => sum + n <<< (8 * (3 - i))) 0)

def parseIpv4 (text : List Char) : Except Fault Host :=
  match ((labels text).mapM ipv4Number).bind ipv4Address with
  | some address => .ok (.ipv4 address)
  | none => .error .invalidIpv4

def decimalByte (digits : List Char) : Option Nat :=
  if digits.isEmpty ∨ 3 < digits.length ∨ !digits.all isDigit ∨
      (digits.head? = some '0' ∧ 1 < digits.length) then none
  else
    let n := radixValue 10 digits
    if n ≤ 255 then some n else none

def dottedPieces (text : List Char) : Option (List Nat) :=
  match (splitDots text).mapM decimalByte with
  | some [a, b, c, d] => some [256 * a + b, 256 * c + d]
  | _ => none

/-- Pieces between colons; only the last one may be a dotted address. -/
def colonPieces : List (List Char) → Option (List Nat)
  | [] => some []
  | [last] => if last.contains '.' then dottedPieces last else (hexPiece last).map ([·])
  | piece :: rest => do return (← hexPiece piece) :: (← colonPieces rest)
where
  hexPiece (digits : List Char) : Option Nat :=
    if digits.isEmpty ∨ 4 < digits.length ∨ !digits.all Hex.isDigit then none
    else some (Hex.value digits)

def splitGap : List Char → Option (List Char × List Char)
  | ':' :: ':' :: rest => some ([], rest)
  | c :: rest => (splitGap rest).map fun (front, back) => (c :: front, back)
  | [] => none

def piecesOf (text : List Char) : Option (List Nat) :=
  if text.isEmpty then some [] else colonPieces (Text.split ':' text)

def ipv6Pieces (text : List Char) : Option (List Nat) :=
  match splitGap text with
  | none =>
    match piecesOf text with
    | some pieces => if pieces.length = 8 then some pieces else none
    | none => none
  | some (front, back) =>
    if front.contains '.' then none
    else
      match piecesOf front, piecesOf back with
      | some first, some last =>
        if first.length + last.length < 8 then
          some (first ++ List.replicate (8 - first.length - last.length) 0 ++ last)
        else none
      | _, _ => none

def parseIpv6 (text : List Char) : Except Fault Host :=
  match text.getLast? with
  | some ']' =>
    match ipv6Pieces text.dropLast with
    | some pieces => .ok (.ipv6 pieces)
    | none => .error .invalidIpv6
  | _ => .error .invalidIpv6

def parse (text : List Char) : Except Fault Host :=
  match text with
  | '[' :: rest => parseIpv6 rest
  | _ =>
    match Utf8.decode (Percent.decode (String.ofList text).toUTF8.toList) with
    | .error _ => .error .invalidDomain
    | .ok name =>
      match Domain.toAscii name with
      | none => .error .invalidDomain
      | some domain =>
        if domain.isEmpty then .error .emptyHost
        else if endsInNumber domain.toList then parseIpv4 domain.toList
        else .ok (.named domain)

def isForbidden (c : Char) : Bool :=
  ['\x00', '\t', '\n', '\r', ' ', '#', '/', ':', '<', '>', '?', '@', '[', '\\', ']', '^',
    '|'].contains c

def parseOpen (text : List Char) : Except Fault Host :=
  match text with
  | '[' :: rest => parseIpv6 rest
  | _ =>
    if text.any isForbidden then .error .invalidHostCharacter
    else .ok (.named (Percent.encode Percent.control text))

end OfflineAgent.Host
