import Courier.Bytes
import Courier.Fault
import Courier.Text.Digits

namespace Courier

/-! Addresses of hosts.

An endpoint is an IP address and a port, as in `127.0.0.1:80` or `[::1]:80`.
Where a host may listen can also be given by a host name and a port.  A name
that is made of numbers, as in `10.1` or `0x0a000001`, spells an address. -/

inductive IpAddress where
  | v4 (octets : List Nat)
  | v6 (groups : List Nat) (scope : Nat)
deriving DecidableEq, Repr

structure Endpoint where
  address : IpAddress
  port : Nat
deriving DecidableEq, Repr

namespace Address

/-- The form of a number: its base, what it has to be below, how many digits it
may have, and whether it may start with a zero that it does not need. -/
structure NumberForm where
  base : Nat
  bound : Nat
  digits : Option Nat
  leadingZeros : Bool

def number (form : NumberForm) (text : List Char) : Option (Nat × List Char) :=
  let digits := text.takeWhile fun character => (Text.digit? form.base character).isSome
  let rest := text.drop digits.length
  let value := digits.foldl
    (fun value character => value * form.base + (Text.digit? form.base character).getD 0) 0
  let fits := form.digits.all fun limit => digits.length ≤ limit
  let padded := digits.head? = some '0' && 1 < digits.length
  if !digits.isEmpty && fits && (form.leadingZeros || !padded) && value < form.bound then
    some (value, rest)
  else none

def expect (character : Char) : List Char → Option (List Char)
  | [] => none
  | first :: rest => if first = character then some rest else none

def octet : NumberForm := ⟨10, 256, some 3, false⟩
def group : NumberForm := ⟨16, 65536, some 4, true⟩
def portNumber : NumberForm := ⟨10, 65536, none, true⟩
def scopeNumber : NumberForm := ⟨10, 4294967296, none, true⟩

def octets (text : List Char) : Option (List Nat × List Char) := do
  let (first, text) ← number octet text
  let (second, text) ← number octet (← expect '.' text)
  let (third, text) ← number octet (← expect '.' text)
  let (fourth, text) ← number octet (← expect '.' text)
  return ([first, second, third, fourth], text)

/-- Two groups with the bits of four octets. -/
def groupsOfOctets : List Nat → List Nat
  | [first, second, third, fourth] => [first * 256 + second, third * 256 + fourth]
  | _ => []

/-- Groups that were read, whether the last two of them were written as octets,
and the rest of the text. -/
structure Groups where
  values : List Nat
  dotted : Bool
  rest : List Char

/-- Reads at most `room` groups with colons between them. -/
def groups : (room : Nat) → (isFirst : Bool) → List Char → Groups
  | 0, _, text => ⟨[], false, text⟩
  | room + 1, isFirst, text =>
      match if isFirst then some text else expect ':' text with
      | none => ⟨[], false, text⟩
      | some body =>
          match if 1 ≤ room then octets body else none with
          | some (values, rest) => ⟨groupsOfOctets values, true, rest⟩
          | none =>
              match number group body with
              | none => ⟨[], false, text⟩
              | some (value, rest) =>
                  let more := groups room false rest
                  { more with values := value :: more.values }

/-- Reads eight groups.  Two colons stand for the zeros that are left out, one
group of them at least. -/
def allGroups (text : List Char) : Option (List Nat × List Char) :=
  let front := groups 8 true text
  if front.values.length = 8 then some (front.values, front.rest)
  else if front.dotted then none
  else do
    let rest ← expect ':' (← expect ':' front.rest)
    let back := groups (7 - front.values.length) true rest
    let zeros := List.replicate (8 - front.values.length - back.values.length) 0
    return (front.values ++ zeros ++ back.values, back.rest)

def scope (text : List Char) : Nat × List Char :=
  ((expect '%' text).bind (number scopeNumber)).getD (0, text)

/-- Reads an address of either kind, the longer one in brackets. -/
def ipAddress (text : List Char) : Option (IpAddress × List Char) :=
  match octets text with
  | some (values, rest) => some (.v4 values, rest)
  | none => do
      let (values, rest) ← allGroups (← expect '[' text)
      let (scope, rest) := scope rest
      return (.v6 values scope, ← expect ']' rest)

def nameNumber (base : Nat) : NumberForm := ⟨base, 4294967296, none, true⟩

/-- Reads a number in the base that its front tells: 16 behind `0x`, 8 behind
another zero, and else 10. -/
def basedNumber : List Char → Option (Nat × List Char)
  | '0' :: 'x' :: rest => number (nameNumber 16) rest
  | '0' :: 'X' :: rest => number (nameNumber 16) rest
  | '0' :: rest => number (nameNumber 8) ('0' :: rest)
  | text => number (nameNumber 10) text

/-- The last `room` octets of a name.  A number in front of a dot is one of them,
and the last number fills all that are left. -/
def filledOctets : (room : Nat) → List Char → Option (List Nat)
  | 0, _ => none
  | room + 1, text =>
      match basedNumber text with
      | some (value, []) =>
          if value < span (room + 1) then
            some ((bigEndian (room + 1) value).map UInt8.toNat)
          else none
      | some (value, '.' :: rest) =>
          if value < 256 then (filledOctets room rest).map (value :: ·) else none
      | _ => none

end Address

/-- The address that a name spells: four octets in one to four numbers, or eight
groups and a scope, without brackets. -/
def IpAddress.ofName? (name : List Char) : Option IpAddress :=
  match Address.filledOctets 4 name with
  | some octets => some (.v4 octets)
  | none =>
      match (Address.allGroups name).map fun (groups, rest) => (groups, Address.scope rest) with
      | some (groups, scope, []) => some (.v6 groups scope)
      | _ => none

namespace Endpoint

def parse? (text : String) : Option Endpoint := do
  let (address, rest) ← Address.ipAddress text.toList
  let (port, rest) ← Address.number Address.portNumber (← Address.expect ':' rest)
  if rest.isEmpty then some ⟨address, port⟩ else none

end Endpoint

inductive Site where
  | endpoint (value : Endpoint)
  | named (name : String) (port : Nat)
deriving DecidableEq, Repr

namespace Site

def port? (text : List Char) : Option Nat :=
  let digits := (Address.expect '+' text).getD text
  match Address.number Address.portNumber digits with
  | some (port, []) => some port
  | _ => none

/-- Reads an endpoint, or else a name and a port behind the last colon. -/
def parse (text : String) : Except Fault Site :=
  match Endpoint.parse? text with
  | some found => .ok (.endpoint found)
  | none =>
      let reversed := text.toList.reverse
      match Address.expect ':' (reversed.dropWhile (· ≠ ':')) with
      | none => .error (.ofIo "invalid socket address")
      | some name =>
          match port? (reversed.takeWhile (· ≠ ':')).reverse with
          | none => .error (.ofIo "invalid port value")
          | some port =>
              if name.any fun character => character.toNat = 0 then
                .error (.ofIo "file name contained an unexpected NUL byte")
              else
                match IpAddress.ofName? name.reverse with
                | some address => .ok (.endpoint ⟨address, port⟩)
                | none => .ok (.named (String.ofList name.reverse) port)

end Site

end Courier
