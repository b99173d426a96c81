import StrataPortNetwork.Py.Text

/-! # `ipaddress`

Addresses are numbers. An IPv4 address is read in four decimal octets without leading zeros only;
which addresses are global follows the registries of special-purpose addresses.
-/
namespace Py

def quad (a b c d : ℕ) : ℕ := ((a * 256 + b) * 256 + c) * 256 + d

/-- Whether an address of so many bits is in the network of the base and the prefix length. -/
def inNetwork (bits : ℕ) (address : ℕ) (network : ℕ × ℕ) : Bool :=
  address / 2 ^ (bits - network.2) == network.1 / 2 ^ (bits - network.2)

/-! ## IPv4 -/

/-- `_parse_octet`. -/
def parseOctet (octet : Str) : Option ℕ :=
  if isDigits octet && octet.length ≤ 3 && !(octet ≠ str "0" && octet.head? = some (point 48)) then
    if number 10 octet ≤ 255 then some (number 10 octet) else none
  else none

/-- `IPv4Address(text)`. -/
def ipv4Address (text : Str) : Option ℕ :=
  match (split (point 46) text).mapM parseOctet with
  | some [a, b, c, d] => some (quad a b c d)
  | _ => none

/-- `_private_networks` of IPv4. -/
def privateNetworks4 : List (ℕ × ℕ) := [(quad 0 0 0 0, 8), (quad 10 0 0 0, 8), (quad 127 0 0 0, 8), (quad 169 254 0 0, 16),
  (quad 172 16 0 0, 12), (quad 192 0 0 0, 24), (quad 192 0 0 170, 31), (quad 192 0 2 0, 24), (quad 192 168 0 0, 16),
  (quad 198 18 0 0, 15), (quad 198 51 100 0, 24), (quad 203 0 113 0, 24), (quad 240 0 0 0, 4), (quad 255 255 255 255, 32)]

def privateExceptions4 : List (ℕ × ℕ) := [(quad 192 0 0 9, 32), (quad 192 0 0 10, 32)]

/-- `IPv4Address.is_global`. -/
def isGlobal4 (address : ℕ) : Bool :=
  let isPrivate := privateNetworks4.any (inNetwork 32 address) && !privateExceptions4.any (inNetwork 32 address)
  !inNetwork 32 address (quad 100 64 0 0, 10) && !isPrivate

/-! ## IPv6 -/

/-- `_parse_hextet`. -/
def parseHextet (hextet : Str) : Option ℕ :=
  if hextet ≠ [] && hextet.all (isDigitIn 16) && hextet.length ≤ 4 then some (number 16 hextet) else none

/-- `'%x' % n`. -/
def hexText (n : ℕ) : Str := str (String.ofList (Nat.toDigits 16 n))

/-- The parts of an address, a dotted quad at its end as two hextets. -/
def hextetParts (text : Str) : Option (List Str) :=
  let parts := split (point 58) text
  if parts.length < 3 then none
  else
    let last := parts.getLastD []
    if point 46 ∈ last then
      (ipv4Address last).map fun a => parts.dropLast ++ [hexText (a / 65536 % 65536), hexText (a % 65536)]
    else some parts

/-- The hextets on one side of `::`, where an empty end stands alone. -/
def sideOf (parts : List Str) (outer : Option Str) : Option (List Str) :=
  if outer = some [] then (if parts.length = 1 then some [] else none) else some parts

def joinHextets (parts : List Str) : Option ℕ :=
  (parts.mapM parseHextet).map fun hextets => hextets.foldl (fun n hextet => n * 65536 + hextet) 0

/-- `_ip_int_from_string` of IPv6. -/
def ipv6Number (text : Str) : Option ℕ := do
  let parts ← hextetParts text
  if 9 < parts.length then none
  else
    match (List.range' 1 (parts.length - 2)).filter fun i => parts[i]? = some [] with
    | [] =>
      if parts.length = 8 && parts.head? ≠ some [] && parts.getLast? ≠ some [] then joinHextets parts else none
    | [i] => do
      let hi ← sideOf (parts.take i) parts.head?
      let lo ← sideOf (parts.drop (i + 1)) parts.getLast?
      if hi.length + lo.length < 8 then do
        let high ← joinHextets hi
        let low ← joinHextets lo
        some (high * 65536 ^ (8 - hi.length) + low)
      else none
    | _ => none

/-- `IPv6Address(text)`, without its scope id. -/
def ipv6Address (text : Str) : Option ℕ :=
  if point 47 ∈ text then none
  else
    match partition (point 37) text with
    | (address, none) => ipv6Number address
    | (address, some scopeId) => if scopeId = [] || point 37 ∈ scopeId then none else ipv6Number address

/-- `_private_networks` of IPv6. -/
def privateNetworks6 : List (ℕ × ℕ) := [(1, 128), (0, 128), (0xFFFF * 2 ^ 32, 96), (0x64FF9B0001 * 2 ^ 80, 48),
  (0x100 * 2 ^ 112, 64), (0x2001 * 2 ^ 112, 23), (0x20010DB8 * 2 ^ 96, 32), (0x2002 * 2 ^ 112, 16), (0x3FFF * 2 ^ 112, 20),
  (0xFC00 * 2 ^ 112, 7), (0xFE80 * 2 ^ 112, 10)]

def privateExceptions6 : List (ℕ × ℕ) := [(0x20010001 * 2 ^ 96 + 1, 128), (0x20010001 * 2 ^ 96 + 2, 128),
  (0x20010003 * 2 ^ 96, 32), (0x200100040112 * 2 ^ 80, 48), (0x20010020 * 2 ^ 96, 28), (0x20010030 * 2 ^ 96, 28)]

/-- `IPv6Address.is_global`; an IPv4-mapped address is as global as the address it maps. -/
def isGlobal6 (address : ℕ) : Bool :=
  if address / 2 ^ 32 = 0xFFFF then isGlobal4 (address % 2 ^ 32)
  else !(privateNetworks6.any (inNetwork 128 address) && !privateExceptions6.any (inNetwork 128 address))

/-! ## Addresses -/

inductive IpAddress
  | v4 (address : ℕ)
  | v6 (address : ℕ)
  deriving DecidableEq

/-- `ip_address(text)`; `none` is a ValueError. -/
def ipAddress (text : Str) : Option IpAddress :=
  match ipv4Address text with
  | some a => some (.v4 a)
  | none => (ipv6Address text).map .v6

/-- `address.is_global`. -/
def IpAddress.isGlobal : IpAddress → Bool
  | v4 a => isGlobal4 a
  | v6 a => isGlobal6 a

end Py
