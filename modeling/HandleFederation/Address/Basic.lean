/-
This file holds internet addresses and says which of them are public. A public
address is one that any host on the internet may be reached at; every other one
points into the machine itself, a local network or a range set aside, and no
request may be sent there.
-/

namespace HandleFederation

/-! ### Addresses -/

/-- An address of version 4: four octets. -/
structure Ipv4 where
  first : UInt8
  second : UInt8
  third : UInt8
  fourth : UInt8
deriving DecidableEq, Repr, Inhabited

/-- An address of version 6: eight segments of sixteen bits. -/
structure Ipv6 where
  segments : Vector UInt16 8
deriving DecidableEq, Repr

/-- An internet address of either version. -/
inductive Address where
  | v4 (address : Ipv4)
  | v6 (address : Ipv6)
deriving DecidableEq, Repr

namespace Ipv4

/-- The address as one number of thirty-two bits. -/
def toNat (address : Ipv4) : Nat :=
  ((address.first.toNat * 256 + address.second.toNat) * 256 + address.third.toNat) * 256
    + address.fourth.toNat

/-- The address that a number of thirty-two bits stands for. -/
def ofNat (number : Nat) : Ipv4 :=
  ⟨(number / 0x1000000).toUInt8, (number / 0x10000).toUInt8, (number / 0x100).toUInt8, number.toUInt8⟩

/-! ### Ranges of version 4 -/

/-- The machine itself, `127.0.0.0/8`. -/
def isLoopback (address : Ipv4) : Bool :=
  address.first == 127

/-- Private networks, `10.0.0.0/8`, `172.16.0.0/12` and `192.168.0.0/16`. -/
def isPrivate (address : Ipv4) : Bool :=
  address.first == 10
    || (address.first == 172 && 16 ≤ address.second && address.second ≤ 31)
    || (address.first == 192 && address.second == 168)

/-- The local link, `169.254.0.0/16`. -/
def isLinkLocal (address : Ipv4) : Bool :=
  address.first == 169 && address.second == 254

/-- Groups of hosts, `224.0.0.0/4`. -/
def isMulticast (address : Ipv4) : Bool :=
  224 ≤ address.first && address.first ≤ 239

/-- Examples in documents, `192.0.2.0/24`, `198.51.100.0/24` and `203.0.113.0/24`. -/
def isDocumentation (address : Ipv4) : Bool :=
  (address.first == 192 && address.second == 0 && address.third == 2)
    || (address.first == 198 && address.second == 51 && address.third == 100)
    || (address.first == 203 && address.second == 0 && address.third == 113)

/-- The address space that providers share, `100.64.0.0/10`. -/
def isShared (address : Ipv4) : Bool :=
  address.first == 100 && address.second &&& 0xC0 == 64

/-- Protocol assignments, `192.0.0.0/24`. -/
def isProtocolAssignment (address : Ipv4) : Bool :=
  address.first == 192 && address.second == 0 && address.third == 0

/-- Measurements of networks, `198.18.0.0/15`. -/
def isBenchmark (address : Ipv4) : Bool :=
  address.first == 198 && address.second &&& 0xFE == 18

/-- Whether an address of version 4 can be reached from anywhere on the internet. -/
def isPublic (address : Ipv4) : Bool :=
  !(address.isLoopback || address.isPrivate || address.isLinkLocal || address.isMulticast
    || address.isDocumentation || address.first == 0 || address.isShared
    || address.isProtocolAssignment || address.isBenchmark || 240 ≤ address.first)

end Ipv4

namespace Ipv6

/-- The first segment of an address. -/
def lead (address : Ipv6) : UInt16 :=
  address.segments[0]

/-- The address of version 4 inside an address of the form `::ffff:a.b.c.d`. -/
def mapped? (address : Ipv6) : Option Ipv4 :=
  match address.segments.toList with
  | [0, 0, 0, 0, 0, 0xFFFF, high, low] =>
    some ⟨(high >>> 8).toUInt8, high.toUInt8, (low >>> 8).toUInt8, low.toUInt8⟩
  | _ => none

/-! ### Ranges of version 6 -/

/-- The machine itself, `::1`. -/
def isLoopback (address : Ipv6) : Bool :=
  address.segments.toList == [0, 0, 0, 0, 0, 0, 0, 1]

/-- No address at all, `::`. -/
def isUnspecified (address : Ipv6) : Bool :=
  address.segments.toList == [0, 0, 0, 0, 0, 0, 0, 0]

/-- Groups of hosts, `ff00::/8`. -/
def isMulticast (address : Ipv6) : Bool :=
  address.lead &&& 0xFF00 == 0xFF00

/-- Local networks, `fc00::/7`. -/
def isUniqueLocal (address : Ipv6) : Bool :=
  address.lead &&& 0xFE00 == 0xFC00

/-- The local link, `fe80::/10`. -/
def isLinkLocal (address : Ipv6) : Bool :=
  address.lead &&& 0xFFC0 == 0xFE80

/-- Examples in documents, `2001:db8::/32`. -/
def isDocumentation (address : Ipv6) : Bool :=
  address.lead == 0x2001 && address.segments[1] == 0x0DB8

/-- Whether an address of version 6 can be reached from anywhere on the internet; one that holds
an address of version 4 counts as that address. -/
def isPublic (address : Ipv6) : Bool :=
  match address.mapped? with
  | some inner => inner.isPublic
  | none =>
    !(address.isLoopback || address.isUnspecified || address.isMulticast || address.isUniqueLocal
      || address.isLinkLocal || address.isDocumentation)

end Ipv6

namespace Address

/-- Whether an address can be reached from anywhere on the internet. -/
def isPublic : Address → Bool
  | .v4 address => address.isPublic
  | .v6 address => address.isPublic

/-! ### Reasons -/

/-- The kind of range an address lies in, as it is reported when an address stands where a domain
is wanted. -/
inductive Reach where
  | loopback
  | localNetwork
  | linkLocal
  | multicast
  | reserved
  | anywhere
deriving DecidableEq, Repr

/-- The word for a kind of range. -/
def Reach.word : Reach → String
  | .loopback => "loopback"
  | .localNetwork => "private"
  | .linkLocal => "link-local"
  | .multicast => "multicast"
  | .reserved => "reserved"
  | .anywhere => "public"

/-- The machine itself, of either version. -/
def isLoopback : Address → Bool
  | .v4 address => address.isLoopback
  | .v6 address => address.isLoopback

/-- A private or local network, of either version. -/
def isLocalNetwork : Address → Bool
  | .v4 address => address.isPrivate
  | .v6 address => address.isUniqueLocal

/-- The local link, of either version. -/
def isLinkLocal : Address → Bool
  | .v4 address => address.isLinkLocal
  | .v6 address => address.isLinkLocal

/-- Groups of hosts, of either version. -/
def isMulticast : Address → Bool
  | .v4 address => address.isMulticast
  | .v6 address => address.isMulticast

/-- The first range in this order that an address lies in; one that holds an address of version 4
is asked about as it stands, until only the last question is left. -/
def reach (address : Address) : Reach :=
  if address.isLoopback then .loopback
  else if address.isLocalNetwork then .localNetwork
  else if address.isLinkLocal then .linkLocal
  else if address.isMulticast then .multicast
  else if address.isPublic then .anywhere
  else .reserved

end Address

end HandleFederation
