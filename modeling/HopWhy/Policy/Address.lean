import HopWhy.Model.Crates

/-!
# Address policy

The classification of IPv4 and IPv6 addresses and the permission derived from
it. The IPv6 chain follows the IANA special-purpose registry snapshot last
updated 2025-10-09; prefixes that are not globally reachable, N/A or reserved
fail closed.
-/

namespace HopWhy

def classifyIpv4 (address : Ipv4Addr) : String :=
  let o0 := address.octet 0
  let o1 := address.octet 1
  let o2 := address.octet 2
  if address.bits = 0 then "unspecified"
  else if o0 = 127 then "loopback"
  else if o0 = 10 ∨ (o0 = 172 ∧ 16 ≤ o1 ∧ o1 ≤ 31) ∨ (o0 = 192 ∧ o1 = 168) then "private"
  else if o0 = 169 ∧ o1 = 254 then "link_local"
  else if 224 ≤ o0 ∧ o0 ≤ 239 then "multicast"
  else if address.bits = 0xffffffff then "broadcast"
  else if o0 = 100 ∧ 64 ≤ o1 ∧ o1 ≤ 127 then "shared"
  else if (o0 = 192 ∧ o1 = 0 ∧ o2 ≤ 2) ∨ (o0 = 198 ∧ (o1 = 18 ∨ o1 = 19 ∨ o1 = 51)) ∨
      (o0 = 203 ∧ o1 = 0 ∧ o2 = 113) then "documentation_or_benchmark"
  else if o0 = 0 ∨ 240 ≤ o0 then "reserved"
  else "public"

/-- The address lies in the network of that prefix length. -/
def ipv6InPrefix (address network : Ipv6Addr) (prefixLength : ℕ) : Bool :=
  let mask := BitVec.allOnes 128 <<< (128 - prefixLength)
  address.bits &&& mask == network.bits &&& mask

def isGloballyReachableIanaSpecial (address : Ipv6Addr) : Bool :=
  [Ipv6Addr.ofSegments [0x2001, 1, 0, 0, 0, 0, 0, 1],
    .ofSegments [0x2001, 1, 0, 0, 0, 0, 0, 2],
    .ofSegments [0x2001, 1, 0, 0, 0, 0, 0, 3]].contains address ||
  ipv6InPrefix address (.ofSegments [0x2001, 3, 0, 0, 0, 0, 0, 0]) 32 ||
  ipv6InPrefix address (.ofSegments [0x2001, 4, 0x112, 0, 0, 0, 0, 0]) 48 ||
  ipv6InPrefix address (.ofSegments [0x2001, 0x20, 0, 0, 0, 0, 0, 0]) 28 ||
  ipv6InPrefix address (.ofSegments [0x2001, 0x30, 0, 0, 0, 0, 0, 0]) 28

def classifyIpv6 (address : Ipv6Addr) : String :=
  let segment0 := address.segment 0
  match address.toIpv4Mapped with
  | some mapped => classifyIpv4 mapped
  | none =>
    if address.bits = 0 then "unspecified"
    else if address.bits = 1 then "loopback"
    else if segment0 &&& 0xff00 = 0xff00 then "multicast"
    else if segment0 &&& 0xfe00 = 0xfc00 then "unique_local"
    else if segment0 &&& 0xffc0 = 0xfe80 then "link_local"
    else if ipv6InPrefix address (.ofSegments [0xfec0, 0, 0, 0, 0, 0, 0, 0]) 10 then
      "deprecated_site_local"
    else if ipv6InPrefix address (.ofSegments [0x64, 0xff9b, 1, 0, 0, 0, 0, 0]) 48 then
      "local_translation"
    else if ipv6InPrefix address (.ofSegments [0x64, 0xff9b, 0, 0, 0, 0, 0, 0]) 96 then
      if classifyIpv4 ⟨BitVec.ofNat 32 (address.bits.toNat % 2 ^ 32)⟩ = "public" then "public"
      else "translation_non_public"
    else if ipv6InPrefix address (.ofSegments [0x100, 0, 0, 0, 0, 0, 0, 0]) 64 then
      "discard_only"
    else if ipv6InPrefix address (.ofSegments [0x100, 0, 0, 1, 0, 0, 0, 0]) 64 then "dummy"
    else if ipv6InPrefix address (.ofSegments [0x2001, 2, 0, 0, 0, 0, 0, 0]) 48 then "benchmark"
    else if ipv6InPrefix address (.ofSegments [0x2001, 0xdb8, 0, 0, 0, 0, 0, 0]) 32 ||
        ipv6InPrefix address (.ofSegments [0x3fff, 0, 0, 0, 0, 0, 0, 0]) 20 then "documentation"
    else if ipv6InPrefix address (.ofSegments [0x5f00, 0, 0, 0, 0, 0, 0, 0]) 16 then
      "special_use"
    else if ipv6InPrefix address (.ofSegments [0x2001, 0, 0, 0, 0, 0, 0, 0]) 23 then
      if isGloballyReachableIanaSpecial address then "public" else "special_use"
    else if ipv6InPrefix address (.ofSegments [0x2002, 0, 0, 0, 0, 0, 0, 0]) 16 then "transition"
    else if ipv6InPrefix address (.ofSegments [0x2000, 0, 0, 0, 0, 0, 0, 0]) 3 then "public"
    else "reserved"

def classifyIp : IpAddr → String
  | .v4 a => classifyIpv4 a
  | .v6 a => classifyIpv6 a

def isIpPermitted (address : IpAddr) (allowPrivate : Bool) : Bool :=
  allowPrivate || classifyIp address == "public"

def socketDestination (host : String) (port : UInt16) : String :=
  if ':' ∈ host.toList ∧ host.toList.head? ≠ some '[' then
    "[" ++ host ++ "]:" ++ toString port.toNat
  else host ++ ":" ++ toString port.toNat

/-- The address itself, or a stable token of its family and hash. -/
def addressForReport [Crates] (address : SocketAddr) (showAddresses : Bool) : String :=
  if showAddresses then address.display
  else (if address.isIpv4 then "ipv4" else "ipv6") ++ "#" ++
    String.ofList ((sha256Text address.display).toList.take 12)

end HopWhy
