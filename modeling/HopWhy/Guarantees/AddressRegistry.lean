import HopWhy.Library.Prefixes
import HopWhy.Policy.Address

/-!
# The address policy and the registries

The two classifications as rule lists over address blocks, compared with the
special-purpose registries: IPv6 is the longest-prefix match of the registry
snapshot, no spelling of a special IPv4 address is permitted, and the IPv4
chain denies two blocks more than the special ranges.
-/

namespace HopWhy

open Prefixes

theorem ite_eq_public_iff {c : Prop} [Decidable c] {category rest : String}
    (hcategory : category ≠ "public") :
    (if c then category else rest) = "public" ↔ ¬ c ∧ rest = "public" := by
  by_cases hc : c
  · simp [hc, hcategory]
  · simp [hc]

def ipv4Block (a b c d : ℕ) (length : ℕ) (hlength : length ≤ 32 := by decide) : Block 32 :=
  ⟨((a * 256 + b) * 256 + c) * 256 + d, length, hlength⟩

/-- The blocks that the IPv4 chain denies, in the order of its tests. -/
def deniedIpv4 : List (Block 32) :=
  [ipv4Block 0 0 0 0 32, ipv4Block 127 0 0 0 8, ipv4Block 10 0 0 0 8, ipv4Block 172 16 0 0 12,
    ipv4Block 192 168 0 0 16, ipv4Block 169 254 0 0 16, ipv4Block 224 0 0 0 4,
    ipv4Block 255 255 255 255 32, ipv4Block 100 64 0 0 10, ipv4Block 192 0 0 0 23,
    ipv4Block 192 0 2 0 24, ipv4Block 198 18 0 0 15, ipv4Block 198 51 0 0 16,
    ipv4Block 203 0 113 0 24, ipv4Block 0 0 0 0 8, ipv4Block 240 0 0 0 4]

theorem ipv4Block_holds_iff (a b c d length : ℕ) (hlength : length ≤ 32) (n : ℕ) :
    (ipv4Block a b c d length hlength).Holds n ↔
      n / 2 ^ (32 - length) = (((a * 256 + b) * 256 + c) * 256 + d) / 2 ^ (32 - length) :=
  Iff.rfl

theorem classifyIpv4_eq_public_iff_not_covered (address : Ipv4Addr) :
    classifyIpv4 address = "public" ↔ ¬ Covered deniedIpv4 address.bits.toNat := by
  have hlt := address.bits.isLt
  have hoctet : ∀ i, address.octet i = address.bits.toNat / 2 ^ (24 - 8 * i) % 256 :=
    fun i => rfl
  have hunspecified : address.bits = 0 ↔
      (ipv4Block 0 0 0 0 32).Holds address.bits.toNat := by
    rw [← BitVec.toNat_inj, ipv4Block_holds_iff]
    simp
  have hloopback : address.octet 0 = 127 ↔
      (ipv4Block 127 0 0 0 8).Holds address.bits.toNat := by
    simp only [hoctet, ipv4Block_holds_iff]
    omega
  have hprivate : (address.octet 0 = 10 ∨
      (address.octet 0 = 172 ∧ 16 ≤ address.octet 1 ∧ address.octet 1 ≤ 31) ∨
      (address.octet 0 = 192 ∧ address.octet 1 = 168)) ↔
      (ipv4Block 10 0 0 0 8).Holds address.bits.toNat ∨
      (ipv4Block 172 16 0 0 12).Holds address.bits.toNat ∨
      (ipv4Block 192 168 0 0 16).Holds address.bits.toNat := by
    simp only [hoctet, ipv4Block_holds_iff]
    omega
  have hlinkLocal : (address.octet 0 = 169 ∧ address.octet 1 = 254) ↔
      (ipv4Block 169 254 0 0 16).Holds address.bits.toNat := by
    simp only [hoctet, ipv4Block_holds_iff]
    omega
  have hmulticast : (224 ≤ address.octet 0 ∧ address.octet 0 ≤ 239) ↔
      (ipv4Block 224 0 0 0 4).Holds address.bits.toNat := by
    simp only [hoctet, ipv4Block_holds_iff]
    omega
  have hbroadcast : address.bits = 0xffffffff ↔
      (ipv4Block 255 255 255 255 32).Holds address.bits.toNat := by
    rw [← BitVec.toNat_inj, ipv4Block_holds_iff]
    simp
  have hshared : (address.octet 0 = 100 ∧ 64 ≤ address.octet 1 ∧ address.octet 1 ≤ 127) ↔
      (ipv4Block 100 64 0 0 10).Holds address.bits.toNat := by
    simp only [hoctet, ipv4Block_holds_iff]
    omega
  have hdocumentation : ((address.octet 0 = 192 ∧ address.octet 1 = 0 ∧ address.octet 2 ≤ 2) ∨
      (address.octet 0 = 198 ∧
        (address.octet 1 = 18 ∨ address.octet 1 = 19 ∨ address.octet 1 = 51)) ∨
      (address.octet 0 = 203 ∧ address.octet 1 = 0 ∧ address.octet 2 = 113)) ↔
      (ipv4Block 192 0 0 0 23).Holds address.bits.toNat ∨
      (ipv4Block 192 0 2 0 24).Holds address.bits.toNat ∨
      (ipv4Block 198 18 0 0 15).Holds address.bits.toNat ∨
      (ipv4Block 198 51 0 0 16).Holds address.bits.toNat ∨
      (ipv4Block 203 0 113 0 24).Holds address.bits.toNat := by
    simp only [hoctet, ipv4Block_holds_iff]
    omega
  have hreserved : (address.octet 0 = 0 ∨ 240 ≤ address.octet 0) ↔
      (ipv4Block 0 0 0 0 8).Holds address.bits.toNat ∨
      (ipv4Block 240 0 0 0 4).Holds address.bits.toNat := by
    simp only [hoctet, ipv4Block_holds_iff]
    omega
  simp only [classifyIpv4, hunspecified, hloopback, hprivate, hlinkLocal, hmulticast, hbroadcast,
    hshared, hdocumentation, hreserved, ite_eq_public_iff, ne_eq, String.reduceEq,
    not_false_eq_true, deniedIpv4, covered_cons, not_covered_nil, not_or, and_assoc]

/-- The address blocks that the IPv4 registry reserves for special purposes. -/
def specialIpv4 : List (Block 32) :=
  [ipv4Block 0 0 0 0 8, ipv4Block 10 0 0 0 8, ipv4Block 100 64 0 0 10, ipv4Block 127 0 0 0 8,
    ipv4Block 169 254 0 0 16, ipv4Block 172 16 0 0 12, ipv4Block 192 0 0 0 24,
    ipv4Block 192 0 2 0 24, ipv4Block 192 168 0 0 16, ipv4Block 198 18 0 0 15,
    ipv4Block 198 51 100 0 24, ipv4Block 203 0 113 0 24, ipv4Block 224 0 0 0 4,
    ipv4Block 240 0 0 0 4]

/-- The public blocks that the chain denies because it tests too few octets. -/
def overblockedIpv4 : List (Block 32) := [ipv4Block 192 0 1 0 24, ipv4Block 198 51 0 0 16]

theorem covered_deniedIpv4 (n : ℕ) :
    Covered deniedIpv4 n ↔ Covered specialIpv4 n ∨ Covered overblockedIpv4 n := by
  let cuts := ends (deniedIpv4 ++ specialIpv4 ++ overblockedIpv4)
  have hdenied : Steps cuts fun n => decide (Covered deniedIpv4 n) :=
    steps_covered (by decide +kernel)
  have hspecial : Steps cuts fun n => decide (Covered specialIpv4 n) :=
    steps_covered (by decide +kernel)
  have hoverblocked : Steps cuts fun n => decide (Covered overblockedIpv4 n) :=
    steps_covered (by decide +kernel)
  have hagree := hdenied.eq_of_agree (hspecial.map₂ hoverblocked Bool.or) (by decide +kernel) n
  rw [← Bool.decide_or, decide_eq_decide] at hagree
  exact hagree

/-- What the registry says about the addresses of a block. -/
inductive Verdict where
  | allow
  | deny
  | embedded
deriving DecidableEq

/-- The IPv4 address in the low 32 bits. -/
def embeddedIpv4 (address : Ipv6Addr) : Ipv4Addr :=
  ⟨BitVec.ofNat 32 (address.bits.toNat % 2 ^ 32)⟩

def Verdict.Permits (verdict : Verdict) (address : Ipv6Addr) : Prop :=
  match verdict with
  | .allow => True
  | .deny => False
  | .embedded => classifyIpv4 (embeddedIpv4 address) = "public"

def ipv6Block (segments : List ℕ) (length : ℕ) (hlength : length ≤ 128 := by decide) :
    Block 128 :=
  ⟨(Ipv6Addr.ofSegments segments).bits.toNat, length, hlength⟩

/-- The special-purpose registry snapshot. -/
def ianaIpv6 : List (Rule 128 Verdict) :=
  [⟨ipv6Block [0, 0, 0, 0, 0, 0, 0, 0] 128, .deny⟩,
    ⟨ipv6Block [0, 0, 0, 0, 0, 0, 0, 1] 128, .deny⟩,
    ⟨ipv6Block [0, 0, 0, 0, 0, 0xffff, 0, 0] 96, .embedded⟩,
    ⟨ipv6Block [0x64, 0xff9b, 0, 0, 0, 0, 0, 0] 96, .embedded⟩,
    ⟨ipv6Block [0x64, 0xff9b, 1, 0, 0, 0, 0, 0] 48, .deny⟩,
    ⟨ipv6Block [0x100, 0, 0, 0, 0, 0, 0, 0] 64, .deny⟩,
    ⟨ipv6Block [0x100, 0, 0, 1, 0, 0, 0, 0] 64, .deny⟩,
    ⟨ipv6Block [0x2001, 0, 0, 0, 0, 0, 0, 0] 23, .deny⟩,
    ⟨ipv6Block [0x2001, 0, 0, 0, 0, 0, 0, 0] 32, .deny⟩,
    ⟨ipv6Block [0x2001, 1, 0, 0, 0, 0, 0, 1] 128, .allow⟩,
    ⟨ipv6Block [0x2001, 1, 0, 0, 0, 0, 0, 2] 128, .allow⟩,
    ⟨ipv6Block [0x2001, 1, 0, 0, 0, 0, 0, 3] 128, .allow⟩,
    ⟨ipv6Block [0x2001, 2, 0, 0, 0, 0, 0, 0] 48, .deny⟩,
    ⟨ipv6Block [0x2001, 3, 0, 0, 0, 0, 0, 0] 32, .allow⟩,
    ⟨ipv6Block [0x2001, 4, 0x112, 0, 0, 0, 0, 0] 48, .allow⟩,
    ⟨ipv6Block [0x2001, 0x10, 0, 0, 0, 0, 0, 0] 28, .deny⟩,
    ⟨ipv6Block [0x2001, 0x20, 0, 0, 0, 0, 0, 0] 28, .allow⟩,
    ⟨ipv6Block [0x2001, 0x30, 0, 0, 0, 0, 0, 0] 28, .allow⟩,
    ⟨ipv6Block [0x2001, 0xdb8, 0, 0, 0, 0, 0, 0] 32, .deny⟩,
    ⟨ipv6Block [0x2002, 0, 0, 0, 0, 0, 0, 0] 16, .deny⟩,
    ⟨ipv6Block [0x2620, 0x4f, 0x8000, 0, 0, 0, 0, 0] 48, .allow⟩,
    ⟨ipv6Block [0x3fff, 0, 0, 0, 0, 0, 0, 0] 20, .deny⟩,
    ⟨ipv6Block [0x5f00, 0, 0, 0, 0, 0, 0, 0] 16, .deny⟩,
    ⟨ipv6Block [0xfc00, 0, 0, 0, 0, 0, 0, 0] 7, .deny⟩,
    ⟨ipv6Block [0xfe80, 0, 0, 0, 0, 0, 0, 0] 10, .deny⟩,
    ⟨ipv6Block [0xfec0, 0, 0, 0, 0, 0, 0, 0] 10, .deny⟩,
    ⟨ipv6Block [0xff00, 0, 0, 0, 0, 0, 0, 0] 8, .deny⟩]

def globalUnicast : Block 128 := ipv6Block [0x2000, 0, 0, 0, 0, 0, 0, 0] 3

/-- The verdict of the most specific registry entry; an address without one is
allowed inside the global unicast block. -/
def registryVerdict (n : ℕ) : Verdict :=
  match mostSpecific ianaIpv6 n with
  | some rule => rule.verdict
  | none => if globalUnicast.Holds n then .allow else .deny

/-- The exceptions inside the protocol-assignment block. -/
def reachableSpecials : List (Block 128) :=
  [ipv6Block [0x2001, 1, 0, 0, 0, 0, 0, 1] 128, ipv6Block [0x2001, 1, 0, 0, 0, 0, 0, 2] 128,
    ipv6Block [0x2001, 1, 0, 0, 0, 0, 0, 3] 128, ipv6Block [0x2001, 3, 0, 0, 0, 0, 0, 0] 32,
    ipv6Block [0x2001, 4, 0x112, 0, 0, 0, 0, 0] 48,
    ipv6Block [0x2001, 0x20, 0, 0, 0, 0, 0, 0] 28, ipv6Block [0x2001, 0x30, 0, 0, 0, 0, 0, 0] 28]

/-- The tests of the IPv6 chain in their order, the exceptions moved in front of their block. -/
def ipv6Chain : List (Rule 128 Verdict) :=
  [⟨ipv6Block [0, 0, 0, 0, 0, 0xffff, 0, 0] 96, .embedded⟩,
    ⟨ipv6Block [0, 0, 0, 0, 0, 0, 0, 0] 128, .deny⟩,
    ⟨ipv6Block [0, 0, 0, 0, 0, 0, 0, 1] 128, .deny⟩,
    ⟨ipv6Block [0xff00, 0, 0, 0, 0, 0, 0, 0] 8, .deny⟩,
    ⟨ipv6Block [0xfc00, 0, 0, 0, 0, 0, 0, 0] 7, .deny⟩,
    ⟨ipv6Block [0xfe80, 0, 0, 0, 0, 0, 0, 0] 10, .deny⟩,
    ⟨ipv6Block [0xfec0, 0, 0, 0, 0, 0, 0, 0] 10, .deny⟩,
    ⟨ipv6Block [0x64, 0xff9b, 1, 0, 0, 0, 0, 0] 48, .deny⟩,
    ⟨ipv6Block [0x64, 0xff9b, 0, 0, 0, 0, 0, 0] 96, .embedded⟩,
    ⟨ipv6Block [0x100, 0, 0, 0, 0, 0, 0, 0] 64, .deny⟩,
    ⟨ipv6Block [0x100, 0, 0, 1, 0, 0, 0, 0] 64, .deny⟩,
    ⟨ipv6Block [0x2001, 2, 0, 0, 0, 0, 0, 0] 48, .deny⟩,
    ⟨ipv6Block [0x2001, 0xdb8, 0, 0, 0, 0, 0, 0] 32, .deny⟩,
    ⟨ipv6Block [0x3fff, 0, 0, 0, 0, 0, 0, 0] 20, .deny⟩,
    ⟨ipv6Block [0x5f00, 0, 0, 0, 0, 0, 0, 0] 16, .deny⟩] ++
  (reachableSpecials.map (fun block => ⟨block, .allow⟩) ++
  [⟨ipv6Block [0x2001, 0, 0, 0, 0, 0, 0, 0] 23, .deny⟩,
    ⟨ipv6Block [0x2002, 0, 0, 0, 0, 0, 0, 0] 16, .deny⟩, ⟨globalUnicast, .allow⟩])

theorem firstMatch_ipv6Chain (n : ℕ) :
    firstMatch ipv6Chain .deny n = registryVerdict n := by
  let cuts := ends ((ipv6Chain ++ ianaIpv6).map Rule.toBlock)
  have hchain : Steps cuts (firstMatch ipv6Chain .deny) :=
    steps_firstMatch (by decide +kernel) Verdict.deny
  have htable : Steps cuts (mostSpecific ianaIpv6) := steps_mostSpecific (by decide +kernel)
  have hunicast : Steps cuts fun n => decide (globalUnicast.Holds n) :=
    steps_holds (by decide +kernel) (by decide +kernel)
  have hregistry : Steps cuts registryVerdict := by
    intro n
    rw [registryVerdict, registryVerdict, htable n]
    have := decide_eq_decide.mp (hunicast n)
    simp only [this]
  exact hchain.eq_of_agree hregistry (by decide +kernel) n

theorem ipv6InPrefix_iff (address : Ipv6Addr) (segments : List ℕ) (length : ℕ)
    (hlength : length ≤ 128) :
    ipv6InPrefix address (.ofSegments segments) length = true ↔
      (ipv6Block segments length hlength).Holds address.bits.toNat := by
  rw [ipv6InPrefix, beq_iff_eq]
  exact BitVec.and_allOnes_shiftLeft_eq_iff _ _ _

theorem isGloballyReachableIanaSpecial_iff (address : Ipv6Addr) :
    isGloballyReachableIanaSpecial address = true ↔
      Covered reachableSpecials address.bits.toNat := by
  have hsingle : ∀ segments, address = .ofSegments segments ↔
      (ipv6Block segments 128).Holds address.bits.toNat := by
    intro segments
    rw [Block.Holds, Block.size, ipv6Block, Nat.sub_self, Nat.pow_zero, Nat.div_one, Nat.div_one,
      BitVec.toNat_inj]
    exact ⟨fun h => congrArg _ h, fun h => congrArg Ipv6Addr.mk h⟩
  simp only [isGloballyReachableIanaSpecial, List.contains_eq_mem, List.mem_cons,
    List.not_mem_nil, or_false, Bool.or_eq_true, decide_eq_true_eq, hsingle,
    ipv6InPrefix_iff _ _ 32 (by decide), ipv6InPrefix_iff _ _ 48 (by decide),
    ipv6InPrefix_iff _ _ 28 (by decide), reachableSpecials, covered_cons, not_covered_nil,
    or_assoc]

theorem single_address_iff (address : Ipv6Addr) (segments : List ℕ) (v : BitVec 128)
    (hv : (Ipv6Addr.ofSegments segments).bits = v) :
    address.bits = v ↔ (ipv6Block segments 128).Holds address.bits.toNat := by
  rw [Block.Holds, Block.size, ipv6Block, Nat.sub_self, Nat.pow_zero, Nat.div_one, Nat.div_one,
    BitVec.toNat_inj, hv]

/-- A mask test of the first segment is a prefix test of the address. -/
theorem segment_mask_iff (address : Ipv6Addr) (v k : ℕ) (hk : k ≤ 16)
    (hv : (Ipv6Addr.ofSegments [v * 2 ^ k, 0, 0, 0, 0, 0, 0, 0]).bits.toNat / 2 ^ (112 + k) = v) :
    address.segment 0 &&& (2 ^ (16 - k) - 1) * 2 ^ k = v * 2 ^ k ↔
      (ipv6Block [v * 2 ^ k, 0, 0, 0, 0, 0, 0, 0] (16 - k) (by omega)).Holds
        address.bits.toNat := by
  have hlength : 128 - (16 - k) = 112 + k := by omega
  have hlt : address.bits.toNat / 2 ^ (112 + k) < 2 ^ (16 - k) := by
    rw [Nat.div_lt_iff_lt_mul (Nat.two_pow_pos _), ← Nat.pow_add,
      show 16 - k + (112 + k) = 128 by omega]
    exact address.bits.isLt
  have hsegment : address.segment 0 = address.bits.toNat / 2 ^ 112 := by
    have := address.bits.isLt
    simp only [Ipv6Addr.segment]
    omega
  rw [Nat.and_mask_eq_iff, hsegment, Nat.div_div_eq_div_mul, ← Nat.pow_add, Nat.mod_eq_of_lt hlt,
    Block.Holds, Block.size, ipv6Block]
  simp only [hlength, hv]

theorem ite_public_iff (c : Prop) [Decidable c] :
    (if c then "public" else "translation_non_public") = "public" ↔ c := by
  by_cases h : c
  · simp [h]
  · simp [h]

section Branches

variable {c : Prop} [Decidable c] {category rest : String} {block : Block 128} {n : ℕ}
  {verdict : Verdict} {address : Ipv6Addr}

theorem permits_denied_iff (hcategory : category ≠ "public") (hc : c ↔ block.Holds n)
    (hrest : rest = "public" ↔ verdict.Permits address) :
    (if c then category else rest) = "public" ↔
      (if block.Holds n then .deny else verdict).Permits address := by
  rw [ite_eq_public_iff hcategory, hc, hrest]
  by_cases h : block.Holds n
  · simp [h, Verdict.Permits]
  · simp [h]

theorem permits_embedded_iff
    (hcategory : category = "public" ↔ Verdict.embedded.Permits address)
    (hc : c ↔ block.Holds n) (hrest : rest = "public" ↔ verdict.Permits address) :
    (if c then category else rest) = "public" ↔
      (if block.Holds n then .embedded else verdict).Permits address := by
  by_cases h : block.Holds n
  · rw [if_pos (hc.mpr h), if_pos h, hcategory]
  · rw [if_neg (fun hcon => h (hc.mp hcon)), if_neg h, hrest]

theorem permits_allowed_iff (hcategory : category = "public") (hc : c ↔ block.Holds n)
    (hrest : rest = "public" ↔ verdict.Permits address) :
    (if c then category else rest) = "public" ↔
      (if block.Holds n then .allow else verdict).Permits address := by
  by_cases h : block.Holds n
  · rw [if_pos (hc.mpr h), if_pos h, hcategory]
    exact iff_of_true rfl trivial
  · rw [if_neg (fun hcon => h (hc.mp hcon)), if_neg h, hrest]

end Branches

theorem reachableSpecials_within (n : ℕ) (h : Covered reachableSpecials n) :
    (ipv6Block [0x2001, 0, 0, 0, 0, 0, 0, 0] 23).Holds n := by
  rcases h with ⟨block, hblock, hholds⟩
  have hnested : ∀ block ∈ reachableSpecials, 23 ≤ block.length ∧
      (ipv6Block [0x2001, 0, 0, 0, 0, 0, 0, 0] 23).Holds block.network := by
    decide +kernel
  rcases hnested block hblock with ⟨hle, hnetwork⟩
  exact (Block.holds_of_length_le hle hholds).mpr hnetwork

theorem permits_exceptions_iff {p e : Bool} {rest : String} {n : ℕ} {verdict : Verdict}
    {address : Ipv6Addr}
    (hp : p = true ↔ (ipv6Block [0x2001, 0, 0, 0, 0, 0, 0, 0] 23).Holds n)
    (he : e = true ↔ Covered reachableSpecials n)
    (hrest : rest = "public" ↔ verdict.Permits address) :
    (if p then (if e then "public" else "special_use") else rest) = "public" ↔
      (if Covered reachableSpecials n then .allow
        else if (ipv6Block [0x2001, 0, 0, 0, 0, 0, 0, 0] 23).Holds n then .deny
        else verdict : Verdict).Permits address := by
  by_cases hexception : Covered reachableSpecials n
  · rw [if_pos (hp.mpr (reachableSpecials_within n hexception)), if_pos (he.mpr hexception),
      if_pos hexception]
    exact iff_of_true rfl trivial
  · rw [if_neg hexception, if_neg (fun h => hexception (he.mp h))]
    exact permits_denied_iff (by decide) hp hrest

theorem classifyIpv6_eq_public_iff_firstMatch (address : Ipv6Addr) :
    classifyIpv6 address = "public" ↔
      (firstMatch ipv6Chain .deny address.bits.toNat).Permits address := by
  have hmulticast : address.segment 0 &&& 0xff00 = 0xff00 ↔
      (ipv6Block [0xff00, 0, 0, 0, 0, 0, 0, 0] 8).Holds address.bits.toNat :=
    segment_mask_iff address 255 8 (by decide) (by decide)
  have huniqueLocal : address.segment 0 &&& 0xfe00 = 0xfc00 ↔
      (ipv6Block [0xfc00, 0, 0, 0, 0, 0, 0, 0] 7).Holds address.bits.toNat :=
    segment_mask_iff address 126 9 (by decide) (by decide)
  have hlinkLocal : address.segment 0 &&& 0xffc0 = 0xfe80 ↔
      (ipv6Block [0xfe80, 0, 0, 0, 0, 0, 0, 0] 10).Holds address.bits.toNat :=
    segment_mask_iff address 1018 6 (by decide) (by decide)
  have hembedded : (if classifyIpv4 (embeddedIpv4 address) = "public" then "public"
      else "translation_non_public") = "public" ↔ Verdict.embedded.Permits address :=
    ite_public_iff _
  simp only [ipv6Chain, List.cons_append, List.nil_append, firstMatch, firstMatch_append_map]
  by_cases h : address.bits.toNat / 2 ^ 32 = 0xffff
  · have hblock : (ipv6Block [0, 0, 0, 0, 0, 0xffff, 0, 0] 96).Holds address.bits.toNat := h
    rw [if_pos hblock, classifyIpv6, Ipv6Addr.toIpv4Mapped, if_pos h]
    rfl
  have hblock : ¬ (ipv6Block [0, 0, 0, 0, 0, 0xffff, 0, 0] 96).Holds address.bits.toNat := h
  simp only [if_neg hblock, classifyIpv6, Ipv6Addr.toIpv4Mapped, if_neg h, Bool.or_eq_true]
  apply permits_denied_iff (by decide) (single_address_iff address _ 0 rfl)
  apply permits_denied_iff (by decide) (single_address_iff address _ 1 rfl)
  apply permits_denied_iff (by decide) hmulticast
  apply permits_denied_iff (by decide) huniqueLocal
  apply permits_denied_iff (by decide) hlinkLocal
  apply permits_denied_iff (by decide) (ipv6InPrefix_iff _ _ _ _)
  apply permits_denied_iff (by decide) (ipv6InPrefix_iff _ _ _ _)
  apply permits_embedded_iff hembedded (ipv6InPrefix_iff _ _ _ _)
  apply permits_denied_iff (by decide) (ipv6InPrefix_iff _ _ _ _)
  apply permits_denied_iff (by decide) (ipv6InPrefix_iff _ _ _ _)
  apply permits_denied_iff (by decide) (ipv6InPrefix_iff _ _ _ _)
  rw [ite_or]
  apply permits_denied_iff (by decide) (ipv6InPrefix_iff _ _ _ _)
  apply permits_denied_iff (by decide) (ipv6InPrefix_iff _ _ _ _)
  apply permits_denied_iff (by decide) (ipv6InPrefix_iff _ _ _ _)
  apply permits_exceptions_iff (ipv6InPrefix_iff _ _ _ _)
    (isGloballyReachableIanaSpecial_iff address)
  apply permits_denied_iff (by decide) (ipv6InPrefix_iff _ _ _ _)
  apply permits_allowed_iff rfl (ipv6InPrefix_iff _ _ _ _)
  exact iff_of_false (by decide) not_false

theorem ianaIpv6_coherent : ∀ r ∈ ianaIpv6, ∀ s ∈ ianaIpv6, r.length = s.length →
    r.Holds s.network → r.verdict = s.verdict := by
  decide +kernel

/-- An IPv6 address is public exactly when its longest matching registry prefix
permits it, or when no prefix matches and it is global unicast. -/
theorem classifyIpv6_longestMatch (address : Ipv6Addr) :
    classifyIpv6 address = "public" ↔
      (∃ rule ∈ ianaIpv6, rule.Holds address.bits.toNat ∧
        (∀ other ∈ ianaIpv6, other.Holds address.bits.toNat → other.length ≤ rule.length) ∧
        rule.verdict.Permits address) ∨
      ((∀ rule ∈ ianaIpv6, ¬ rule.Holds address.bits.toNat) ∧
        globalUnicast.Holds address.bits.toNat) := by
  rw [classifyIpv6_eq_public_iff_firstMatch, firstMatch_ipv6Chain, registryVerdict]
  rcases h : mostSpecific ianaIpv6 address.bits.toNat with _ | rule
  · have hnone := mostSpecific_eq_none_iff.mp h
    by_cases hunicast : globalUnicast.Holds address.bits.toNat
    · simp only [if_pos hunicast]
      exact iff_of_true trivial (.inr ⟨hnone, hunicast⟩)
    · simp only [if_neg hunicast]
      apply iff_of_false not_false
      rintro (⟨rule, hrule, hholds, -⟩ | ⟨-, hholds⟩)
      · exact hnone rule hrule hholds
      · exact hunicast hholds
  · rcases mostSpecific_spec h with ⟨hrule, hholds, hlongest⟩
    constructor
    · intro hpermits
      exact .inl ⟨rule, hrule, hholds, hlongest, hpermits⟩
    · rintro (⟨other, hother, hotherHolds, hotherLongest, hpermits⟩ | ⟨hnone, -⟩)
      · have := verdict_eq_of_longest ianaIpv6_coherent h hother hotherHolds hotherLongest
        rwa [this] at hpermits
      · exact absurd hholds (hnone rule hrule)

theorem isIpPermitted_false_iff (address : IpAddr) :
    isIpPermitted address false = true ↔ classifyIp address = "public" := by
  rw [isIpPermitted, Bool.false_or, beq_iff_eq]

/-- The IPv6 addresses that stand for an IPv4 address: mapped, compatible,
translated, well-known and local NAT64, 6to4 and Teredo. -/
inductive Embeds (a : Ipv4Addr) (b : Ipv6Addr) : Prop
  | mapped (h : b.bits.toNat = 0xffff * 2 ^ 32 + a.bits.toNat)
  | compatible (h : b.bits.toNat = a.bits.toNat)
  | translated (h : b.bits.toNat = 0xffff * 2 ^ 48 + a.bits.toNat)
  | nat64 (h : b.bits.toNat = 0x64ff9b * 2 ^ 96 + a.bits.toNat)
  | localNat64 (h : (ipv6Block [0x64, 0xff9b, 1, 0, 0, 0, 0, 0] 48).Holds b.bits.toNat)
  | sixToFour (h : b.bits.toNat / 2 ^ 80 = 0x2002 * 2 ^ 32 + a.bits.toNat)
  | teredo (h : (ipv6Block [0x2001, 0, 0, 0, 0, 0, 0, 0] 32).Holds b.bits.toNat)

/-- The blocks of the embeddings, each with the one verdict that it gets. -/
def embeddings : List (Rule 128 Verdict) :=
  [⟨ipv6Block [0, 0, 0, 0, 0, 0xffff, 0, 0] 96, .embedded⟩,
    ⟨ipv6Block [0, 0, 0, 0, 0, 0, 0, 0] 96, .deny⟩,
    ⟨ipv6Block [0, 0, 0, 0, 0xffff, 0, 0, 0] 96, .deny⟩,
    ⟨ipv6Block [0x64, 0xff9b, 0, 0, 0, 0, 0, 0] 96, .embedded⟩,
    ⟨ipv6Block [0x64, 0xff9b, 1, 0, 0, 0, 0, 0] 48, .deny⟩,
    ⟨ipv6Block [0x2002, 0, 0, 0, 0, 0, 0, 0] 16, .deny⟩,
    ⟨ipv6Block [0x2001, 0, 0, 0, 0, 0, 0, 0] 32, .deny⟩]

theorem firstMatch_embeddings (rule : Rule 128 Verdict) (hrule : rule ∈ embeddings) (n : ℕ)
    (hn : rule.Holds n) : firstMatch ipv6Chain .deny n = rule.verdict := by
  let cuts := ends ((ipv6Chain ++ embeddings).map Rule.toBlock)
  have hsteps : Steps cuts (firstMatch ipv6Chain .deny) :=
    steps_firstMatch (by decide +kernel) Verdict.deny
  have hcuts : ∀ rule ∈ embeddings, rule.first ∈ cuts ∧ rule.above ∈ cuts ∧
      ∀ c ∈ 0 :: cuts, rule.Holds c → firstMatch ipv6Chain .deny c = rule.verdict := by
    decide +kernel
  rcases hcuts rule hrule with ⟨hfirst, habove, h⟩
  exact hsteps.forall_holds (P := fun verdict => verdict = rule.verdict) hfirst habove h n hn

theorem embeddedIpv4_of_toNat {a : Ipv4Addr} {b : Ipv6Addr} (k : ℕ)
    (h : b.bits.toNat = k * 2 ^ 32 + a.bits.toNat) : embeddedIpv4 b = a := by
  have hlow : b.bits.toNat % 2 ^ 32 = a.bits.toNat := by
    have := a.bits.isLt
    omega
  rw [embeddedIpv4, hlow, BitVec.ofNat_toNat, BitVec.setWidth_eq]

/-- A block of 96 bits is entered by its network and any low 32 bits. -/
theorem ipv6Block_holds_of_toNat {a : Ipv4Addr} {b : Ipv6Addr} {segments : List ℕ} {k : ℕ}
    (hk : (Ipv6Addr.ofSegments segments).bits.toNat / 2 ^ 32 = k)
    (hb : b.bits.toNat = k * 2 ^ 32 + a.bits.toNat) :
    (ipv6Block segments 96).Holds b.bits.toNat := by
  have hlt := a.bits.isLt
  change b.bits.toNat / 2 ^ 32 = (Ipv6Addr.ofSegments segments).bits.toNat / 2 ^ 32
  omega

theorem Embeds.verdict {a : Ipv4Addr} {b : Ipv6Addr} (h : Embeds a b) :
    firstMatch ipv6Chain .deny b.bits.toNat = .deny ∨
      (firstMatch ipv6Chain .deny b.bits.toNat = .embedded ∧ embeddedIpv4 b = a) := by
  have hverdict := fun rule hrule => firstMatch_embeddings rule hrule b.bits.toNat
  simp only [embeddings, List.forall_mem_cons] at hverdict
  obtain ⟨hmapped, hcompatible, htranslated, hnat64, hlocal, hsix, hteredo, -⟩ := hverdict
  cases h with
  | mapped h =>
    exact .inr ⟨hmapped (ipv6Block_holds_of_toNat (by decide) h), embeddedIpv4_of_toNat _ h⟩
  | compatible h =>
    have h : b.bits.toNat = 0 * 2 ^ 32 + a.bits.toNat := by omega
    exact .inl (hcompatible (ipv6Block_holds_of_toNat (by decide) h))
  | translated h =>
    have h : b.bits.toNat = 0xffff * 2 ^ 16 * 2 ^ 32 + a.bits.toNat := by omega
    exact .inl (htranslated (ipv6Block_holds_of_toNat (by decide) h))
  | nat64 h =>
    have h : b.bits.toNat = 0x64ff9b * 2 ^ 64 * 2 ^ 32 + a.bits.toNat := by omega
    exact .inr ⟨hnat64 (ipv6Block_holds_of_toNat (by decide) h), embeddedIpv4_of_toNat _ h⟩
  | localNat64 h => exact .inl (hlocal h)
  | sixToFour h =>
    have hlt := a.bits.isLt
    have hblock : (ipv6Block [0x2002, 0, 0, 0, 0, 0, 0, 0] 16).Holds b.bits.toNat := by
      change b.bits.toNat / 2 ^ 112 = 0x2002
      omega
    exact .inl (hsix hblock)
  | teredo h => exact .inl (hteredo h)

/-- No spelling of a special IPv4 address is permitted. -/
theorem special_never_permitted (a : Ipv4Addr) (hspecial : Covered specialIpv4 a.bits.toNat) :
    isIpPermitted (.v4 a) false = false ∧
      ∀ b, Embeds a b → isIpPermitted (.v6 b) false = false := by
  have ha : classifyIpv4 a ≠ "public" := by
    rw [Ne, classifyIpv4_eq_public_iff_not_covered, not_not, covered_deniedIpv4]
    exact .inl hspecial
  constructor
  · rw [← Bool.not_eq_true, isIpPermitted_false_iff]
    exact ha
  · intro b hb
    rw [← Bool.not_eq_true, isIpPermitted_false_iff]
    change classifyIpv6 b ≠ "public"
    rw [Ne, classifyIpv6_eq_public_iff_firstMatch]
    rcases hb.verdict with h | ⟨h, hlow⟩
    · rw [h]
      exact not_false
    · rw [h, Verdict.Permits, hlow]
      exact ha

theorem special_never_permitted_private :
    isIpPermitted (.v4 (.ofOctets 10 0 0 1)) false = false ∧
      ∀ b, Embeds (.ofOctets 10 0 0 1) b → isIpPermitted (.v6 b) false = false :=
  special_never_permitted (.ofOctets 10 0 0 1) (by decide)

/-- The IPv4-mapped form of an address. -/
def mappedIpv6 (a : Ipv4Addr) : Ipv6Addr := ⟨BitVec.ofNat 128 (0xffff * 2 ^ 32 + a.bits.toNat)⟩

/-- The form of an address under the well-known translation prefix. -/
def nat64Ipv6 (a : Ipv4Addr) : Ipv6Addr := ⟨BitVec.ofNat 128 (0x64ff9b * 2 ^ 96 + a.bits.toNat)⟩

theorem isIpPermitted_mapped (a : Ipv4Addr) :
    isIpPermitted (.v6 (mappedIpv6 a)) false = true ↔ classifyIpv4 a = "public" := by
  have hbits : (mappedIpv6 a).bits.toNat = 0xffff * 2 ^ 32 + a.bits.toNat := by
    have := a.bits.isLt
    rw [mappedIpv6, BitVec.toNat_ofNat]
    omega
  have hverdict : firstMatch ipv6Chain .deny (mappedIpv6 a).bits.toNat = .embedded :=
    firstMatch_embeddings _ List.mem_cons_self _ (ipv6Block_holds_of_toNat (by decide) hbits)
  rw [isIpPermitted_false_iff, classifyIp, classifyIpv6_eq_public_iff_firstMatch, hverdict,
    Verdict.Permits, embeddedIpv4_of_toNat _ hbits]

theorem isIpPermitted_nat64 (a : Ipv4Addr) :
    isIpPermitted (.v6 (nat64Ipv6 a)) false = true ↔ classifyIpv4 a = "public" := by
  have hbits : (nat64Ipv6 a).bits.toNat = 0x64ff9b * 2 ^ 64 * 2 ^ 32 + a.bits.toNat := by
    have := a.bits.isLt
    rw [nat64Ipv6, BitVec.toNat_ofNat]
    omega
  have hmem : ⟨ipv6Block [0x64, 0xff9b, 0, 0, 0, 0, 0, 0] 96, .embedded⟩ ∈ embeddings := by
    simp [embeddings]
  have hverdict : firstMatch ipv6Chain .deny (nat64Ipv6 a).bits.toNat = .embedded :=
    firstMatch_embeddings _ hmem _ (ipv6Block_holds_of_toNat (by decide) hbits)
  rw [isIpPermitted_false_iff, classifyIp, classifyIpv6_eq_public_iff_firstMatch, hverdict,
    Verdict.Permits, embeddedIpv4_of_toNat _ hbits]

/-- The addresses that are not special are public exactly outside the two
blocks of which the chain tests too few octets. -/
theorem ordinaryIpv4_permitted_iff (a : Ipv4Addr)
    (hordinary : ¬ Covered specialIpv4 a.bits.toNat) :
    (classifyIpv4 a = "public" ∧ isIpPermitted (.v4 a) false = true ∧
        isIpPermitted (.v6 (mappedIpv6 a)) false = true ∧
        isIpPermitted (.v6 (nat64Ipv6 a)) false = true) ↔
      ¬ Covered overblockedIpv4 a.bits.toNat := by
  have hpublic : classifyIpv4 a = "public" ↔ ¬ Covered overblockedIpv4 a.bits.toNat := by
    rw [classifyIpv4_eq_public_iff_not_covered, covered_deniedIpv4, or_iff_right hordinary]
  have hself : isIpPermitted (.v4 a) false = true ↔ classifyIpv4 a = "public" :=
    isIpPermitted_false_iff (.v4 a)
  rw [hself, isIpPermitted_mapped, isIpPermitted_nat64, hpublic]
  constructor
  · intro h
    exact h.1
  · intro h
    exact ⟨h, h, h, h⟩

theorem ordinaryIpv4_permitted_dns :
    (classifyIpv4 (.ofOctets 8 8 8 8) = "public" ∧
        isIpPermitted (.v4 (.ofOctets 8 8 8 8)) false = true ∧
        isIpPermitted (.v6 (mappedIpv6 (.ofOctets 8 8 8 8))) false = true ∧
        isIpPermitted (.v6 (nat64Ipv6 (.ofOctets 8 8 8 8))) false = true) ↔
      ¬ Covered overblockedIpv4 (Ipv4Addr.ofOctets 8 8 8 8).bits.toNat :=
  ordinaryIpv4_permitted_iff (.ofOctets 8 8 8 8) (by decide)

/-- 198.51.1.1 is outside every special block and still denied. -/
theorem ordinaryIpv4_denied :
    ¬ Covered specialIpv4 (Ipv4Addr.ofOctets 198 51 1 1).bits.toNat ∧
      classifyIpv4 (.ofOctets 198 51 1 1) ≠ "public" ∧
      isIpPermitted (.v4 (.ofOctets 198 51 1 1)) false = false := by
  decide

end HopWhy
