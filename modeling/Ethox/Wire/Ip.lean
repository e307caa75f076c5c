import Ethox.Basic

/-!
# IP addresses and prefixes

Modelled from the spec: the routing table reads five things from the wire module, which is
not under `src/`: `IpAddress`, `IpAddress::is_unicast`, `IpCidr`, `IpCidr::contains_addr` and
the derived order of `IpCidr`. An address is its bytes in network order read as one big-endian
number, so the derived order of the byte arrays is the order of the numbers. `Ipv4Cidr::new`
and `Ipv6Cidr::new` only assert the prefix length and keep the address as given, so a prefix
may have host bits set; such a prefix is not `Canonical`.

Containment is CIDR containment for both families: the address agrees with the prefix on the
prefix's leading `prefix_len` bits. The results about IPv6 routes are about that containment;
the `Ipv6Cidr::contains_addr` of smoltcp 0.5, which compares the leading `128 - prefix_len`
bits instead, is not what is modelled.
-/

namespace Ethox.Wire

/-- Modelled from the spec: `wire::IpAddress`, for its two address families. -/
inductive IpAddress where
  | ipv4 (address : BitVec 32)
  | ipv6 (address : BitVec 128)
deriving DecidableEq, Repr

/-- Modelled from the spec: `Ipv4Cidr` at width 32 and `Ipv6Cidr` at width 128, an address
and a prefix length, which the constructor asserts is at most the width. -/
structure Cidr (width : Nat) where
  /-- The address, host bits included. -/
  address : BitVec width
  /-- The number of leading bits that form the prefix. -/
  prefixLen : Nat
  /-- `assert!(prefix_len <= width)` of the constructor. -/
  prefixLen_le : prefixLen ≤ width
deriving DecidableEq, Repr

namespace Cidr

variable {w : Nat}

/-- Modelled from the spec: CIDR containment, as `Ipv4Cidr::contains_addr` computes it. A
zero-length prefix contains every address, and otherwise the two addresses agree once the bits
past the prefix are shifted out. -/
def containsAddr (self : Cidr w) (addr : BitVec w) : Bool :=
  if self.prefixLen = 0 then true
  else self.address >>> (w - self.prefixLen) == addr >>> (w - self.prefixLen)

/-- No bit of the address past the prefix is set. -/
def Canonical (self : Cidr w) : Prop := self.address.toNat % 2 ^ (w - self.prefixLen) = 0

/-- Whether a prefix is canonical is computed. -/
instance (self : Cidr w) : Decidable self.Canonical := inferInstanceAs (Decidable (_ = _))

/-- Position in the derived order of `Cidr`: by address, then by prefix length. -/
def key (self : Cidr w) : Nat := self.address.toNat * (w + 1) + self.prefixLen

/-- Containment compares the address values above the host bits. -/
theorem containsAddr_iff (self : Cidr w) (addr : BitVec w) :
    self.containsAddr addr ↔
      self.address.toNat / 2 ^ (w - self.prefixLen) = addr.toNat / 2 ^ (w - self.prefixLen) := by
  unfold containsAddr
  split
  · rename_i zero
    simp only [zero, Nat.sub_zero, Nat.div_eq_of_lt self.address.isLt,
      Nat.div_eq_of_lt addr.isLt]
  · simp only [beq_iff_eq, BitVec.toNat_eq, BitVec.toNat_ushiftRight, Nat.shiftRight_eq_div_pow]

/-- A canonical prefix containing `addr` is `addr` with its host bits cleared. -/
theorem address_eq_of_containsAddr {self : Cidr w} {addr : BitVec w} (canonical : self.Canonical)
    (contains : self.containsAddr addr) :
    self.address.toNat = addr.toNat / 2 ^ (w - self.prefixLen) * 2 ^ (w - self.prefixLen) := by
  rw [← (containsAddr_iff self addr).mp contains]
  exact (Nat.div_mul_cancel (Nat.dvd_of_mod_eq_zero canonical)).symm

/-- Clearing more low bits never gives a larger number. -/
theorem div_mul_le_div_mul (a : Nat) {s t : Nat} (le : t ≤ s) :
    a / 2 ^ s * 2 ^ s ≤ a / 2 ^ t * 2 ^ t := by
  obtain ⟨d, rfl⟩ := Nat.exists_eq_add_of_le le
  rw [Nat.pow_add, ← Nat.div_div_eq_div_mul, Nat.mul_comm (2 ^ t), ← Nat.mul_assoc]
  exact Nat.mul_le_mul_right _ (Nat.div_mul_le_self _ _)

/-- Of two canonical prefixes containing one address, the shorter has the smaller address. -/
theorem address_le_of_containsAddr {c d : Cidr w} {addr : BitVec w} (canonicalC : c.Canonical)
    (canonicalD : d.Canonical) (containsC : c.containsAddr addr) (containsD : d.containsAddr addr)
    (shorter : c.prefixLen ≤ d.prefixLen) : c.address.toNat ≤ d.address.toNat := by
  rw [address_eq_of_containsAddr canonicalC containsC, address_eq_of_containsAddr canonicalD containsD]
  exact div_mul_le_div_mul _ (by omega)

/-- A canonical prefix containing `addr` has an address no larger than `addr`. -/
theorem address_le_addr {self : Cidr w} {addr : BitVec w} (canonical : self.Canonical)
    (contains : self.containsAddr addr) : self.address.toNat ≤ addr.toNat := by
  rw [address_eq_of_containsAddr canonical contains]
  exact Nat.div_mul_le_self _ _

/-- A smaller address comes first whatever the prefix lengths. -/
theorem key_lt_of_address_lt {c d : Cidr w} (lt : c.address.toNat < d.address.toNat) :
    c.key < d.key := by
  have step := Nat.mul_le_mul_right (w + 1) (Nat.succ_le_of_lt lt)
  rw [Nat.succ_mul] at step
  have := c.prefixLen_le
  unfold key
  omega

/-- Keys are ordered by address first, then by prefix length. -/
theorem key_le_key {c d : Cidr w} (address : c.address.toNat ≤ d.address.toNat)
    (length : c.prefixLen ≤ d.prefixLen) : c.key ≤ d.key :=
  Nat.add_le_add (Nat.mul_le_mul_right _ address) length

/-- At an address no larger, a shorter prefix comes strictly first. -/
theorem key_lt_key {c d : Cidr w} (address : c.address.toNat ≤ d.address.toNat)
    (length : c.prefixLen < d.prefixLen) : c.key < d.key :=
  Nat.add_lt_add_of_le_of_lt (Nat.mul_le_mul_right _ address) length

/-- The key order is the lexicographic order of the derived `Ord`. -/
theorem key_lt_key_iff (c d : Cidr w) :
    c.key < d.key ↔ c.address.toNat < d.address.toNat ∨
      c.address.toNat = d.address.toNat ∧ c.prefixLen < d.prefixLen := by
  constructor
  · intro lt
    rcases Nat.lt_trichotomy c.address.toNat d.address.toNat with below | same | above
    · exact .inl below
    · refine .inr ⟨same, ?_⟩
      unfold key at lt
      rw [same] at lt
      omega
    · exact absurd (key_lt_of_address_lt above) (Nat.lt_asymm lt)
  · rintro (below | ⟨same, length⟩)
    · exact key_lt_of_address_lt below
    · exact key_lt_key same.le length

/-- A key determines its prefix. -/
theorem key_injective : Function.Injective (@key w) := by
  intro c d same
  have address : c.address.toNat = d.address.toNat := by
    rcases Nat.lt_trichotomy c.address.toNat d.address.toNat with below | equal | above
    · exact absurd same (Nat.ne_of_lt (key_lt_of_address_lt below))
    · exact equal
    · exact absurd same (Nat.ne_of_gt (key_lt_of_address_lt above))
  have length : c.prefixLen = d.prefixLen := by
    unfold key at same
    rw [address] at same
    omega
  cases c
  cases d
  simp only [mk.injEq]
  exact ⟨BitVec.eq_of_toNat_eq address, length⟩

/-- The keys of a family stay below `2 ^ width * (width + 1)`. -/
theorem key_lt (self : Cidr w) : self.key < 2 ^ w * (w + 1) := by
  have step := Nat.mul_le_mul_right (w + 1) (Nat.succ_le_of_lt self.address.isLt)
  rw [Nat.succ_mul] at step
  have := self.prefixLen_le
  unfold key
  omega

end Cidr

/-- Modelled from the spec: `wire::IpCidr`, for its two address families. -/
inductive IpCidr where
  | ipv4 (cidr : Cidr 32)
  | ipv6 (cidr : Cidr 128)
deriving DecidableEq, Repr

namespace IpCidr

/-- Position in the derived order of `IpCidr`: every `Ipv4` prefix before every `Ipv6`
prefix, and each family in the order of its `Cidr`. -/
def rank : IpCidr → Nat
  | ipv4 cidr => cidr.key
  | ipv6 cidr => 2 ^ 32 * 33 + cidr.key

/-- Distinct prefixes have distinct ranks. -/
theorem rank_injective : Function.Injective rank := by
  intro c d same
  cases c with
  | ipv4 c =>
    cases d with
    | ipv4 d => exact congrArg ipv4 (Cidr.key_injective same)
    | ipv6 d => have := c.key_lt; simp only [rank] at same; omega
  | ipv6 c =>
    cases d with
    | ipv4 d => have := d.key_lt; simp only [rank] at same; omega
    | ipv6 d => exact congrArg ipv6 (Cidr.key_injective (by simpa only [rank, Nat.add_left_cancel_iff] using same))

/-- The derived order of `IpCidr`. -/
instance : LinearOrder IpCidr := LinearOrder.lift' rank rank_injective

/-- Prefixes compare as their ranks. -/
theorem lt_iff_rank_lt {c d : IpCidr} : c < d ↔ c.rank < d.rank := Iff.rfl

/-- Prefixes compare as their ranks. -/
theorem le_iff_rank_le {c d : IpCidr} : c ≤ d ↔ c.rank ≤ d.rank := Iff.rfl

/-- The prefix length of either family. -/
def prefixLen : IpCidr → Nat
  | ipv4 cidr => cidr.prefixLen
  | ipv6 cidr => cidr.prefixLen

/-- Modelled from the spec: `IpCidr::contains_addr`, CIDR containment in each family; a prefix
never contains an address of the other family. -/
def containsAddr : IpCidr → IpAddress → Bool
  | ipv4 cidr, .ipv4 addr => cidr.containsAddr addr
  | ipv6 cidr, .ipv6 addr => cidr.containsAddr addr
  | _, _ => false

/-- No host bit of the prefix is set. -/
def Canonical : IpCidr → Prop
  | ipv4 cidr => cidr.Canonical
  | ipv6 cidr => cidr.Canonical

/-- Whether a prefix is canonical is computed. -/
instance : DecidablePred Canonical
  | ipv4 cidr => inferInstanceAs (Decidable cidr.Canonical)
  | ipv6 cidr => inferInstanceAs (Decidable cidr.Canonical)

end IpCidr

/-- Modelled from the spec: `IpAddress::is_unicast`, which `Routes::lookup` asserts. An IPv4
address is unicast unless it is the broadcast address `255.255.255.255`, lies in the multicast
block `224.0.0.0/4`, or lies in `0.0.0.0/8`, which `Ipv4Address::is_unspecified` reports; an
IPv6 address is unicast unless it is multicast, with first byte `0xff`, or the unspecified
address `::`. -/
def IpAddress.isUnicast : IpAddress → Bool
  | ipv4 addr => !(addr == BitVec.allOnes 32 || addr.toNat / 2 ^ 28 == 14 || addr.toNat / 2 ^ 24 == 0)
  | ipv6 addr => !(addr.toNat / 2 ^ 120 == 0xff || addr == 0)

/-- The prefix `Routes::lookup` builds from an address: the address at full length. -/
def IpAddress.hostCidr : IpAddress → IpCidr
  | ipv4 addr => .ipv4 ⟨addr, 32, Nat.le_refl _⟩
  | ipv6 addr => .ipv6 ⟨addr, 128, Nat.le_refl _⟩

namespace IpCidr

/-- A canonical prefix containing an address sorts no later than the address's host prefix. -/
theorem le_hostCidr {cidr : IpCidr} {addr : IpAddress} (canonical : cidr.Canonical)
    (contains : cidr.containsAddr addr) : cidr ≤ addr.hostCidr := by
  rw [le_iff_rank_le]
  cases cidr with
  | ipv4 c =>
    cases addr with
    | ipv4 a => exact Cidr.key_le_key (Cidr.address_le_addr canonical contains) c.prefixLen_le
    | ipv6 a => simp [containsAddr] at contains
  | ipv6 c =>
    cases addr with
    | ipv4 a => simp [containsAddr] at contains
    | ipv6 a =>
      exact Nat.add_le_add_left
        (Cidr.key_le_key (@Cidr.address_le_addr _ _ a canonical contains) c.prefixLen_le) _

/-- Of two canonical prefixes containing one address, the shorter sorts first. -/
theorem lt_of_prefixLen_lt {c d : IpCidr} {addr : IpAddress} (canonicalC : c.Canonical)
    (canonicalD : d.Canonical) (containsC : c.containsAddr addr) (containsD : d.containsAddr addr)
    (shorter : c.prefixLen < d.prefixLen) : c < d := by
  rw [lt_iff_rank_lt]
  cases c with
  | ipv4 c =>
    cases d with
    | ipv4 d =>
      cases addr with
      | ipv4 a =>
        exact Cidr.key_lt_key (@Cidr.address_le_of_containsAddr _ _ _ a canonicalC canonicalD
          containsC containsD shorter.le) shorter
      | ipv6 a => simp [containsAddr] at containsC
    | ipv6 d =>
      have := c.key_lt
      simp only [rank]
      omega
  | ipv6 c =>
    cases d with
    | ipv4 d => cases addr <;> simp [containsAddr] at containsC containsD
    | ipv6 d =>
      cases addr with
      | ipv4 a => simp [containsAddr] at containsC
      | ipv6 a =>
        exact Nat.add_lt_add_left (Cidr.key_lt_key (@Cidr.address_le_of_containsAddr _ _ _ a
          canonicalC canonicalD containsC containsD shorter.le) shorter) _

end IpCidr

end Ethox.Wire
