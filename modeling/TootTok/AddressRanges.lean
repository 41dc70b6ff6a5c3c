import TootTok.AddressBlocks
import TootTok.Egress

/-!
# Ranges of addresses

What the egress policy blocks, as blocks of addresses: which of the special-purpose ranges of
IPv4 it leaves open, and which ways to write an IPv4 address within one of IPv6 get around it.
-/

namespace TootTok
namespace Egress

open Blocks (Block Listed)

/-! ## Addresses as numbers -/

def Ipv4Addr.number (ip : Ipv4Addr) : Nat :=
  ((ip.a.toNat * 256 + ip.b.toNat) * 256 + ip.c.toNat) * 256 + ip.d.toNat

def Ipv6Addr.number (ip : Ipv6Addr) : Nat :=
  ip.segments.toList.foldl (fun number segment => number * 65536 + segment.toNat) 0

/-- The block `a.b.c.d/length`. -/
def v4Block (a b c d length : Nat) : Block 32 := ⟨((a * 256 + b) * 256 + c) * 256 + d, length⟩

/-- The block of addresses that start with two segments. -/
def v6Block (first second length : Nat) : Block 128 :=
  ⟨(first * 65536 + second) * 2 ^ 96, length⟩

/-! ## Special-purpose ranges -/

/-- The registry of special-purpose addresses of IPv4, and multicast. -/
def specialPurpose : List (Block 32) :=
  [ -- this network, and this host on it
    v4Block 0 0 0 0 8, v4Block 0 0 0 0 32,
    -- private use
    v4Block 10 0 0 0 8, v4Block 172 16 0 0 12, v4Block 192 168 0 0 16,
    -- shared address space, loopback, link-local
    v4Block 100 64 0 0 10, v4Block 127 0 0 0 8, v4Block 169 254 0 0 16,
    -- protocol assignments: in general, service continuity, the dummy address, port control,
    -- relaying, discovery of translation
    v4Block 192 0 0 0 24, v4Block 192 0 0 0 29, v4Block 192 0 0 8 32, v4Block 192 0 0 9 32,
    v4Block 192 0 0 10 32, v4Block 192 0 0 170 32, v4Block 192 0 0 171 32,
    -- documentation
    v4Block 192 0 2 0 24, v4Block 198 51 100 0 24, v4Block 203 0 113 0 24,
    -- name servers of private zones, multicast tunnels, relays of 6to4 and 6a44
    v4Block 192 31 196 0 24, v4Block 192 175 48 0 24, v4Block 192 52 193 0 24,
    v4Block 192 88 99 0 24, v4Block 192 88 99 2 32,
    -- benchmarking, reserved, broadcast, multicast
    v4Block 198 18 0 0 15, v4Block 240 0 0 0 4, v4Block 255 255 255 255 32,
    v4Block 224 0 0 0 4 ]

/-- The special-purpose ranges that are not blocked, except for `0.0.0.0`. -/
def openRanges : List (Block 32) :=
  [ v4Block 0 0 0 0 8, v4Block 192 31 196 0 24, v4Block 192 175 48 0 24,
    v4Block 192 52 193 0 24, v4Block 192 88 99 0 24 ]

def Ipv4Addr.SpecialPurpose (ip : Ipv4Addr) : Prop := Listed specialPurpose ip.number

/-- The address is in a range that is left open. -/
def Ipv4Addr.LeftOpen (ip : Ipv4Addr) : Prop := Listed openRanges ip.number ∧ ip.number ≠ 0

instance (ip : Ipv4Addr) : Decidable ip.SpecialPurpose := by
  unfold Ipv4Addr.SpecialPurpose
  infer_instance

instance (ip : Ipv4Addr) : Decidable ip.LeftOpen := by
  unfold Ipv4Addr.LeftOpen
  infer_instance

/-! ## IPv4 in IPv6 -/

/-- How an address of IPv6 stands for one of IPv4. -/
inductive Embedding
  /-- `::ffff:a.b.c.d` -/
  | mapped
  /-- `::a.b.c.d` -/
  | compatible
  /-- `64:ff9b::a.b.c.d` -/
  | nat64
  /-- `2002:ab:cd::/48` -/
  | sixToFour
deriving DecidableEq

/-- Where such addresses are. -/
def Embedding.block : Embedding → Block 128
  | .mapped => ⟨0xffff * 2 ^ 32, 96⟩
  | .compatible => ⟨0, 96⟩
  | .nat64 => v6Block 0x64 0xff9b 96
  | .sixToFour => v6Block 0x2002 0 16

/-- How many bits come behind the embedded address. -/
def Embedding.shift : Embedding → Nat
  | .sixToFour => 80
  | _ => 0

/-- The address of IPv6 stands for that of IPv4. -/
def Embedding.Embeds (embedding : Embedding) (address : Ipv4Addr) (host : Ipv6Addr) : Prop :=
  embedding.block.Contains host.number ∧
    host.number / 2 ^ embedding.shift % 2 ^ 32 = address.number

instance (embedding : Embedding) (address : Ipv4Addr) (host : Ipv6Addr) :
    Decidable (embedding.Embeds address host) := by
  unfold Embedding.Embeds
  infer_instance

/-! ## What is blocked -/

/-- The blocks of the policy, in the order of its checks. -/
def v4Guarded : List (Block 32) :=
  [ v4Block 100 64 0 0 10, v4Block 0 0 0 0 32, v4Block 127 0 0 0 8, v4Block 10 0 0 0 8,
    v4Block 172 16 0 0 12, v4Block 192 168 0 0 16, v4Block 169 254 0 0 16,
    v4Block 255 255 255 255 32, v4Block 192 0 2 0 24, v4Block 198 51 100 0 24,
    v4Block 203 0 113 0 24, v4Block 224 0 0 0 4, v4Block 192 0 0 0 24, v4Block 198 18 0 0 15,
    v4Block 240 0 0 0 4 ]

/-- The blocks of the policy for addresses that are not mapped. -/
def v6Guarded : List (Block 128) :=
  [ ⟨0, 128⟩, ⟨1, 128⟩, v6Block 0xfc00 0 7, v6Block 0xfe80 0 10, v6Block 0xff00 0 8,
    v6Block 0x2001 0xdb8 32, v6Block 0x3fff 0 20 ]

namespace Ipv4Addr

variable (ip : Ipv4Addr)

theorem octets_lt :
    ip.a.toNat < 256 ∧ ip.b.toNat < 256 ∧ ip.c.toNat < 256 ∧ ip.d.toNat < 256 :=
  ⟨ip.a.toNat_lt, ip.b.toNat_lt, ip.c.toNat_lt, ip.d.toNat_lt⟩

/-- An address is in a block if it shares the leading bits of its octets. -/
theorem contains_v4Block {a b c d length : Nat} :
    (v4Block a b c d length).Contains ip.number ↔
      (((ip.a.toNat * 256 + ip.b.toNat) * 256 + ip.c.toNat) * 256 + ip.d.toNat) /
          2 ^ (32 - length) =
        (((a * 256 + b) * 256 + c) * 256 + d) / 2 ^ (32 - length) := Iff.rfl

theorem isUnspecified_iff :
    ip.isUnspecified = true ↔ (v4Block 0 0 0 0 32).Contains ip.number := by
  have bounds := ip.octets_lt
  simp only [isUnspecified, Bool.and_eq_true, beq_iff_eq, ← UInt8.toNat_inj, UInt8.reduceToNat,
    contains_v4Block]
  omega

theorem isLoopback_iff :
    ip.isLoopback = true ↔ (v4Block 127 0 0 0 8).Contains ip.number := by
  have bounds := ip.octets_lt
  simp only [isLoopback, beq_iff_eq, ← UInt8.toNat_inj, UInt8.reduceToNat, contains_v4Block]
  omega

theorem isPrivate_iff :
    ip.isPrivate = true ↔
      Listed [v4Block 10 0 0 0 8, v4Block 172 16 0 0 12, v4Block 192 168 0 0 16] ip.number := by
  have bounds := ip.octets_lt
  simp only [isPrivate, Bool.or_eq_true, Bool.and_eq_true, beq_iff_eq, decide_eq_true_eq,
    ← UInt8.toNat_inj, UInt8.le_iff_toNat_le, UInt8.reduceToNat, Blocks.listed_cons,
    Blocks.listed_nil, or_false, contains_v4Block]
  omega

theorem isLinkLocal_iff :
    ip.isLinkLocal = true ↔ (v4Block 169 254 0 0 16).Contains ip.number := by
  have bounds := ip.octets_lt
  simp only [isLinkLocal, Bool.and_eq_true, beq_iff_eq, ← UInt8.toNat_inj, UInt8.reduceToNat,
    contains_v4Block]
  omega

theorem isBroadcast_iff :
    ip.isBroadcast = true ↔ (v4Block 255 255 255 255 32).Contains ip.number := by
  have bounds := ip.octets_lt
  simp only [isBroadcast, Bool.and_eq_true, beq_iff_eq, ← UInt8.toNat_inj, UInt8.reduceToNat,
    contains_v4Block]
  omega

theorem isDocumentation_iff :
    ip.isDocumentation = true ↔
      Listed [v4Block 192 0 2 0 24, v4Block 198 51 100 0 24, v4Block 203 0 113 0 24]
        ip.number := by
  have bounds := ip.octets_lt
  simp only [isDocumentation, Bool.or_eq_true, Bool.and_eq_true, beq_iff_eq, ← UInt8.toNat_inj,
    UInt8.reduceToNat, Blocks.listed_cons, Blocks.listed_nil, or_false, contains_v4Block]
  omega

theorem isMulticast_iff :
    ip.isMulticast = true ↔ (v4Block 224 0 0 0 4).Contains ip.number := by
  have bounds := ip.octets_lt
  simp only [isMulticast, Bool.and_eq_true, decide_eq_true_eq, UInt8.le_iff_toNat_le,
    UInt8.reduceToNat, contains_v4Block]
  omega

theorem shared_iff :
    (ip.a == 100 && ip.b &&& 0b11000000 == 0b01000000) = true ↔
      (v4Block 100 64 0 0 10).Contains ip.number := by
  have bounds := ip.octets_lt
  have mask : ip.b.toNat &&& 192 = 64 ↔ ip.b.toNat / 64 = 1 :=
    @Blocks.and_mask_eq_iff ip.b.toNat 64 2 6 ip.b.toNat_lt (by decide)
  simp only [Bool.and_eq_true, beq_iff_eq, ← UInt8.toNat_inj, UInt8.toNat_and, UInt8.reduceToNat,
    mask, contains_v4Block]
  omega

theorem assignments_iff :
    (ip.a == 192 && ip.b == 0 && ip.c == 0) = true ↔
      (v4Block 192 0 0 0 24).Contains ip.number := by
  have bounds := ip.octets_lt
  simp only [Bool.and_eq_true, beq_iff_eq, ← UInt8.toNat_inj, UInt8.reduceToNat,
    contains_v4Block]
  omega

theorem benchmarking_iff :
    (ip.a == 198 && (ip.b == 18 || ip.b == 19)) = true ↔
      (v4Block 198 18 0 0 15).Contains ip.number := by
  have bounds := ip.octets_lt
  simp only [Bool.or_eq_true, Bool.and_eq_true, beq_iff_eq, ← UInt8.toNat_inj,
    UInt8.reduceToNat, contains_v4Block]
  omega

theorem reserved_iff :
    240 ≤ ip.a ↔ (v4Block 240 0 0 0 4).Contains ip.number := by
  have bounds := ip.octets_lt
  simp only [UInt8.le_iff_toNat_le, UInt8.reduceToNat, contains_v4Block]
  omega

/-- The policy as a table of blocks. -/
theorem v4IsBlocked_iff : v4IsBlocked ip false = true ↔ Listed v4Guarded ip.number := by
  have table : Listed v4Guarded ip.number ↔
      (v4Block 100 64 0 0 10).Contains ip.number ∨
      (v4Block 0 0 0 0 32).Contains ip.number ∨ (v4Block 127 0 0 0 8).Contains ip.number ∨
      Listed [v4Block 10 0 0 0 8, v4Block 172 16 0 0 12, v4Block 192 168 0 0 16] ip.number ∨
      (v4Block 169 254 0 0 16).Contains ip.number ∨
      (v4Block 255 255 255 255 32).Contains ip.number ∨
      Listed [v4Block 192 0 2 0 24, v4Block 198 51 100 0 24, v4Block 203 0 113 0 24]
        ip.number ∨
      (v4Block 224 0 0 0 4).Contains ip.number ∨ (v4Block 192 0 0 0 24).Contains ip.number ∨
      (v4Block 198 18 0 0 15).Contains ip.number ∨ (v4Block 240 0 0 0 4).Contains ip.number := by
    simp only [v4Guarded, Blocks.listed_cons, Blocks.listed_nil, or_false, or_assoc]
  rw [table, ← shared_iff, ← isUnspecified_iff, ← isLoopback_iff, ← isPrivate_iff,
    ← isLinkLocal_iff, ← isBroadcast_iff, ← isDocumentation_iff, ← isMulticast_iff,
    ← assignments_iff, ← benchmarking_iff, ← reserved_iff, v4IsBlocked, Bool.false_and,
    if_neg Bool.false_ne_true]
  by_cases shared : (ip.a == 100 && ip.b &&& 0b11000000 == 0b01000000) = true
  · rw [if_pos shared]
    exact iff_of_true rfl (.inl shared)
  · rw [if_neg shared]
    simp only [Bool.or_eq_true, decide_eq_true_eq, or_assoc]
    exact (or_iff_right shared).symm

/-- What is blocked is exactly what is special and not left open. -/
theorem v4IsBlocked_iff_special :
    v4IsBlocked ip false = true ↔ ip.SpecialPurpose ∧ ¬ip.LeftOpen := by
  rw [v4IsBlocked_iff]
  constructor
  · intro listed
    refine ⟨listed.of_within (by decide), fun ⟨isOpen, notZero⟩ => ?_⟩
    obtain ⟨block, isGuarded, contains⟩ := listed
    by_cases host : block = v4Block 0 0 0 0 32
    · subst host
      rw [contains_v4Block] at contains
      exact notZero (by rw [number]; omega)
    · have apart : ∀ block ∈ v4Guarded, block ≠ v4Block 0 0 0 0 32 →
          ∀ other ∈ openRanges, block.Apart other := by decide
      exact Blocks.not_listed_of_apart (apart block isGuarded host) contains isOpen
  · rintro ⟨⟨block, isSpecial, contains⟩, closed⟩
    have covered : ∀ block ∈ specialPurpose, (∃ whole ∈ v4Guarded, block.Within whole) ∨
        ∃ whole ∈ openRanges, block.Within whole := by decide
    rcases covered block isSpecial with ⟨whole, isGuarded, within⟩ | ⟨whole, isOpen, within⟩
    · exact ⟨whole, isGuarded, within.contains contains⟩
    · have zero : ip.number = 0 := by
        by_contra notZero
        exact closed ⟨⟨whole, isOpen, within.contains contains⟩, notZero⟩
      refine ⟨v4Block 0 0 0 0 32, by decide, ?_⟩
      rw [zero]
      decide

end Ipv4Addr

namespace Ipv6Addr

theorem exists_segments (ip : Ipv6Addr) :
    ∃ s₀ s₁ s₂ s₃ s₄ s₅ s₆ s₇, ip = ⟨#v[s₀, s₁, s₂, s₃, s₄, s₅, s₆, s₇]⟩ := by
  obtain ⟨segments⟩ := ip
  refine ⟨segments[0], segments[1], segments[2], segments[3], segments[4], segments[5],
    segments[6], segments[7], congrArg Ipv6Addr.mk (Vector.ext fun index bound => ?_)⟩
  have cases : index = 0 ∨ index = 1 ∨ index = 2 ∨ index = 3 ∨ index = 4 ∨ index = 5 ∨
    index = 6 ∨ index = 7 := by omega
  rcases cases with rfl | rfl | rfl | rfl | rfl | rfl | rfl | rfl <;> rfl

section Segments

variable (s₀ s₁ s₂ s₃ s₄ s₅ s₆ s₇ : UInt16)

theorem number_eq :
    number ⟨#v[s₀, s₁, s₂, s₃, s₄, s₅, s₆, s₇]⟩ =
      ((((((s₀.toNat * 65536 + s₁.toNat) * 65536 + s₂.toNat) * 65536 + s₃.toNat) * 65536 +
        s₄.toNat) * 65536 + s₅.toNat) * 65536 + s₆.toNat) * 65536 + s₇.toNat := by
  simp [number]

theorem segments_lt :
    s₀.toNat < 65536 ∧ s₁.toNat < 65536 ∧ s₂.toNat < 65536 ∧ s₃.toNat < 65536 ∧
      s₄.toNat < 65536 ∧ s₅.toNat < 65536 ∧ s₆.toNat < 65536 ∧ s₇.toNat < 65536 :=
  ⟨s₀.toNat_lt, s₁.toNat_lt, s₂.toNat_lt, s₃.toNat_lt, s₄.toNat_lt, s₅.toNat_lt, s₆.toNat_lt,
    s₇.toNat_lt⟩

theorem documentation_iff :
    (s₀ == 0x2001 && s₁ == 0xdb8 || s₀ == 0x3fff && s₁ ≤ 0x0fff) = true ↔
      Listed [v6Block 0x2001 0xdb8 32, v6Block 0x3fff 0 20]
        (number ⟨#v[s₀, s₁, s₂, s₃, s₄, s₅, s₆, s₇]⟩) := by
  have bounds := segments_lt s₀ s₁ s₂ s₃ s₄ s₅ s₆ s₇
  simp only [Bool.or_eq_true, Bool.and_eq_true, beq_iff_eq, decide_eq_true_eq,
    ← UInt16.toNat_inj, UInt16.le_iff_toNat_le, UInt16.reduceToNat, Blocks.listed_cons,
    Blocks.listed_nil, or_false, Block.Contains, Block.size, v6Block, number_eq]
  omega

end Segments

variable (ip : Ipv6Addr)

/-- All segments but the last are zero. -/
theorem single_iff (last : UInt16) :
    (ip.segments.toList == [0, 0, 0, 0, 0, 0, 0, last]) = true ↔
      (⟨last.toNat, 128⟩ : Block 128).Contains ip.number := by
  obtain ⟨s₀, s₁, s₂, s₃, s₄, s₅, s₆, s₇, rfl⟩ := ip.exists_segments
  have bounds := segments_lt s₀ s₁ s₂ s₃ s₄ s₅ s₆ s₇
  have small := last.toNat_lt
  simp only [Vector.toList_mk, List.cons_beq_cons, Bool.and_eq_true, beq_iff_eq,
    List.nil_beq_eq, List.isEmpty_nil, and_true, ← UInt16.toNat_inj, UInt16.reduceToNat,
    Block.Contains, Block.size, number_eq]
  omega

theorem isUniqueLocal_iff :
    ip.isUniqueLocal = true ↔ (v6Block 0xfc00 0 7).Contains ip.number := by
  obtain ⟨s₀, s₁, s₂, s₃, s₄, s₅, s₆, s₇, rfl⟩ := ip.exists_segments
  have bounds := segments_lt s₀ s₁ s₂ s₃ s₄ s₅ s₆ s₇
  have mask : s₀.toNat &&& 0xfe00 = 0xfc00 ↔ s₀.toNat / 512 = 126 :=
    @Blocks.and_mask_eq_iff s₀.toNat 0xfc00 7 9 s₀.toNat_lt (by decide)
  show (s₀ &&& 0xfe00 == 0xfc00) = true ↔ _
  simp only [beq_iff_eq, ← UInt16.toNat_inj, UInt16.toNat_and, UInt16.reduceToNat, mask,
    Block.Contains, Block.size, v6Block, number_eq]
  omega

theorem isUnicastLinkLocal_iff :
    ip.isUnicastLinkLocal = true ↔ (v6Block 0xfe80 0 10).Contains ip.number := by
  obtain ⟨s₀, s₁, s₂, s₃, s₄, s₅, s₆, s₇, rfl⟩ := ip.exists_segments
  have bounds := segments_lt s₀ s₁ s₂ s₃ s₄ s₅ s₆ s₇
  have mask : s₀.toNat &&& 0xffc0 = 0xfe80 ↔ s₀.toNat / 64 = 1018 :=
    @Blocks.and_mask_eq_iff s₀.toNat 0xfe80 10 6 s₀.toNat_lt (by decide)
  show (s₀ &&& 0xffc0 == 0xfe80) = true ↔ _
  simp only [beq_iff_eq, ← UInt16.toNat_inj, UInt16.toNat_and, UInt16.reduceToNat, mask,
    Block.Contains, Block.size, v6Block, number_eq]
  omega

theorem isMulticast_iff :
    ip.isMulticast = true ↔ (v6Block 0xff00 0 8).Contains ip.number := by
  obtain ⟨s₀, s₁, s₂, s₃, s₄, s₅, s₆, s₇, rfl⟩ := ip.exists_segments
  have bounds := segments_lt s₀ s₁ s₂ s₃ s₄ s₅ s₆ s₇
  have mask : s₀.toNat &&& 0xff00 = 0xff00 ↔ s₀.toNat / 256 = 255 :=
    @Blocks.and_mask_eq_iff s₀.toNat 0xff00 8 8 s₀.toNat_lt (by decide)
  show (s₀ &&& 0xff00 == 0xff00) = true ↔ _
  simp only [beq_iff_eq, ← UInt16.toNat_inj, UInt16.toNat_and, UInt16.reduceToNat, mask,
    Block.Contains, Block.size, v6Block, number_eq]
  omega

/-- A mapped address is unpacked, and no other. -/
theorem toIpv4Mapped_eq_some_iff {address : Ipv4Addr} :
    ip.toIpv4Mapped = some address ↔ Embedding.mapped.Embeds address ip := by
  obtain ⟨s₀, s₁, s₂, s₃, s₄, s₅, s₆, s₇, rfl⟩ := ip.exists_segments
  obtain ⟨a, b, c, d⟩ := address
  have bounds := segments_lt s₀ s₁ s₂ s₃ s₄ s₅ s₆ s₇
  have octets := Ipv4Addr.octets_lt ⟨a, b, c, d⟩
  have unpacked : (⟨(s₆ >>> 8).toUInt8, s₆.toUInt8, (s₇ >>> 8).toUInt8, s₇.toUInt8⟩ : Ipv4Addr) =
        ⟨a, b, c, d⟩ ↔
      s₆.toNat * 65536 + s₇.toNat = Ipv4Addr.number ⟨a, b, c, d⟩ := by
    simp only [Ipv4Addr.mk.injEq, ← UInt8.toNat_inj, UInt16.toNat_toUInt8,
      UInt16.toNat_shiftRight, UInt16.reduceToNat, Nat.reduceMod, Nat.shiftRight_eq_div_pow,
      Ipv4Addr.number]
    dsimp only at octets
    omega
  have split : Embedding.mapped.Embeds ⟨a, b, c, d⟩ ⟨#v[s₀, s₁, s₂, s₃, s₄, s₅, s₆, s₇]⟩ ↔
      (s₀ = 0 ∧ s₁ = 0 ∧ s₂ = 0 ∧ s₃ = 0 ∧ s₄ = 0 ∧ s₅ = 0xffff) ∧
        s₆.toNat * 65536 + s₇.toNat = Ipv4Addr.number ⟨a, b, c, d⟩ := by
    simp only [Embedding.Embeds, Embedding.block, Embedding.shift, Block.Contains, Block.size,
      number_eq, ← UInt16.toNat_inj, UInt16.reduceToNat]
    omega
  rw [split, ← unpacked]
  unfold toIpv4Mapped
  split
  next high low isMapped =>
    simp only [Vector.toList_mk, List.cons.injEq] at isMapped
    obtain ⟨rfl, rfl, rfl, rfl, rfl, rfl, rfl, rfl, -⟩ := isMapped
    simp
  next other =>
    refine iff_of_false nofun ?_
    rintro ⟨⟨rfl, rfl, rfl, rfl, rfl, rfl⟩, -⟩
    exact other s₆ s₇ rfl

theorem v6IsBlocked_of_mapped {address : Ipv4Addr} (embeds : Embedding.mapped.Embeds address ip) :
    v6IsBlocked ip false = v4IsBlocked address false := by
  rw [v6IsBlocked, Bool.false_and, if_neg Bool.false_ne_true,
    ip.toIpv4Mapped_eq_some_iff.mpr embeds]

/-- The policy for addresses that are not mapped, as a table of blocks. -/
theorem v6IsBlocked_iff (notMapped : ¬Embedding.mapped.block.Contains ip.number) :
    v6IsBlocked ip false = true ↔ Listed v6Guarded ip.number := by
  have unmapped : ip.toIpv4Mapped = none := by
    cases mapped : ip.toIpv4Mapped with
    | none => rfl
    | some address => exact (notMapped (ip.toIpv4Mapped_eq_some_iff.mp mapped).1).elim
  have table : Listed v6Guarded ip.number ↔
      (⟨(0 : UInt16).toNat, 128⟩ : Block 128).Contains ip.number ∨
      (⟨(1 : UInt16).toNat, 128⟩ : Block 128).Contains ip.number ∨
      (v6Block 0xfc00 0 7).Contains ip.number ∨ (v6Block 0xfe80 0 10).Contains ip.number ∨
      (v6Block 0xff00 0 8).Contains ip.number ∨
      Listed [v6Block 0x2001 0xdb8 32, v6Block 0x3fff 0 20] ip.number := by
    simp only [v6Guarded, Blocks.listed_cons, Blocks.listed_nil, or_false, UInt16.reduceToNat]
  rw [table, ← single_iff, ← single_iff, ← isUniqueLocal_iff, ← isUnicastLinkLocal_iff,
    ← isMulticast_iff, v6IsBlocked, Bool.false_and, if_neg Bool.false_ne_true, unmapped]
  obtain ⟨s₀, s₁, s₂, s₃, s₄, s₅, s₆, s₇, rfl⟩ := ip.exists_segments
  rw [← documentation_iff]
  simp only [isUnspecified, isLoopback, Bool.or_eq_true, or_assoc]
  exact Iff.rfl

end Ipv6Addr

/-! ## Embedded addresses -/

/-- An address of the block of an embedding is blocked only as one of the first two. -/
theorem not_v6IsBlocked_of_embeds {embedding : Embedding} {address : Ipv4Addr} {host : Ipv6Addr}
    (embeds : embedding.Embeds address host) (notMapped : embedding ≠ .mapped)
    (blocked : v6IsBlocked host false = true) : embedding = .compatible ∧ host.number ≤ 1 := by
  have apart : embedding.block.Apart Embedding.mapped.block := by
    cases embedding with
    | mapped => exact (notMapped rfl).elim
    | compatible | nat64 | sixToFour => decide
  rw [host.v6IsBlocked_iff (apart.not_contains embeds.1)] at blocked
  obtain ⟨block, member, contains⟩ := blocked
  cases embedding with
  | mapped => exact (notMapped rfl).elim
  | compatible =>
      refine ⟨rfl, ?_⟩
      by_cases first : block = ⟨0, 128⟩ ∨ block = ⟨1, 128⟩
      · rcases first with rfl | rfl
        · have zero : host.number / 1 = 0 / 1 := contains
          omega
        · have one : host.number / 1 = 1 / 1 := contains
          omega
      · have others : ∀ other ∈ v6Guarded, ¬(other = ⟨0, 128⟩ ∨ other = ⟨1, 128⟩) →
            Embedding.compatible.block.Apart other := by decide
        exact ((others block member first).not_contains embeds.1 contains).elim
  | nat64 =>
      have others : ∀ other ∈ v6Guarded, Embedding.nat64.block.Apart other := by decide
      exact ((others block member).not_contains embeds.1 contains).elim
  | sixToFour =>
      have others : ∀ other ∈ v6Guarded, Embedding.sixToFour.block.Apart other := by decide
      exact ((others block member).not_contains embeds.1 contains).elim

/-- The number of a compatible address is that of the address it embeds. -/
theorem number_of_compatible {address : Ipv4Addr} {host : Ipv6Addr}
    (embeds : Embedding.compatible.Embeds address host) : host.number = address.number := by
  obtain ⟨contains, same⟩ := embeds
  simp only [Block.Contains, Embedding.block, Block.size] at contains
  simp only [Embedding.shift] at same
  omega

/-- A blocked address is blocked in an embedding exactly where the embedding is looked through,
or all of it is zero. -/
theorem embedded_isBlocked_iff {embedding : Embedding} {address : Ipv4Addr} {host : Ipv6Addr}
    (embeds : embedding.Embeds address host) (blocked : v4IsBlocked address false = true) :
    v6IsBlocked host false = true ↔ embedding = .mapped ∨ host.number = 0 := by
  by_cases mapped : embedding = .mapped
  · subst mapped
    rw [host.v6IsBlocked_of_mapped embeds]
    exact iff_of_true blocked (.inl rfl)
  · rw [or_iff_right mapped]
    constructor
    · intro also
      obtain ⟨rfl, small⟩ := not_v6IsBlocked_of_embeds embeds mapped also
      rw [address.v4IsBlocked_iff, ← number_of_compatible embeds] at blocked
      by_contra notZero
      have one : host.number = 1 := by omega
      rw [one] at blocked
      exact absurd blocked (by decide)
    · intro zero
      have notMapped : ¬Embedding.mapped.block.Contains host.number := by
        rw [zero]
        decide
      rw [host.v6IsBlocked_iff notMapped, zero]
      decide

/-- An IPv4 address is blocked if it is special, and blocked embedded if it is blocked, exactly
outside the ranges left open and for mapped addresses. -/
theorem ipv4_guarded_iff {address : Ipv4Addr} {embedding : Embedding} {host : Ipv6Addr}
    (embeds : embedding.Embeds address host) :
    ((address.SpecialPurpose → ipIsBlocked (.v4 address) false = true) ∧
        (ipIsBlocked (.v4 address) false = true → ipIsBlocked (.v6 host) false = true)) ↔
      ¬address.LeftOpen ∧
        (embedding = .mapped ∨ ¬address.SpecialPurpose ∨ host.number = 0) := by
  have special := address.v4IsBlocked_iff_special
  show (_ → v4IsBlocked address false = true) ∧ (v4IsBlocked address false = true →
    v6IsBlocked host false = true) ↔ _
  by_cases blocked : v4IsBlocked address false = true
  · obtain ⟨isSpecial, closed⟩ := special.mp blocked
    rw [embedded_isBlocked_iff embeds blocked]
    simp [blocked, isSpecial, closed]
  · by_cases isSpecial : address.SpecialPurpose
    · have isOpen : address.LeftOpen := by
        by_contra closed
        exact blocked (special.mpr ⟨isSpecial, closed⟩)
      simp [blocked, isSpecial, isOpen]
    · have closed : ¬address.LeftOpen := fun isOpen =>
        isSpecial (isOpen.1.of_within (by decide))
      simp [blocked, isSpecial, closed]

namespace Sample

def loopback : Ipv4Addr := ⟨127, 0, 0, 1⟩

/-- `::ffff:127.0.0.1` -/
def mappedLoopback : Ipv6Addr := ⟨#v[0, 0, 0, 0, 0, 0xffff, 0x7f00, 1]⟩

/-- `::127.0.0.1` -/
def compatibleLoopback : Ipv6Addr := ⟨#v[0, 0, 0, 0, 0, 0, 0x7f00, 1]⟩

theorem mapped_loopback_guarded :
    (loopback.SpecialPurpose → ipIsBlocked (.v4 loopback) false = true) ∧
      (ipIsBlocked (.v4 loopback) false = true →
        ipIsBlocked (.v6 mappedLoopback) false = true) :=
  (@ipv4_guarded_iff loopback .mapped mappedLoopback (by decide)).mpr ⟨by decide, .inl rfl⟩

/-- `0.1.2.3` passes, and `::127.0.0.1` does. -/
theorem this_network_open :
    ¬(∀ address : Ipv4Addr, address.SpecialPurpose → ipIsBlocked (.v4 address) false = true) ∧
      ¬∀ (address : Ipv4Addr) (embedding : Embedding) (host : Ipv6Addr),
        embedding.Embeds address host → ipIsBlocked (.v4 address) false = true →
          ipIsBlocked (.v6 host) false = true := by
  refine ⟨fun special => ?_, fun embedded => ?_⟩
  · exact absurd (special ⟨0, 1, 2, 3⟩ (by decide)) (by decide)
  · exact absurd (embedded loopback .compatible compatibleLoopback (by decide) (by decide))
      (by decide)

end Sample

end Egress
end TootTok
