import Mathlib.Order.Interval.Finset.Nat
import WaybeamVenc.RingGeometry

namespace WaybeamVenc.RingAttach

open RingGeometry

def vencRingMagic : UInt32 := 0x56454E43

def vencRingVersion : UInt32 := 2

/-- The part of the header that does not change after creation. -/
@[ext] structure Header where
  magic : UInt32
  version : UInt32
  slotCount : UInt32
  slotDataSize : UInt32
  totalSize : UInt32
  initComplete : UInt32
deriving DecidableEq

/-- The handle of either side; slots_base is the mapping behind the header. -/
structure Handle where
  slotStride : UInt32
  slotDataSize : UInt32
  mapSize : UInt32
  isOwner : Bool
deriving DecidableEq

/-- The header and the handle of venc_ring_create, when shm_open, ftruncate,
mmap and calloc succeed. -/
def vencRingCreate (slotCount slotDataSize : UInt32) : Option (Header × Handle) :=
  if createAccepts slotCount slotDataSize then
    let total := calcTotalSize slotCount slotDataSize
    some (⟨vencRingMagic, vencRingVersion, slotCount, slotDataSize, total, 1⟩,
      ⟨calcSlotStride slotDataSize, slotDataSize, total, true⟩)
  else none

/-- venc_ring_attach on an object of st_size bytes, when fstat, mmap and
calloc succeed: tmp is the header as read() returns it, hdr the one that is
there after mmap(). -/
def vencRingAttach (tmp hdr : Header) (stSize : Nat) : Option Handle :=
  if stSize < headerSize.toNat then none
  else if tmp.magic ≠ vencRingMagic ∨ tmp.version ≠ vencRingVersion ∨ isPowerOf2 tmp.slotCount = false ∨
      tmp.slotDataSize = 0 ∨ 65535 < tmp.slotDataSize ∨ tmp.initComplete ≠ 1 then none
  else
    let expectedTotal := calcTotalSize tmp.slotCount tmp.slotDataSize
    if expectedTotal = 0 ∨ expectedTotal ≠ tmp.totalSize then none
    else if stSize ≠ expectedTotal.toNat then none
    else if hdr.magic ≠ vencRingMagic ∨ hdr.version ≠ vencRingVersion ∨ hdr.slotCount ≠ tmp.slotCount ∨
        hdr.slotDataSize ≠ tmp.slotDataSize ∨ hdr.totalSize ≠ expectedTotal ∨ hdr.initComplete ≠ 1 then none
    else some ⟨calcSlotStride hdr.slotDataSize, hdr.slotDataSize, expectedTotal, false⟩

/-- Where a slot begins, counted from the start of the mapping. -/
def vencRingSlotAt (r : Handle) (idx : UInt32) : UInt64 := headerSize + idx.toUInt64 * r.slotStride.toUInt64

/-- The length of a slot and its data. -/
def slotBytes (r : Handle) (idx : UInt32) : Finset Nat :=
  Finset.Ico (vencRingSlotAt r idx).toNat ((vencRingSlotAt r idx).toNat + 2 + r.slotDataSize.toNat)

/-- The handle that the creator of a geometry has. -/
def creator (g : Geometry) : Handle :=
  ⟨g.stride, g.slotDataSize, calcTotalSize g.slotCount g.slotDataSize, true⟩

theorem create_iff {slotCount slotDataSize : UInt32} {made : Header × Handle} :
    vencRingCreate slotCount slotDataSize = some made ↔
      ∃ h : createAccepts slotCount slotDataSize = true,
        made = (⟨vencRingMagic, vencRingVersion, slotCount, slotDataSize, calcTotalSize slotCount slotDataSize, 1⟩,
          creator ⟨slotCount, slotDataSize, h⟩) := by
  rw [vencRingCreate]
  constructor
  · intro h
    split at h
    next hok => exact ⟨hok, (Option.some.inj h).symm⟩
    next => cases h
  · rintro ⟨hok, rfl⟩
    rw [if_pos hok]
    rfl

theorem createAccepts_iff (slotCount slotDataSize : UInt32) :
    createAccepts slotCount slotDataSize = true ↔
      isPowerOf2 slotCount = true ∧ slotDataSize ≠ 0 ∧ slotDataSize ≤ 65535 ∧ calcTotalSize slotCount slotDataSize ≠ 0 := by
  simp only [createAccepts, Bool.and_eq_true, bne_iff_ne, ne_eq, decide_eq_true_eq, and_assoc]

/-! The slots of a geometry. -/

variable (g : Geometry)

/-- No step of the computation wraps. -/
def Exact : Prop :=
  2 + g.slotDataSize.toNat + 7 < 2 ^ 32 ∧ g.stride.toNat = (2 + g.slotDataSize.toNat + 7) / 8 * 8 ∧
    192 + g.slotCount.toNat * g.stride.toNat < 2 ^ 32 ∧
    (calcTotalSize g.slotCount g.slotDataSize).toNat = 192 + g.slotCount.toNat * g.stride.toNat

theorem geometry_exact : Exact g := by
  have hdata := g.dataSize_le
  have htotal := (calcTotalSize g.slotCount g.slotDataSize).toNat_lt
  refine ⟨by omega, ?_, by rw [← g.total_toNat]; exact htotal, g.total_toNat⟩
  rw [g.stride_toNat]
  congr 2
  omega

theorem slotAt_toNat {idx : UInt32} (h : idx.toNat < g.slotCount.toNat) :
    (vencRingSlotAt (creator g) idx).toNat = 192 + idx.toNat * g.stride.toNat ∧
      192 + idx.toNat * g.stride.toNat + g.stride.toNat ≤ (calcTotalSize g.slotCount g.slotDataSize).toNat := by
  have htotal := (calcTotalSize g.slotCount g.slotDataSize).toNat_lt
  have hlast : (idx.toNat + 1) * g.stride.toNat ≤ g.slotCount.toNat * g.stride.toNat := Nat.mul_le_mul_right _ h
  rw [Nat.succ_mul] at hlast
  rw [g.total_toNat] at htotal ⊢
  refine ⟨?_, by omega⟩
  have hmul : (idx.toUInt64 * g.stride.toUInt64).toNat = idx.toNat * g.stride.toNat := by
    rw [UInt64.toNat_mul, UInt32.toNat_toUInt64, UInt32.toNat_toUInt64]
    exact Nat.mod_eq_of_lt (by omega)
  change (headerSize + idx.toUInt64 * g.stride.toUInt64).toNat = _
  rw [UInt64.toNat_add, hmul]
  exact Nat.mod_eq_of_lt (by change 192 + _ < _; omega)

/-- Every slot lies behind the header and inside the mapping. -/
theorem slot_inside {idx : UInt32} (h : idx.toNat < g.slotCount.toNat) :
    slotBytes (creator g) idx ⊆ Finset.Ico 192 (creator g).mapSize.toNat := by
  obtain ⟨hat, hend⟩ := slotAt_toNat g h
  have hfit := g.slot_fits
  rw [slotBytes, hat]
  refine Finset.Ico_subset_Ico (Nat.le_add_right _ _) ?_
  change _ + 2 + g.slotDataSize.toNat ≤ (calcTotalSize g.slotCount g.slotDataSize).toNat
  omega

theorem slots_disjoint {i j : UInt32} (hi : i.toNat < g.slotCount.toNat) (hj : j.toNat < g.slotCount.toNat) (h : i ≠ j) :
    Disjoint (slotBytes (creator g) i) (slotBytes (creator g) j) := by
  have hfit := g.slot_fits
  have happart {a b : Nat} (hab : a < b) : a * g.stride.toNat + g.stride.toNat ≤ b * g.stride.toNat := by
    rw [← Nat.succ_mul]
    exact Nat.mul_le_mul_right _ hab
  rw [slotBytes, slotBytes, (slotAt_toNat g hi).1, (slotAt_toNat g hj).1, Finset.disjoint_left]
  intro x hx hy
  rw [Finset.mem_Ico] at hx hy
  have hdata : (creator g).slotDataSize = g.slotDataSize := rfl
  rw [hdata] at hx hy
  rcases Nat.lt_or_gt_of_ne (fun he => h (UInt32.toNat_inj.1 he)) with hlt | hgt
  · have hij := happart hlt
    omega
  · have hji := happart hgt
    omega

/-! What is attached to. -/

theorem attach_iff {tmp hdr : Header} {stSize : Nat} {r : Handle} :
    vencRingAttach tmp hdr stSize = some r ↔
      (tmp.magic = vencRingMagic ∧ tmp.version = vencRingVersion ∧ tmp.initComplete = 1) ∧
        createAccepts tmp.slotCount tmp.slotDataSize = true ∧
        tmp.totalSize = calcTotalSize tmp.slotCount tmp.slotDataSize ∧ stSize = tmp.totalSize.toNat ∧
        hdr = tmp ∧ r = ⟨calcSlotStride tmp.slotDataSize, tmp.slotDataSize, tmp.totalSize, false⟩ := by
  constructor
  · intro h
    simp only [vencRingAttach] at h
    split_ifs at h with hshort hhead htotal hsize hmapped
    simp only [not_or, not_not, ne_eq, Bool.not_eq_false] at hhead htotal hsize hmapped
    obtain ⟨hmagic, hversion, hpow, hzero, hlarge, hinit⟩ := hhead
    have hhdr : hdr = tmp := by
      obtain ⟨hm, hv, hc, hd, ht, hi⟩ := hmapped
      exact Header.ext (hm.trans hmagic.symm) (hv.trans hversion.symm) hc hd (ht.trans htotal.2) (hi.trans hinit.symm)
    refine ⟨⟨hmagic, hversion, hinit⟩, (createAccepts_iff _ _).2 ⟨hpow, hzero, UInt32.not_lt.1 hlarge, htotal.1⟩,
      htotal.2.symm, htotal.2 ▸ hsize, hhdr, ?_⟩
    rw [← Option.some.inj h, hhdr, htotal.2]
  · rintro ⟨⟨hmagic, hversion, hinit⟩, haccepts, htotal, hsize, rfl, rfl⟩
    obtain ⟨hpow, hzero, hlarge, hne⟩ := (createAccepts_iff _ _).1 haccepts
    have hlong : ¬ stSize < headerSize.toNat := by
      rw [hsize, htotal, calcTotalSize_toNat hlarge hne]
      exact Nat.not_lt.2 (Nat.le_add_right _ _)
    have hhead : ¬ (hdr.magic ≠ vencRingMagic ∨ hdr.version ≠ vencRingVersion ∨ isPowerOf2 hdr.slotCount = false ∨
        hdr.slotDataSize = 0 ∨ 65535 < hdr.slotDataSize ∨ hdr.initComplete ≠ 1) := by
      simp [hmagic, hversion, hinit, hpow, hzero, UInt32.not_lt.2 hlarge]
    simp only [vencRingAttach, if_neg hlong, if_neg hhead]
    rw [← htotal, if_neg (by simp [htotal, hne]), if_neg (by simp [hsize]), if_neg (by simp [hmagic, hversion, hinit])]

/-- A header that could have been written by a creator, in an object of just
the size that it says. -/
def Created (image : Header) (stSize : Nat) : Prop :=
  ∃ made, vencRingCreate image.slotCount image.slotDataSize = some made ∧ made.1.totalSize = image.totalSize ∧
    stSize = image.totalSize.toNat

theorem attach_isSome_iff (image : Header) (stSize : Nat) :
    (vencRingAttach image image stSize).isSome ↔
      (image.magic = vencRingMagic ∧ image.version = vencRingVersion ∧ image.initComplete = 1) ∧ Created image stSize := by
  rw [Option.isSome_iff_exists]
  constructor
  · rintro ⟨r, h⟩
    obtain ⟨hfields, haccepts, htotal, hsize, -, -⟩ := attach_iff.1 h
    exact ⟨hfields, _, create_iff.2 ⟨haccepts, rfl⟩, htotal.symm, hsize⟩
  · rintro ⟨hfields, made, hmade, htotal, hsize⟩
    obtain ⟨haccepts, rfl⟩ := create_iff.1 hmade
    exact ⟨_, attach_iff.2 ⟨hfields, haccepts, htotal.symm, hsize, rfl, rfl⟩⟩

/-- Of every ring that can be created the slots are apart, behind the header
and inside the mapping, and nothing wraps. An attach succeeds exactly on what a
creator could have left, and finds the slots where the creator has them. -/
theorem ring_geometry_attach :
    (∀ g : Geometry, (∃ hdr, vencRingCreate g.slotCount g.slotDataSize = some (hdr, creator g)) ∧ Exact g ∧
        (∀ idx : UInt32, idx.toNat < g.slotCount.toNat →
          slotBytes (creator g) idx ⊆ Finset.Ico 192 (creator g).mapSize.toNat) ∧
        ∀ i j : UInt32, i.toNat < g.slotCount.toNat → j.toNat < g.slotCount.toNat → i ≠ j →
          Disjoint (slotBytes (creator g) i) (slotBytes (creator g) j)) ∧
      (∀ image stSize, (vencRingAttach image image stSize).isSome ↔
        (image.magic = vencRingMagic ∧ image.version = vencRingVersion ∧ image.initComplete = 1) ∧
          Created image stSize) ∧
      ∀ tmp hdr stSize r, vencRingAttach tmp hdr stSize = some r →
        ∃ made, vencRingCreate tmp.slotCount tmp.slotDataSize = some made ∧ r.mapSize = made.2.mapSize ∧
          ∀ idx, vencRingSlotAt r idx = vencRingSlotAt made.2 idx ∧ slotBytes r idx = slotBytes made.2 idx := by
  refine ⟨fun g => ⟨⟨_, create_iff.2 ⟨g.accepted, rfl⟩⟩, geometry_exact g, fun idx h => slot_inside g h, fun i j hi hj h => slots_disjoint g hi hj h⟩,
    attach_isSome_iff, fun tmp hdr stSize r h => ?_⟩
  obtain ⟨-, haccepts, htotal, -, -, rfl⟩ := attach_iff.1 h
  exact ⟨_, create_iff.2 ⟨haccepts, rfl⟩, htotal, fun idx => ⟨rfl, rfl⟩⟩

def fourSlots : Header := ⟨vencRingMagic, vencRingVersion, 4, 100, 608, 1⟩

theorem ring_geometry_attach_four :
    ∃ made, vencRingCreate 4 100 = some made ∧ vencRingSlotAt ⟨104, 100, 608, false⟩ 3 = vencRingSlotAt made.2 3 := by
  obtain ⟨made, hmade, -, hslots⟩ :=
    ring_geometry_attach.2.2 fourSlots fourSlots 608 ⟨104, 100, 608, false⟩ (by decide)
  exact ⟨made, hmade, (hslots 3).1⟩

end WaybeamVenc.RingAttach
