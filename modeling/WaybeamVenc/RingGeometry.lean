import Mathlib.Data.Nat.Bitwise
import Mathlib.Data.UInt
import Mathlib.Tactic
import WaybeamVenc.AlignDown

namespace WaybeamVenc.RingGeometry

open AlignDown

def headerSize : UInt64 := 192

def isPowerOf2 (v : UInt32) : Bool := decide (0 < v) && (v &&& (v - 1)) == 0

/-- The two-byte length prefix and the data, rounded up to eight bytes. -/
def calcSlotStride (slotDataSize : UInt32) : UInt32 := (2 + slotDataSize + 7) &&& ~~~7

def calcTotalSize (slotCount slotDataSize : UInt32) : UInt32 :=
  let slotsArea := slotCount.toUInt64 * (calcSlotStride slotDataSize).toUInt64
  let total := headerSize + slotsArea
  if total > 4294967295 then 0 else total.toUInt32

/-- The argument checks of venc_ring_create; the shared-memory calls after
them do not look at the geometry. -/
def createAccepts (slotCount slotDataSize : UInt32) : Bool :=
  isPowerOf2 slotCount && slotDataSize != 0 && decide (slotDataSize ≤ 65535) &&
    calcTotalSize slotCount slotDataSize != 0

/-- The fields of the mapped header that never change after creation. -/
structure Geometry where
  slotCount : UInt32
  slotDataSize : UInt32
  accepted : createAccepts slotCount slotDataSize = true

def Geometry.stride (g : Geometry) : UInt32 := calcSlotStride g.slotDataSize

theorem calcSlotStride_toNat {d : UInt32} (hd : d ≤ 65535) :
    (calcSlotStride d).toNat = (d.toNat + 9) / 8 * 8 := by
  have hle : d.toNat ≤ 65535 := UInt32.le_iff_toNat_le.mp hd
  have hsum : (2 + d + 7).toNat = d.toNat + 9 := by
    simp only [UInt32.toNat_add, UInt32.reduceToNat]; omega
  have hnot : (~~~(7 : UInt32)).toNat = 2 ^ 32 - 8 := by decide
  rw [calcSlotStride, UInt32.toNat_and, hsum, hnot]
  exact and_high_mask (w := 32) (k := 3) (by decide) (by omega)

/-- A total size that is not refused is the exact one. -/
theorem calcTotalSize_toNat {c d : UInt32} (hd : d ≤ 65535) (h : calcTotalSize c d ≠ 0) :
    (calcTotalSize c d).toNat = 192 + c.toNat * (calcSlotStride d).toNat := by
  have hle : d.toNat ≤ 65535 := UInt32.le_iff_toNat_le.mp hd
  have hstride : (calcSlotStride d).toNat ≤ 65544 := by rw [calcSlotStride_toNat hd]; omega
  have harea : c.toNat * (calcSlotStride d).toNat ≤ 2 ^ 32 * 65544 := Nat.mul_le_mul c.toNat_lt.le hstride
  have hsum : (headerSize + c.toUInt64 * (calcSlotStride d).toUInt64).toNat =
      192 + c.toNat * (calcSlotStride d).toNat := by
    rw [UInt64.toNat_add, UInt64.toNat_mul, UInt32.toNat_toUInt64, UInt32.toNat_toUInt64,
      Nat.mod_eq_of_lt (show c.toNat * (calcSlotStride d).toNat < 2 ^ 64 by omega)]
    exact Nat.mod_eq_of_lt (by change 192 + _ < _; omega)
  rw [calcTotalSize] at h ⊢
  split_ifs at h ⊢ with hbig
  · exact absurd rfl h
  · have hsmall : (headerSize + c.toUInt64 * (calcSlotStride d).toUInt64).toNat ≤ 4294967295 :=
      UInt64.le_iff_toNat_le.mp (UInt64.not_lt.mp hbig)
    rw [UInt64.toNat_toUInt32, Nat.mod_eq_of_lt (Nat.lt_succ_of_le hsmall), hsum]

theorem Geometry.dataSize_le (g : Geometry) : g.slotDataSize.toNat ≤ 65535 := by
  have h := g.accepted
  simp only [createAccepts, Bool.and_eq_true, decide_eq_true_eq] at h
  exact UInt32.le_iff_toNat_le.mp h.1.2

theorem Geometry.dataSize_pos (g : Geometry) : 0 < g.slotDataSize.toNat := by
  have h := g.accepted
  simp only [createAccepts, Bool.and_eq_true, bne_iff_ne, ne_eq] at h
  exact Nat.pos_of_ne_zero (fun hz => h.1.1.2 (UInt32.toNat_inj.mp hz))

theorem Geometry.stride_toNat (g : Geometry) : g.stride.toNat = (g.slotDataSize.toNat + 9) / 8 * 8 :=
  calcSlotStride_toNat (UInt32.le_iff_toNat_le.mpr g.dataSize_le)

theorem Geometry.slot_fits (g : Geometry) : 2 + g.slotDataSize.toNat ≤ g.stride.toNat := by
  rw [g.stride_toNat]; omega

theorem Geometry.count_pow (g : Geometry) : ∃ k, g.slotCount.toNat = 2 ^ k := by
  have h := g.accepted
  simp only [createAccepts, isPowerOf2, Bool.and_eq_true, decide_eq_true_eq, beq_iff_eq] at h
  obtain ⟨hpos, hand⟩ := h.1.1.1
  have hpos : 0 < g.slotCount.toNat := UInt32.lt_iff_toNat_lt.mp hpos
  have hsub : (g.slotCount - 1).toNat = g.slotCount.toNat - 1 := by
    have hone : (1 : UInt32) ≤ g.slotCount := UInt32.le_iff_toNat_le.mpr hpos
    rw [UInt32.toNat_sub_of_le _ _ hone]; rfl
  have hnat : g.slotCount.toNat &&& (g.slotCount.toNat - 1) = 0 := by
    rw [← hsub, ← UInt32.toNat_and, hand]; rfl
  exact (Nat.and_sub_one_eq_zero_iff_isPowerOfTwo hpos.ne').mp hnat

theorem Geometry.count_pos (g : Geometry) : 0 < g.slotCount.toNat := by
  obtain ⟨k, hk⟩ := g.count_pow
  rw [hk]; positivity

theorem Geometry.total_toNat (g : Geometry) :
    (calcTotalSize g.slotCount g.slotDataSize).toNat = 192 + g.slotCount.toNat * g.stride.toNat := by
  have h := g.accepted
  simp only [createAccepts, Bool.and_eq_true, bne_iff_ne, ne_eq] at h
  exact calcTotalSize_toNat (UInt32.le_iff_toNat_le.mpr g.dataSize_le) h.2

/-- The mapping stays below four gigabytes, so few slots exist. -/
theorem Geometry.count_small (g : Geometry) : g.slotCount.toNat < 2 ^ 29 := by
  have htotal := (calcTotalSize g.slotCount g.slotDataSize).toNat_lt
  have hstride : 8 ≤ g.stride.toNat := by rw [g.stride_toNat]; omega
  have harea : g.slotCount.toNat * 8 ≤ g.slotCount.toNat * g.stride.toNat := Nat.mul_le_mul_left _ hstride
  rw [g.total_toNat] at htotal
  omega

end WaybeamVenc.RingGeometry
