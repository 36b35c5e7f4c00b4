import WaybeamVenc.RingModel
import Mathlib.Tactic

namespace WaybeamVenc.RingSlots

open RingGeometry RingModel

variable (g : Geometry)

def Holds (mem : Nat → UInt8) (i : Nat) (x : List UInt8) : Prop :=
  loadU16 mem (i * g.stride.toNat) = UInt16.ofNat x.length ∧
    ∀ k, k < x.length → mem (i * g.stride.toNat + 2 + k) = x.getD k 0

theorem slotIdx_ofNat (n : Nat) : slotIdx g (UInt64.ofNat n) = n % g.slotCount.toNat := by
  obtain ⟨k, hk⟩ := g.count_pow
  have hpos := g.count_pos
  have hsmall := g.count_small
  have hone : (1 : UInt32) ≤ g.slotCount := UInt32.le_iff_toNat_le.mpr hpos
  have hmask : (g.slotCount - 1).toNat = 2 ^ k - 1 := by
    rw [UInt32.toNat_sub_of_le _ _ hone, hk]; rfl
  have hk64 : k ≤ 64 := by
    by_contra hbig
    have hpow : 2 ^ 64 ≤ 2 ^ k := Nat.pow_le_pow_right (by norm_num) (by omega)
    omega
  have hmod : n % 2 ^ 64 % 2 ^ k = n % 2 ^ k := Nat.mod_mod_of_dvd n (Nat.pow_dvd_pow 2 hk64)
  have hlt : n % 2 ^ k < 2 ^ 32 := by
    have := Nat.mod_lt n (Nat.two_pow_pos k)
    omega
  rw [slotIdx, UInt64.toNat_toUInt32, UInt64.toNat_and, UInt32.toNat_toUInt64, hmask,
    Nat.and_two_pow_sub_one_eq_mod, UInt64.toNat_ofNat', hmod, hk, Nat.mod_eq_of_lt hlt]

/-- Distinct packet numbers less than a ring apart fall on distinct slots. -/
theorem mod_ne_of_lt {n m c : Nat} (hlt : n < m) (hclose : m < n + c) : n % c ≠ m % c := by
  intro heq
  have hdvd : c ∣ m - n := (Nat.modEq_iff_dvd' hlt.le).mp heq
  have := Nat.le_of_dvd (by omega) hdvd
  omega

theorem address_ne {i j a b c : Nat} (hij : i ≠ j) (ha : a < c) (hb : b < c) :
    i * c + a ≠ j * c + b := by
  intro heq
  apply hij
  have hi : (i * c + a) / c = i := by
    rw [Nat.add_comm, Nat.add_mul_div_right _ _ (by omega), Nat.div_eq_of_lt ha, Nat.zero_add]
  have hj : (j * c + b) / c = j := by
    rw [Nat.add_comm, Nat.add_mul_div_right _ _ (by omega), Nat.div_eq_of_lt hb, Nat.zero_add]
  rw [← hi, heq, hj]

theorem poke_self (mem : Nat → UInt8) (a : Nat) (b : UInt8) : poke mem a b a = b :=
  Function.update_self ..

theorem poke_ne (mem : Nat → UInt8) {a c : Nat} (b : UInt8) (h : c ≠ a) : poke mem a b c = mem c :=
  Function.update_of_ne h ..

theorem loadU16_congr {mem mem' : Nat → UInt8} {a : Nat} (h0 : mem' a = mem a)
    (h1 : mem' (a + 1) = mem (a + 1)) : loadU16 mem' a = loadU16 mem a := by
  simp only [loadU16, h0, h1]

theorem loadU16_storeU16 (mem : Nat → UInt8) (a : Nat) (v : UInt16) :
    loadU16 (storeU16 mem a v) a = v := by
  have h0 : storeU16 mem a v a = v.toUInt8 := by
    rw [storeU16, poke_ne _ _ (by omega), poke_self]
  have h1 : storeU16 mem a v (a + 1) = (v >>> 8).toUInt8 := poke_self ..
  rw [loadU16, h0, h1]
  apply UInt16.toNat_inj.mp
  simp only [UInt16.toNat_or, UInt16.toNat_shiftLeft, UInt8.toNat_toUInt16, UInt16.toNat_toUInt8,
    UInt16.toNat_shiftRight, UInt16.reduceToNat]
  have hv := v.toNat_lt
  apply Nat.eq_of_testBit_eq
  intro i
  simp only [Nat.testBit_or, Nat.testBit_mod_two_pow, Nat.testBit_shiftLeft, Nat.testBit_shiftRight]
  by_cases hlow : i < 8
  · simp [hlow, show ¬ i ≥ 8 % 16 by omega]
  · by_cases hhigh : i < 16
    · simp [hlow, hhigh, show i ≥ 8 by omega, show i - 8 < 8 by omega, show 8 + (i - 8) = i by omega]
    · have hbit : v.toNat.testBit i = false :=
        Nat.testBit_lt_two_pow (lt_of_lt_of_le hv (Nat.pow_le_pow_right (by norm_num) (by omega)))
      simp [hlow, hhigh, hbit]

/-- A store inside one slot leaves the strings of the other slots alone. -/
theorem Holds.poke_other {mem : Nat → UInt8} {i j off : Nat} {x : List UInt8} (b : UInt8)
    (h : Holds g mem i x) (hx : x.length ≤ g.slotDataSize.toNat) (hij : i ≠ j)
    (hoff : off < 2 + g.slotDataSize.toNat) :
    Holds g (poke mem (j * g.stride.toNat + off) b) i x := by
  have hfit := g.slot_fits
  have hne (a : Nat) (ha : a < 2 + g.slotDataSize.toNat) :
      i * g.stride.toNat + a ≠ j * g.stride.toNat + off :=
    address_ne hij (by omega) (by omega)
  have h16 := g.stride_toNat
  refine ⟨?_, fun k hk => ?_⟩
  · rw [loadU16_congr (poke_ne _ _ (by simpa using hne 0 (by omega)))
      (poke_ne _ _ (hne 1 (by omega)))]
    exact h.1
  · rw [Nat.add_assoc, poke_ne _ _ (hne (2 + k) (by omega)), ← Nat.add_assoc]
    exact h.2 k hk

/-- How much of a string the producer has stored into a slot so far. -/
def Stored (mem : Nat → UInt8) (i : Nat) (x : List UInt8) (k : Nat) : Prop :=
  loadU16 mem (i * g.stride.toNat) = UInt16.ofNat x.length ∧
    ∀ j, j < k → mem (i * g.stride.toNat + 2 + j) = x.getD j 0

theorem Stored.length (mem : Nat → UInt8) (i : Nat) (x : List UInt8) :
    Stored g (storeU16 mem (i * g.stride.toNat) (UInt16.ofNat x.length)) i x 0 :=
  ⟨loadU16_storeU16 _ _ _, fun _ hj => absurd hj (Nat.not_lt_zero _)⟩

theorem Stored.next {mem : Nat → UInt8} {i k : Nat} {x : List UInt8} (h : Stored g mem i x k) :
    Stored g (poke mem (i * g.stride.toNat + 2 + k) (x.getD k 0)) i x (k + 1) := by
  refine ⟨?_, fun j hj => ?_⟩
  · rw [loadU16_congr (poke_ne _ _ (by omega)) (poke_ne _ _ (by omega))]
    exact h.1
  · by_cases he : j = k
    · subst he; exact poke_self ..
    · rw [poke_ne _ _ (by omega)]
      exact h.2 j (by omega)

theorem Stored.holds {mem : Nat → UInt8} {i k : Nat} {x : List UInt8} (h : Stored g mem i x k)
    (hk : x.length ≤ k) : Holds g mem i x :=
  ⟨h.1, fun j hj => h.2 j (by omega)⟩

end WaybeamVenc.RingSlots
