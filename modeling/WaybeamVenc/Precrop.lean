import WaybeamVenc.AlignDown
import WaybeamVenc.PipelineGeometry

namespace WaybeamVenc.Precrop

open AlignDown PipelineGeometry

/-- A width or a height from 1 to 65535. -/
structure Side where
  val : UInt32
  pos : 0 < val.toNat
  le : val.toNat ≤ 65535

structure ExactRect where
  x : Nat
  y : Nat
  w : Nat
  h : Nat
deriving DecidableEq

/-- The rectangle in numbers without a width. -/
def exactPrecrop (sensorW sensorH imageW imageH : Nat) : ExactRect :=
  if imageW * sensorH < sensorW * imageH then
    let w := sensorH * imageW / imageH / 2 * 2
    ⟨(sensorW - w) / 2 / 2 * 2, 0, w, sensorH⟩
  else if sensorW * imageH < imageW * sensorH then
    let h := sensorW * imageH / imageW / 2 * 2
    ⟨0, (sensorH - h) / 2 / 2 * 2, sensorW, h⟩
  else ⟨0, 0, sensorW, sensorH⟩

def value (rect : PrecropRect) : ExactRect := ⟨rect.x.toNat, rect.y.toNat, rect.w.toNat, rect.h.toNat⟩

theorem even_toNat (n : UInt32) : (even n).toNat = n.toNat / 2 * 2 := by
  rw [even, UInt32.toNat_and]
  exact and_high_mask (w := 32) (k := 1) (by decide) n.toNat_lt

theorem toUInt16_toNat {n : UInt32} (h : n.toNat ≤ 65535) : n.toUInt16.toNat = n.toNat := by
  rw [UInt32.toNat_toUInt16]
  exact Nat.mod_eq_of_lt (Nat.lt_succ_of_le h)

theorem Side.mul_lt (a b : Side) : a.val.toNat * b.val.toNat < 2 ^ 32 :=
  Nat.lt_of_le_of_lt (Nat.mul_le_mul a.le b.le) (by decide)

theorem Side.toNat_mul (a b : Side) : (a.val * b.val).toNat = a.val.toNat * b.val.toNat := by
  rw [UInt32.toNat_mul, Nat.mod_eq_of_lt (a.mul_lt b)]

/-- The 64-bit products are exact too. -/
theorem Side.lt_iff (a b c d : Side) :
    a.val.toUInt64 * b.val.toUInt64 < c.val.toUInt64 * d.val.toUInt64 ↔
      a.val.toNat * b.val.toNat < c.val.toNat * d.val.toNat := by
  have hexact (p q : Side) : (p.val.toUInt64 * q.val.toUInt64).toNat = p.val.toNat * q.val.toNat := by
    rw [UInt64.toNat_mul, UInt32.toNat_toUInt64, UInt32.toNat_toUInt64]
    exact Nat.mod_eq_of_lt (Nat.lt_trans (p.mul_lt q) (by decide))
  rw [UInt64.lt_iff_toNat_lt, hexact, hexact]

/-! The side that is cut. -/

/-- The largest even number that is at most num / den. -/
def EvenBelow (n num den : Nat) : Prop := n % 2 = 0 ∧ n * den ≤ num ∧ num < (n + 2) * den

instance (n num den : Nat) : Decidable (EvenBelow n num den) := inferInstanceAs (Decidable (_ ∧ _ ∧ _))

theorem evenBelow_div (num : Nat) {den : Nat} (h : 0 < den) : EvenBelow (num / den / 2 * 2) num den := by
  refine ⟨Nat.mul_mod_left _ 2, ?_, ?_⟩
  · calc num / den / 2 * 2 * den ≤ num / den * den := Nat.mul_le_mul_right den (Nat.div_mul_le_self _ 2)
      _ ≤ num := Nat.div_mul_le_self num den
  · calc num < (num / den + 1) * den := by
          rw [Nat.mul_comm]
          exact Nat.lt_mul_div_succ num h
      _ ≤ (num / den / 2 * 2 + 2) * den := Nat.mul_le_mul_right den (by omega)

theorem evenBelow_le {num den side : Nat} (h : num < side * den) : num / den / 2 * 2 ≤ side := by
  have hlt : num / den < side := Nat.div_lt_of_lt_mul (by rw [Nat.mul_comm]; exact h)
  omega

/-- Cutting one side in 32 and 16 bits is exact. -/
theorem cut_exact (side kept image den : Side)
    (h : kept.val.toNat * image.val.toNat < side.val.toNat * den.val.toNat) :
    let cut := (even (kept.val * image.val / den.val)).toUInt16
    cut.toNat = kept.val.toNat * image.val.toNat / den.val.toNat / 2 * 2 ∧
      (even ((side.val - cut.toUInt32) / 2)).toUInt16.toNat = (side.val.toNat - cut.toNat) / 2 / 2 * 2 := by
  have hle := evenBelow_le h
  have hside := side.le
  have hquot : (even (kept.val * image.val / den.val)).toNat =
      kept.val.toNat * image.val.toNat / den.val.toNat / 2 * 2 := by
    rw [even_toNat, UInt32.toNat_div, kept.toNat_mul]
  have hcut : (even (kept.val * image.val / den.val)).toUInt16.toNat =
      kept.val.toNat * image.val.toNat / den.val.toNat / 2 * 2 := by
    rw [toUInt16_toNat (by omega), hquot]
  refine ⟨hcut, ?_⟩
  have hsub : (side.val - (even (kept.val * image.val / den.val)).toUInt16.toUInt32).toNat =
      side.val.toNat - (even (kept.val * image.val / den.val)).toUInt16.toNat := by
    rw [UInt32.toNat_sub_of_le _ _ (UInt32.le_iff_toNat_le.2 (by rw [UInt16.toNat_toUInt32, hcut]; exact hle)),
      UInt16.toNat_toUInt32]
  have hoff : (even ((side.val - (even (kept.val * image.val / den.val)).toUInt16.toUInt32) / 2)).toNat =
      (side.val.toNat - (even (kept.val * image.val / den.val)).toUInt16.toNat) / 2 / 2 * 2 := by
    rw [even_toNat, UInt32.toNat_div, hsub]
    rfl
  rw [toUInt16_toNat (by omega), hoff]

theorem precrop_exact (sensorW sensorH imageW imageH : Side) :
    value (computePrecrop sensorW.val sensorH.val imageW.val imageH.val) =
      exactPrecrop sensorW.val.toNat sensorH.val.toNat imageW.val.toNat imageH.val.toNat := by
  simp only [computePrecrop, exactPrecrop, Side.lt_iff]
  split_ifs with hwide htall
  · rw [Nat.mul_comm] at hwide
    obtain ⟨hw, hx⟩ := cut_exact sensorW sensorH imageW imageH hwide
    simp only [value, hx, hw, toUInt16_toNat sensorH.le]
    rfl
  · rw [Nat.mul_comm imageW.val.toNat] at htall
    obtain ⟨hh, hy⟩ := cut_exact sensorH sensorW imageH imageW htall
    simp only [value, hy, hh, toUInt16_toNat sensorW.le]
    rfl
  · simp only [value, toUInt16_toNat sensorW.le, toUInt16_toNat sensorH.le]
    rfl

/-! What the rectangle is. -/

def Inside (r : ExactRect) (sensorW sensorH : Nat) : Prop := r.x + r.w ≤ sensorW ∧ r.y + r.h ≤ sensorH

def EvenOffsets (r : ExactRect) : Prop := r.x % 2 = 0 ∧ r.y % 2 = 0

/-- In each dimension the offset is within two pixels of half of what is cut. -/
def Centred (r : ExactRect) (sensorW sensorH : Nat) : Prop :=
  (2 * r.x ≤ sensorW - r.w ∧ sensorW - r.w < 2 * (r.x + 2)) ∧ 2 * r.y ≤ sensorH - r.h ∧ sensorH - r.h < 2 * (r.y + 2)

/-- The height is kept and the width is the largest even one for the aspect. -/
def CutsWidth (r : ExactRect) (sensorH imageW imageH : Nat) : Prop :=
  r.h = sensorH ∧ EvenBelow r.w (sensorH * imageW) imageH

def CutsHeight (r : ExactRect) (sensorW imageW imageH : Nat) : Prop :=
  r.w = sensorW ∧ EvenBelow r.h (sensorW * imageH) imageW

instance (r : ExactRect) (sensorH imageW imageH : Nat) : Decidable (CutsWidth r sensorH imageW imageH) :=
  inferInstanceAs (Decidable (_ ∧ EvenBelow _ _ _))

instance (r : ExactRect) (sensorW imageW imageH : Nat) : Decidable (CutsHeight r sensorW imageW imageH) :=
  inferInstanceAs (Decidable (_ ∧ EvenBelow _ _ _))

/-- What is cut off one side, and where. -/
theorem cut_placed {num den side : Nat} (h : num < side * den) :
    let cut := num / den / 2 * 2
    let offset := (side - cut) / 2 / 2 * 2
    offset + cut ≤ side ∧ offset % 2 = 0 ∧ 2 * offset ≤ side - cut ∧ side - cut < 2 * (offset + 2) := by
  have hle := evenBelow_le h
  omega

/-- With a different aspect one side is cut; with the same one the sensor is
taken as it is, be its sides even or odd. -/
theorem precrop_correct (sensorW sensorH imageW imageH : Side) :
    let r := value (computePrecrop sensorW.val sensorH.val imageW.val imageH.val)
    let sw := sensorW.val.toNat
    let sh := sensorH.val.toNat
    let iw := imageW.val.toNat
    let ih := imageH.val.toNat
    Inside r sw sh ∧ EvenOffsets r ∧ Centred r sw sh ∧
      (iw * sh < sw * ih → CutsWidth r sh iw ih) ∧ (sw * ih < iw * sh → CutsHeight r sw iw ih) ∧
      (sw * ih = iw * sh → r = ⟨0, 0, sw, sh⟩) ∧
      -- neither a product nor a cast loses anything
      sh * iw < 2 ^ 32 ∧ sw * ih < 2 ^ 32 ∧ r = exactPrecrop sw sh iw ih := by
  simp only [precrop_exact]
  have hsh : sensorH.val.toNat * imageW.val.toNat < 2 ^ 32 := sensorH.mul_lt imageW
  have hsw : sensorW.val.toNat * imageH.val.toNat < 2 ^ 32 := sensorW.mul_lt imageH
  have hiw := imageW.pos
  have hih := imageH.pos
  generalize sensorW.val.toNat = sw at hsw ⊢
  generalize sensorH.val.toNat = sh at hsh ⊢
  generalize imageW.val.toNat = iw at hsh hiw ⊢
  generalize imageH.val.toNat = ih at hsw hih ⊢
  have hwhole (n : Nat) : 2 * 0 ≤ n - n ∧ n - n < 2 * (0 + 2) := by omega
  rw [exactPrecrop]
  split_ifs with hwide htall
  · have hlt : sh * iw < sw * ih := by rw [Nat.mul_comm]; exact hwide
    obtain ⟨hin, heven, hoffset⟩ := cut_placed hlt
    exact ⟨⟨hin, Nat.le_of_eq (Nat.zero_add sh)⟩, ⟨heven, rfl⟩, ⟨hoffset, hwhole sh⟩,
      fun _ => ⟨rfl, evenBelow_div _ hih⟩, fun h => absurd hwide (Nat.lt_asymm h),
      fun h => absurd hwide (by omega), hsh, hsw, trivial⟩
  · have hlt : sw * ih < sh * iw := by rw [Nat.mul_comm sh]; exact htall
    obtain ⟨hin, heven, hoffset⟩ := cut_placed hlt
    exact ⟨⟨Nat.le_of_eq (Nat.zero_add sw), hin⟩, ⟨rfl, heven⟩, ⟨hwhole sw, hoffset⟩,
      fun h => absurd h hwide, fun _ => ⟨rfl, evenBelow_div _ hiw⟩, fun h => absurd htall (by omega),
      hsh, hsw, trivial⟩
  · exact ⟨⟨Nat.le_of_eq (Nat.zero_add sw), Nat.le_of_eq (Nat.zero_add sh)⟩, ⟨rfl, rfl⟩, ⟨hwhole sw, hwhole sh⟩,
      fun h => absurd h hwide, fun h => absurd h htall, fun _ => rfl, hsh, hsw, trivial⟩

/-- An odd sensor and an image of its aspect: neither side is made even. -/
theorem odd_sensor_kept :
    value (computePrecrop 1921 1081 1921 1081) = ⟨0, 0, 1921, 1081⟩ ∧
      ¬ (CutsWidth (value (computePrecrop 1921 1081 1921 1081)) 1081 1921 1081 ∨
        CutsHeight (value (computePrecrop 1921 1081 1921 1081)) 1921 1921 1081) := by
  decide

end WaybeamVenc.Precrop
