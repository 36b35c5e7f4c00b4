import Mathlib.Data.Rat.Floor
import Mathlib.Tactic.Linarith
import WaybeamVenc.PipelineGeometry

namespace WaybeamVenc.Gyroglide

open PipelineGeometry (Rect)

structure EisConfig where
  marginPercent : Int
  captureW : UInt16
  captureH : UInt16
  testMode : Bool
deriving DecidableEq

structure GyroglideState where
  captureW : UInt16
  captureH : UInt16
  cropW : UInt16
  cropH : UInt16
  marginX : UInt16
  marginY : UInt16
  testMode : Bool
  posX : Rat
  posY : Rat
  cropX : UInt16
  cropY : UInt16
deriving DecidableEq

def align2 (v : UInt16) : UInt16 := v &&& ~~~1

def clampf (v lo hi : Rat) : Rat := if v < lo then lo else if hi < v then hi else v

/-- The conversion of a float to an int, towards zero. -/
def toInt (v : Rat) : Int := if 0 ≤ v then ⌊v⌋ else ⌈v⌉

/-- The rectangle that apply_crop passes to MI_VPE_SetPortCrop. -/
def applyCrop (st : GyroglideState) : Rect := ⟨st.cropX, st.cropY, st.cropW, st.cropH⟩

def gglMaxMarginPercent : Int := 30

def gglMinCropFrac : Nat := 70

def percentOf (capture : UInt16) (percent : Nat) : UInt16 := align2 (UInt16.ofNat (capture.toNat * percent / 100))

def minCrop (capture : UInt16) : UInt16 :=
  let min := percentOf capture gglMinCropFrac
  if min < 64 then 64 else min

def atLeast (min crop : UInt16) : UInt16 := if crop < min then min else crop

/-- Crop size and margin of both axes, as the secondary correction leaves them. -/
def cropAndMargins (captureW captureH : UInt16) (percent : Nat) : (UInt16 × UInt16) × UInt16 × UInt16 :=
  let totalMarginX := percentOf captureW percent
  let totalMarginY := percentOf captureH percent
  let cropW := align2 (captureW - totalMarginX)
  let cropH := align2 (captureH - totalMarginY)
  if cropW < minCrop captureW ∨ cropH < minCrop captureH then
    let cropW := atLeast (minCrop captureW) cropW
    let cropH := atLeast (minCrop captureH) cropH
    ((cropW, cropH), (captureW - cropW) / 2, (captureH - cropH) / 2)
  else ((cropW, cropH), totalMarginX / 2, totalMarginY / 2)

/-- A stabilizer, and every rectangle passed to MI_VPE_SetPortCrop for it. -/
structure Session where
  state : GyroglideState
  crops : List Rect
deriving DecidableEq

/-- ret is what the first MI_VPE_SetPortCrop returns. -/
def eisGyroglideCreate (cfg : EisConfig) (ret : Int) : Option Session :=
  if cfg.marginPercent ≤ 0 ∨ 50 ≤ cfg.marginPercent then none
  else if cfg.captureW < 64 ∨ cfg.captureH < 64 then none
  else
    let marginPct := if gglMaxMarginPercent < cfg.marginPercent then gglMaxMarginPercent else cfg.marginPercent
    let ((cropW, cropH), marginX, marginY) := cropAndMargins cfg.captureW cfg.captureH marginPct.toNat
    if cropW < 64 ∨ cropH < 64 then none
    else
      let st : GyroglideState :=
        ⟨cfg.captureW, cfg.captureH, cropW, cropH, marginX, marginY, cfg.testMode, 0, 0, marginX, marginY⟩
      if ret ≠ 0 then none else some ⟨st, [applyCrop st]⟩

/-- Step 7 of gyroglide_compute on one axis, which the test mode repeats. -/
def cropCoordinate (margin capture crop : UInt16) (offset : Rat) : UInt16 :=
  let c := (margin.toNat : Int) + toInt offset
  let max := (capture.toNat : Int) - crop.toNat
  let c := if c < 0 then 0 else c
  let c := if max < c then max else c
  align2 (UInt16.ofNat c.toNat)

/-- Step 6 on one axis: no position is a NaN. -/
def clampPosition (margin : UInt16) (pos : Option Rat) : Rat :=
  clampf (pos.getD 0) (-margin.toNat) margin.toNat

/-- What a call of gyroglide_update meets: whether time has passed since the
last one, the positions that the first five steps compute from the samples, and
the wobble of the test mode. -/
structure Update where
  elapsed : Bool
  posX : Option Rat
  posY : Option Rat
  wobbleX : Rat
  wobbleY : Rat
deriving DecidableEq

def gyroglideCompute (st : GyroglideState) (posX posY : Option Rat) : GyroglideState :=
  let posX := clampPosition st.marginX posX
  let posY := clampPosition st.marginY posY
  { st with
    posX := posX
    posY := posY
    cropX := cropCoordinate st.marginX st.captureW st.cropW posX
    cropY := cropCoordinate st.marginY st.captureH st.cropH posY }

def testWobble (st : GyroglideState) (wobbleX wobbleY : Rat) : GyroglideState :=
  { st with
    cropX := cropCoordinate st.marginX st.captureW st.cropW wobbleX
    cropY := cropCoordinate st.marginY st.captureH st.cropH wobbleY }

def gyroglideUpdate (s : Session) (u : Update) : Session :=
  if u.elapsed then
    let st := if s.state.testMode then testWobble s.state u.wobbleX u.wobbleY else gyroglideCompute s.state u.posX u.posY
    ⟨st, s.crops ++ [applyCrop st]⟩
  else s

theorem align2_toNat (v : UInt16) : (align2 v).toNat = v.toNat / 2 * 2 := by
  have hmask : (~~~1 : UInt16).toNat = 65534 := by decide
  have hhalf : (v.toNat &&& 65534) / 2 = v.toNat / 2 := by
    rw [Nat.and_div_two, show 65534 / 2 = 2 ^ 15 - 1 by rfl, Nat.and_two_pow_sub_one_eq_mod]
    have hlt := v.toNat_lt
    omega
  have hlow : (v.toNat &&& 65534) % 2 = 0 := by
    rw [← Nat.and_one_is_mod, Nat.and_assoc]
    exact Nat.and_zero _
  rw [align2, UInt16.toNat_and, hmask]
  omega

theorem align2_even (v : UInt16) : 2 ∣ (align2 v).toNat := ⟨v.toNat / 2, by rw [align2_toNat, Nat.mul_comm]⟩

theorem percent_le (capture : UInt16) {percent most : Nat} (h : percent ≤ most) :
    capture.toNat * percent / 100 ≤ capture.toNat * most / 100 :=
  Nat.div_le_div_right (Nat.mul_le_mul_left _ h)

theorem percentOf_toNat (capture : UInt16) {percent : Nat} (h : percent ≤ 100) :
    (percentOf capture percent).toNat = capture.toNat * percent / 100 / 2 * 2 := by
  have hle := percent_le capture h
  have hlt : capture.toNat < 65536 := capture.toNat_lt
  rw [percentOf, align2_toNat, UInt16.toNat_ofNat_of_lt']
  change _ < 65536
  omega

theorem minCrop_toNat (capture : UInt16) : (minCrop capture).toNat = max (capture.toNat * 70 / 100 / 2 * 2) 64 := by
  have hmin := @percentOf_toNat capture 70 (by decide)
  simp only [minCrop, gglMinCropFrac, UInt16.lt_iff_toNat_lt, hmin]
  split_ifs with hsmall
  · exact (Nat.max_eq_right (Nat.le_of_lt hsmall)).symm
  · rw [hmin]
    exact (Nat.max_eq_left (Nat.le_of_not_lt hsmall)).symm

theorem atLeast_toNat (min crop : UInt16) : (atLeast min crop).toNat = max min.toNat crop.toNat := by
  simp only [atLeast, UInt16.lt_iff_toNat_lt]
  split_ifs with hlt
  · exact (Nat.max_eq_left (Nat.le_of_lt hlt)).symm
  · exact (Nat.max_eq_right (Nat.le_of_not_lt hlt)).symm

/-- The margin of an axis as plain arithmetic on the capture size. -/
def margin (capture : UInt16) (percent : Nat) : Nat := min (capture.toNat * percent / 100 / 2) ((capture.toNat - 64) / 2)

/-- What is left of an axis once crop size and margin are computed. -/
structure Axis (capture : UInt16) (percent : Nat) (crop side : UInt16) : Prop where
  even : 2 ∣ crop.toNat
  large : capture.toNat * 70 / 100 / 2 * 2 ≤ crop.toNat
  least : 64 ≤ crop.toNat
  inside : side.toNat + crop.toNat ≤ capture.toNat
  side_eq : side.toNat = margin capture percent

theorem crop_toNat (capture : UInt16) {percent : Nat} (h : percent ≤ 30) :
    (align2 (capture - percentOf capture percent)).toNat =
      (capture.toNat - capture.toNat * percent / 100 / 2 * 2) / 2 * 2 := by
  have htotal := @percentOf_toNat capture percent (by omega)
  have hle := percent_le capture h
  rw [align2_toNat, UInt16.toNat_sub_of_le, htotal]
  rw [UInt16.le_iff_toNat_le, htotal]
  omega

theorem axis_kept {capture : UInt16} {percent : Nat} (h : percent ≤ 30)
    (hkept : ¬ align2 (capture - percentOf capture percent) < minCrop capture) :
    Axis capture percent (align2 (capture - percentOf capture percent)) (percentOf capture percent / 2) := by
  have htotal := @percentOf_toNat capture percent (by omega)
  have hcrop := crop_toNat capture h
  have hle := percent_le capture h
  rw [UInt16.lt_iff_toNat_lt, minCrop_toNat, hcrop] at hkept
  have hside : (percentOf capture percent / 2).toNat = capture.toNat * percent / 100 / 2 := by
    rw [UInt16.toNat_div, htotal]
    exact Nat.mul_div_cancel _ (by decide)
  constructor
  · exact align2_even _
  · omega
  · omega
  · omega
  · rw [hside, margin]
    omega

theorem axis_corrected {capture : UInt16} {percent : Nat} (hpercent : percent ≤ 30) (hcapture : 64 ≤ capture.toNat) :
    Axis capture percent (atLeast (minCrop capture) (align2 (capture - percentOf capture percent)))
      ((capture - atLeast (minCrop capture) (align2 (capture - percentOf capture percent))) / 2) := by
  have hcrop := crop_toNat capture hpercent
  have hmin := minCrop_toNat capture
  have hle := percent_le capture hpercent
  have hatLeast := atLeast_toNat (minCrop capture) (align2 (capture - percentOf capture percent))
  rw [hcrop, hmin] at hatLeast
  generalize atLeast (minCrop capture) (align2 (capture - percentOf capture percent)) = crop at hatLeast ⊢
  have hside : ((capture - crop) / 2).toNat = (capture.toNat - crop.toNat) / 2 := by
    rw [UInt16.toNat_div, UInt16.toNat_sub_of_le]
    · rfl
    · rw [UInt16.le_iff_toNat_le]
      omega
  constructor
  · omega
  · omega
  · omega
  · omega
  · rw [hside, margin]
    omega

theorem cropAndMargins_axes {captureW captureH : UInt16} {percent : Nat} (hpercent : percent ≤ 30)
    (hw : 64 ≤ captureW.toNat) (hh : 64 ≤ captureH.toNat) :
    Axis captureW percent (cropAndMargins captureW captureH percent).1.1 (cropAndMargins captureW captureH percent).2.1 ∧
      Axis captureH percent (cropAndMargins captureW captureH percent).1.2 (cropAndMargins captureW captureH percent).2.2 := by
  simp only [cropAndMargins]
  split_ifs with hsmall
  · exact ⟨axis_corrected hpercent hw, axis_corrected hpercent hh⟩
  · rw [not_or] at hsmall
    exact ⟨axis_kept hpercent hsmall.1, axis_kept hpercent hsmall.2⟩

theorem clampPosition_within (margin : UInt16) (pos : Option Rat) :
    -(margin.toNat : Rat) ≤ clampPosition margin pos ∧ clampPosition margin pos ≤ margin.toNat := by
  have hmargin : (0 : Rat) ≤ margin.toNat := Nat.cast_nonneg _
  rw [clampPosition, clampf]
  split_ifs with hlow hhigh
  · exact ⟨le_refl _, by linarith⟩
  · exact ⟨by linarith, le_refl _⟩
  · exact ⟨not_lt.mp hlow, not_lt.mp hhigh⟩

/-- Along one axis the rectangle is even, inside the capture area and as large
as the VPE needs it. -/
structure ValidAlong (capture start size : UInt16) : Prop where
  even_start : 2 ∣ start.toNat
  even_size : 2 ∣ size.toNat
  inside : start.toNat + size.toNat ≤ capture.toNat
  large : capture.toNat * 70 / 100 / 2 * 2 ≤ size.toNat

def Valid (cfg : EisConfig) (r : Rect) : Prop :=
  ValidAlong cfg.captureW r.x r.width ∧ ValidAlong cfg.captureH r.y r.height

theorem Axis.valid_iff {capture : UInt16} {percent : Nat} {crop side : UInt16} (h : Axis capture percent crop side) :
    ValidAlong capture side crop ↔ 2 ∣ margin capture percent := by
  rw [← h.side_eq]
  constructor
  · exact ValidAlong.even_start
  · intro heven
    exact ⟨heven, h.even, h.inside, h.large⟩

theorem Axis.coordinate_valid {capture : UInt16} {percent : Nat} {crop side : UInt16} (h : Axis capture percent crop side)
    (offset : Rat) : ValidAlong capture (cropCoordinate side capture crop offset) crop := by
  have hinside := h.inside
  have hlt : capture.toNat < 65536 := capture.toNat_lt
  refine ⟨align2_even _, h.even, ?_, h.large⟩
  simp only [cropCoordinate]
  generalize (side.toNat : Int) + toInt offset = c
  have hbounds : ∀ lo : Int, 0 ≤ lo →
      (if (capture.toNat : Int) - crop.toNat < lo then (capture.toNat : Int) - crop.toNat else lo).toNat + crop.toNat ≤
        capture.toNat := by
    intro lo hlo
    split_ifs <;> omega
  have hclamped := hbounds (if c < 0 then 0 else c) (by split_ifs <;> omega)
  generalize (if (capture.toNat : Int) - crop.toNat < (if c < 0 then 0 else c) then (capture.toNat : Int) - crop.toNat
    else (if c < 0 then 0 else c)).toNat = n at hclamped ⊢
  have hn : (UInt16.ofNat n).toNat = n := by
    apply UInt16.toNat_ofNat_of_lt'
    change n < 65536
    omega
  rw [align2_toNat, hn]
  omega

/-- margin_percent as it is clamped to what the VPE bears. -/
def marginPct (cfg : EisConfig) : Nat := (min cfg.marginPercent 30).toNat

structure Fitted (cfg : EisConfig) (st : GyroglideState) : Prop where
  captureW : st.captureW = cfg.captureW
  captureH : st.captureH = cfg.captureH
  axisX : Axis cfg.captureW (marginPct cfg) st.cropW st.marginX
  axisY : Axis cfg.captureH (marginPct cfg) st.cropH st.marginY

/-- A created stabilizer has passed the rectangle at its margins. -/
theorem create_fitted {cfg : EisConfig} {ret : Int} {s : Session} (h : eisGyroglideCreate cfg ret = some s) :
    Fitted cfg s.state ∧ s.crops = [⟨s.state.marginX, s.state.marginY, s.state.cropW, s.state.cropH⟩] := by
  have hpct : (if gglMaxMarginPercent < cfg.marginPercent then gglMaxMarginPercent else cfg.marginPercent).toNat =
      marginPct cfg := by
    simp only [gglMaxMarginPercent, marginPct]
    split_ifs <;> omega
  have hle : marginPct cfg ≤ 30 := by
    rw [marginPct]
    omega
  simp only [eisGyroglideCreate, hpct] at h
  split_ifs at h with hmargin hcapture hsmall hret
  rw [not_or, UInt16.lt_iff_toNat_lt, UInt16.lt_iff_toNat_lt, not_lt, not_lt] at hcapture
  obtain ⟨hx, hy⟩ := cropAndMargins_axes hle hcapture.1 hcapture.2
  cases h
  exact ⟨⟨rfl, rfl, hx, hy⟩, rfl⟩

/-- One update: nothing is passed when no time has gone by, and a valid
rectangle otherwise, whatever the positions. -/
theorem update_valid {cfg : EisConfig} {s : Session} (h : Fitted cfg s.state) (u : Update) :
    Fitted cfg (gyroglideUpdate s u).state ∧
      ∃ passed, (gyroglideUpdate s u).crops = s.crops ++ passed ∧ ∀ r ∈ passed, Valid cfg r := by
  have hpassed : ∀ {st : GyroglideState} (offsetX offsetY : Rat), Fitted cfg st →
      st.cropX = cropCoordinate st.marginX st.captureW st.cropW offsetX →
      st.cropY = cropCoordinate st.marginY st.captureH st.cropH offsetY → Valid cfg (applyCrop st) := by
    intro st offsetX offsetY hst hx hy
    rw [applyCrop, hx, hy, hst.captureW, hst.captureH]
    exact ⟨hst.axisX.coordinate_valid offsetX, hst.axisY.coordinate_valid offsetY⟩
  rw [gyroglideUpdate]
  cases u.elapsed with
  | false => exact ⟨h, [], (List.append_nil _).symm, fun r hr => absurd hr List.not_mem_nil⟩
  | true =>
      cases s.state.testMode with
      | true =>
          have hst : Fitted cfg (testWobble s.state u.wobbleX u.wobbleY) := ⟨h.captureW, h.captureH, h.axisX, h.axisY⟩
          refine ⟨hst, _, rfl, ?_⟩
          intro r hr
          rw [List.mem_singleton.mp hr]
          exact hpassed u.wobbleX u.wobbleY hst rfl rfl
      | false =>
          have hst : Fitted cfg (gyroglideCompute s.state u.posX u.posY) := ⟨h.captureW, h.captureH, h.axisX, h.axisY⟩
          refine ⟨hst, _, rfl, ?_⟩
          intro r hr
          rw [List.mem_singleton.mp hr]
          exact hpassed _ _ hst rfl rfl

theorem run_valid {cfg : EisConfig} {s : Session} (h : Fitted cfg s.state) (us : List Update) :
    ∃ passed, (us.foldl gyroglideUpdate s).crops = s.crops ++ passed ∧ ∀ r ∈ passed, Valid cfg r := by
  induction us generalizing s with
  | nil => exact ⟨[], (List.append_nil _).symm, fun r hr => absurd hr List.not_mem_nil⟩
  | cons u us ih =>
      obtain ⟨hfitted, now, hnow, hvalid⟩ := update_valid h u
      obtain ⟨later, hlater, hrest⟩ := ih hfitted
      refine ⟨now ++ later, ?_, ?_⟩
      · rw [List.foldl_cons, hlater, hnow, List.append_assoc]
      · exact List.forall_mem_append.mpr ⟨hvalid, hrest⟩

/-- The margins of both axes are even. -/
def EvenMargins (cfg : EisConfig) : Prop :=
  2 ∣ margin cfg.captureW (marginPct cfg) ∧ 2 ∣ margin cfg.captureH (marginPct cfg)

/-- Every rectangle of every run is valid exactly when both margins are even:
the first one starts at the margins as they are, only the updates align. -/
theorem crops_valid_iff {cfg : EisConfig} {ret : Int} {s : Session} (h : eisGyroglideCreate cfg ret = some s)
    (us : List Update) : (∀ r ∈ (us.foldl gyroglideUpdate s).crops, Valid cfg r) ↔ EvenMargins cfg := by
  obtain ⟨hfitted, hfirst⟩ := create_fitted h
  obtain ⟨passed, hcrops, hvalid⟩ := run_valid hfitted us
  rw [hcrops, hfirst, List.forall_mem_append, List.forall_mem_singleton, and_iff_left hvalid]
  exact and_congr hfitted.axisX.valid_iff hfitted.axisY.valid_iff

def fullHd (percent : Int) : EisConfig := ⟨percent, 1920, 1080, false⟩

def pan : Update := ⟨true, some 12, none, 0, 0⟩

theorem crops_valid_iff_fullHd :
    EvenMargins (fullHd 10) ∧
      ∀ r ∈ ([pan].foldl gyroglideUpdate
        ⟨⟨1920, 1080, 1728, 972, 96, 54, false, 0, 0, 96, 54⟩, [⟨96, 54, 1728, 972⟩]⟩).crops, Valid (fullHd 10) r := by
  have heven : EvenMargins (fullHd 10) := ⟨by decide, by decide⟩
  exact ⟨heven, (crops_valid_iff (by decide : eisGyroglideCreate (fullHd 10) 0 = _) [pan]).mpr heven⟩

/-- At 15 percent the first window of a 1920x1080 capture starts on line 81. -/
theorem first_crop_odd :
    ∃ s, eisGyroglideCreate (fullHd 15) 0 = some s ∧ s.crops = [⟨144, 81, 1632, 918⟩] ∧
      ¬ ∀ r ∈ s.crops, Valid (fullHd 15) r := by
  refine ⟨⟨⟨1920, 1080, 1632, 918, 144, 81, false, 0, 0, 144, 81⟩, [⟨144, 81, 1632, 918⟩]⟩, by decide, rfl, ?_⟩
  intro hvalid
  have heven := (hvalid _ (List.mem_singleton_self _)).2.even_start
  exact absurd heven (by decide)

end WaybeamVenc.Gyroglide
