import Mathlib.Algebra.Order.Floor.Semiring
import Mathlib.Data.Rat.Floor
import Mathlib.Tactic.GCongr
import Mathlib.Tactic.Linarith
import Mathlib.Tactic.Positivity

namespace WaybeamVenc.RoiBands

def alignDown (value align : UInt32) : UInt32 := value / align * align

def pipelineCommonScaleRoiQp (qp level steps : Int) : Int :=
  if steps < 1 ∨ level < 1 ∨ steps < level then 0
  else
    let mag := (qp.natAbs * level + steps.tdiv 2).tdiv steps
    if qp < 0 then -mag else mag

/-- MI_VENC_RoiCfg_t with its rectangle. -/
structure Roi where
  index : UInt32
  enable : Bool
  absQp : Bool
  qp : Int
  left : UInt32
  top : UInt32
  width : UInt32
  height : UInt32
deriving DecidableEq

/-- The part of the width that a band takes, exact where the source has a float. -/
def bandFrac (centerFrac : ℚ) (steps level : Int) : ℚ :=
  centerFrac + (1 - centerFrac) * ((steps - level : Int) : ℚ) / (steps : ℚ)

def horizontalRoi (width height : UInt32) (centerFrac : ℚ) (qp steps index : Int) : Option Roi :=
  if index < 0 ∨ steps ≤ index then none
  else
    let level := index + 1
    let rectW := alignDown (UInt32.ofNat ⌊bandFrac centerFrac steps level * width.toNat⌋₊) 32
    let rectH := alignDown height 32
    let rectX := alignDown ((width - rectW) / 2) 32
    if rectW = 0 ∨ rectH = 0 then none
    else some ⟨UInt32.ofInt index, true, false, pipelineCommonScaleRoiQp qp level steps, rectX, 0, rectW, rectH⟩

/-- compute_horizontal_roi of star6e_controls.c. -/
def star6eComputeHorizontalRoi := horizontalRoi

/-- compute_horizontal_roi of maruko_controls.c. -/
def marukoComputeHorizontalRoi := horizontalRoi

/-- A request as apply_roi_qp clamps it. -/
structure RoiRequest where
  qp : Int
  steps : Int
  centerFrac : ℚ
  qpLow : -30 ≤ qp
  qpHigh : qp ≤ 30
  stepsLow : 1 ≤ steps
  stepsHigh : steps ≤ 4
  centerLow : 1 / 10 ≤ centerFrac
  centerHigh : centerFrac ≤ 9 / 10

theorem alignDown_toNat (value : UInt32) : (alignDown value 32).toNat = value.toNat / 32 * 32 := by
  have hle : value.toNat / 32 * 32 ≤ value.toNat := Nat.div_mul_le_self value.toNat 32
  have hlt := value.toNat_lt
  rw [alignDown, UInt32.toNat_mul, UInt32.toNat_div]
  exact Nat.mod_eq_of_lt (Nat.lt_of_le_of_lt hle hlt)

/-! The widths. -/

variable (r : RoiRequest)

theorem bandFrac_antitone {level level' : Int} (h : level ≤ level') :
    bandFrac r.centerFrac r.steps level' ≤ bandFrac r.centerFrac r.steps level := by
  have hhigh := r.centerHigh
  have hsteps : (0 : ℚ) < r.steps := by
    have hs := r.stepsLow
    exact_mod_cast hs
  have hcast : ((r.steps - level' : Int) : ℚ) ≤ ((r.steps - level : Int) : ℚ) := by
    have hl : r.steps - level' ≤ r.steps - level := by omega
    exact_mod_cast hl
  have hrest : 0 ≤ 1 - r.centerFrac := by linarith
  rw [bandFrac, bandFrac]
  gcongr

/-- Level 0 would be the whole width. -/
theorem bandFrac_zero : bandFrac r.centerFrac r.steps 0 = 1 := by
  have hsteps : (r.steps : ℚ) ≠ 0 := by
    have hs : r.steps ≠ 0 := by have hs := r.stepsLow; omega
    exact_mod_cast hs
  rw [bandFrac, sub_zero, mul_div_assoc, div_self hsteps]
  ring

theorem bandFrac_le_one {level : Int} (h : 0 ≤ level) : bandFrac r.centerFrac r.steps level ≤ 1 := by
  rw [← bandFrac_zero r]
  exact bandFrac_antitone r h

/-- The width of a band before it is aligned. -/
def bandWidth (width : UInt32) (level : Int) : Nat := ⌊bandFrac r.centerFrac r.steps level * width.toNat⌋₊

theorem bandWidth_le (width : UInt32) {level : Int} (h : 0 ≤ level) : bandWidth r width level ≤ width.toNat := by
  have hfrac := bandFrac_le_one r h
  have hwidth : (0 : ℚ) ≤ width.toNat := by positivity
  refine Nat.floor_le_of_le ?_
  calc bandFrac r.centerFrac r.steps level * width.toNat ≤ 1 * width.toNat := by gcongr
    _ = width.toNat := one_mul _

theorem bandWidth_antitone (width : UInt32) {level level' : Int} (h : level ≤ level') :
    bandWidth r width level' ≤ bandWidth r width level := by
  have hfrac := bandFrac_antitone r h
  refine Nat.floor_le_floor ?_
  gcongr

/-- What a band that is accepted has in numbers. -/
theorem horizontalRoi_spec {width height : UInt32} {index : Int} {roi : Roi}
    (h : horizontalRoi width height r.centerFrac r.qp r.steps index = some roi) :
    (0 ≤ index ∧ index < r.steps) ∧ roi.qp = pipelineCommonScaleRoiQp r.qp (index + 1) r.steps ∧
      roi.width.toNat = bandWidth r width (index + 1) / 32 * 32 ∧
      roi.left.toNat = (width.toNat - roi.width.toNat) / 2 / 32 * 32 ∧
      roi.top.toNat = 0 ∧ roi.height.toNat = height.toNat / 32 * 32 := by
  rw [horizontalRoi] at h
  split_ifs at h with hindex
  rw [not_or, Int.not_lt, Int.not_le] at hindex
  simp only at h
  split_ifs at h with hempty
  cases h
  have hlevel : (0 : Int) ≤ index + 1 := by omega
  have hle := bandWidth_le r width hlevel
  have hfloor : (UInt32.ofNat ⌊bandFrac r.centerFrac r.steps (index + 1) * width.toNat⌋₊).toNat =
      bandWidth r width (index + 1) := UInt32.toNat_ofNat_of_lt' (Nat.lt_of_le_of_lt hle width.toNat_lt)
  have hwidth : (alignDown (UInt32.ofNat ⌊bandFrac r.centerFrac r.steps (index + 1) * width.toNat⌋₊) 32).toNat =
      bandWidth r width (index + 1) / 32 * 32 := by rw [alignDown_toNat, hfloor]
  refine ⟨hindex, rfl, hwidth, ?_, rfl, alignDown_toNat height⟩
  simp only
  rw [alignDown_toNat, UInt32.toNat_div, UInt32.toNat_sub_of_le _ _ (UInt32.le_iff_toNat_le.2 (by omega))]
  rfl

/-! The bands. -/

def InFrame (roi : Roi) (width height : UInt32) : Prop :=
  roi.left.toNat + roi.width.toNat ≤ width.toNat ∧ roi.top.toNat + roi.height.toNat ≤ height.toNat

def Aligned (roi : Roi) : Prop :=
  32 ∣ roi.left.toNat ∧ 32 ∣ roi.top.toNat ∧ 32 ∣ roi.width.toNat ∧ 32 ∣ roi.height.toNat

/-- The rectangle of the first region is a part of the second one's. -/
def Within (inner outer : Roi) : Prop :=
  (outer.left.toNat ≤ inner.left.toNat ∧
      inner.left.toNat + inner.width.toNat ≤ outer.left.toNat + outer.width.toNat) ∧
    outer.top.toNat ≤ inner.top.toNat ∧
      inner.top.toNat + inner.height.toNat ≤ outer.top.toNat + outer.height.toNat

variable {r} {width height : UInt32}

theorem band_inFrame {index : Int} {roi : Roi}
    (h : horizontalRoi width height r.centerFrac r.qp r.steps index = some roi) : InFrame roi width height ∧ Aligned roi := by
  obtain ⟨hindex, -, hwidth, hleft, htop, hheight⟩ := horizontalRoi_spec r h
  have hlevel : (0 : Int) ≤ index + 1 := by omega
  have hle := bandWidth_le r width hlevel
  refine ⟨⟨by omega, by omega⟩, ?_, ?_, ?_, ?_⟩
  · rw [hleft]
    exact Nat.dvd_mul_left 32 _
  · rw [htop]
    exact Nat.dvd_zero 32
  · rw [hwidth]
    exact Nat.dvd_mul_left 32 _
  · rw [hheight]
    exact Nat.dvd_mul_left 32 _

/-- A narrower band is moved in by at most what it is narrower, on either side. -/
theorem band_within {i j : Int} (hij : i ≤ j) {outer inner : Roi}
    (ho : horizontalRoi width height r.centerFrac r.qp r.steps i = some outer)
    (hi : horizontalRoi width height r.centerFrac r.qp r.steps j = some inner) : Within inner outer := by
  obtain ⟨hindex, -, howidth, holeft, hotop, hoheight⟩ := horizontalRoi_spec r ho
  obtain ⟨-, -, hiwidth, hileft, hitop, hiheight⟩ := horizontalRoi_spec r hi
  have hnarrow : bandWidth r width (j + 1) ≤ bandWidth r width (i + 1) := bandWidth_antitone r width (by omega)
  have hlevel : (0 : Int) ≤ i + 1 := by omega
  have hle := bandWidth_le r width hlevel
  have hblocks : bandWidth r width (j + 1) / 32 ≤ bandWidth r width (i + 1) / 32 := Nat.div_le_div_right hnarrow
  rw [howidth] at holeft
  rw [hiwidth] at hileft
  refine ⟨⟨?_, ?_⟩, by omega, by omega⟩
  · rw [holeft, hileft]
    omega
  · rw [holeft, hileft, howidth, hiwidth]
    omega

/-! The strength. -/

theorem scale_eq {level : Int} (hlow : 1 ≤ level) (hhigh : level ≤ r.steps) :
    pipelineCommonScaleRoiQp r.qp level r.steps =
      (if r.qp < 0 then -1 else 1) * ((r.qp.natAbs * level + r.steps / 2) / r.steps) := by
  have hsteps := r.stepsLow
  have hhalf : r.steps.tdiv 2 = r.steps / 2 := Int.tdiv_eq_ediv_of_nonneg (by omega)
  have hnum : 0 ≤ (r.qp.natAbs : Int) * level + r.steps / 2 :=
    Int.add_nonneg (Int.mul_nonneg (Int.natCast_nonneg _) (by omega)) (by omega)
  rw [pipelineCommonScaleRoiQp, if_neg (by omega), hhalf, Int.tdiv_eq_ediv_of_nonneg hnum]
  simp only
  split_ifs
  · rw [Int.neg_one_mul]
  · rw [Int.one_mul]

theorem magnitude_nonneg {level : Int} (hlow : 1 ≤ level) : 0 ≤ ((r.qp.natAbs : Int) * level + r.steps / 2) / r.steps := by
  have hsteps := r.stepsLow
  refine Int.ediv_nonneg (Int.add_nonneg (Int.mul_nonneg (Int.natCast_nonneg _) (by omega)) (by omega)) (by omega)

/-- The sign of the requested QP, 1 or -1. -/
def sign (qp : Int) : Int := if qp < 0 then -1 else 1

theorem scale_abs {level : Int} (hlow : 1 ≤ level) (hhigh : level ≤ r.steps) :
    |pipelineCommonScaleRoiQp r.qp level r.steps| = (r.qp.natAbs * level + r.steps / 2) / r.steps := by
  have hpos := @magnitude_nonneg r level hlow
  rw [scale_eq hlow hhigh]
  split_ifs
  · rw [Int.neg_one_mul, abs_neg, abs_of_nonneg hpos]
  · rw [Int.one_mul, abs_of_nonneg hpos]

theorem band_sign {index : Int} {roi : Roi}
    (h : horizontalRoi width height r.centerFrac r.qp r.steps index = some roi) : roi.qp = sign r.qp * |roi.qp| := by
  obtain ⟨hindex, hqp, -⟩ := horizontalRoi_spec r h
  rw [hqp, scale_abs (by omega) (by omega), scale_eq (by omega) (by omega), sign]

theorem band_tapered {i j : Int} (hij : i ≤ j) {outer inner : Roi}
    (ho : horizontalRoi width height r.centerFrac r.qp r.steps i = some outer)
    (hi : horizontalRoi width height r.centerFrac r.qp r.steps j = some inner) : |outer.qp| ≤ |inner.qp| := by
  obtain ⟨hoindex, hoqp, -⟩ := horizontalRoi_spec r ho
  obtain ⟨hiindex, hiqp, -⟩ := horizontalRoi_spec r hi
  have hsteps := r.stepsLow
  rw [hoqp, hiqp, scale_abs (by omega) (by omega), scale_abs (by omega) (by omega)]
  have hmul : (r.qp.natAbs : Int) * (i + 1) ≤ r.qp.natAbs * (j + 1) :=
    Int.mul_le_mul_of_nonneg_left (by omega) (Int.natCast_nonneg _)
  exact Int.ediv_le_ediv (by omega) (by omega)

theorem band_innermost {roi : Roi}
    (h : horizontalRoi width height r.centerFrac r.qp r.steps (r.steps - 1) = some roi) : roi.qp = r.qp := by
  obtain ⟨-, hqp, -⟩ := horizontalRoi_spec r h
  have hsteps := r.stepsLow
  have hmag : ((r.qp.natAbs : Int) * r.steps + r.steps / 2) / r.steps = r.qp.natAbs := by
    rw [Int.add_comm, Int.add_mul_ediv_right _ _ (by omega), Int.ediv_eq_zero_of_lt (by omega) (by omega), Int.zero_add]
  rw [hqp, Int.sub_add_cancel, scale_eq hsteps (Int.le_refl _), hmag]
  split_ifs with hneg
  · omega
  · omega

/-- Bands that are nested in the frame, and stronger the further in they are. -/
structure Tapered (compute : UInt32 → UInt32 → ℚ → Int → Int → Int → Option Roi) : Prop where
  inFrame (r : RoiRequest) (width height : UInt32) (index : Int) (roi : Roi) :
    compute width height r.centerFrac r.qp r.steps index = some roi → InFrame roi width height ∧ Aligned roi
  nested (r : RoiRequest) (width height : UInt32) (i j : Int) (outer inner : Roi) :
    i ≤ j → compute width height r.centerFrac r.qp r.steps i = some outer →
      compute width height r.centerFrac r.qp r.steps j = some inner → Within inner outer ∧ |outer.qp| ≤ |inner.qp|
  oneSign (r : RoiRequest) : ∃ s : Int, (s = 1 ∨ s = -1) ∧
    ∀ (width height : UInt32) (index : Int) (roi : Roi),
      compute width height r.centerFrac r.qp r.steps index = some roi → roi.qp = s * |roi.qp|
  innermost (r : RoiRequest) (width height : UInt32) (roi : Roi) :
    compute width height r.centerFrac r.qp r.steps (r.steps - 1) = some roi → roi.qp = r.qp

theorem horizontalRoi_tapered : Tapered horizontalRoi where
  inFrame _ _ _ _ _ h := band_inFrame h
  nested _ _ _ _ _ _ _ hij ho hi := ⟨band_within hij ho hi, band_tapered hij ho hi⟩
  oneSign r := by
    refine ⟨sign r.qp, ?_, fun _ _ _ _ h => band_sign h⟩
    rw [sign]
    split_ifs
    · exact .inr rfl
    · exact .inl rfl
  innermost _ _ _ _ h := band_innermost h

/-- On both backends. -/
theorem roi_tapered : Tapered star6eComputeHorizontalRoi ∧ Tapered marukoComputeHorizontalRoi :=
  ⟨horizontalRoi_tapered, horizontalRoi_tapered⟩

example : horizontalRoi 1920 1080 (2 / 5) (-10) 2 1 = some ⟨1, true, false, -10, 576, 0, 768, 1056⟩ := by
  decide +kernel

/-! What apply_roi_qp sets. -/

/-- pipeline_common.h allows this many bands. -/
def pipelineRoiMaxSteps : Nat := 4

/-- The part of the configuration that is read. -/
structure FpvConfig where
  roiEnabled : Bool
  roiSteps : UInt16
  roiCenter : ℚ

def clampQp (qp : Int) : Int := if qp < -30 then -30 else if 30 < qp then 30 else qp

def clampSteps (steps : UInt16) : Int := if steps < 1 then 1 else if 4 < steps then 4 else steps.toNat

def clampCenter (center : ℚ) : ℚ := if center < 1 / 10 then 1 / 10 else if 9 / 10 < center then 9 / 10 else center

def roiRequest (cfg : FpvConfig) (qp : Int) : RoiRequest where
  qp := clampQp qp
  steps := clampSteps cfg.roiSteps
  centerFrac := clampCenter cfg.roiCenter
  qpLow := by rw [clampQp]; split_ifs <;> omega
  qpHigh := by rw [clampQp]; split_ifs <;> omega
  stepsLow := by
    rw [clampSteps]
    split_ifs with hlow hhigh
    · exact Int.le_refl 1
    · decide
    · exact_mod_cast UInt16.le_iff_toNat_le.1 (UInt16.not_lt.1 hlow)
  stepsHigh := by
    rw [clampSteps]
    split_ifs with hlow hhigh
    · decide
    · exact Int.le_refl 4
    · exact_mod_cast UInt16.le_iff_toNat_le.1 (UInt16.not_lt.1 hhigh)
  centerLow := by
    rw [clampCenter]
    split_ifs with hlow hhigh
    · exact le_rfl
    · norm_num
    · exact not_lt.1 hlow
  centerHigh := by
    rw [clampCenter]
    split_ifs with hlow hhigh
    · norm_num
    · exact le_rfl
    · exact not_lt.1 hhigh

/-- The accepted bands, by index. -/
def bands (compute : UInt32 → UInt32 → ℚ → Int → Int → Int → Option Roi) (r : RoiRequest) (width height : UInt32) :
    List Roi :=
  (List.range r.steps.toNat).filterMap fun (i : Nat) => compute width height r.centerFrac r.qp r.steps i

/-- Every MI_VENC_SetRoiCfg call and the result: all regions are cleared, then
the bands are set, and a band that fails does not stop the next. -/
def applyRoiQp (compute : UInt32 → UInt32 → ℚ → Int → Int → Int → Option Roi) (setRoiCfg : Roi → Int)
    (width height : UInt32) (vcfg : Option FpvConfig) (qp : Int) : List Roi × Int :=
  if width = 0 ∨ height = 0 then ([], -1)
  else
    let cleared := (List.range pipelineRoiMaxSteps).map fun i => ⟨UInt32.ofNat i, false, false, 0, 0, 0, 0, 0⟩
    match vcfg with
    | none => (cleared, 0)
    | some cfg =>
      if cfg.roiEnabled = false ∨ qp = 0 then (cleared, 0)
      else
        let set := bands compute (roiRequest cfg qp) width height
        (cleared ++ set, if set.all (setRoiCfg · = 0) then 0 else -1)

def star6eApplyRoiQp := applyRoiQp star6eComputeHorizontalRoi

def marukoApplyRoiQp := applyRoiQp marukoComputeHorizontalRoi

theorem bands_nested {compute : UInt32 → UInt32 → ℚ → Int → Int → Int → Option Roi} (h : Tapered compute)
    (r : RoiRequest) (width height : UInt32) :
    (bands compute r width height).Pairwise fun outer inner => Within inner outer ∧ |outer.qp| ≤ |inner.qp| := by
  rw [bands, List.pairwise_filterMap]
  refine List.Pairwise.imp ?_ List.pairwise_lt_range
  intro i j hlt outer ho inner hi
  exact h.nested r width height i j outer inner (by omega) ho hi

/-- The regions that are left enabled lie one in another in the order in which
they are set, later ones being at least as strong. -/
theorem applyRoiQp_nested {compute : UInt32 → UInt32 → ℚ → Int → Int → Int → Option Roi} (h : Tapered compute)
    (setRoiCfg : Roi → Int) (width height : UInt32) (vcfg : Option FpvConfig) (qp : Int) :
    ((applyRoiQp compute setRoiCfg width height vcfg qp).1.filter (·.enable)).Pairwise
      fun outer inner => Within inner outer ∧ |outer.qp| ≤ |inner.qp| := by
  have hcleared : ((List.range pipelineRoiMaxSteps).map fun i =>
      (⟨UInt32.ofNat i, false, false, 0, 0, 0, 0, 0⟩ : Roi)).filter (·.enable) = [] := by
    rw [List.filter_eq_nil_iff]
    intro roi hroi
    obtain ⟨i, -, rfl⟩ := List.mem_map.1 hroi
    exact Bool.false_ne_true
  simp only [applyRoiQp]
  split_ifs with hframe
  · exact List.Pairwise.nil
  · cases vcfg with
    | none =>
        rw [hcleared]
        exact List.Pairwise.nil
    | some cfg =>
        simp only
        split_ifs with hoff
        · rw [hcleared]
          exact List.Pairwise.nil
        all_goals
          rw [List.filter_append, hcleared, List.nil_append]
          exact (bands_nested h (roiRequest cfg qp) width height).filter _

end WaybeamVenc.RoiBands
