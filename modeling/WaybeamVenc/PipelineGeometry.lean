import Mathlib.Tactic.SplitIfs
import WaybeamVenc.Runs

namespace WaybeamVenc.PipelineGeometry

open Runs

structure Rect where
  x : UInt16
  y : UInt16
  width : UInt16
  height : UInt16
deriving DecidableEq

structure Dim where
  width : UInt16
  height : UInt16
deriving DecidableEq

/-- The sensor state the geometry depends on: plane.capt and mode.output. -/
structure Sensor where
  capt : Rect
  output : Dim
deriving DecidableEq

structure Request where
  width : UInt32
  height : UInt32
deriving DecidableEq

structure PrecropRect where
  x : UInt16
  y : UInt16
  w : UInt16
  h : UInt16
deriving DecidableEq

def clampImageSize (maxWidth maxHeight imageWidth imageHeight : UInt32) : UInt32 × UInt32 :=
  (if maxWidth < imageWidth then maxWidth else imageWidth, if maxHeight < imageHeight then maxHeight else imageHeight)

def even (n : UInt32) : UInt32 := n &&& 0xFFFFFFFE

def computePrecrop (sensorW sensorH imageW imageH : UInt32) : PrecropRect :=
  let sensorAr := sensorW.toUInt64 * imageH.toUInt64
  let imageAr := imageW.toUInt64 * sensorH.toUInt64
  if imageAr < sensorAr then
    let w := (even (sensorH * imageW / imageH)).toUInt16
    ⟨(even ((sensorW - w.toUInt32) / 2)).toUInt16, 0, w, sensorH.toUInt16⟩
  else if sensorAr < imageAr then
    let h := (even (sensorW * imageH / imageW)).toUInt16
    ⟨0, (even ((sensorH - h.toUInt32) / 2)).toUInt16, sensorW.toUInt16, h⟩
  else ⟨0, 0, sensorW.toUInt16, sensorH.toUInt16⟩

def overscan (captured usable : UInt32) : UInt16 := (even ((captured - usable) / 2)).toUInt16

/-- The precrop of the usable area, moved by the overscan in front of it. -/
def usablePrecrop (sensor : Sensor) (usable : UInt32 × UInt32) (imageW imageH : UInt32) : PrecropRect :=
  let precrop := computePrecrop usable.1 usable.2 imageW imageH
  { precrop with
    x := precrop.x + overscan sensor.capt.width.toUInt32 usable.1
    y := precrop.y + overscan sensor.capt.height.toUInt32 usable.2 }

/-- sensor_width and sensor_height as select_and_configure_sensor finds them. -/
def selectedSize (sensor : Sensor) : UInt32 × UInt32 :=
  let captW := sensor.capt.width.toUInt32
  let captH := sensor.capt.height.toUInt32
  let outW := sensor.output.width.toUInt32
  let outH := sensor.output.height.toUInt32
  if 0 < outW ∧ 0 < outH ∧ (outW < captW ∨ outH < captH) then
    (if outW < captW then outW else captW, if outH < captH then outH else captH)
  else (captW, captH)

/-- usable_w and usable_h of star6e_pipeline_reinit. -/
def usableSize (sensor : Sensor) : UInt32 × UInt32 :=
  let captW := sensor.capt.width.toUInt32
  let captH := sensor.capt.height.toUInt32
  let outW := sensor.output.width.toUInt32
  let outH := sensor.output.height.toUInt32
  if 0 < outW ∧ 0 < outH then (if outW < captW then outW else captW, if outH < captH then outH else captH)
  else (captW, captH)

/-- The image size and the precrop of a fresh start. -/
def selectAndConfigureSensor (sensor : Sensor) (request : Request) : (UInt32 × UInt32) × PrecropRect :=
  let size := selectedSize sensor
  let image := clampImageSize size.1 size.2 request.width request.height
  (image, usablePrecrop sensor size image.1 image.2)

/-- The capture region that start_vif gives the VIF port. -/
def startVif (sensor : Sensor) (precrop : PrecropRect) : Rect :=
  ⟨sensor.capt.x + precrop.x, sensor.capt.y + precrop.y, precrop.w, precrop.h⟩

/-- The size a VPE channel takes in, and the size its port puts out. -/
structure Vpe where
  capt : Dim
  output : Dim
deriving DecidableEq

def startVpe (precrop : PrecropRect) (outWidth outHeight : UInt32) : Vpe :=
  ⟨⟨precrop.w, precrop.h⟩, ⟨outWidth.toUInt16, outHeight.toUInt16⟩⟩

/-- The image size in the pipeline state, and what the VIF port and the VPE
have been given while they run. -/
structure Pipeline where
  imageWidth : UInt32
  imageHeight : UInt32
  vif : Option Rect
  vpe : Option Vpe
deriving DecidableEq

def star6ePipelineStart (sensor : Sensor) (request : Request) : Pipeline :=
  let (image, precrop) := selectAndConfigureSensor sensor request
  ⟨image.1, image.2, some (startVif sensor precrop), some (startVpe precrop image.1 image.2)⟩

/-- Whether prepare_pipeline_config accepts the configuration, and what the
SDK calls of a reinit return. -/
structure Calls where
  prepared : Bool
  setVifPortAttr : Int
  enableVifPort : Int
  startVpe : Int
  setVpePortMode : Int
  enableVpePort : Int
  startVenc : Int
  finalize : Int

def succeeding : Calls := ⟨true, 0, 0, 0, 0, 0, 0, 0⟩

/-- Creating the encoder channel and binding it, behind the geometry. -/
def restartVenc (p : Pipeline) (calls : Calls) : Pipeline × Int :=
  if calls.startVenc ≠ 0 then (p, calls.startVenc) else (p, calls.finalize)

/-- The branch for a changed aspect ratio: a new VIF crop and a new VPE. -/
def reconfigureVif (sensor : Sensor) (p : Pipeline) (precrop : PrecropRect) (calls : Calls) : Pipeline × Int :=
  if calls.setVifPortAttr ≠ 0 then ({ p with vif := none, vpe := none }, calls.setVifPortAttr)
  else if calls.enableVifPort ≠ 0 then ({ p with vif := none, vpe := none }, calls.enableVifPort)
  else if calls.startVpe ≠ 0 then ({ p with vif := none, vpe := none }, calls.startVpe)
  else
    restartVenc { p with
      vif := some (startVif sensor precrop)
      vpe := some (startVpe precrop p.imageWidth p.imageHeight) } calls

/-- The branch for the same aspect ratio: only the output port of the VPE. -/
def resizeVpePort (p : Pipeline) (calls : Calls) : Pipeline × Int :=
  if calls.setVpePortMode ≠ 0 then (p, calls.setVpePortMode)
  else if calls.enableVpePort ≠ 0 then ({ p with vpe := none }, calls.enableVpePort)
  else
    restartVenc
      { p with vpe := p.vpe.map fun v => { v with output := ⟨p.imageWidth.toUInt16, p.imageHeight.toUInt16⟩ } } calls

def star6ePipelineReinit (sensor : Sensor) (p : Pipeline) (request : Request) (calls : Calls) : Pipeline × Int :=
  if calls.prepared then
    -- clamped to the full capture plane, not to the usable size
    let image := clampImageSize sensor.capt.width.toUInt32 sensor.capt.height.toUInt32 request.width request.height
    let resized := { p with imageWidth := image.1, imageHeight := image.2 }
    if image.1 ≠ p.imageWidth ∨ image.2 ≠ p.imageHeight then
      let oldPrecrop := usablePrecrop sensor (usableSize sensor) p.imageWidth p.imageHeight
      let newPrecrop := usablePrecrop sensor (usableSize sensor) image.1 image.2
      if oldPrecrop ≠ newPrecrop then reconfigureVif sensor resized newPrecrop calls else resizeVpePort resized calls
    else restartVenc resized calls
  else (p, -1)

/-- The runtime shuts down on a reinit that fails. -/
def reinitStep (sensor : Sensor) (p : Pipeline) (act : Request × Calls) : Option Pipeline :=
  if (star6ePipelineReinit sensor p act.1 act.2).2 = 0 then some (star6ePipelineReinit sensor p act.1 act.2).1 else none

def configuredFor (sensor : Sensor) (imageWidth imageHeight : UInt32) : Pipeline :=
  let precrop := usablePrecrop sensor (usableSize sensor) imageWidth imageHeight
  ⟨imageWidth, imageHeight, some (startVif sensor precrop), some (startVpe precrop imageWidth imageHeight)⟩

theorem selectedSize_eq (sensor : Sensor) : selectedSize sensor = usableSize sensor := by
  rw [selectedSize, usableSize]
  by_cases hout : 0 < sensor.output.width.toUInt32 ∧ 0 < sensor.output.height.toUInt32
  · by_cases hcrop : sensor.output.width.toUInt32 < sensor.capt.width.toUInt32 ∨
        sensor.output.height.toUInt32 < sensor.capt.height.toUInt32
    · rw [if_pos ⟨hout.1, hout.2, hcrop⟩, if_pos hout]
    · rw [if_neg (fun h => hcrop h.2.2), if_pos hout, if_neg (fun h => hcrop (.inl h)), if_neg (fun h => hcrop (.inr h))]
  · rw [if_neg (fun h => hout ⟨h.1, h.2.1⟩), if_neg hout]

theorem usableSize_le (sensor : Sensor) :
    (usableSize sensor).1 ≤ sensor.capt.width.toUInt32 ∧ (usableSize sensor).2 ≤ sensor.capt.height.toUInt32 := by
  rw [usableSize]
  split_ifs with hout hwidth hheight hheight
  · exact ⟨UInt32.le_of_lt hwidth, UInt32.le_of_lt hheight⟩
  · exact ⟨UInt32.le_of_lt hwidth, UInt32.le_refl _⟩
  · exact ⟨UInt32.le_refl _, UInt32.le_of_lt hheight⟩
  · exact ⟨UInt32.le_refl _, UInt32.le_refl _⟩
  · exact ⟨UInt32.le_refl _, UInt32.le_refl _⟩

/-- A fresh start configures the sensor for the request cut to the usable size. -/
theorem start_configured (sensor : Sensor) (request : Request) :
    star6ePipelineStart sensor request =
      let image := clampImageSize (usableSize sensor).1 (usableSize sensor).2 request.width request.height
      configuredFor sensor image.1 image.2 := by
  rw [star6ePipelineStart, selectAndConfigureSensor, selectedSize_eq]
  rfl

theorem restartVenc_fst (p : Pipeline) (calls : Calls) : (restartVenc p calls).1 = p := by
  rw [restartVenc]
  split_ifs <;> rfl

theorem reconfigureVif_succeeds {sensor : Sensor} {p : Pipeline} {precrop : PrecropRect} {calls : Calls}
    (h : (reconfigureVif sensor p precrop calls).2 = 0) :
    (reconfigureVif sensor p precrop calls).1 = { p with
      vif := some (startVif sensor precrop)
      vpe := some (startVpe precrop p.imageWidth p.imageHeight) } := by
  rw [reconfigureVif] at h ⊢
  split_ifs at h ⊢ with hattr henable hvpe
  · exact absurd h hattr
  · exact absurd h henable
  · exact absurd h hvpe
  · exact restartVenc_fst _ calls

theorem resizeVpePort_succeeds {p : Pipeline} {calls : Calls} (h : (resizeVpePort p calls).2 = 0) :
    (resizeVpePort p calls).1 =
      { p with vpe := p.vpe.map fun v => { v with output := ⟨p.imageWidth.toUInt16, p.imageHeight.toUInt16⟩ } } := by
  rw [resizeVpePort] at h ⊢
  split_ifs at h ⊢ with hmode henable
  · exact absurd h hmode
  · exact absurd h henable
  · exact restartVenc_fst _ calls

/-- Whatever the size before, a reinit that succeeds leaves the sensor
configured for the request cut to the capture plane. -/
theorem reinit_configured {sensor : Sensor} {prevWidth prevHeight : UInt32} {request : Request} {calls : Calls}
    (h : (star6ePipelineReinit sensor (configuredFor sensor prevWidth prevHeight) request calls).2 = 0) :
    (star6ePipelineReinit sensor (configuredFor sensor prevWidth prevHeight) request calls).1 =
      let image := clampImageSize sensor.capt.width.toUInt32 sensor.capt.height.toUInt32 request.width request.height
      configuredFor sensor image.1 image.2 := by
  simp only [star6ePipelineReinit] at h ⊢
  generalize clampImageSize sensor.capt.width.toUInt32 sensor.capt.height.toUInt32 request.width request.height = image at h ⊢
  split_ifs at h ⊢ with hprepared hsize hprecrop
  · rw [reconfigureVif_succeeds h]
    rfl
  · -- the old precrop is the new one, and with it what the VIF and the VPE take in
    rw [resizeVpePort_succeeds h]
    have hsame : usablePrecrop sensor (usableSize sensor) prevWidth prevHeight =
        usablePrecrop sensor (usableSize sensor) image.1 image.2 := not_ne_iff.mp hprecrop
    simp only [configuredFor, startVpe, Option.map_some, hsame]
  · rw [restartVenc_fst]
    obtain ⟨hwidth, hheight⟩ : image.1 = prevWidth ∧ image.2 = prevHeight := by
      simpa [configuredFor, not_or] using hsize
    rw [hwidth, hheight]
    rfl
  · cases h

/-- Every run of a start and reinits that succeed is configured for the image
size in its state. -/
theorem reached_configured {sensor : Sensor} {first : Request} {p : Pipeline}
    (h : Reaches (reinitStep sensor) (star6ePipelineStart sensor first) p) :
    p = configuredFor sensor p.imageWidth p.imageHeight := by
  apply Path.invariant (fun p => p = configuredFor sensor p.imageWidth p.imageHeight) _ _ h
  · rw [start_configured]
    rfl
  · intro p act q hp _ hstep
    rw [reinitStep] at hstep
    split_ifs at hstep with hret
    cases hstep
    rw [hp] at hret ⊢
    rw [reinit_configured hret]
    rfl

/-- The image size and the VIF crop rectangle are the same. -/
def SameGeometry (p q : Pipeline) : Prop :=
  p.imageWidth = q.imageWidth ∧ p.imageHeight = q.imageHeight ∧ p.vif = q.vif

instance (p q : Pipeline) : Decidable (SameGeometry p q) := inferInstanceAs (Decidable (_ ∧ _ ∧ _))

/-- In each dimension the request is within the usable size, or the whole
capture plane is usable. -/
def WithinUsable (sensor : Sensor) (request : Request) : Prop :=
  (request.width ≤ (usableSize sensor).1 ∨ (usableSize sensor).1 = sensor.capt.width.toUInt32) ∧
    (request.height ≤ (usableSize sensor).2 ∨ (usableSize sensor).2 = sensor.capt.height.toUInt32)

theorem cut_eq_iff {usable captured n : UInt32} (h : usable ≤ captured) :
    (if captured < n then captured else n) = (if usable < n then usable else n) ↔ n ≤ usable ∨ usable = captured := by
  constructor
  · grind
  · grind

theorem clampImageSize_eq_iff (sensor : Sensor) (request : Request) :
    clampImageSize sensor.capt.width.toUInt32 sensor.capt.height.toUInt32 request.width request.height =
        clampImageSize (usableSize sensor).1 (usableSize sensor).2 request.width request.height ↔
      WithinUsable sensor request := by
  obtain ⟨hwidth, hheight⟩ := usableSize_le sensor
  rw [clampImageSize, clampImageSize, Prod.mk.injEq, cut_eq_iff hwidth, cut_eq_iff hheight]
  rfl

theorem configuredFor_same_iff (sensor : Sensor) (image image' : UInt32 × UInt32) :
    SameGeometry (configuredFor sensor image.1 image.2) (configuredFor sensor image'.1 image'.2) ↔ image = image' := by
  constructor
  · intro h
    exact Prod.ext h.1 h.2.1
  · intro h
    rw [h]
    exact ⟨rfl, rfl, rfl⟩

/-- Every run is configured for the image size it has, and from any such size
a reinit agrees with a fresh start exactly when the request is within the
usable size wherever there is overscan. -/
theorem reinit_agrees_iff (sensor : Sensor) :
    (∀ first p, Reaches (reinitStep sensor) (star6ePipelineStart sensor first) p →
        p = configuredFor sensor p.imageWidth p.imageHeight) ∧
      ∀ prevWidth prevHeight request calls,
        (star6ePipelineReinit sensor (configuredFor sensor prevWidth prevHeight) request calls).2 = 0 →
        (SameGeometry (star6ePipelineReinit sensor (configuredFor sensor prevWidth prevHeight) request calls).1
            (star6ePipelineStart sensor request) ↔
          WithinUsable sensor request) := by
  refine ⟨fun first p h => reached_configured h, fun prevWidth prevHeight request calls hret => ?_⟩
  rw [reinit_configured hret, start_configured, ← clampImageSize_eq_iff]
  exact configuredFor_same_iff sensor _ _

def overscanned : Sensor := ⟨⟨0, 0, 2592, 1944⟩, ⟨2560, 1920⟩⟩

theorem reinit_agrees_iff_overscanned :
    SameGeometry (star6ePipelineReinit overscanned (configuredFor overscanned 2560 1920) ⟨1920, 1080⟩ succeeding).1
      (star6ePipelineStart overscanned ⟨1920, 1080⟩) :=
  ((reinit_agrees_iff overscanned).2 2560 1920 ⟨1920, 1080⟩ succeeding (by decide)).mpr
    ⟨.inl (by decide), .inl (by decide)⟩

/-- Asked for the whole plane, a reinit sets an image size beyond the usable
area where a fresh start stops at it. -/
theorem reinit_exceeds_usable :
    (star6ePipelineReinit overscanned (configuredFor overscanned 1920 1080) ⟨2592, 1944⟩ succeeding).2 = 0 ∧
      (star6ePipelineReinit overscanned (configuredFor overscanned 1920 1080) ⟨2592, 1944⟩ succeeding).1.imageWidth = 2592 ∧
      (star6ePipelineStart overscanned ⟨2592, 1944⟩).imageWidth = 2560 ∧
      ¬ SameGeometry
        (star6ePipelineReinit overscanned (configuredFor overscanned 1920 1080) ⟨2592, 1944⟩ succeeding).1
        (star6ePipelineStart overscanned ⟨2592, 1944⟩) := by
  decide

end WaybeamVenc.PipelineGeometry
