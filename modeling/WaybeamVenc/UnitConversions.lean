import WaybeamVenc.DualBitrate
import WaybeamVenc.GopTiming

namespace WaybeamVenc.UnitConversions

open CNumber Config ConfigLoad FieldTable SetQuery LiveApply GopTiming
open DualBitrate (reducedKbps floorKbps)

/-! What the program computes from a configuration. -/

/-- The callback of the exposure group. -/
def liveExposure (cfg : VencConfig Rat Rat) : ApplyCall := callbackArgs cfg .exposure

/-- shutter_max_us of start_custom_ae, which keeps its default without an exposure. -/
def startCustomAe (shutterMaxUs : UInt32) (cfg : VencConfig Rat Rat) : UInt32 :=
  if 0 < (cfg .ispExposure : UInt32) then (cfg .ispExposure : UInt32) * 1000 else shutterMaxUs

/-- exposure_cap_us of maruko_config_from_venc. -/
def marukoExposureCapUs (cfg : VencConfig Rat Rat) : UInt32 := (cfg .ispExposure : UInt32) * 1000

/-- bit_rate_bits of the encoder channel of Maruko. -/
def marukoVencBits (cfg : VencConfig Rat Rat) : UInt32 := (cfg .video0Bitrate : UInt32) * 1024

/-- bit_rate_bits of star6e_pipeline_start_venc. -/
def star6eVencBits (bitrate : UInt32) : UInt32 := (if 200000 < bitrate then 200000 else bitrate) * 1024

def star6eMaxKbps : Nat := 200000

/-- The rate that star6e_pipeline_start_dual puts into the channel's record. -/
def dualKbps (bitrate : UInt32) : UInt32 := if bitrate = 0 then 8000 else bitrate

/-- current_kbps of dual_rec_thread_fn after some reductions. -/
def reducedTo (bitrate : UInt32) : Nat → UInt32
  | 0 => bitrate
  | n + 1 => reducedKbps (reducedTo bitrate n) (floorKbps bitrate)

/-- bits of dual_rec_reduce_bitrate. -/
def reducedBits (currentKbps minKbps : UInt32) : UInt32 := reducedKbps currentKbps minKbps * 1024

/-- fps of star6e_pipeline_start_dual. -/
def dualFps (maxFps fps : UInt32) : UInt32 :=
  let sensorFps := if maxFps = 0 then 30 else maxFps
  let fps := if fps = 0 then sensorFps else fps
  if sensorFps < fps then sensorFps else fps

/-- The operand of the conversion to the recording channel's GOP. -/
def dualGopOperand (maxFps : UInt32) (cfg : VencConfig Rat Rat) : Rat :=
  (cfg .recordGopSize : Rat) * (dualFps maxFps (cfg .recordFps)).toNat + 1 / 2

/-! What it is to be. -/

/-- A reduction hands over nine tenths of the rate, or the floor, in bits. -/
def ReductionExact (currentKbps minKbps : UInt32) : Prop :=
  reducedKbps currentKbps minKbps ≠ currentKbps →
    (reducedBits currentKbps minKbps).toNat = max (currentKbps.toNat * 9 / 10) minKbps.toNat * 1024

/-- Of the fps that the frames are counted at, the one in the configuration is
for a live set and the sensor's for a start. -/
structure UnitsExact (c : Conversion) (sensorFps maxFps shutterMaxUs : UInt32) (cfg : VencConfig Rat Rat) : Prop where
  live : ∀ us, liveExposure cfg = .exposure us → us.toNat = (cfg .ispExposure : UInt32).toNat * 1000
  startup : 0 < (cfg .ispExposure : UInt32) →
    (startCustomAe shutterMaxUs cfg).toNat = (cfg .ispExposure : UInt32).toNat * 1000
  maruko : (marukoExposureCapUs cfg).toNat = (cfg .ispExposure : UInt32).toNat * 1000
  gop : ∀ fps : UInt32, fps = cfg .video0Fps ∨ fps = sensorFps →
    ((gopFrames c (cfg .video0GopSize) fps).toNat : ℤ) = frames (cfg .video0GopSize) (gopFps fps)
  marukoBitrate : (marukoVencBits cfg).toNat = (cfg .video0Bitrate : UInt32).toNat * 1024
  star6eBitrate : (star6eVencBits (cfg .video0Bitrate)).toNat =
    min (cfg .video0Bitrate : UInt32).toNat star6eMaxKbps * 1024
  dualBitrate : (star6eVencBits (dualKbps (cfg .recordBitrate))).toNat =
    min (dualKbps (cfg .recordBitrate)).toNat star6eMaxKbps * 1024
  reductions : ∀ n, ReductionExact (reducedTo (dualKbps (cfg .recordBitrate)) n)
    (floorKbps (dualKbps (cfg .recordBitrate)))
  dualGop : -1 < dualGopOperand maxFps cfg ∧ dualGopOperand maxFps cfg < 4294967296

/-- No accepted value is beyond what its conversion has room for. -/
structure UnitsFit (sensorFps maxFps : UInt32) (cfg : VencConfig Rat Rat) : Prop where
  exposure : (cfg .ispExposure : UInt32).toNat ≤ 4294967
  gop : ∀ fps : UInt32, fps = cfg .video0Fps ∨ fps = sensorFps → InRange (cfg .video0GopSize) (gopFps fps)
  bitrate : (cfg .video0Bitrate : UInt32).toNat ≤ 4194303
  dualBitrate : (cfg .recordBitrate : UInt32).toNat ≤ 4660337
  dualGop : -1 < dualGopOperand maxFps cfg ∧ dualGopOperand maxFps cfg < 4294967296

/-! Products of 32 bits. -/

theorem mul_toNat_eq_iff (a k : UInt32) : (a * k).toNat = a.toNat * k.toNat ↔ a.toNat * k.toNat < 2 ^ 32 := by
  rw [UInt32.toNat_mul]
  exact Nat.mod_eq_iff_lt (by decide)

theorem thousand_exact_iff (a : UInt32) : (a * 1000).toNat = a.toNat * 1000 ↔ a.toNat ≤ 4294967 := by
  rw [show a.toNat * 1000 = a.toNat * (1000 : UInt32).toNat from rfl, mul_toNat_eq_iff]
  change a.toNat * 1000 < 2 ^ 32 ↔ _
  omega

theorem kilobits_exact_iff (a : UInt32) : (a * 1024).toNat = a.toNat * 1024 ↔ a.toNat ≤ 4194303 := by
  rw [show a.toNat * 1024 = a.toNat * (1024 : UInt32).toNat from rfl, mul_toNat_eq_iff]
  change a.toNat * 1024 < 2 ^ 32 ↔ _
  omega

theorem star6eVencBits_exact (bitrate : UInt32) :
    (star6eVencBits bitrate).toNat = min bitrate.toNat star6eMaxKbps * 1024 := by
  rw [star6eVencBits]
  split_ifs with hclamp
  · have hover : 200000 < bitrate.toNat := hclamp
    rw [Nat.min_eq_right (show star6eMaxKbps ≤ bitrate.toNat from hover.le)]
    rfl
  · have hunder : bitrate.toNat ≤ 200000 := Nat.le_of_not_lt hclamp
    rw [Nat.min_eq_left (show bitrate.toNat ≤ star6eMaxKbps from hunder)]
    exact (kilobits_exact_iff bitrate).mpr (by omega)

/-! The seconds of a GOP. -/

theorem gopFrames_exact_iff (c : Conversion) (seconds : Rat) (fps : UInt32) :
    ((gopFrames c seconds fps).toNat : ℤ) = frames seconds (gopFps fps) ↔ InRange seconds (gopFps fps) := by
  constructor
  · intro h
    by_contra hout
    have hover : (4294967296 : ℤ) ≤ round (seconds * gopFps fps) := by
      rw [round_eq, Int.le_floor]
      push_cast
      exact not_lt.mp hout
    have hframes : (4294967296 : ℤ) ≤ frames seconds (gopFps fps) := le_max_of_le_right hover
    have hword := (gopFrames c seconds fps).toNat_lt
    rw [← h] at hframes
    omega
  · exact gopFrames_eq c

/-! The reductions of the recording channel. -/

theorem floorKbps_le (bitrate : UInt32) : (floorKbps bitrate).toNat = max (bitrate.toNat / 4) 1000 := by
  rw [floorKbps]
  split_ifs with hlow
  · have hlt : (bitrate / 4).toNat < 1000 := hlow
    rw [UInt32.toNat_div] at hlt
    exact (Nat.max_eq_right hlt.le).symm
  · have hge : 1000 ≤ (bitrate / 4).toNat := Nat.le_of_not_lt hlow
    rw [UInt32.toNat_div] at hge ⊢
    exact (Nat.max_eq_left hge).symm

theorem reducedKbps_toNat (c m : UInt32) : (reducedKbps c m).toNat = max (c.toNat * 9 % 2 ^ 32 / 10) m.toNat := by
  have hnine : (c * 9 / 10).toNat = c.toNat * 9 % 2 ^ 32 / 10 := by
    rw [UInt32.toNat_div, UInt32.toNat_mul]
    rfl
  rw [reducedKbps, ← hnine]
  split_ifs with hlow
  · exact (Nat.max_eq_right (le_of_lt hlow)).symm
  · exact (Nat.max_eq_left (Nat.le_of_not_lt hlow)).symm

theorem reductionExact_of_le {c m : UInt32} (hc : c.toNat ≤ 4660337) (hm : m.toNat ≤ 4194303) : ReductionExact c m := by
  intro _
  have hkbps : (reducedKbps c m).toNat = max (c.toNat * 9 / 10) m.toNat := by
    rw [reducedKbps_toNat, Nat.mod_eq_of_lt (by omega)]
  rw [reducedBits, (kilobits_exact_iff _).mpr (by omega), hkbps]

theorem reducedTo_le {bitrate : UInt32} (h : bitrate.toNat ≤ 4660337) (n : Nat) : (reducedTo bitrate n).toNat ≤ 4660337 := by
  have hfloor := floorKbps_le bitrate
  induction n with
  | zero => exact h
  | succ n ih =>
      rw [reducedTo, reducedKbps_toNat, Nat.mod_eq_of_lt (by omega)]
      omega

theorem reductions_exact_iff (bitrate : UInt32) :
    (∀ n, ReductionExact (reducedTo bitrate n) (floorKbps bitrate)) ↔ bitrate.toNat ≤ 4660337 := by
  have hfloor := floorKbps_le bitrate
  constructor
  · intro h
    by_contra hover
    have hword := bitrate.toNat_lt
    have hkbps := reducedKbps_toNat bitrate (floorKbps bitrate)
    have hwrapped := Nat.mod_le (bitrate.toNat * 9) (2 ^ 32)
    have hfirst : reducedKbps bitrate (floorKbps bitrate) ≠ bitrate := by
      intro hsame
      rw [hsame] at hkbps
      omega
    have hbits := h 0 hfirst
    have hroom := (reducedBits bitrate (floorKbps bitrate)).toNat_lt
    rw [reducedTo] at hbits
    omega
  · intro h n
    exact reductionExact_of_le (reducedTo_le h n) (by omega)

theorem dualKbps_le_iff (bitrate : UInt32) : (dualKbps bitrate).toNat ≤ 4660337 ↔ bitrate.toNat ≤ 4660337 := by
  rw [dualKbps]
  split_ifs with hunset
  · rw [hunset]
    exact iff_of_true (by decide) (by decide)
  · rfl

/-- The conversions are exact on the configurations whose values fit, and on no
others. -/
theorem units_exact_iff (c : Conversion) (sensorFps maxFps shutterMaxUs : UInt32) (cfg : VencConfig Rat Rat) :
    UnitsExact c sensorFps maxFps shutterMaxUs cfg ↔ UnitsFit sensorFps maxFps cfg := by
  constructor
  · intro h
    exact ⟨(thousand_exact_iff _).mp h.maruko, fun fps hfps => (gopFrames_exact_iff c _ fps).mp (h.gop fps hfps),
      (kilobits_exact_iff _).mp h.marukoBitrate, (dualKbps_le_iff _).mp ((reductions_exact_iff _).mp h.reductions),
      h.dualGop⟩
  · intro h
    have hexposure := (thousand_exact_iff _).mpr h.exposure
    refine ⟨?_, ?_, hexposure, fun fps hfps => (gopFrames_exact_iff c _ fps).mpr (h.gop fps hfps),
      (kilobits_exact_iff _).mpr h.bitrate, star6eVencBits_exact _, star6eVencBits_exact _,
      (reductions_exact_iff _).mpr ((dualKbps_le_iff _).mpr h.dualBitrate), h.dualGop⟩
    · intro us hus
      rw [← ApplyCall.exposure.inj hus]
      exact hexposure
    · intro hset
      rw [startCustomAe, if_pos hset]
      exact hexposure

/-- A file with an exposure of a good hour. -/
def longExposure : CJson Rat := .object [("isp", .object [("exposure", .number 4294968 4294968)])]

/-- The limit that it sets is 704 microseconds. -/
theorem exposure_wraps : ∃ cfg, vencConfigLoad (.document longExposure) vencConfigDefaults = some cfg ∧
    (cfg .ispExposure : UInt32) = 4294968 ∧ liveExposure cfg = .exposure 704 ∧
    ∀ c sensorFps maxFps shutterMaxUs, ¬ UnitsExact c sensorFps maxFps shutterMaxUs cfg := by
  have hloaded : (loadRoot longExposure vencConfigDefaults .ispExposure : UInt32) = 4294968 := by decide
  refine ⟨loadRoot longExposure vencConfigDefaults, rfl, hloaded, ?_, ?_⟩
  · exact congrArg (fun exposure : UInt32 => ApplyCall.exposure (exposure * 1000)) hloaded
  · intro c sensorFps maxFps shutterMaxUs hexact
    have hbound := (thousand_exact_iff _).mp hexact.maruko
    rw [hloaded] at hbound
    exact absurd hbound (by decide)

end WaybeamVenc.UnitConversions
