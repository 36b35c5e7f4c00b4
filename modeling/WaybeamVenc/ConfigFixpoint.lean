import WaybeamVenc.RationalFloat
import WaybeamVenc.SaveLoad

namespace WaybeamVenc.ConfigFixpoint

open CNumber Config FieldTable ConfigLoad ConfigSections ConfigSave SaveLoad

variable {D F : Type}

def sectionName : ConfigSection → String
  | .system => "system"
  | .sensor => "sensor"
  | .isp => "isp"
  | .image => "image"
  | .video0 => "video0"
  | .outgoing => "outgoing"
  | .fpv => "fpv"
  | .audio => "audio"
  | .imu => "imu"
  | .eis => "eis"
  | .record => "record"
  | .debug => "debug"

/-- The key of a member that is unsigned but read through an int as it is. -/
def unsignedKey : Member → Option String
  | .sensorUnlockCmd => some "unlockCmd"
  | .ispExposure => some "exposure"
  | .ispAeFps => some "aeFps"
  | .ispGainMax => some "gainMax"
  | .ispAwbCt => some "awbCt"
  | .video0Fps => some "fps"
  | .video0Bitrate => some "bitrate"
  | .recordMaxSeconds => some "maxSeconds"
  | .recordMaxMb => some "maxMB"
  | .recordBitrate => some "bitrate"
  | .recordFps => some "fps"
  | _ => none

def numberAt (root : CJson D) (name key : String) : Option Int32 :=
  match (root.item name).bind fun obj => obj.item key with
  | some (.number i _) => some i
  | _ => none

/-- No number of a document is negative where the member is unsigned. -/
def Unsigned (root : CJson D) : Prop :=
  ∀ m key i, unsignedKey m = some key → numberAt root (sectionName (sectionOf m)) key = some i → 0 ≤ i

/-! Values in their ranges. -/

theorem clampInt_range {lo hi : Int32} (h : lo ≤ hi) (x : Int32) : lo ≤ clampInt lo hi x ∧ clampInt lo hi x ≤ hi := by
  have h' := Int32.le_iff_toInt_le.1 h
  rw [Int32.le_iff_toInt_le, Int32.le_iff_toInt_le]
  simp only [clampInt, Int32.lt_iff_toInt_lt]
  split_ifs <;> omega

theorem clampUInt16_range {lo hi : UInt16} (h : lo ≤ hi) (x : UInt16) :
    lo ≤ clampUInt16 lo hi x ∧ clampUInt16 lo hi x ≤ hi := by
  have h' := UInt16.le_iff_toNat_le.1 h
  rw [UInt16.le_iff_toNat_le, UInt16.le_iff_toNat_le]
  simp only [clampUInt16, UInt16.lt_iff_toNat_lt]
  split_ifs <;> omega

theorem clampUInt32_range {lo hi : UInt32} (h : lo ≤ hi) (x : UInt32) :
    lo ≤ clampUInt32 lo hi x ∧ clampUInt32 lo hi x ≤ hi := by
  have h' := UInt32.le_iff_toNat_le.1 h
  rw [UInt32.le_iff_toNat_le, UInt32.le_iff_toNat_le]
  simp only [clampUInt32, UInt32.lt_iff_toNat_lt]
  split_ifs <;> omega

theorem atLeastInt_range (lo x : Int32) : lo ≤ atLeastInt lo x := by
  rw [Int32.le_iff_toInt_le]
  simp only [atLeastInt, Int32.lt_iff_toInt_lt]
  split_ifs <;> omega

theorem small_toUInt32 (i : Int32) : Small i.toUInt32 ↔ 0 ≤ i := by
  have hcond := BitVec.toInt_eq_toNat_cond i.toBitVec
  have hnat : i.toUInt32.toNat = i.toBitVec.toNat := rfl
  have hlt := i.toBitVec.isLt
  change i.toUInt32.toNat < 2 ^ 31 ↔ _
  rw [Int32.le_iff_toInt_le]
  change _ ↔ 0 ≤ i.toBitVec.toInt
  split at hcond <;> omega

theorem small_getUInt32 {obj : CJson D} {key : String} {old : UInt32} (hold : Small old) :
    Small (jsonGetUInt32 obj key old) ↔ ∀ i d, obj.item key = some (.number i d) → 0 ≤ i := by
  rw [jsonGetUInt32, small_toUInt32, jsonGetInt]
  split
  next i d h =>
    constructor
    · intro hi i' d' h'
      cases h.symm.trans h'
      exact hi
    · intro hi
      exact hi i d h
  next hn =>
    refine iff_of_true ?_ fun i d h => absurd h (hn i d)
    rw [← small_toUInt32]
    exact hold

theorem small_loaded {root : CJson D} {name key : String} {old value : UInt32} (hold : Small old)
    (hnone : root.item name = none → value = old)
    (hsome : ∀ obj, root.item name = some obj → value = jsonGetUInt32 obj key old) :
    Small value ↔ ∀ i, numberAt root name key = some i → 0 ≤ i := by
  cases hobj : root.item name with
  | none =>
      rw [hnone hobj]
      refine iff_of_true hold fun i h => ?_
      rw [numberAt, hobj] at h
      cases h
  | some obj =>
      rw [hsome obj hobj, small_getUInt32 hold]
      constructor
      · intro hi i h
        rw [numberAt, hobj, Option.bind_some] at h
        split at h
        next i' d hn =>
          cases h
          exact hi i d hn
        next => cases h
      · intro hi i d h
        refine hi i ?_
        rw [numberAt, hobj, Option.bind_some, h]

theorem kept_congr {cfg cfg' : VencConfig D F} {m : Member}
    (h : ∀ m', sectionOf m' = sectionOf m → cfg m' = cfg' m') : Kept cfg m ↔ Kept cfg' m := by
  have hself := h m rfl
  cases m with
  | imageMirror | imageFlip => rw [Kept, Kept, hself, h .imageRotate rfl]
  | video0SceneHoldoff => rw [Kept, Kept, hself, h .video0SceneThreshold rfl]
  | _ => first | exact Iff.rfl | rw [Kept, Kept, hself]

theorem kept_free {cfg : VencConfig D F} {m : Member} (hu : unsignedKey m = none)
    (hs : sectionOf m = .isp ∨ sectionOf m = .outgoing ∨ sectionOf m = .record ∨ sectionOf m = .debug) :
    Kept cfg m := by
  cases m <;> trivial

/-! What a load leaves of a section. -/

section Sections

variable {root obj : CJson D} {base : VencConfig D F} {m : Member}

theorem system_loaded (hobj : root.item "system" = some obj) (hm : sectionOf m = .system) :
    Kept (loadSystem root base) m := by
  rw [loadSystem, inSection_some hobj]
  cases m with
  | systemOverclockLevel => exact clampInt_range (by decide) _
  | _ => trivial

theorem sensor_loaded (hobj : root.item "sensor" = some obj) (hm : sectionOf m = .sensor)
    (hu : unsignedKey m = none) : Kept (loadSensor root base) m := by
  rw [loadSensor, inSection_some hobj]
  cases m with
  | sensorUnlockDir => exact clampInt_range (by decide) _
  | _ => trivial

theorem image_loaded (hobj : root.item "image" = some obj) (hm : sectionOf m = .image) :
    Kept (loadImage root base) m := by
  rw [loadImage, inSection_some hobj]
  by_cases hr : jsonGetInt obj "rotate" (base .imageRotate) = 180
  · cases m with
    | imageMirror | imageFlip => exact fun _ => if_pos hr
    | imageRotate => exact Or.inr (if_pos hr)
    | _ => cases hm
  · have hzero : (if jsonGetInt obj "rotate" (base .imageRotate) = 180 then (180 : Int32) else 0) = 0 := if_neg hr
    cases m with
    | imageMirror | imageFlip => exact fun h => absurd (hzero.symm.trans h) (by decide)
    | imageRotate => exact Or.inl hzero
    | _ => cases hm

theorem video0_loaded (hobj : root.item "video0" = some obj) (hm : sectionOf m = .video0)
    (hu : unsignedKey m = none) : Kept (loadVideo0 root base) m := by
  rw [loadVideo0, inSection_some hobj]
  cases m with
  | video0QpDelta => exact clampInt_range (by decide) _
  | video0SceneHoldoff =>
      intro ht
      dsimp only at ht ⊢
      split
      next => exact (by decide : (1 : UInt8) ≠ 0)
      next h =>
        intro hz
        exact h ⟨by rw [hz]; decide, ht⟩
  | _ => trivial

theorem audio_loaded (hobj : root.item "audio" = some obj) (hm : sectionOf m = .audio) :
    Kept (loadAudio root base) m := by
  rw [loadAudio, inSection_some hobj]
  cases m with
  | audioSampleRate | audioChannels => exact clampUInt32_range (by decide) _
  | audioVolume => exact clampInt_range (by decide) _
  | _ => trivial

theorem imu_loaded (hobj : root.item "imu" = some obj) (hm : sectionOf m = .imu) : Kept (loadImu root base) m := by
  rw [loadImu, inSection_some hobj]
  cases m with
  | imuSampleRateHz => exact clampInt_range (by decide) _
  | imuCalSamples => exact atLeastInt_range 10 _
  | _ => trivial

variable [CFloat D F]

theorem fpv_loaded (hobj : root.item "fpv" = some obj) (hm : sectionOf m = .fpv) : Kept (loadFpv root base) m := by
  rw [loadFpv, inSection_some hobj]
  cases m with
  | fpvRoiQp | fpvNoiseLevel => exact clampInt_range (by decide) _
  | fpvRoiSteps => exact clampUInt16_range (by decide) _
  | _ => trivial

theorem eis_loaded (hobj : root.item "eis" = some obj) (hm : sectionOf m = .eis) : Kept (loadEis root base) m := by
  rw [loadEis, inSection_some hobj]
  cases m with
  | eisMarginPercent => exact clampInt_range (by decide) _
  | _ => trivial

end Sections

variable [CFloat D F]

theorem kept_defaults (m : Member) : Kept (vencConfigDefaults : VencConfig D F) m := by
  cases m with
  | imageMirror | imageFlip | video0SceneHoldoff => exact fun h => absurd h (of_decide_eq_true rfl)
  | imageRotate => exact Or.inl rfl
  | systemOverclockLevel | sensorUnlockDir | video0QpDelta | fpvRoiQp | fpvRoiSteps | fpvNoiseLevel | audioSampleRate
  | audioChannels | audioVolume | imuSampleRateHz | eisMarginPercent =>
      exact ⟨of_decide_eq_true rfl, of_decide_eq_true rfl⟩
  | imuCalSamples => exact of_decide_eq_true (p := (10 : Int32) ≤ 400) rfl
  | sensorUnlockCmd | ispExposure | ispAeFps | ispGainMax | ispAwbCt | video0Fps | video0Bitrate | recordMaxSeconds
  | recordMaxMb | recordBitrate | recordFps => exact UInt32.lt_iff_toNat_lt.2 (of_decide_eq_true rfl)
  | _ => trivial

theorem loadSection_missing {root : CJson D} {cfg : VencConfig D F} {s : ConfigSection}
    (h : root.item (sectionName s) = none) : loadSection s root cfg = cfg := by
  cases s <;> exact inSection_none h

/-- Every member that is not read through an int as it is stays in range. -/
theorem loaded_kept (root : CJson D) {m : Member} (hu : unsignedKey m = none) :
    Kept (loadRoot root (vencConfigDefaults : VencConfig D F)) m := by
  obtain ⟨base, hbase, hload⟩ := loadRoot_at root (vencConfigDefaults : VencConfig D F) (sectionOf m)
  rw [kept_congr hload]
  cases hobj : root.item (sectionName (sectionOf m)) with
  | none =>
      rw [loadSection_missing hobj, kept_congr hbase]
      exact kept_defaults m
  | some obj =>
      cases hs : sectionOf m with
      | system => exact system_loaded (hs ▸ hobj) hs
      | sensor => exact sensor_loaded (hs ▸ hobj) hs hu
      | image => exact image_loaded (hs ▸ hobj) hs
      | video0 => exact video0_loaded (hs ▸ hobj) hs hu
      | fpv => exact fpv_loaded (hs ▸ hobj) hs
      | audio => exact audio_loaded (hs ▸ hobj) hs
      | imu => exact imu_loaded (hs ▸ hobj) hs
      | eis => exact eis_loaded (hs ▸ hobj) hs
      | isp | outgoing | record | debug => exact kept_free hu (by rw [hs]; decide)

theorem isFloat_of_unsigned {m : Member} {key : String} (h : unsignedKey m = some key) : isFloat m = false := by
  cases m <;> first | rfl | cases h

/-- The others are in range exactly when the document gives them no negative number. -/
theorem loaded_unsigned (root : CJson D) {m : Member} {key : String} (hu : unsignedKey m = some key) :
    Kept (loadRoot root (vencConfigDefaults : VencConfig D F)) m ↔
      ∀ i, numberAt root (sectionName (sectionOf m)) key = some i → 0 ≤ i := by
  obtain ⟨base, hbase, hload⟩ := loadRoot_at root (vencConfigDefaults : VencConfig D F) (sectionOf m)
  have hkept : Kept base m := (kept_congr hbase).2 (kept_defaults m)
  rw [kept_congr hload]
  cases m with
  | sensorUnlockCmd | ispExposure | ispAeFps | ispGainMax | ispAwbCt | video0Fps | video0Bitrate | recordMaxSeconds
  | recordMaxMb | recordBitrate | recordFps =>
      cases hu
      exact small_loaded hkept (fun h => congrFun (inSection_none h) _) fun obj h => congrFun (inSection_some h) _
  | _ => cases hu

/-- A save and a load into the defaults change no integer, boolean or string. -/
def Fixpoint (text : CJsonText D F) (cfg : VencConfig D F) : Prop :=
  ∀ m, isFloat m = false → loadRoot (savedRoot text cfg) vencConfigDefaults m = cfg m

theorem fixpoint_iff (text : CJsonText D F) (cfg : VencConfig D F) :
    Fixpoint text cfg ↔ ∀ m, isFloat m = false → Kept cfg m :=
  forall₂_congr fun _ hf => kept_iff text vencConfigDefaults hf

/-- A loaded config is a fixed point exactly when its document has no negative
number for an unsigned member. -/
theorem load_fixpoint (text : CJsonText D F) (root : CJson D) :
    Fixpoint text (loadRoot root (vencConfigDefaults : VencConfig D F)) ↔ Unsigned root := by
  rw [fixpoint_iff]
  constructor
  · intro h m key i hu
    exact (loaded_unsigned root hu).1 (h m (isFloat_of_unsigned hu)) i
  · intro h m _
    cases hu : unsignedKey m with
    | none => exact loaded_kept root hu
    | some key => exact (loaded_unsigned root hu).2 fun i => h m key i hu

def exactText : CJsonText Rat Rat where
  valueint q := saturate (q.num.tdiv q.den)
  reread q := .number (saturate (q.num.tdiv q.den)) q
  floatClean q := q
  reread_integer n _ _ := by
    refine ⟨n, ?_⟩
    change CJson.number (saturate ((n : Rat).num.tdiv (n : Rat).den)) (n : Rat) = _
    rw [Rat.num_intCast, Rat.den_intCast, Int.natCast_one, Int.tdiv_one]

def negativeExposure : CJson Rat := .object [("isp", .object [("exposure", .number (-1) (-1))])]

/-- An exposure of -1 is saved as 4294967295 and loaded as 2147483647. -/
theorem exposure_drifts :
    ¬∀ root : CJson Rat, Fixpoint exactText (loadRoot root (vencConfigDefaults : VencConfig Rat Rat)) := by
  intro h
  have hu := (load_fixpoint exactText negativeExposure).1 (h negativeExposure)
  exact absurd (hu .ispExposure "exposure" (-1) rfl rfl) (by decide)

end WaybeamVenc.ConfigFixpoint
