import Mathlib.Tactic.SplitIfs
import WaybeamVenc.ConfigSave

namespace WaybeamVenc.SaveLoad

open CNumber Config FieldTable ConfigLoad ConfigSections ConfigSave

/-! Numbers as text. -/

theorem digit_digitChar : ∀ d < 10, digit 10 (Nat.digitChar d) = some d := by decide

/-- The digits of a number are read back, and reading goes on behind them. -/
theorem takeDigits_toDigits (n : Nat) (rest : CString) :
    takeDigits 10 none (Nat.toDigits 10 n ++ rest) = takeDigits 10 (some n) rest := by
  induction n using Nat.strongRecOn generalizing rest with
  | ind n ih =>
      by_cases hn : n < 10
      · rw [Nat.toDigits_of_lt_base hn, List.singleton_append, takeDigits, digit_digitChar n hn]
        simp
      · have hge : 10 ≤ n := Nat.not_lt.1 hn
        have hdiv : n / 10 * 10 + n % 10 = n := Nat.div_add_mod' n 10
        rw [Nat.toDigits_of_base_le (by decide) hge, List.append_assoc, List.singleton_append,
          ih (n / 10) (by omega), takeDigits, digit_digitChar _ (Nat.mod_lt n (by decide))]
        simp only [Option.getD_some, hdiv]

/-- A number starts with a digit, so that nothing is skipped and there is no sign. -/
theorem decimal_head (n : UInt32) : ∃ c s, decimal n = c :: s ∧ 48 ≤ c.toNat ∧ c.toNat ≤ 57 := by
  cases h : decimal n with
  | nil => exact absurd h Nat.toDigits_ne_nil
  | cons c s =>
      have hmem : c ∈ Nat.toDigits 10 n.toNat := by
        change c ∈ decimal n
        rw [h]
        exact List.mem_cons_self
      have hd : c.isDigit = true := Nat.isDigit_of_mem_toDigits (by decide) (by decide) hmem
      rw [Char.isDigit, Bool.and_eq_true, decide_eq_true_eq, decide_eq_true_eq] at hd
      exact ⟨c, s, rfl, hd.1, hd.2⟩

theorem skip_decimal (n : UInt32) (rest : CString) :
    takeSign (skipSpace (decimal n ++ rest)) = (false, decimal n ++ rest) := by
  obtain ⟨c, s, h, hlo, hhi⟩ := decimal_head n
  have hspace : isSpace c = false := by
    have hne : c ≠ ' ' := by
      rintro rfl
      exact absurd hlo (by decide)
    simp only [isSpace, hne, decide_false, Bool.false_or, Bool.and_eq_false_iff, decide_eq_false_iff_not]
    omega
  have hminus : c ≠ '-' := by
    rintro rfl
    exact absurd hlo (by decide)
  have hplus : c ≠ '+' := by
    rintro rfl
    exact absurd hlo (by decide)
  rw [h, List.cons_append, skipSpace, hspace]
  simp [takeSign, hminus, hplus]

theorem strtoul_decimal {n : UInt32} {rest : CString}
    (hrest : takeDigits 10 (some n.toNat) rest = (some n.toNat, rest)) :
    strtoul 10 (decimal n ++ rest) = some (n, rest) := by
  have hlt : ¬2 ^ 32 ≤ n.toNat := Nat.not_le.2 n.toNat_lt
  have hd : takeDigits 10 none (decimal n ++ rest) = (some n.toNat, rest) :=
    (takeDigits_toDigits n.toNat rest).trans hrest
  rw [strtoul, skip_decimal]
  dsimp only
  rw [if_neg (by decide)]
  dsimp only
  rw [hd]
  dsimp only
  rw [if_neg hlt, if_neg Bool.false_ne_true, UInt32.ofNat_toNat]

theorem parseSize_sizeText (width height : UInt32) : parseSize (sizeText width height) = some (width, height) := by
  have hw : strtoul 10 (sizeText width height) = some (width, 'x' :: decimal height) := strtoul_decimal rfl
  have hh : strtoul 10 (decimal height) = some (height, []) := by
    have h : strtoul 10 (decimal height ++ []) = some (height, []) := strtoul_decimal rfl
    rwa [List.append_nil] at h
  have hscan : scanSize (sizeText width height) = some (width, height) := by
    rw [scanSize, hw]
    simp [hh]
  have hne : ∀ s : CString, scanSize s = none → sizeText width height ≠ s := by
    rintro s hs rfl
    rw [hscan] at hs
    cases hs
  rw [parseSize, if_neg (hne _ rfl), if_neg (hne _ rfl), if_neg (hne _ rfl), hscan]

theorem strtoul_addrText (addr : UInt8) : (((strtoul 0 (addrText addr)).map Prod.fst).getD 0).toUInt8 = addr := by
  have h : ∀ a : Fin 256, (((strtoul 0 (addrText (UInt8.ofFin a))).map Prod.fst).getD 0).toUInt8 = UInt8.ofFin a := by
    decide +kernel
  exact h addr.toFin

/-! Numbers through the int of cJSON. -/

theorem saturate_int32 (x : Int32) : saturate x.toInt = x := by
  have hlt : ¬2 ^ 31 ≤ x.toInt := Int.not_le.2 x.toInt_lt
  rw [saturate, if_neg hlt]
  split
  next hle =>
    have heq : x.toInt = -2 ^ 31 := Int.le_antisymm hle x.le_toInt
    exact Int32.toInt_inj.1 heq.symm
  next => exact Int32.ofInt_toInt x

theorem ofInt_toNat (x : UInt32) : (Int32.ofInt x.toNat).toUInt32 = x := by
  apply UInt32.toBitVec_inj.1
  change BitVec.ofInt 32 x.toNat = x.toBitVec
  rw [BitVec.ofInt_natCast]
  exact BitVec.ofNat_toNat 32 x.toBitVec

theorem saturate_uint32 (x : UInt32) :
    (saturate x.toNat).toUInt32 = if x < 0x80000000 then x else 0x7FFFFFFF := by
  have hneg : ¬(x.toNat : Int) ≤ -2 ^ 31 := by omega
  rw [saturate, if_neg hneg]
  by_cases hx : x < 0x80000000
  · have hlt : x.toNat < 2 ^ 31 := hx
    rw [if_pos hx, if_neg (by omega), ofInt_toNat]
  · have hge : 2 ^ 31 ≤ x.toNat := Nat.not_lt.1 hx
    rw [if_neg hx, if_pos (by omega)]
    rfl

theorem saturate_uint16 (x : UInt16) : (saturate x.toNat).toUInt32.toUInt16 = x := by
  have h := saturate_uint32 x.toUInt32
  have hlt : x.toUInt32 < 0x80000000 := Nat.lt_trans x.toNat_lt (by decide : 2 ^ 16 < 2 ^ 31)
  rw [if_pos hlt, UInt16.toNat_toUInt32] at h
  rw [h, UInt16.toUInt16_toUInt32]

theorem saturate_uint8 (x : UInt8) : (saturate x.toNat).toUInt32.toUInt8 = x := by
  have h := saturate_uint32 x.toUInt32
  have hlt : x.toUInt32 < 0x80000000 := Nat.lt_trans x.toNat_lt (by decide : 2 ^ 8 < 2 ^ 31)
  rw [if_pos hlt, UInt8.toNat_toUInt32] at h
  rw [h, UInt8.toUInt8_toUInt32]

theorem clampInt_eq_iff {lo hi x : Int32} (h : lo ≤ hi) : clampInt lo hi x = x ↔ lo ≤ x ∧ x ≤ hi := by
  have h' := Int32.le_iff_toInt_le.1 h
  rw [← Int32.toInt_inj, Int32.le_iff_toInt_le, Int32.le_iff_toInt_le]
  simp only [clampInt, Int32.lt_iff_toInt_lt]
  split_ifs <;> omega

theorem clampUInt16_eq_iff {lo hi x : UInt16} (h : lo ≤ hi) : clampUInt16 lo hi x = x ↔ lo ≤ x ∧ x ≤ hi := by
  have h' := UInt16.le_iff_toNat_le.1 h
  rw [← UInt16.toNat_inj, UInt16.le_iff_toNat_le, UInt16.le_iff_toNat_le]
  simp only [clampUInt16, UInt16.lt_iff_toNat_lt]
  split_ifs <;> omega

theorem clampUInt32_eq_iff {lo hi x : UInt32} (h : lo ≤ hi) : clampUInt32 lo hi x = x ↔ lo ≤ x ∧ x ≤ hi := by
  have h' := UInt32.le_iff_toNat_le.1 h
  rw [← UInt32.toNat_inj, UInt32.le_iff_toNat_le, UInt32.le_iff_toNat_le]
  simp only [clampUInt32, UInt32.lt_iff_toNat_lt]
  split_ifs <;> omega

theorem atLeastInt_eq_iff {lo x : Int32} : atLeastInt lo x = x ↔ lo ≤ x := by
  rw [← Int32.toInt_inj, Int32.le_iff_toInt_le]
  simp only [atLeastInt, Int32.lt_iff_toInt_lt]
  split_ifs <;> omega

/-- A clamp below the range of an int undoes its saturation. -/
theorem clampUInt32_saturate {lo hi x : UInt32} (h : lo ≤ hi) (hhi : hi < 0x80000000) :
    clampUInt32 lo hi (saturate x.toNat).toUInt32 = x ↔ lo ≤ x ∧ x ≤ hi := by
  rw [saturate_uint32]
  split
  next => exact clampUInt32_eq_iff h
  next hx =>
    have hclamp : clampUInt32 lo hi 0x7FFFFFFF ≤ hi := by
      rw [UInt32.le_iff_toNat_le]
      simp only [clampUInt32, UInt32.lt_iff_toNat_lt]
      split_ifs <;> omega
    refine iff_of_false (fun he => ?_) fun hle => ?_
    · exact hx (UInt32.lt_of_le_of_lt (he ▸ hclamp) hhi)
    · exact hx (UInt32.lt_of_le_of_lt hle.2 hhi)

/-! Members of a saved section. -/

variable {D F : Type} [CFloat D F]

theorem item_reparse (text : CJsonText D F) (members : List (String × CJson D)) (key : String) :
    (reparse text (.object members)).item key = ((CJson.object members).item key).map (reparse text) := by
  induction members with
  | nil => rfl
  | cons m members ih =>
      by_cases h : m.1 = key
      · simp [CJson.item, reparse, reparseMembers, h]
      · simp only [CJson.item, reparse, reparseMembers] at ih ⊢
        rw [List.find?_cons_of_neg (by simpa using h), List.find?_cons_of_neg (by simpa using h)]
        exact ih

variable {text : CJsonText D F} {members : List (String × CJson D)} {key : String}

theorem getInt_saved {n : Int} (h : (CJson.object members).item key = some (text.integer n)) (hlo : -2 ^ 31 ≤ n)
    (hhi : n < 2 ^ 32) (fallback : Int32) : jsonGetInt (reparse text (.object members)) key fallback = saturate n := by
  obtain ⟨d, hd⟩ := text.reread_integer n hlo hhi
  have hread : reparse text (text.integer n) = .number (saturate n) d := hd
  rw [jsonGetInt, item_reparse, h, Option.map_some, hread]

theorem int_saved {x : Int32} (h : (CJson.object members).item key = some (text.integer x.toInt))
    (fallback : Int32) : jsonGetInt (reparse text (.object members)) key fallback = x :=
  (getInt_saved h x.le_toInt (Int.lt_trans x.toInt_lt (by decide)) fallback).trans (saturate_int32 x)

theorem unsigned_saved {n : Nat} (h : (CJson.object members).item key = some (text.integer n)) (hn : n < 2 ^ 32)
    (fallback : Int32) : jsonGetInt (reparse text (.object members)) key fallback = saturate n :=
  getInt_saved h (by omega) (by omega) fallback

theorem uint32_saved {x : UInt32} (h : (CJson.object members).item key = some (text.integer x.toNat))
    (fallback : UInt32) :
    jsonGetUInt32 (reparse text (.object members)) key fallback = (saturate x.toNat).toUInt32 :=
  congrArg Int32.toUInt32 (unsigned_saved h x.toNat_lt _)

theorem uint16_saved {x : UInt16} (h : (CJson.object members).item key = some (text.integer x.toNat))
    (fallback : UInt16) : jsonGetUInt16 (reparse text (.object members)) key fallback = x := by
  rw [jsonGetUInt16, unsigned_saved h (Nat.lt_trans x.toNat_lt (by decide)), saturate_uint16]

theorem uint8_saved {x : UInt8} (h : (CJson.object members).item key = some (text.integer x.toNat))
    (fallback : UInt8) : jsonGetUInt8 (reparse text (.object members)) key fallback = x := by
  rw [jsonGetUInt8, unsigned_saved h (Nat.lt_trans x.toNat_lt (by decide)), saturate_uint8]

theorem bool_saved {b : Bool} (h : (CJson.object members).item key = some (.bool b)) (fallback : Bool) :
    jsonGetBool (reparse text (.object members)) key fallback = b := by
  rw [jsonGetBool, item_reparse, h]
  rfl

theorem string_saved {s : CString} (h : (CJson.object members).item key = some (.string s)) :
    jsonString (reparse text (.object members)) key = some s := by
  rw [jsonString, item_reparse, h]
  rfl

theorem copy_saved {n : Nat} {x : { s : CString // s.length ≤ n }}
    (h : (CJson.object members).item key = some (.string x.1)) (old : { s : CString // s.length ≤ n }) :
    jsonCopyString (reparse text (.object members)) key old = x := by
  rw [jsonCopyString, jsonGetString, string_saved h]
  exact clip_of_le x.2

/-! Which members a save and a load keep. -/

def Small (x : UInt32) : Prop := x < 0x80000000

/-- What the loader lets a member hold, whatever the document says. -/
def Kept (cfg : VencConfig D F) : Member → Prop
  | .systemOverclockLevel => (0 : Int32) ≤ cfg .systemOverclockLevel ∧ cfg .systemOverclockLevel ≤ (2 : Int32)
  | .sensorUnlockCmd => Small (cfg .sensorUnlockCmd)
  | .sensorUnlockDir => (0 : Int32) ≤ cfg .sensorUnlockDir ∧ cfg .sensorUnlockDir ≤ (1 : Int32)
  | .ispExposure => Small (cfg .ispExposure)
  | .ispAeFps => Small (cfg .ispAeFps)
  | .ispGainMax => Small (cfg .ispGainMax)
  | .ispAwbCt => Small (cfg .ispAwbCt)
  | .imageMirror => cfg .imageRotate = (180 : Int32) → cfg .imageMirror = true
  | .imageFlip => cfg .imageRotate = (180 : Int32) → cfg .imageFlip = true
  | .imageRotate => cfg .imageRotate = (0 : Int32) ∨ cfg .imageRotate = (180 : Int32)
  | .video0Fps => Small (cfg .video0Fps)
  | .video0Bitrate => Small (cfg .video0Bitrate)
  | .video0QpDelta => (-12 : Int32) ≤ cfg .video0QpDelta ∧ cfg .video0QpDelta ≤ (12 : Int32)
  | .video0SceneHoldoff => (0 : UInt16) < cfg .video0SceneThreshold → cfg .video0SceneHoldoff ≠ (0 : UInt8)
  | .fpvRoiQp => (-30 : Int32) ≤ cfg .fpvRoiQp ∧ cfg .fpvRoiQp ≤ (30 : Int32)
  | .fpvRoiSteps => (1 : UInt16) ≤ cfg .fpvRoiSteps ∧ cfg .fpvRoiSteps ≤ pipelineRoiMaxSteps
  | .fpvNoiseLevel => (0 : Int32) ≤ cfg .fpvNoiseLevel ∧ cfg .fpvNoiseLevel ≤ (7 : Int32)
  | .audioSampleRate => (8000 : UInt32) ≤ cfg .audioSampleRate ∧ cfg .audioSampleRate ≤ (48000 : UInt32)
  | .audioChannels => (1 : UInt32) ≤ cfg .audioChannels ∧ cfg .audioChannels ≤ (2 : UInt32)
  | .audioVolume => (0 : Int32) ≤ cfg .audioVolume ∧ cfg .audioVolume ≤ (100 : Int32)
  | .imuSampleRateHz => (25 : Int32) ≤ cfg .imuSampleRateHz ∧ cfg .imuSampleRateHz ≤ (1600 : Int32)
  | .imuCalSamples => (10 : Int32) ≤ cfg .imuCalSamples
  | .eisMarginPercent => (1 : Int32) ≤ cfg .eisMarginPercent ∧ cfg .eisMarginPercent ≤ (30 : Int32)
  | .recordMaxSeconds => Small (cfg .recordMaxSeconds)
  | .recordMaxMb => Small (cfg .recordMaxMb)
  | .recordBitrate => Small (cfg .recordBitrate)
  | .recordFps => Small (cfg .recordFps)
  | _ => True

theorem small_kept {x fallback : UInt32} (h : (CJson.object members).item key = some (text.integer x.toNat)) :
    jsonGetUInt32 (reparse text (.object members)) key fallback = x ↔ Small x := by
  rw [uint32_saved h, saturate_uint32]
  split
  next hx => exact iff_of_true rfl hx
  next hx => exact iff_of_false (fun he => hx (by rw [← he]; decide)) hx

theorem clamp_kept {lo hi x fallback : Int32}
    (h : (CJson.object members).item key = some (text.integer x.toInt)) (hle : lo ≤ hi) :
    clampInt lo hi (jsonGetInt (reparse text (.object members)) key fallback) = x ↔ lo ≤ x ∧ x ≤ hi := by
  rw [int_saved h]
  exact clampInt_eq_iff hle

theorem upsideDown_kept (rotate : Int32) (b : Bool) :
    (if rotate = 180 then true else b) = b ↔ (rotate = 180 → b = true) := by
  split
  next h => exact ⟨fun hb _ => hb.symm, fun hb => (hb h).symm⟩
  next h => exact iff_of_true rfl fun h' => absurd h' h

theorem rotate_kept (rotate : Int32) :
    (if rotate = 180 then (180 : Int32) else 0) = rotate ↔ rotate = 0 ∨ rotate = 180 := by
  split
  next h => exact iff_of_true h.symm (Or.inr h)
  next h => exact ⟨fun hz => Or.inl hz.symm, fun hz => (hz.resolve_right h).symm⟩

theorem holdoff_kept (threshold : UInt16) (holdoff : UInt8) :
    (if holdoff < 1 ∧ 0 < threshold then (1 : UInt8) else holdoff) = holdoff ↔ (0 < threshold → holdoff ≠ 0) := by
  have hzero : holdoff < 1 ↔ holdoff = 0 := by
    rw [UInt8.lt_iff_toNat_lt, ← UInt8.toNat_inj]
    exact Nat.lt_one_iff
  split
  next h => exact iff_of_false (fun he => absurd (he.trans (hzero.1 h.1)) (by decide)) fun h' => h' h.2 (hzero.1 h.1)
  next h => exact iff_of_true rfl fun ht hz => h ⟨hzero.2 hz, ht⟩

def isFloat (m : Member) : Bool := m.type = .double || m.type = .float

section Sections

variable {cfg base : VencConfig D F} {m : Member} (text)

theorem system_kept (hm : sectionOf m = .system) :
    loadSystem (savedRoot text cfg) base m = cfg m ↔ Kept cfg m := by
  have hobj : (savedRoot text cfg).item "system" = some (reparse text (.object (savedSystem text cfg))) := rfl
  rw [loadSystem, inSection_some hobj]
  cases m with
  | systemWebPort => exact iff_of_true (uint16_saved rfl _) trivial
  | systemOverclockLevel => exact clamp_kept rfl (by decide)
  | systemVerbose => exact iff_of_true (bool_saved rfl _) trivial
  | _ => cases hm

theorem sensor_kept (hm : sectionOf m = .sensor) :
    loadSensor (savedRoot text cfg) base m = cfg m ↔ Kept cfg m := by
  have hobj : (savedRoot text cfg).item "sensor" = some (reparse text (.object (savedSensor text cfg))) := rfl
  rw [loadSensor, inSection_some hobj]
  cases m with
  | sensorIndex | sensorMode => exact iff_of_true (int_saved rfl _) trivial
  | sensorUnlockEnabled => exact iff_of_true (bool_saved rfl _) trivial
  | sensorUnlockCmd => exact small_kept rfl
  | sensorUnlockReg | sensorUnlockValue => exact iff_of_true (uint16_saved rfl _) trivial
  | sensorUnlockDir => exact clamp_kept rfl (by decide)
  | _ => cases hm

theorem isp_kept (hm : sectionOf m = .isp) :
    loadIsp (savedRoot text cfg) base m = cfg m ↔ Kept cfg m := by
  have hobj : (savedRoot text cfg).item "isp" = some (reparse text (.object (savedIsp text cfg))) := rfl
  rw [loadIsp, inSection_some hobj]
  cases m with
  | ispSensorBin | ispAwbMode => exact iff_of_true (copy_saved rfl _) trivial
  | ispLegacyAe => exact iff_of_true (bool_saved rfl _) trivial
  | ispExposure | ispAeFps | ispGainMax | ispAwbCt => exact small_kept rfl
  | _ => cases hm

theorem image_kept (hm : sectionOf m = .image) :
    loadImage (savedRoot text cfg) base m = cfg m ↔ Kept cfg m := by
  have hobj : (savedRoot text cfg).item "image" = some (reparse text (.object (savedImage text cfg))) := rfl
  rw [loadImage, inSection_some hobj]
  cases m with
  | imageMirror =>
      change (if jsonGetInt _ "rotate" _ = 180 then true else jsonGetBool _ "mirror" _) = cfg .imageMirror ↔ _
      rw [int_saved rfl, bool_saved rfl]
      exact upsideDown_kept _ _
  | imageFlip =>
      change (if jsonGetInt _ "rotate" _ = 180 then true else jsonGetBool _ "flip" _) = cfg .imageFlip ↔ _
      rw [int_saved rfl, bool_saved rfl]
      exact upsideDown_kept _ _
  | imageRotate =>
      change (if jsonGetInt _ "rotate" _ = 180 then (180 : Int32) else 0) = cfg .imageRotate ↔ _
      rw [int_saved rfl]
      exact rotate_kept _
  | _ => cases hm

theorem video0_kept (hm : sectionOf m = .video0) (hf : isFloat m = false) :
    loadVideo0 (savedRoot text cfg) base m = cfg m ↔ Kept cfg m := by
  have hobj : (savedRoot text cfg).item "video0" = some (reparse text (.object (savedVideo0 text cfg))) := rfl
  rw [loadVideo0, inSection_some hobj]
  cases m with
  | video0Codec | video0RcMode => exact iff_of_true (copy_saved rfl _) trivial
  | video0Fps | video0Bitrate => exact small_kept rfl
  | video0Width | video0Height =>
      refine iff_of_true ?_ trivial
      dsimp only
      rw [string_saved rfl]
      change ((parseSize (sizeText (cfg .video0Width) (cfg .video0Height))).map _).getD _ = _
      rw [parseSize_sizeText]
      rfl
  | video0GopSize => cases hf
  | video0QpDelta => exact clamp_kept rfl (by decide)
  | video0FrameLost => exact iff_of_true (bool_saved rfl _) trivial
  | video0SceneThreshold => exact iff_of_true (uint16_saved rfl _) trivial
  | video0SceneHoldoff =>
      dsimp only
      rw [uint16_saved rfl, uint8_saved rfl]
      exact holdoff_kept _ _
  | _ => cases hm

theorem outgoing_kept (hm : sectionOf m = .outgoing) :
    loadOutgoing (savedRoot text cfg) base m = cfg m ↔ Kept cfg m := by
  have hobj : (savedRoot text cfg).item "outgoing" = some (reparse text (.object (savedOutgoing text cfg))) := rfl
  rw [loadOutgoing, inSection_some hobj]
  cases m with
  | outgoingEnabled | outgoingConnectedUdp => exact iff_of_true (bool_saved rfl _) trivial
  | outgoingServer | outgoingStreamMode => exact iff_of_true (copy_saved rfl _) trivial
  | outgoingMaxPayloadSize | outgoingAudioPort | outgoingSidecarPort =>
      exact iff_of_true (uint16_saved rfl _) trivial
  | _ => cases hm

theorem fpv_kept (hm : sectionOf m = .fpv) (hf : isFloat m = false) :
    loadFpv (savedRoot text cfg) base m = cfg m ↔ Kept cfg m := by
  have hobj : (savedRoot text cfg).item "fpv" = some (reparse text (.object (savedFpv text cfg))) := rfl
  rw [loadFpv, inSection_some hobj]
  cases m with
  | fpvRoiEnabled => exact iff_of_true (bool_saved rfl _) trivial
  | fpvRoiQp | fpvNoiseLevel => exact clamp_kept rfl (by decide)
  | fpvRoiSteps =>
      dsimp only
      rw [uint16_saved rfl]
      exact clampUInt16_eq_iff (by decide)
  | fpvRoiCenter => cases hf
  | _ => cases hm

theorem audio_kept (hm : sectionOf m = .audio) :
    loadAudio (savedRoot text cfg) base m = cfg m ↔ Kept cfg m := by
  have hobj : (savedRoot text cfg).item "audio" = some (reparse text (.object (savedAudio text cfg))) := rfl
  rw [loadAudio, inSection_some hobj]
  cases m with
  | audioEnabled | audioMute => exact iff_of_true (bool_saved rfl _) trivial
  | audioSampleRate | audioChannels =>
      dsimp only
      rw [uint32_saved rfl]
      exact clampUInt32_saturate (by decide) (by decide)
  | audioCodec => exact iff_of_true (copy_saved rfl _) trivial
  | audioVolume => exact clamp_kept rfl (by decide)
  | _ => cases hm

theorem imu_kept (hm : sectionOf m = .imu) :
    loadImu (savedRoot text cfg) base m = cfg m ↔ Kept cfg m := by
  have hobj : (savedRoot text cfg).item "imu" = some (reparse text (.object (savedImu text cfg))) := rfl
  rw [loadImu, inSection_some hobj]
  cases m with
  | imuEnabled => exact iff_of_true (bool_saved rfl _) trivial
  | imuI2cDevice | imuCalFile => exact iff_of_true (copy_saved rfl _) trivial
  | imuI2cAddr =>
      refine iff_of_true ?_ trivial
      dsimp only
      rw [string_saved rfl]
      exact strtoul_addrText _
  | imuSampleRateHz => exact clamp_kept rfl (by decide)
  | imuGyroRangeDps => exact iff_of_true (int_saved rfl _) trivial
  | imuCalSamples =>
      dsimp only
      rw [int_saved rfl]
      exact atLeastInt_eq_iff
  | _ => cases hm

theorem eis_kept (hm : sectionOf m = .eis) (hf : isFloat m = false) :
    loadEis (savedRoot text cfg) base m = cfg m ↔ Kept cfg m := by
  have hobj : (savedRoot text cfg).item "eis" = some (reparse text (.object (savedEis text cfg))) := rfl
  rw [loadEis, inSection_some hobj]
  cases m with
  | eisEnabled | eisTestMode | eisSwapXy | eisInvertX | eisInvertY => exact iff_of_true (bool_saved rfl _) trivial
  | eisMode => exact iff_of_true (copy_saved rfl _) trivial
  | eisMarginPercent => exact clamp_kept rfl (by decide)
  | eisGain | eisDeadbandRad | eisRecenterRate | eisMaxSlewPx | eisBiasAlpha => cases hf
  | _ => cases hm

theorem record_kept (hm : sectionOf m = .record) (hf : isFloat m = false) :
    loadRecord (savedRoot text cfg) base m = cfg m ↔ Kept cfg m := by
  have hobj : (savedRoot text cfg).item "record" = some (reparse text (.object (savedRecord text cfg))) := rfl
  rw [loadRecord, inSection_some hobj]
  cases m with
  | recordEnabled => exact iff_of_true (bool_saved rfl _) trivial
  | recordDir | recordFormat | recordMode | recordServer => exact iff_of_true (copy_saved rfl _) trivial
  | recordMaxSeconds | recordMaxMb | recordBitrate | recordFps => exact small_kept rfl
  | recordGopSize => cases hf
  | _ => cases hm

theorem debug_kept (hm : sectionOf m = .debug) :
    loadDebug (savedRoot text cfg) base m = cfg m ↔ Kept cfg m := by
  have hobj : (savedRoot text cfg).item "debug" = some (reparse text (.object (savedDebug cfg))) := rfl
  rw [loadDebug, inSection_some hobj]
  cases m with
  | debugShowOsd => exact iff_of_true (bool_saved rfl _) trivial
  | _ => cases hm

/-- A save and a load keep a member exactly when the loader lets it be. -/
theorem kept_iff (base : VencConfig D F) (hf : isFloat m = false) :
    loadRoot (savedRoot text cfg) base m = cfg m ↔ Kept cfg m := by
  obtain ⟨base', -, hload⟩ := loadRoot_at (savedRoot text cfg) base (sectionOf m)
  rw [hload m rfl]
  cases hm : sectionOf m with
  | system => exact system_kept text hm
  | sensor => exact sensor_kept text hm
  | isp => exact isp_kept text hm
  | image => exact image_kept text hm
  | video0 => exact video0_kept text hm hf
  | outgoing => exact outgoing_kept text hm
  | fpv => exact fpv_kept text hm hf
  | audio => exact audio_kept text hm
  | imu => exact imu_kept text hm
  | eis => exact eis_kept text hm hf
  | record => exact record_kept text hm hf
  | debug => exact debug_kept text hm

end Sections

end WaybeamVenc.SaveLoad
