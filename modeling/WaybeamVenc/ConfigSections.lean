import WaybeamVenc.ConfigLoad

namespace WaybeamVenc.ConfigSections

open CNumber Config ConfigLoad

inductive ConfigSection
  | system
  | sensor
  | isp
  | image
  | video0
  | outgoing
  | fpv
  | audio
  | imu
  | eis
  | record
  | debug
deriving DecidableEq

def sectionOf : Member → ConfigSection
  | .systemWebPort | .systemOverclockLevel | .systemVerbose => .system
  | .sensorIndex | .sensorMode | .sensorUnlockEnabled | .sensorUnlockCmd | .sensorUnlockReg | .sensorUnlockValue
  | .sensorUnlockDir => .sensor
  | .ispSensorBin | .ispExposure | .ispLegacyAe | .ispAeFps | .ispGainMax | .ispAwbMode | .ispAwbCt => .isp
  | .imageMirror | .imageFlip | .imageRotate => .image
  | .video0Codec | .video0RcMode | .video0Fps | .video0Width | .video0Height | .video0Bitrate | .video0GopSize
  | .video0QpDelta | .video0FrameLost | .video0SceneThreshold | .video0SceneHoldoff => .video0
  | .outgoingEnabled | .outgoingServer | .outgoingStreamMode | .outgoingMaxPayloadSize | .outgoingConnectedUdp
  | .outgoingAudioPort | .outgoingSidecarPort => .outgoing
  | .fpvRoiEnabled | .fpvRoiQp | .fpvRoiSteps | .fpvRoiCenter | .fpvNoiseLevel => .fpv
  | .audioEnabled | .audioSampleRate | .audioChannels | .audioCodec | .audioVolume | .audioMute => .audio
  | .imuEnabled | .imuI2cDevice | .imuI2cAddr | .imuSampleRateHz | .imuGyroRangeDps | .imuCalFile
  | .imuCalSamples => .imu
  | .eisEnabled | .eisMode | .eisMarginPercent | .eisTestMode | .eisSwapXy | .eisInvertX | .eisInvertY | .eisGain
  | .eisDeadbandRad | .eisRecenterRate | .eisMaxSlewPx | .eisBiasAlpha => .eis
  | .recordEnabled | .recordDir | .recordFormat | .recordMode | .recordMaxSeconds | .recordMaxMb | .recordBitrate
  | .recordFps | .recordGopSize | .recordServer => .record
  | .debugShowOsd => .debug

variable {D F : Type}

theorem inSection_other {root : CJson D} {name : String} {cfg : VencConfig D F} {load : CJson D → VencConfig D F}
    {m : Member} (h : ∀ obj, load obj m = cfg m) : inSection root name cfg load m = cfg m := by
  rw [inSection]
  cases root.item name with
  | none => rfl
  | some obj => exact h obj

theorem inSection_some {root obj : CJson D} {name : String} {cfg : VencConfig D F}
    {load : CJson D → VencConfig D F} (h : root.item name = some obj) : inSection root name cfg load = load obj := by
  rw [inSection, h]

theorem inSection_none {root : CJson D} {name : String} {cfg : VencConfig D F} {load : CJson D → VencConfig D F}
    (h : root.item name = none) : inSection root name cfg load = cfg := by
  rw [inSection, h]

variable [CFloat D F]

def loadSection : ConfigSection → CJson D → VencConfig D F → VencConfig D F
  | .system => loadSystem
  | .sensor => loadSensor
  | .isp => loadIsp
  | .image => loadImage
  | .video0 => loadVideo0
  | .outgoing => loadOutgoing
  | .fpv => loadFpv
  | .audio => loadAudio
  | .imu => loadImu
  | .eis => loadEis
  | .record => loadRecord
  | .debug => loadDebug

theorem loadSection_other {root : CJson D} {cfg : VencConfig D F} {m : Member} {s : ConfigSection}
    (h : sectionOf m ≠ s) : loadSection s root cfg m = cfg m := by
  cases s with
  | image => exact inSection_other fun obj => by cases m <;> first | exact absurd rfl h | rfl
  | system | sensor | isp | video0 | outgoing | fpv | audio | imu | eis | record | debug =>
      refine inSection_other fun obj => ?_
      split <;> first | exact absurd rfl h | rfl

def sections : List ConfigSection :=
  [.system, .sensor, .isp, .image, .video0, .outgoing, .fpv, .audio, .imu, .eis, .record, .debug]

def loadAll (root : CJson D) (ss : List ConfigSection) (cfg : VencConfig D F) : VencConfig D F :=
  ss.foldl (fun cfg s => loadSection s root cfg) cfg

theorem loadAll_other {root : CJson D} {ss : List ConfigSection} {cfg : VencConfig D F} {m : Member}
    (h : sectionOf m ∉ ss) : loadAll root ss cfg m = cfg m := by
  induction ss generalizing cfg with
  | nil => rfl
  | cons s ss ih =>
      rw [List.mem_cons, not_or] at h
      exact (ih h.2).trans (loadSection_other h.1)

theorem loadAll_at {root : CJson D} {s : ConfigSection} {ss : List ConfigSection} (hs : s ∈ ss) (hnodup : ss.Nodup)
    (cfg : VencConfig D F) : ∃ cfg' : VencConfig D F, (∀ m, sectionOf m = s → cfg' m = cfg m) ∧
      ∀ m, sectionOf m = s → loadAll root ss cfg m = loadSection s root cfg' m := by
  induction ss generalizing cfg with
  | nil => cases hs
  | cons t ss ih =>
      obtain ⟨ht, hnodup⟩ := List.nodup_cons.1 hnodup
      by_cases he : s = t
      · subst he
        refine ⟨cfg, fun _ _ => rfl, ?_⟩
        rintro m rfl
        exact loadAll_other ht
      · obtain ⟨cfg', hold, hload⟩ := ih ((List.mem_cons.1 hs).resolve_left he) hnodup (loadSection t root cfg)
        refine ⟨cfg', fun m hm => ?_, hload⟩
        rw [hold m hm]
        exact loadSection_other (hm ▸ he)

/-- What a load makes of a section depends on that section alone. -/
theorem loadRoot_at (root : CJson D) (cfg : VencConfig D F) (s : ConfigSection) : ∃ cfg' : VencConfig D F,
    (∀ m, sectionOf m = s → cfg' m = cfg m) ∧
      ∀ m, sectionOf m = s → loadRoot root cfg m = loadSection s root cfg' m := by
  have hs : s ∈ sections := by cases s <;> decide
  exact loadAll_at hs (by decide) cfg

end WaybeamVenc.ConfigSections
