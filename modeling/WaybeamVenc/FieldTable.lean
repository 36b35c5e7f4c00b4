import Mathlib.Tactic.Common
import WaybeamVenc.Config

namespace WaybeamVenc.FieldTable

open CNumber Config

inductive Mutability
  | live
  | restart
deriving DecidableEq

inductive FieldType
  | bool
  | int
  | uint
  | uint8
  | uint16
  | double
  | float
  | string
  | size
deriving DecidableEq

/-- A size is read and written at the width, with the height after it. -/
def FieldType.readsAt (type : FieldType) (m : Member) : Bool :=
  match type, m.type with
  | .bool, .bool | .int, .int | .uint, .uint32 | .uint8, .uint8 | .uint16, .uint16
  | .double, .double | .float, .float | .string, .str _ => true
  | .size, _ => m = .video0Width
  | _, _ => false

structure FieldDesc where
  key : String
  type : FieldType
  mutability : Mutability
  offset : Member
  typed : type.readsAt offset

def gFields : List FieldDesc := [
  ⟨"system.web_port", .uint16, .restart, .systemWebPort, rfl⟩,
  ⟨"system.overclock_level", .int, .restart, .systemOverclockLevel, rfl⟩,
  ⟨"system.verbose", .bool, .live, .systemVerbose, rfl⟩,
  ⟨"sensor.index", .int, .restart, .sensorIndex, rfl⟩,
  ⟨"sensor.mode", .int, .restart, .sensorMode, rfl⟩,
  ⟨"sensor.unlock_enabled", .bool, .restart, .sensorUnlockEnabled, rfl⟩,
  ⟨"sensor.unlock_cmd", .uint, .restart, .sensorUnlockCmd, rfl⟩,
  ⟨"sensor.unlock_reg", .uint16, .restart, .sensorUnlockReg, rfl⟩,
  ⟨"sensor.unlock_value", .uint16, .restart, .sensorUnlockValue, rfl⟩,
  ⟨"sensor.unlock_dir", .int, .restart, .sensorUnlockDir, rfl⟩,
  ⟨"isp.sensor_bin", .string, .restart, .ispSensorBin, rfl⟩,
  ⟨"isp.exposure", .uint, .live, .ispExposure, rfl⟩,
  ⟨"isp.gain_max", .uint, .live, .ispGainMax, rfl⟩,
  ⟨"isp.awb_mode", .string, .live, .ispAwbMode, rfl⟩,
  ⟨"isp.awb_ct", .uint, .live, .ispAwbCt, rfl⟩,
  ⟨"image.mirror", .bool, .restart, .imageMirror, rfl⟩,
  ⟨"image.flip", .bool, .restart, .imageFlip, rfl⟩,
  ⟨"image.rotate", .int, .restart, .imageRotate, rfl⟩,
  ⟨"video0.codec", .string, .restart, .video0Codec, rfl⟩,
  ⟨"video0.rc_mode", .string, .restart, .video0RcMode, rfl⟩,
  ⟨"video0.fps", .uint, .live, .video0Fps, rfl⟩,
  ⟨"video0.size", .size, .restart, .video0Width, rfl⟩,
  ⟨"video0.bitrate", .uint, .live, .video0Bitrate, rfl⟩,
  ⟨"video0.gop_size", .double, .live, .video0GopSize, rfl⟩,
  ⟨"video0.qp_delta", .int, .live, .video0QpDelta, rfl⟩,
  ⟨"video0.frame_lost", .bool, .restart, .video0FrameLost, rfl⟩,
  ⟨"outgoing.enabled", .bool, .live, .outgoingEnabled, rfl⟩,
  ⟨"outgoing.server", .string, .live, .outgoingServer, rfl⟩,
  ⟨"outgoing.stream_mode", .string, .restart, .outgoingStreamMode, rfl⟩,
  ⟨"outgoing.max_payload_size", .uint16, .restart, .outgoingMaxPayloadSize, rfl⟩,
  ⟨"outgoing.connected_udp", .bool, .restart, .outgoingConnectedUdp, rfl⟩,
  ⟨"outgoing.audio_port", .uint16, .restart, .outgoingAudioPort, rfl⟩,
  ⟨"outgoing.sidecar_port", .uint16, .restart, .outgoingSidecarPort, rfl⟩,
  ⟨"isp.legacy_ae", .bool, .restart, .ispLegacyAe, rfl⟩,
  ⟨"isp.ae_fps", .uint, .restart, .ispAeFps, rfl⟩,
  ⟨"audio.enabled", .bool, .restart, .audioEnabled, rfl⟩,
  ⟨"audio.sample_rate", .uint, .restart, .audioSampleRate, rfl⟩,
  ⟨"audio.channels", .uint, .restart, .audioChannels, rfl⟩,
  ⟨"audio.codec", .string, .restart, .audioCodec, rfl⟩,
  ⟨"audio.volume", .int, .restart, .audioVolume, rfl⟩,
  ⟨"audio.mute", .bool, .live, .audioMute, rfl⟩,
  ⟨"fpv.roi_enabled", .bool, .live, .fpvRoiEnabled, rfl⟩,
  ⟨"fpv.roi_qp", .int, .live, .fpvRoiQp, rfl⟩,
  ⟨"fpv.roi_steps", .uint16, .live, .fpvRoiSteps, rfl⟩,
  ⟨"fpv.roi_center", .double, .live, .fpvRoiCenter, rfl⟩,
  ⟨"fpv.noise_level", .int, .restart, .fpvNoiseLevel, rfl⟩,
  ⟨"imu.enabled", .bool, .restart, .imuEnabled, rfl⟩,
  ⟨"imu.i2c_device", .string, .restart, .imuI2cDevice, rfl⟩,
  ⟨"imu.i2c_addr", .uint8, .restart, .imuI2cAddr, rfl⟩,
  ⟨"imu.sample_rate_hz", .int, .restart, .imuSampleRateHz, rfl⟩,
  ⟨"imu.gyro_range_dps", .int, .restart, .imuGyroRangeDps, rfl⟩,
  ⟨"imu.cal_file", .string, .restart, .imuCalFile, rfl⟩,
  ⟨"imu.cal_samples", .int, .restart, .imuCalSamples, rfl⟩,
  ⟨"eis.enabled", .bool, .restart, .eisEnabled, rfl⟩,
  ⟨"eis.mode", .string, .restart, .eisMode, rfl⟩,
  ⟨"eis.margin_percent", .int, .restart, .eisMarginPercent, rfl⟩,
  ⟨"eis.test_mode", .bool, .restart, .eisTestMode, rfl⟩,
  ⟨"eis.swap_xy", .bool, .restart, .eisSwapXy, rfl⟩,
  ⟨"eis.invert_x", .bool, .restart, .eisInvertX, rfl⟩,
  ⟨"eis.invert_y", .bool, .restart, .eisInvertY, rfl⟩,
  ⟨"eis.gain", .float, .restart, .eisGain, rfl⟩,
  ⟨"eis.deadband_rad", .float, .restart, .eisDeadbandRad, rfl⟩,
  ⟨"eis.recenter_rate", .float, .restart, .eisRecenterRate, rfl⟩,
  ⟨"eis.max_slew_px", .float, .restart, .eisMaxSlewPx, rfl⟩,
  ⟨"eis.bias_alpha", .float, .restart, .eisBiasAlpha, rfl⟩,
  ⟨"record.enabled", .bool, .restart, .recordEnabled, rfl⟩,
  ⟨"record.dir", .string, .restart, .recordDir, rfl⟩,
  ⟨"record.format", .string, .restart, .recordFormat, rfl⟩,
  ⟨"record.mode", .string, .restart, .recordMode, rfl⟩,
  ⟨"record.max_seconds", .uint, .restart, .recordMaxSeconds, rfl⟩,
  ⟨"record.max_mb", .uint, .restart, .recordMaxMb, rfl⟩,
  ⟨"record.bitrate", .uint, .restart, .recordBitrate, rfl⟩,
  ⟨"record.fps", .uint, .restart, .recordFps, rfl⟩,
  ⟨"record.gop_size", .double, .restart, .recordGopSize, rfl⟩,
  ⟨"record.server", .string, .restart, .recordServer, rfl⟩,
  ⟨"video0.scene_threshold", .uint16, .restart, .video0SceneThreshold, rfl⟩,
  ⟨"video0.scene_holdoff", .uint8, .restart, .video0SceneHoldoff, rfl⟩,
  ⟨"debug.show_osd", .bool, .restart, .debugShowOsd, rfl⟩]

def findField (key : String) : Option FieldDesc := gFields.find? fun f => f.key = key

def gFieldAliases : List (String × String) := [
  ("system.webPort", "system.web_port"),
  ("system.overclockLevel", "system.overclock_level"),
  ("sensor.unlockEnabled", "sensor.unlock_enabled"),
  ("sensor.unlockCmd", "sensor.unlock_cmd"),
  ("sensor.unlockReg", "sensor.unlock_reg"),
  ("sensor.unlockValue", "sensor.unlock_value"),
  ("sensor.unlockDir", "sensor.unlock_dir"),
  ("isp.sensorBin", "isp.sensor_bin"),
  ("isp.gainMax", "isp.gain_max"),
  ("isp.awbMode", "isp.awb_mode"),
  ("isp.awbCt", "isp.awb_ct"),
  ("video0.rcMode", "video0.rc_mode"),
  ("video0.gopSize", "video0.gop_size"),
  ("video0.qpDelta", "video0.qp_delta"),
  ("video0.frameLost", "video0.frame_lost"),
  ("outgoing.maxPayloadSize", "outgoing.max_payload_size"),
  ("outgoing.audioPort", "outgoing.audio_port"),
  ("fpv.roiEnabled", "fpv.roi_enabled"),
  ("fpv.roiQp", "fpv.roi_qp"),
  ("fpv.roiSteps", "fpv.roi_steps"),
  ("fpv.roiCenter", "fpv.roi_center"),
  ("fpv.noiseLevel", "fpv.noise_level"),
  ("isp.legacyAe", "isp.legacy_ae"),
  ("isp.aeFps", "isp.ae_fps"),
  ("audio.sampleRate", "audio.sample_rate"),
  ("imu.i2cDevice", "imu.i2c_device"),
  ("imu.i2cAddr", "imu.i2c_addr"),
  ("imu.sampleRateHz", "imu.sample_rate_hz"),
  ("imu.gyroRangeDps", "imu.gyro_range_dps"),
  ("imu.calFile", "imu.cal_file"),
  ("imu.calSamples", "imu.cal_samples"),
  ("eis.marginPercent", "eis.margin_percent"),
  ("eis.testMode", "eis.test_mode"),
  ("eis.swapXY", "eis.swap_xy"),
  ("eis.invertX", "eis.invert_x"),
  ("eis.invertY", "eis.invert_y"),
  ("eis.deadbandRad", "eis.deadband_rad"),
  ("eis.recenterRate", "eis.recenter_rate"),
  ("eis.maxSlewPx", "eis.max_slew_px"),
  ("eis.biasAlpha", "eis.bias_alpha"),
  ("record.maxSeconds", "record.max_seconds"),
  ("record.maxMB", "record.max_mb"),
  ("record.gopSize", "record.gop_size"),
  ("video0.sceneThreshold", "video0.scene_threshold"),
  ("video0.sceneHoldoff", "video0.scene_holdoff"),
  ("outgoing.sidecarPort", "outgoing.sidecar_port"),
  ("outgoing.connectedUdp", "outgoing.connected_udp"),
  ("outgoing.streamMode", "outgoing.stream_mode"),
  ("debug.showOsd", "debug.show_osd")]

def canonicalizeFieldKey (key : String) : String :=
  match gFieldAliases.find? fun a => a.1 = key with
  | some a => a.2
  | none => key

def fieldSupportedForBackend (_backendName _fieldKey : String) : Bool := true

variable {D F : Type} [CFloat D F]

def whole {α : Type} : Option (α × CString) → Option α
  | some (v, []) => some v
  | _ => none

def parseValue : (t : CType) → CString → Option (t.Val D F)
  | .bool, s =>
    if s = "true".toList ∨ s = "1".toList then some true
    else if s = "false".toList ∨ s = "0".toList then some false
    else none
  | .int, s => whole (strtol s)
  | .uint32, s => whole (strtoul 10 s)
  | .uint8, s => (whole (strtoul 0 s)).bind fun v => if 255 < v then none else some v.toUInt8
  | .uint16, s => (whole (strtoul 10 s)).bind fun v => if 65535 < v then none else some v.toUInt16
  | .double, s => whole (CFloat.strtod s)
  | .float, s => (whole (CFloat.strtod (D := D) s)).map CFloat.toFloat
  | .str n, s => some (clip n s)

def parseSize (s : CString) : Option (UInt32 × UInt32) :=
  if s = "720p".toList then some (1280, 720)
  else if s = "1080p".toList then some (1920, 1080)
  else if s = "4MP".toList then some (2688, 1520)
  else scanSize s

abbrev Write (D F : Type) := (m : Member) × m.type.Val D F

/-- The members a field writes for a text, none when it does not parse. -/
def FieldDesc.writes (f : FieldDesc) (value : CString) : Option (List (Write D F)) :=
  match f.type with
  | .size => (parseSize value).map fun s => [⟨.video0Width, s.1⟩, ⟨.video0Height, s.2⟩]
  | _ => (parseValue f.offset.type value).map fun v => [⟨f.offset, v⟩]

def writeAll (cfg : VencConfig D F) (ws : List (Write D F)) : VencConfig D F :=
  ws.foldl (fun cfg w => cfg.set w.1 w.2) cfg

def fieldFromStringCfg (cfg : VencConfig D F) (f : FieldDesc) (value : CString) : Option (VencConfig D F) :=
  (f.writes value).map (writeAll cfg)

/-- A value as the answer to a set shows it. -/
inductive FieldValue (D F : Type)
  | member (t : CType) (v : t.Val D F)
  | size (width height : UInt32)

/-- What cJSON can parse back: not a number that is not finite. -/
def FieldValue.parses : FieldValue D F → Bool
  | .member .double v => CFloat.finite v
  | .member .float v => CFloat.finite (CFloat.ofFloat v : D)
  | _ => true

def fieldToJsonValueFromCfg (cfg : VencConfig D F) (f : FieldDesc) : FieldValue D F :=
  match f.type with
  | .size => .size (cfg .video0Width) (cfg .video0Height)
  | _ => .member f.offset.type (cfg f.offset)

def pipelineRoiMaxSteps : UInt16 := 4

/-- The error message, if the value of a field is out of its range. -/
def validateFieldCfg (cfg : VencConfig D F) (key : String) : Option String :=
  if key = "isp.awb_mode" then
    if (cfg .ispAwbMode).1 ≠ "auto".toList ∧ (cfg .ispAwbMode).1 ≠ "ct_manual".toList then
      some "awb_mode must be 'auto' or 'ct_manual'"
    else none
  else if key = "video0.qp_delta" then
    if (cfg .video0QpDelta : Int32) < -12 ∨ (12 : Int32) < cfg .video0QpDelta then
      some "qp_delta must be in range [-12, 12]"
    else none
  else if key = "fpv.roi_qp" then
    if (cfg .fpvRoiQp : Int32) < -30 ∨ (30 : Int32) < cfg .fpvRoiQp then
      some "roi_qp must be in range [-30, 30]"
    else none
  else if key = "fpv.roi_steps" then
    if (cfg .fpvRoiSteps : UInt16) < 1 ∨ pipelineRoiMaxSteps < (cfg .fpvRoiSteps : UInt16) then
      some "roi_steps must be in range [1, 4]"
    else none
  else if key = "fpv.roi_center" then
    if CFloat.lt (cfg .fpvRoiCenter : D) (CFloat.ofRat (1 / 10)) ∨
        CFloat.lt (CFloat.ofRat (9 / 10)) (cfg .fpvRoiCenter : D) then
      some "roi_center must be in range [0.1, 0.9]"
    else none
  else if key = "video0.bitrate" then
    if (cfg .video0Bitrate : UInt32) = 0 ∨ 200000 < (cfg .video0Bitrate : UInt32) then
      some "bitrate must be 1-200000 kbps"
    else none
  else if key = "video0.scene_holdoff" ∧ (cfg .video0SceneHoldoff : UInt8) = 0 then
    some "video0.scene_holdoff must be >= 1"
  else none

def configCodecIsH265 (cfg : VencConfig D F) : Bool :=
  (cfg .video0Codec).1 = "h265".toList || (cfg .video0Codec).1 = "265".toList

/-- The error message, if the backend cannot run the config. -/
def validateBackendConfig (backendName : String) (cfg : VencConfig D F) : Option String :=
  if backendName = "star6e" ∧ (cfg .outgoingStreamMode).1 ≠ "compact".toList ∧ ¬configCodecIsH265 cfg then
    some "star6e RTP mode currently supports h265 only"
  else none

end WaybeamVenc.FieldTable
