import Mathlib.Logic.Function.Basic
import WaybeamVenc.CNumber

namespace WaybeamVenc.Config

open CNumber

/-- What the program does with double and float; a literal is the nearest
number. -/
class CFloat (D : Type) (F : outParam Type) where
  ofRat : Rat → D
  ofUInt32 : UInt32 → D
  toUInt32 : D → UInt32
  mul : D → D → D
  add : D → D → D
  lt : D → D → Bool
  le : D → D → Bool
  finite : D → Bool
  strtod : CString → Option (D × CString)
  toFloat : D → F
  ofFloat : F → D

/-- The types of the members; a string is a char array with room for n bytes
and the terminator. -/
inductive CType
  | bool
  | int
  | uint32
  | uint16
  | uint8
  | double
  | float
  | str (n : Nat)
deriving DecidableEq

abbrev CType.Val (D F : Type) : CType → Type
  | .bool => Bool
  | .int => Int32
  | .uint32 => UInt32
  | .uint16 => UInt16
  | .uint8 => UInt8
  | .double => D
  | .float => F
  | .str n => { s : CString // s.length ≤ n }

inductive Member
  | systemWebPort
  | systemOverclockLevel
  | systemVerbose
  | sensorIndex
  | sensorMode
  | sensorUnlockEnabled
  | sensorUnlockCmd
  | sensorUnlockReg
  | sensorUnlockValue
  | sensorUnlockDir
  | ispSensorBin
  | ispExposure
  | ispLegacyAe
  | ispAeFps
  | ispGainMax
  | ispAwbMode
  | ispAwbCt
  | imageMirror
  | imageFlip
  | imageRotate
  | video0Codec
  | video0RcMode
  | video0Fps
  | video0Width
  | video0Height
  | video0Bitrate
  | video0GopSize
  | video0QpDelta
  | video0FrameLost
  | video0SceneThreshold
  | video0SceneHoldoff
  | outgoingEnabled
  | outgoingServer
  | outgoingStreamMode
  | outgoingMaxPayloadSize
  | outgoingConnectedUdp
  | outgoingAudioPort
  | outgoingSidecarPort
  | fpvRoiEnabled
  | fpvRoiQp
  | fpvRoiSteps
  | fpvRoiCenter
  | fpvNoiseLevel
  | audioEnabled
  | audioSampleRate
  | audioChannels
  | audioCodec
  | audioVolume
  | audioMute
  | imuEnabled
  | imuI2cDevice
  | imuI2cAddr
  | imuSampleRateHz
  | imuGyroRangeDps
  | imuCalFile
  | imuCalSamples
  | eisEnabled
  | eisMode
  | eisMarginPercent
  | eisTestMode
  | eisSwapXy
  | eisInvertX
  | eisInvertY
  | eisGain
  | eisDeadbandRad
  | eisRecenterRate
  | eisMaxSlewPx
  | eisBiasAlpha
  | recordEnabled
  | recordDir
  | recordFormat
  | recordMode
  | recordMaxSeconds
  | recordMaxMb
  | recordBitrate
  | recordFps
  | recordGopSize
  | recordServer
  | debugShowOsd
deriving DecidableEq

abbrev Member.type : Member → CType
  | .systemWebPort => .uint16
  | .systemOverclockLevel => .int
  | .systemVerbose => .bool
  | .sensorIndex => .int
  | .sensorMode => .int
  | .sensorUnlockEnabled => .bool
  | .sensorUnlockCmd => .uint32
  | .sensorUnlockReg => .uint16
  | .sensorUnlockValue => .uint16
  | .sensorUnlockDir => .int
  | .ispSensorBin => .str 255
  | .ispExposure => .uint32
  | .ispLegacyAe => .bool
  | .ispAeFps => .uint32
  | .ispGainMax => .uint32
  | .ispAwbMode => .str 15
  | .ispAwbCt => .uint32
  | .imageMirror => .bool
  | .imageFlip => .bool
  | .imageRotate => .int
  | .video0Codec => .str 15
  | .video0RcMode => .str 15
  | .video0Fps => .uint32
  | .video0Width => .uint32
  | .video0Height => .uint32
  | .video0Bitrate => .uint32
  | .video0GopSize => .double
  | .video0QpDelta => .int
  | .video0FrameLost => .bool
  | .video0SceneThreshold => .uint16
  | .video0SceneHoldoff => .uint8
  | .outgoingEnabled => .bool
  | .outgoingServer => .str 255
  | .outgoingStreamMode => .str 15
  | .outgoingMaxPayloadSize => .uint16
  | .outgoingConnectedUdp => .bool
  | .outgoingAudioPort => .uint16
  | .outgoingSidecarPort => .uint16
  | .fpvRoiEnabled => .bool
  | .fpvRoiQp => .int
  | .fpvRoiSteps => .uint16
  | .fpvRoiCenter => .double
  | .fpvNoiseLevel => .int
  | .audioEnabled => .bool
  | .audioSampleRate => .uint32
  | .audioChannels => .uint32
  | .audioCodec => .str 15
  | .audioVolume => .int
  | .audioMute => .bool
  | .imuEnabled => .bool
  | .imuI2cDevice => .str 255
  | .imuI2cAddr => .uint8
  | .imuSampleRateHz => .int
  | .imuGyroRangeDps => .int
  | .imuCalFile => .str 255
  | .imuCalSamples => .int
  | .eisEnabled => .bool
  | .eisMode => .str 15
  | .eisMarginPercent => .int
  | .eisTestMode => .bool
  | .eisSwapXy => .bool
  | .eisInvertX => .bool
  | .eisInvertY => .bool
  | .eisGain => .float
  | .eisDeadbandRad => .float
  | .eisRecenterRate => .float
  | .eisMaxSlewPx => .float
  | .eisBiasAlpha => .float
  | .recordEnabled => .bool
  | .recordDir => .str 255
  | .recordFormat => .str 15
  | .recordMode => .str 15
  | .recordMaxSeconds => .uint32
  | .recordMaxMb => .uint32
  | .recordBitrate => .uint32
  | .recordFps => .uint32
  | .recordGopSize => .double
  | .recordServer => .str 255
  | .debugShowOsd => .bool

abbrev VencConfig (D F : Type) := (m : Member) → m.type.Val D F

def VencConfig.set {D F : Type} (cfg : VencConfig D F) (m : Member) (v : m.type.Val D F) : VencConfig D F :=
  Function.update cfg m v

theorem VencConfig.set_same {D F : Type} (cfg : VencConfig D F) (m : Member) (v : m.type.Val D F) :
    cfg.set m v m = v := Function.update_self ..

theorem VencConfig.set_other {D F : Type} (cfg : VencConfig D F) {m m' : Member} (v : m.type.Val D F) (h : m' ≠ m) :
    cfg.set m v m' = cfg m' := Function.update_of_ne h ..

end WaybeamVenc.Config
