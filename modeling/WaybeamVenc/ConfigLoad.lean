import Mathlib.Tactic.Common
import WaybeamVenc.FieldTable

namespace WaybeamVenc.ConfigLoad

open CNumber Config FieldTable

variable {D F : Type}

/-- A parsed document; a number has the int and the double that cJSON keeps. -/
inductive CJson (D : Type)
  | null
  | bool (b : Bool)
  | number (valueint : Int32) (valuedouble : D)
  | string (s : CString)
  | array (items : List (CJson D))
  | object (members : List (String × CJson D))

/-- cJSON_GetObjectItemCaseSensitive. -/
def CJson.item (j : CJson D) (key : String) : Option (CJson D) :=
  match j with
  | .object members => (members.find? fun m => m.1 = key).map Prod.snd
  | _ => none

def jsonString (obj : CJson D) (key : String) : Option CString :=
  match obj.item key with
  | some (.string s) => some s
  | _ => none

def jsonGetString (obj : CJson D) (key : String) (fallback : CString) : CString := (jsonString obj key).getD fallback

def jsonGetInt (obj : CJson D) (key : String) (fallback : Int32) : Int32 :=
  match obj.item key with
  | some (.number i _) => i
  | _ => fallback

def jsonGetBool (obj : CJson D) (key : String) (fallback : Bool) : Bool :=
  match obj.item key with
  | some (.bool b) => b
  | _ => fallback

def jsonGetDouble (obj : CJson D) (key : String) (fallback : D) : D :=
  match obj.item key with
  | some (.number _ d) => d
  | _ => fallback

/-- An unsigned member, read through an int. -/
def jsonGetUInt32 (obj : CJson D) (key : String) (old : UInt32) : UInt32 :=
  (jsonGetInt obj key old.toInt32).toUInt32

def jsonGetUInt16 (obj : CJson D) (key : String) (old : UInt16) : UInt16 :=
  (jsonGetInt obj key old.toUInt32.toInt32).toUInt32.toUInt16

def jsonGetUInt8 (obj : CJson D) (key : String) (old : UInt8) : UInt8 :=
  (jsonGetInt obj key old.toUInt32.toInt32).toUInt32.toUInt8

/-- safe_strcpy of a string with the old one as the fallback. -/
def jsonCopyString {n : Nat} (obj : CJson D) (key : String) (old : { s : CString // s.length ≤ n }) :
    { s : CString // s.length ≤ n } := clip n (jsonGetString obj key old.1)

def clampInt (lo hi x : Int32) : Int32 :=
  let x := if x < lo then lo else x
  if hi < x then hi else x

def clampUInt32 (lo hi x : UInt32) : UInt32 :=
  let x := if x < lo then lo else x
  if hi < x then hi else x

def clampUInt16 (lo hi x : UInt16) : UInt16 :=
  let x := if x < lo then lo else x
  if hi < x then hi else x

def atLeastInt (lo x : Int32) : Int32 := if x < lo then lo else x

variable [CFloat D F]

def clampDouble (lo hi x : D) : D :=
  let x := if CFloat.lt x lo then lo else x
  if CFloat.lt hi x then hi else x

def literalFloat (q : Rat) : F := CFloat.toFloat (CFloat.ofRat q : D)

def vencConfigDefaults : VencConfig D F
  | .systemWebPort => (80 : UInt16)
  | .systemOverclockLevel => (1 : Int32)
  | .systemVerbose => false
  | .sensorIndex => (-1 : Int32)
  | .sensorMode => (-1 : Int32)
  | .sensorUnlockEnabled => true
  | .sensorUnlockCmd => (0x23 : UInt32)
  | .sensorUnlockReg => (0x300a : UInt16)
  | .sensorUnlockValue => (0x80 : UInt16)
  | .sensorUnlockDir => (0 : Int32)
  | .ispSensorBin => clip 255 []
  | .ispExposure => (0 : UInt32)
  | .ispLegacyAe => true
  | .ispAeFps => (15 : UInt32)
  | .ispGainMax => (0 : UInt32)
  | .ispAwbMode => clip 15 "auto".toList
  | .ispAwbCt => (5500 : UInt32)
  | .imageMirror => false
  | .imageFlip => false
  | .imageRotate => (0 : Int32)
  | .video0Codec => clip 15 "h265".toList
  | .video0RcMode => clip 15 "cbr".toList
  | .video0Fps => (60 : UInt32)
  | .video0Width => (1920 : UInt32)
  | .video0Height => (1080 : UInt32)
  | .video0Bitrate => (8192 : UInt32)
  | .video0GopSize => (CFloat.ofRat 1 : D)
  | .video0QpDelta => (-4 : Int32)
  | .video0FrameLost => true
  | .video0SceneThreshold => (0 : UInt16)
  | .video0SceneHoldoff => (2 : UInt8)
  | .outgoingEnabled => false
  | .outgoingServer => clip 255 []
  | .outgoingStreamMode => clip 15 "rtp".toList
  | .outgoingMaxPayloadSize => (1400 : UInt16)
  | .outgoingConnectedUdp => true
  | .outgoingAudioPort => (5601 : UInt16)
  | .outgoingSidecarPort => (5602 : UInt16)
  | .fpvRoiEnabled => true
  | .fpvRoiQp => (0 : Int32)
  | .fpvRoiSteps => (2 : UInt16)
  | .fpvRoiCenter => (CFloat.ofRat (4 / 10) : D)
  | .fpvNoiseLevel => (0 : Int32)
  | .audioEnabled => false
  | .audioSampleRate => (48000 : UInt32)
  | .audioChannels => (1 : UInt32)
  | .audioCodec => clip 15 "opus".toList
  | .audioVolume => (80 : Int32)
  | .audioMute => false
  | .imuEnabled => false
  | .imuI2cDevice => clip 255 "/dev/i2c-1".toList
  | .imuI2cAddr => (0x68 : UInt8)
  | .imuSampleRateHz => (200 : Int32)
  | .imuGyroRangeDps => (1000 : Int32)
  | .imuCalFile => clip 255 "/etc/imu.cal".toList
  | .imuCalSamples => (400 : Int32)
  | .eisEnabled => false
  | .eisMode => clip 15 "gyroglide".toList
  | .eisMarginPercent => (30 : Int32)
  | .eisTestMode => false
  | .eisSwapXy => false
  | .eisInvertX => false
  | .eisInvertY => false
  | .eisGain => (literalFloat (D := D) 1 : F)
  | .eisDeadbandRad => (literalFloat (D := D) 0 : F)
  | .eisRecenterRate => (literalFloat (D := D) (1 / 2) : F)
  | .eisMaxSlewPx => (literalFloat (D := D) 0 : F)
  | .eisBiasAlpha => (literalFloat (D := D) (1 / 1000) : F)
  | .recordEnabled => false
  | .recordDir => clip 255 "/mnt/mmcblk0p1".toList
  | .recordFormat => clip 15 "ts".toList
  | .recordMode => clip 15 "mirror".toList
  | .recordMaxSeconds => (300 : UInt32)
  | .recordMaxMb => (500 : UInt32)
  | .recordBitrate => (0 : UInt32)
  | .recordFps => (0 : UInt32)
  | .recordGopSize => (CFloat.ofRat 0 : D)
  | .recordServer => clip 255 []
  | .debugShowOsd => false

/-- The members a section has, when the document has the section. -/
def inSection (root : CJson D) (name : String) (cfg : VencConfig D F) (load : CJson D → VencConfig D F) :
    VencConfig D F :=
  match root.item name with
  | none => cfg
  | some obj => load obj

def loadSystem (root : CJson D) (cfg : VencConfig D F) : VencConfig D F :=
  inSection root "system" cfg fun obj m =>
    match m with
    | .systemWebPort => jsonGetUInt16 obj "webPort" (cfg .systemWebPort)
    | .systemOverclockLevel => clampInt 0 2 (jsonGetInt obj "overclockLevel" (cfg .systemOverclockLevel))
    | .systemVerbose => jsonGetBool obj "verbose" (cfg .systemVerbose)
    | m => cfg m

def loadSensor (root : CJson D) (cfg : VencConfig D F) : VencConfig D F :=
  inSection root "sensor" cfg fun obj m =>
    match m with
    | .sensorIndex => jsonGetInt obj "index" (cfg .sensorIndex)
    | .sensorMode => jsonGetInt obj "mode" (cfg .sensorMode)
    | .sensorUnlockEnabled => jsonGetBool obj "unlockEnabled" (cfg .sensorUnlockEnabled)
    | .sensorUnlockCmd => jsonGetUInt32 obj "unlockCmd" (cfg .sensorUnlockCmd)
    | .sensorUnlockReg => jsonGetUInt16 obj "unlockReg" (cfg .sensorUnlockReg)
    | .sensorUnlockValue => jsonGetUInt16 obj "unlockValue" (cfg .sensorUnlockValue)
    | .sensorUnlockDir => clampInt 0 1 (jsonGetInt obj "unlockDir" (cfg .sensorUnlockDir))
    | m => cfg m

def loadIsp (root : CJson D) (cfg : VencConfig D F) : VencConfig D F :=
  inSection root "isp" cfg fun obj m =>
    match m with
    | .ispSensorBin => jsonCopyString obj "sensorBin" (cfg .ispSensorBin)
    | .ispExposure => jsonGetUInt32 obj "exposure" (cfg .ispExposure)
    | .ispLegacyAe => jsonGetBool obj "legacyAe" (cfg .ispLegacyAe)
    | .ispAeFps => jsonGetUInt32 obj "aeFps" (cfg .ispAeFps)
    | .ispGainMax => jsonGetUInt32 obj "gainMax" (cfg .ispGainMax)
    | .ispAwbMode => jsonCopyString obj "awbMode" (cfg .ispAwbMode)
    | .ispAwbCt => jsonGetUInt32 obj "awbCt" (cfg .ispAwbCt)
    | m => cfg m

def loadImage (root : CJson D) (cfg : VencConfig D F) : VencConfig D F :=
  inSection root "image" cfg fun obj m =>
    let upsideDown := jsonGetInt obj "rotate" (cfg .imageRotate) = 180
    match m with
    | .imageMirror => if upsideDown then true else jsonGetBool obj "mirror" (cfg .imageMirror)
    | .imageFlip => if upsideDown then true else jsonGetBool obj "flip" (cfg .imageFlip)
    | .imageRotate => if upsideDown then (180 : Int32) else (0 : Int32)
    | m => cfg m

/-- parse_resolution is the parser of a size field. -/
def parseResolution (str : CString) : Option (UInt32 × UInt32) := parseSize str

def loadVideo0 (root : CJson D) (cfg : VencConfig D F) : VencConfig D F :=
  inSection root "video0" cfg fun obj m =>
    let size := (jsonString obj "size").bind parseResolution
    let threshold := jsonGetUInt16 obj "sceneThreshold" (cfg .video0SceneThreshold)
    let holdoff := jsonGetUInt8 obj "sceneHoldoff" (cfg .video0SceneHoldoff)
    match m with
    | .video0Codec => jsonCopyString obj "codec" (cfg .video0Codec)
    | .video0RcMode => jsonCopyString obj "rcMode" (cfg .video0RcMode)
    | .video0Fps => jsonGetUInt32 obj "fps" (cfg .video0Fps)
    | .video0Width => (size.map Prod.fst).getD (cfg .video0Width)
    | .video0Height => (size.map Prod.snd).getD (cfg .video0Height)
    | .video0Bitrate => jsonGetUInt32 obj "bitrate" (cfg .video0Bitrate)
    | .video0GopSize => jsonGetDouble obj "gopSize" (cfg .video0GopSize)
    | .video0QpDelta => clampInt (-12) 12 (jsonGetInt obj "qpDelta" (cfg .video0QpDelta))
    | .video0FrameLost => jsonGetBool obj "frameLost" (cfg .video0FrameLost)
    | .video0SceneThreshold => threshold
    | .video0SceneHoldoff => if holdoff < 1 ∧ 0 < threshold then (1 : UInt8) else holdoff
    | m => cfg m

def loadOutgoing (root : CJson D) (cfg : VencConfig D F) : VencConfig D F :=
  inSection root "outgoing" cfg fun obj m =>
    match m with
    | .outgoingEnabled => jsonGetBool obj "enabled" (cfg .outgoingEnabled)
    | .outgoingServer => jsonCopyString obj "server" (cfg .outgoingServer)
    | .outgoingStreamMode => jsonCopyString obj "streamMode" (cfg .outgoingStreamMode)
    | .outgoingMaxPayloadSize => jsonGetUInt16 obj "maxPayloadSize" (cfg .outgoingMaxPayloadSize)
    | .outgoingConnectedUdp => jsonGetBool obj "connectedUdp" (cfg .outgoingConnectedUdp)
    | .outgoingAudioPort => jsonGetUInt16 obj "audioPort" (cfg .outgoingAudioPort)
    | .outgoingSidecarPort => jsonGetUInt16 obj "sidecarPort" (cfg .outgoingSidecarPort)
    | m => cfg m

def loadAudio (root : CJson D) (cfg : VencConfig D F) : VencConfig D F :=
  inSection root "audio" cfg fun obj m =>
    match m with
    | .audioEnabled => jsonGetBool obj "enabled" (cfg .audioEnabled)
    | .audioSampleRate => clampUInt32 8000 48000 (jsonGetUInt32 obj "sampleRate" (cfg .audioSampleRate))
    | .audioChannels => clampUInt32 1 2 (jsonGetUInt32 obj "channels" (cfg .audioChannels))
    | .audioCodec => jsonCopyString obj "codec" (cfg .audioCodec)
    | .audioVolume => clampInt 0 100 (jsonGetInt obj "volume" (cfg .audioVolume))
    | .audioMute => jsonGetBool obj "mute" (cfg .audioMute)
    | m => cfg m

def loadImu (root : CJson D) (cfg : VencConfig D F) : VencConfig D F :=
  inSection root "imu" cfg fun obj m =>
    match m with
    | .imuEnabled => jsonGetBool obj "enabled" (cfg .imuEnabled)
    | .imuI2cDevice => jsonCopyString obj "i2cDevice" (cfg .imuI2cDevice)
    | .imuI2cAddr =>
      match jsonString obj "i2cAddr" with
      | some addr => (((strtoul 0 addr).map Prod.fst).getD 0).toUInt8
      | none => cfg .imuI2cAddr
    | .imuSampleRateHz => clampInt 25 1600 (jsonGetInt obj "sampleRateHz" (cfg .imuSampleRateHz))
    | .imuGyroRangeDps => jsonGetInt obj "gyroRangeDps" (cfg .imuGyroRangeDps)
    | .imuCalFile => jsonCopyString obj "calFile" (cfg .imuCalFile)
    | .imuCalSamples => atLeastInt 10 (jsonGetInt obj "calSamples" (cfg .imuCalSamples))
    | m => cfg m

def jsonGetPositive (obj : CJson D) (key : String) (old : F) : F :=
  let x : F := CFloat.toFloat (jsonGetDouble obj key (CFloat.ofFloat old : D))
  if CFloat.lt (CFloat.ofFloat x : D) (CFloat.ofRat 0) then literalFloat (D := D) 0 else x

def jsonGetGain (obj : CJson D) (key : String) (old : F) : F :=
  let x : F := jsonGetPositive obj key old
  if CFloat.lt (CFloat.ofRat 1 : D) (CFloat.ofFloat x : D) then literalFloat (D := D) 1 else x

def loadEis (root : CJson D) (cfg : VencConfig D F) : VencConfig D F :=
  inSection root "eis" cfg fun obj m =>
    match m with
    | .eisEnabled => jsonGetBool obj "enabled" (cfg .eisEnabled)
    | .eisMode => jsonCopyString obj "mode" (cfg .eisMode)
    | .eisMarginPercent => clampInt 1 30 (jsonGetInt obj "marginPercent" (cfg .eisMarginPercent))
    | .eisTestMode => jsonGetBool obj "testMode" (cfg .eisTestMode)
    | .eisSwapXy => jsonGetBool obj "swapXY" (cfg .eisSwapXy)
    | .eisInvertX => jsonGetBool obj "invertX" (cfg .eisInvertX)
    | .eisInvertY => jsonGetBool obj "invertY" (cfg .eisInvertY)
    | .eisGain => jsonGetGain obj "gain" (cfg .eisGain)
    | .eisDeadbandRad => jsonGetPositive obj "deadbandRad" (cfg .eisDeadbandRad)
    | .eisRecenterRate => jsonGetPositive obj "recenterRate" (cfg .eisRecenterRate)
    | .eisMaxSlewPx => jsonGetPositive obj "maxSlewPx" (cfg .eisMaxSlewPx)
    | .eisBiasAlpha => jsonGetPositive obj "biasAlpha" (cfg .eisBiasAlpha)
    | m => cfg m

def loadRecord (root : CJson D) (cfg : VencConfig D F) : VencConfig D F :=
  inSection root "record" cfg fun obj m =>
    match m with
    | .recordEnabled => jsonGetBool obj "enabled" (cfg .recordEnabled)
    | .recordDir => jsonCopyString obj "dir" (cfg .recordDir)
    | .recordFormat => jsonCopyString obj "format" (cfg .recordFormat)
    | .recordMode => jsonCopyString obj "mode" (cfg .recordMode)
    | .recordMaxSeconds => jsonGetUInt32 obj "maxSeconds" (cfg .recordMaxSeconds)
    | .recordMaxMb => jsonGetUInt32 obj "maxMB" (cfg .recordMaxMb)
    | .recordBitrate => jsonGetUInt32 obj "bitrate" (cfg .recordBitrate)
    | .recordFps => jsonGetUInt32 obj "fps" (cfg .recordFps)
    | .recordGopSize => jsonGetDouble obj "gopSize" (cfg .recordGopSize)
    | .recordServer => jsonCopyString obj "server" (cfg .recordServer)
    | m => cfg m

def loadFpv (root : CJson D) (cfg : VencConfig D F) : VencConfig D F :=
  inSection root "fpv" cfg fun obj m =>
    match m with
    | .fpvRoiEnabled => jsonGetBool obj "roiEnabled" (cfg .fpvRoiEnabled)
    | .fpvRoiQp => clampInt (-30) 30 (jsonGetInt obj "roiQp" (cfg .fpvRoiQp))
    | .fpvRoiSteps => clampUInt16 1 pipelineRoiMaxSteps (jsonGetUInt16 obj "roiSteps" (cfg .fpvRoiSteps))
    | .fpvRoiCenter => clampDouble (CFloat.ofRat (1 / 10)) (CFloat.ofRat (9 / 10))
        (jsonGetDouble obj "roiCenter" (cfg .fpvRoiCenter))
    | .fpvNoiseLevel => clampInt 0 7 (jsonGetInt obj "noiseLevel" (cfg .fpvNoiseLevel))
    | m => cfg m

def loadDebug (root : CJson D) (cfg : VencConfig D F) : VencConfig D F :=
  inSection root "debug" cfg fun obj m =>
    match m with
    | .debugShowOsd => jsonGetBool obj "showOsd" (cfg .debugShowOsd)
    | m => cfg m

def loadSections : List (CJson D → VencConfig D F → VencConfig D F) :=
  [loadSystem, loadSensor, loadIsp, loadImage, loadVideo0, loadOutgoing, loadFpv, loadAudio, loadImu, loadEis,
    loadRecord, loadDebug]

def loadRoot (root : CJson D) (cfg : VencConfig D F) : VencConfig D F :=
  loadSections.foldl (fun cfg load => load root cfg) cfg

/-- What reading the file gives: no file, an error, or a document if it parses. -/
inductive ConfigFile (D : Type)
  | missing
  | unreadable
  | invalid
  | document (root : CJson D)

/-- The loaded config, or none on an error. -/
def vencConfigLoad (file : ConfigFile D) (cfg : VencConfig D F) : Option (VencConfig D F) :=
  match file with
  | .missing => some cfg
  | .unreadable | .invalid => none
  | .document root => some (loadRoot root cfg)

end WaybeamVenc.ConfigLoad
