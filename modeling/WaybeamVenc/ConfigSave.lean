import WaybeamVenc.ConfigSections

namespace WaybeamVenc.ConfigSave

open CNumber Config FieldTable ConfigLoad

variable {D F : Type} [CFloat D F]

/-- The int of a number in cJSON. -/
def saturate (n : Int) : Int32 :=
  if 2 ^ 31 ≤ n then Int32.maxValue else if n ≤ -2 ^ 31 then Int32.minValue else Int32.ofInt n

/-- How cJSON prints and parses numbers, and how a float is cut to six digits
before. An integer comes back as it was. -/
structure CJsonText (D F : Type) [CFloat D F] where
  valueint : D → Int32
  reread : D → CJson D
  floatClean : F → D
  reread_integer : ∀ n : Int, -2 ^ 31 ≤ n → n < 2 ^ 32 → ∃ d, reread (CFloat.ofRat n) = .number (saturate n) d

def CJsonText.createNumber (text : CJsonText D F) (d : D) : CJson D := .number (text.valueint d) d

def CJsonText.integer (text : CJsonText D F) (n : Int) : CJson D := text.createNumber (CFloat.ofRat n)

def CJsonText.float (text : CJsonText D F) (x : F) : CJson D := text.createNumber (text.floatClean x)

mutual

/-- The tree that the text of a tree parses to. -/
def reparse (text : CJsonText D F) : CJson D → CJson D
  | .null => .null
  | .bool b => .bool b
  | .number _ d => text.reread d
  | .string s => .string s
  | .array items => .array (reparseItems text items)
  | .object members => .object (reparseMembers text members)

def reparseItems (text : CJsonText D F) : List (CJson D) → List (CJson D)
  | [] => []
  | item :: items => reparse text item :: reparseItems text items

def reparseMembers (text : CJsonText D F) : List (String × CJson D) → List (String × CJson D)
  | [] => []
  | (key, item) :: members => (key, reparse text item) :: reparseMembers text members

end

def decimal (n : UInt32) : CString := Nat.toDigits 10 n.toNat

def sizeText (width height : UInt32) : CString := decimal width ++ 'x' :: decimal height

def addrText (addr : UInt8) : CString :=
  ['0', 'x', Nat.digitChar (addr.toNat / 16), Nat.digitChar (addr.toNat % 16)]

variable (text : CJsonText D F) (cfg : VencConfig D F)

def savedSystem : List (String × CJson D) := [
  ("webPort", text.integer (cfg .systemWebPort).toNat),
  ("overclockLevel", text.integer (cfg .systemOverclockLevel).toInt),
  ("verbose", .bool (cfg .systemVerbose))]

def savedSensor : List (String × CJson D) := [
  ("index", text.integer (cfg .sensorIndex).toInt),
  ("mode", text.integer (cfg .sensorMode).toInt),
  ("unlockEnabled", .bool (cfg .sensorUnlockEnabled)),
  ("unlockCmd", text.integer (cfg .sensorUnlockCmd).toNat),
  ("unlockReg", text.integer (cfg .sensorUnlockReg).toNat),
  ("unlockValue", text.integer (cfg .sensorUnlockValue).toNat),
  ("unlockDir", text.integer (cfg .sensorUnlockDir).toInt)]

def savedIsp : List (String × CJson D) := [
  ("sensorBin", .string (cfg .ispSensorBin).1),
  ("exposure", text.integer (cfg .ispExposure).toNat),
  ("legacyAe", .bool (cfg .ispLegacyAe)),
  ("aeFps", text.integer (cfg .ispAeFps).toNat),
  ("gainMax", text.integer (cfg .ispGainMax).toNat),
  ("awbMode", .string (cfg .ispAwbMode).1),
  ("awbCt", text.integer (cfg .ispAwbCt).toNat)]

def savedImage : List (String × CJson D) := [
  ("mirror", .bool (cfg .imageMirror)),
  ("flip", .bool (cfg .imageFlip)),
  ("rotate", text.integer (cfg .imageRotate).toInt)]

def savedVideo0 : List (String × CJson D) := [
  ("codec", .string (cfg .video0Codec).1),
  ("rcMode", .string (cfg .video0RcMode).1),
  ("fps", text.integer (cfg .video0Fps).toNat),
  ("size", .string (sizeText (cfg .video0Width) (cfg .video0Height))),
  ("bitrate", text.integer (cfg .video0Bitrate).toNat),
  ("gopSize", text.createNumber (cfg .video0GopSize)),
  ("qpDelta", text.integer (cfg .video0QpDelta).toInt),
  ("frameLost", .bool (cfg .video0FrameLost)),
  ("sceneThreshold", text.integer (cfg .video0SceneThreshold).toNat),
  ("sceneHoldoff", text.integer (cfg .video0SceneHoldoff).toNat)]

def savedOutgoing : List (String × CJson D) := [
  ("enabled", .bool (cfg .outgoingEnabled)),
  ("server", .string (cfg .outgoingServer).1),
  ("streamMode", .string (cfg .outgoingStreamMode).1),
  ("maxPayloadSize", text.integer (cfg .outgoingMaxPayloadSize).toNat),
  ("connectedUdp", .bool (cfg .outgoingConnectedUdp)),
  ("audioPort", text.integer (cfg .outgoingAudioPort).toNat),
  ("sidecarPort", text.integer (cfg .outgoingSidecarPort).toNat)]

def savedFpv : List (String × CJson D) := [
  ("roiEnabled", .bool (cfg .fpvRoiEnabled)),
  ("roiQp", text.integer (cfg .fpvRoiQp).toInt),
  ("roiSteps", text.integer (cfg .fpvRoiSteps).toNat),
  ("roiCenter", text.createNumber (cfg .fpvRoiCenter)),
  ("noiseLevel", text.integer (cfg .fpvNoiseLevel).toInt)]

def savedAudio : List (String × CJson D) := [
  ("enabled", .bool (cfg .audioEnabled)),
  ("sampleRate", text.integer (cfg .audioSampleRate).toNat),
  ("channels", text.integer (cfg .audioChannels).toNat),
  ("codec", .string (cfg .audioCodec).1),
  ("volume", text.integer (cfg .audioVolume).toInt),
  ("mute", .bool (cfg .audioMute))]

def savedImu : List (String × CJson D) := [
  ("enabled", .bool (cfg .imuEnabled)),
  ("i2cDevice", .string (cfg .imuI2cDevice).1),
  ("i2cAddr", .string (addrText (cfg .imuI2cAddr))),
  ("sampleRateHz", text.integer (cfg .imuSampleRateHz).toInt),
  ("gyroRangeDps", text.integer (cfg .imuGyroRangeDps).toInt),
  ("calFile", .string (cfg .imuCalFile).1),
  ("calSamples", text.integer (cfg .imuCalSamples).toInt)]

def savedEis : List (String × CJson D) := [
  ("enabled", .bool (cfg .eisEnabled)),
  ("mode", .string (cfg .eisMode).1),
  ("marginPercent", text.integer (cfg .eisMarginPercent).toInt),
  ("testMode", .bool (cfg .eisTestMode)),
  ("swapXY", .bool (cfg .eisSwapXy)),
  ("invertX", .bool (cfg .eisInvertX)),
  ("invertY", .bool (cfg .eisInvertY)),
  ("gain", text.float (cfg .eisGain)),
  ("deadbandRad", text.float (cfg .eisDeadbandRad)),
  ("recenterRate", text.float (cfg .eisRecenterRate)),
  ("maxSlewPx", text.float (cfg .eisMaxSlewPx)),
  ("biasAlpha", text.float (cfg .eisBiasAlpha))]

def savedRecord : List (String × CJson D) := [
  ("enabled", .bool (cfg .recordEnabled)),
  ("dir", .string (cfg .recordDir).1),
  ("format", .string (cfg .recordFormat).1),
  ("mode", .string (cfg .recordMode).1),
  ("maxSeconds", text.integer (cfg .recordMaxSeconds).toNat),
  ("maxMB", text.integer (cfg .recordMaxMb).toNat),
  ("bitrate", text.integer (cfg .recordBitrate).toNat),
  ("fps", text.integer (cfg .recordFps).toNat),
  ("gopSize", text.createNumber (cfg .recordGopSize)),
  ("server", .string (cfg .recordServer).1)]

def savedDebug : List (String × CJson D) := [("showOsd", .bool (cfg .debugShowOsd))]

def configToCjson : CJson D := .object [
  ("system", .object (savedSystem text cfg)),
  ("sensor", .object (savedSensor text cfg)),
  ("isp", .object (savedIsp text cfg)),
  ("image", .object (savedImage text cfg)),
  ("video0", .object (savedVideo0 text cfg)),
  ("outgoing", .object (savedOutgoing text cfg)),
  ("fpv", .object (savedFpv text cfg)),
  ("audio", .object (savedAudio text cfg)),
  ("imu", .object (savedImu text cfg)),
  ("eis", .object (savedEis text cfg)),
  ("record", .object (savedRecord text cfg)),
  ("debug", .object (savedDebug cfg))]

/-- The document that a load of venc_config_to_json_string parses. -/
def savedRoot : CJson D := reparse text (configToCjson text cfg)

end WaybeamVenc.ConfigSave
