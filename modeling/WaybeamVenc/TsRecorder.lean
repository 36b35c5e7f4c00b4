import WaybeamVenc.ConfigSave
import WaybeamVenc.TsMux

namespace WaybeamVenc.TsRecorder

open CNumber ConfigSave TsMux

structure Timespec where
  sec : Nat
  nsec : Nat
deriving DecidableEq

/-- What one write(2) does. -/
inductive WriteRet
  | wrote (n : Nat)
  | interrupted
  | failed (noSpace : Bool)
deriving DecidableEq

/-- What write_all puts into the file and returns, the error of errno being
whether it is ENOSPC. Behind the list every write is complete. -/
def writeAll : List WriteRet → List UInt8 → List UInt8 × Except Bool Nat
  | _, [] => ([], .ok 0)
  | [], data => (data, .ok data.length)
  | .interrupted :: rets, data => writeAll rets data
  | .failed noSpace :: _, _ => ([], .error noSpace)
  | .wrote n :: rets, data =>
    if n = 0 then ([], .ok 0)
    else
      let (written, ret) := writeAll rets (data.drop n)
      (data.take n ++ written, ret.map (· + min n data.length))

def recorderPathMax : Nat := 256

/-- A number as printf's %02u or, in base 16, %04x writes it. -/
def digits (width base n : Nat) : CString := (Nat.toDigits base n).leftpad width '0'

/-- The unsigned long of the target has 32 bits. -/
def buildTsPath (dir : CString) (ts : Timespec) : CString :=
  let uptime := ts.sec % 2 ^ 32
  let randSuffix := ts.nsec / 1000 % 2 ^ 32 % 2 ^ 16
  let sep := if dir.getLast? = some '/' then [] else ['/']
  (dir ++ sep ++ ['r', 'e', 'c', '_'] ++ digits 2 10 (uptime / 3600) ++ 'h' :: digits 2 10 (uptime % 3600 / 60) ++
    'm' :: digits 2 10 (uptime % 60) ++ 's' :: '_' :: digits 4 16 randSuffix ++ ['.', 't', 's']).take
    (recorderPathMax - 1)

inductive StopReason
  | manual
  | diskFull
  | writeError
deriving DecidableEq

/-- The descriptor is the path of the file that it has open. -/
structure Star6eTsRecorderState where
  fd : Option CString
  bytesWritten : Nat
  framesWritten : UInt32
  segments : UInt32
  syncIntervalFrames : UInt32
  framesSinceSync : UInt32
  spaceCheckCountdown : UInt32
  lastStopReason : StopReason
  startTime : Timespec
  segmentStartTime : Timespec
  dir : CString
  path : CString
  mux : TsMuxState
  audioRing : Bool
  maxSeconds : UInt32
  maxBytes : Nat
  segmentBytes : Nat

def recorderSyncDefaultFrames : UInt32 := 900

def recorderMinFreeBytes : Nat := 50 * 1024 * 1024

def recorderSpaceCheckInterval : UInt32 := 300

def star6eTsRecorderInit (audioRate : UInt32) (audioChannels : UInt8) : Star6eTsRecorderState where
  fd := none
  bytesWritten := 0
  framesWritten := 0
  segments := 0
  syncIntervalFrames := recorderSyncDefaultFrames
  framesSinceSync := 0
  spaceCheckCountdown := 0
  lastStopReason := .manual
  startTime := ⟨0, 0⟩
  segmentStartTime := ⟨0, 0⟩
  dir := []
  path := []
  mux := tsMuxInit audioRate audioChannels
  audioRing := false
  maxSeconds := 300
  maxBytes := 500 * 1024 * 1024
  segmentBytes := 0

/-- The arguments of one call of star6e_ts_recorder_write_video. -/
structure Frame where
  data : List UInt8
  pts : UInt64
  isIdr : Bool
deriving DecidableEq

/-- A file that a recording has opened, with the frame whose call opened it. -/
structure File where
  path : CString
  opener : Option Frame
  bytes : List UInt8
deriving DecidableEq

/-- open(2) with O_CREAT and O_TRUNC: a file that was there is emptied. -/
def createFile (disk : List File) (path : CString) (opener : Option Frame) : List File :=
  disk.filter (fun f => f.path ≠ path) ++ [⟨path, opener, []⟩]

def appendFile (disk : List File) (path : CString) (bytes : List UInt8) : List File :=
  disk.map fun f => if f.path = path then { f with bytes := f.bytes ++ bytes } else f

structure Recording where
  state : Star6eTsRecorderState
  disk : List File

def stopWithReason (state : Star6eTsRecorderState) (reason : StopReason) : Star6eTsRecorderState :=
  if state.fd = none then state else { state with fd := none, lastStopReason := reason }

/-- What open_new_segment meets: the clock as the path is built, whether the
file opens, its writes, and the clock at the end. -/
structure OpenEnv where
  pathTime : Timespec
  opens : Bool
  rets : List WriteRet
  startTime : Timespec

def tsMuxResetCc (s : TsMuxState) : TsMuxState := { s with ccPat := 0, ccPmt := 0, ccVideo := 0, ccAudio := 0 }

def segmentMux (s : TsMuxState) : TsMuxState := { tsMuxResetCc s with videoFrames := 0, discontinuity := true }

def openNewSegment (r : Recording) (opener : Option Frame) (env : OpenEnv) : Recording × Bool :=
  let path := buildTsPath r.state.dir env.pathTime
  if env.opens then
    let (mux, tables) := tsMuxWritePatPmt (segmentMux r.state.mux) (2 * tsPacketSize)
    let (written, ret) := writeAll env.rets tables.flatten
    let disk := appendFile (createFile r.disk path opener) path written
    match ret with
    | .error _ => (⟨{ r.state with fd := none, path := path, mux := mux }, disk⟩, false)
    | .ok n =>
      (⟨{ r.state with
          fd := some path
          path := path
          mux := mux
          bytesWritten := r.state.bytesWritten + n
          segmentBytes := n
          segmentStartTime := env.startTime
          segments := r.state.segments + 1 }, disk⟩, true)
  else (⟨{ r.state with fd := none, path := path }, r.disk⟩, false)

structure StartEnv where
  freeSpace : Nat
  startTime : Timespec
  segment : OpenEnv

/-- A recording starts with no file of its own. -/
def star6eTsRecorderStart (state : Star6eTsRecorderState) (dir : CString) (audioRing : Bool) (env : StartEnv) :
    Recording × Int :=
  if dir = [] then (⟨state, []⟩, -1)
  else
    let state := stopWithReason state .manual
    if 0 < env.freeSpace ∧ env.freeSpace < recorderMinFreeBytes then
      (⟨{ state with lastStopReason := .diskFull }, []⟩, -1)
    else
      let (r, opened) := openNewSegment ⟨{ state with
        dir := dir.take (recorderPathMax - 1)
        audioRing := audioRing
        bytesWritten := 0
        framesWritten := 0
        segments := 0
        framesSinceSync := 0
        spaceCheckCountdown := recorderSpaceCheckInterval
        lastStopReason := .manual
        segmentBytes := 0
        startTime := env.startTime }, []⟩ none env.segment
      (r, if opened then 0 else -1)

/-- Whether the recording may go on; free space is read every 300 frames. -/
def checkDiskSpace (state : Star6eTsRecorderState) (freeSpace : Nat) : Star6eTsRecorderState × Bool :=
  if 0 < state.spaceCheckCountdown then
    ({ state with spaceCheckCountdown := state.spaceCheckCountdown - 1 }, true)
  else if 0 < freeSpace ∧ freeSpace < recorderMinFreeBytes then
    (stopWithReason { state with spaceCheckCountdown := recorderSpaceCheckInterval } .diskFull, false)
  else ({ state with spaceCheckCountdown := recorderSpaceCheckInterval }, true)

/-- should_rotate; a clock that has gone back counts as a long time. -/
def shouldRotate (state : Star6eTsRecorderState) (now : Timespec) : Bool :=
  let elapsed := ((now.sec : Int) - state.segmentStartTime.sec) % 2 ^ 32
  (decide (0 < state.maxSeconds) && decide ((state.maxSeconds.toNat : Int) ≤ elapsed)) ||
    (decide (0 < state.maxBytes) && decide (state.maxBytes ≤ state.segmentBytes))

def checkRotation (r : Recording) (frame : Frame) (now : Timespec) (env : OpenEnv) : Recording × Bool :=
  if frame.isIdr && shouldRotate r.state now then
    let (r, opened) := openNewSegment { r with state := { r.state with fd := none, segmentBytes := 0 } } (some frame) env
    if opened then (r, true) else ({ r with state := { r.state with lastStopReason := .writeError } }, false)
  else (r, true)

structure AudioRingEntry where
  pcm : List UInt8
  timestampUs : UInt64

def tsMuxTimespecToPts (sec nsec : UInt32) : UInt64 := sec.toUInt64 * 90000 + nsec.toUInt64 / 11111

def audioPts (ae : AudioRingEntry) : UInt64 :=
  tsMuxTimespecToPts (ae.timestampUs / 1000000).toUInt32 (ae.timestampUs % 1000000 * 1000).toUInt32

def tsBufSize : Nat := 3000 * tsPacketSize

/-- The entries the ring yields while the buffer has room for eight packets. -/
def drainAudio (mux : TsMuxState) (tsLen : Nat) : List AudioRingEntry → TsMuxState × List (List UInt8)
  | [] => (mux, [])
  | ae :: ring =>
    if 8 * tsPacketSize ≤ tsBufSize - tsLen then
      let (mux, packets) := tsMuxWriteAudio mux (tsBufSize - tsLen) ae.pcm (audioPts ae)
      let (mux, more) := drainAudio mux (tsLen + tsPacketSize * packets.length) ring
      (mux, packets ++ more)
    else (mux, [])

/-- What one call of star6e_ts_recorder_write_video meets. -/
structure CallEnv where
  freeSpace : Nat
  now : Timespec
  segment : OpenEnv
  audio : List AudioRingEntry
  rets : List WriteRet

/-- The packets of one frame: its video, then the audio of the ring. -/
def framePackets (state : Star6eTsRecorderState) (frame : Frame) (audio : List AudioRingEntry) :
    TsMuxState × List (List UInt8) :=
  let (mux, video) := tsMuxWriteVideo state.mux tsBufSize frame.data frame.pts frame.isIdr
  let (mux, more) := if state.audioRing then drainAudio mux (tsPacketSize * video.length) audio else (mux, [])
  (mux, video ++ more)

/-- The rest of star6e_ts_recorder_write_video, once the segment is settled. -/
def writeFrame (r : Recording) (path : CString) (frame : Frame) (env : CallEnv) : Recording × Int :=
  let (mux, packets) := framePackets r.state frame env.audio
  let (written, ret) := writeAll env.rets packets.flatten
  let disk := appendFile r.disk path written
  match ret with
  | .error noSpace =>
    (⟨stopWithReason { r.state with mux := mux } (if noSpace then .diskFull else .writeError), disk⟩, -1)
  | .ok n =>
    let sync := 0 < r.state.syncIntervalFrames ∧ r.state.syncIntervalFrames ≤ r.state.framesSinceSync + 1
    (⟨{ r.state with
        mux := mux
        bytesWritten := r.state.bytesWritten + n
        segmentBytes := r.state.segmentBytes + n
        framesWritten := r.state.framesWritten + 1
        framesSinceSync := if sync then 0 else r.state.framesSinceSync + 1 }, disk⟩, packets.flatten.length)

def star6eTsRecorderWriteVideo (r : Recording) (frame : Frame) (env : CallEnv) : Recording × Int :=
  if r.state.fd = none ∨ frame.data = [] then (r, 0)
  else
    let (state, spaceLeft) := checkDiskSpace r.state env.freeSpace
    if spaceLeft then
      let (r, settled) := checkRotation { r with state := state } frame env.now env.segment
      match settled, r.state.fd with
      | true, some path => writeFrame r path frame env
      | _, _ => (r, -1)
    else ({ r with state := state }, 0)

def writeVideos (r : Recording) (calls : List (Frame × CallEnv)) : Recording :=
  calls.foldl (fun r c => (star6eTsRecorderWriteVideo r c.1 c.2).1) r

end WaybeamVenc.TsRecorder
