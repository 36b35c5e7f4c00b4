import WaybeamVenc.PipelineGeometry
import WaybeamVenc.Staged

namespace WaybeamVenc.PipelineLifecycle

open PipelineGeometry Staged

@[ext]
structure Vif where
  dev : Bool
  port : Bool
deriving DecidableEq

@[ext]
structure Scaler where
  channel : Bool
  running : Bool
  port : Bool
deriving DecidableEq

@[ext]
structure Encoder where
  channel : Bool
  receiving : Bool
deriving DecidableEq

@[ext]
structure Links where
  vifVpe : Bool
  vpeVenc0 : Bool
  vpeVenc1 : Bool
deriving DecidableEq

/-- What belongs to the process and ends with it. -/
@[ext]
structure Owned where
  output : Bool
  dualOutput : Bool
  audio : Bool
  imu : Bool
  imuThread : Bool
  eis : Bool
  osd : Bool
  recThread : Bool
deriving DecidableEq

@[ext]
structure Hardware where
  sensor : Bool
  vif : Vif
  vpe : Scaler
  venc0 : Encoder
  venc1 : Encoder
  links : Links
  owned : Owned
deriving DecidableEq

def Vif.off : Vif := ⟨false, false⟩
def Vif.on : Vif := ⟨true, true⟩
def Scaler.off : Scaler := ⟨false, false, false⟩
def Scaler.on : Scaler := ⟨true, true, true⟩
def Encoder.off : Encoder := ⟨false, false⟩
def Encoder.on : Encoder := ⟨true, true⟩
def Links.off : Links := ⟨false, false, false⟩
def Owned.none : Owned := ⟨false, false, false, false, false, false, false, false⟩

def Hardware.off : Hardware := ⟨false, .off, .off, .off, .off, .off, .none⟩

inductive Call
  | snrQuery
  | snrDisable
  | snrConfigure
  | snrEnable
  | snrGetInfo
  | vifSetDevAttr
  | vifEnableDev
  | vifSetChnPortAttr
  | vifEnableChnPort
  | vifDisableChnPort
  | vifDisableDev
  | vpeCreateChannel
  | vpeSetChannelParam
  | vpeStartChannel
  | vpeSetPortMode
  | vpeEnablePort
  | vpeDisablePort
  | vpeStopChannel
  | vpeDestroyChannel
  | vencCreateChn0
  | vencStartRecvPic0
  | vencGetChnDevid0
  | vencStopRecvPic0
  | vencDestroyChn0
  | vencCreateChn1
  | vencStartRecvPic1
  | vencStopRecvPic1
  | vencDestroyChn1
  | bindVifVpe
  | unbindVifVpe
  | bindVpeVenc0
  | unbindVpeVenc0
  | bindVpeVenc1
  | unbindVpeVenc1
  | outputInit
  | outputTeardown
  | dualOutputInit
  | dualOutputTeardown
  | audioInit
  | audioTeardown
  | imuInit
  | imuThreadCreate
  | imuStop
  | imuDestroy
  | eisCreate
  | eisDestroy
  | osdCreate
  | osdDestroy
  | recThreadCreate
  | recThreadJoin
deriving DecidableEq

/-- What a call must not meet: a VPE call without a channel ends the process, a
channel is not created twice, no thread takes frames while its channel is
unbound or stopped, and the IMU thread does not outlive what it pushes to. -/
def allowed (hw : Hardware) : Call → Bool
  | .vpeCreateChannel => !hw.vpe.channel
  | .vpeSetChannelParam | .vpeStartChannel | .vpeSetPortMode | .vpeEnablePort | .vpeDisablePort | .vpeStopChannel
  | .vpeDestroyChannel => hw.vpe.channel
  | .vencCreateChn0 => !hw.venc0.channel
  | .vencCreateChn1 => !hw.venc1.channel
  | .unbindVpeVenc0 | .unbindVpeVenc1 | .vencStopRecvPic0 | .vencStopRecvPic1 => !hw.owned.recThread
  | .eisDestroy | .imuDestroy => !hw.owned.imuThread
  | _ => true

def effect (hw : Hardware) : Call → Hardware
  | .snrEnable => { hw with sensor := true }
  | .snrDisable => { hw with sensor := false }
  | .vifEnableDev => { hw with vif.dev := true }
  | .vifEnableChnPort => { hw with vif.port := true }
  | .vifDisableChnPort => { hw with vif.port := false }
  | .vifDisableDev => { hw with vif.dev := false }
  | .vpeCreateChannel => { hw with vpe.channel := true }
  | .vpeStartChannel => { hw with vpe.running := true }
  | .vpeEnablePort => { hw with vpe.port := true }
  | .vpeDisablePort => { hw with vpe.port := false }
  | .vpeStopChannel => { hw with vpe.running := false }
  | .vpeDestroyChannel => { hw with vpe := .off }
  | .vencCreateChn0 => { hw with venc0.channel := true }
  | .vencStartRecvPic0 => { hw with venc0.receiving := true }
  | .vencStopRecvPic0 => { hw with venc0.receiving := false }
  | .vencDestroyChn0 => { hw with venc0 := .off }
  | .vencCreateChn1 => { hw with venc1.channel := true }
  | .vencStartRecvPic1 => { hw with venc1.receiving := true }
  | .vencStopRecvPic1 => { hw with venc1.receiving := false }
  | .vencDestroyChn1 => { hw with venc1 := .off }
  | .bindVifVpe => { hw with links.vifVpe := true }
  | .unbindVifVpe => { hw with links.vifVpe := false }
  | .bindVpeVenc0 => { hw with links.vpeVenc0 := true }
  | .unbindVpeVenc0 => { hw with links.vpeVenc0 := false }
  | .bindVpeVenc1 => { hw with links.vpeVenc1 := true }
  | .unbindVpeVenc1 => { hw with links.vpeVenc1 := false }
  | .outputInit => { hw with owned.output := true }
  | .outputTeardown => { hw with owned.output := false }
  | .dualOutputInit => { hw with owned.dualOutput := true }
  | .dualOutputTeardown => { hw with owned.dualOutput := false }
  | .audioInit => { hw with owned.audio := true }
  | .audioTeardown => { hw with owned.audio := false }
  | .imuInit => { hw with owned.imu := true }
  | .imuThreadCreate => { hw with owned.imuThread := true }
  | .imuStop => { hw with owned.imuThread := false }
  | .imuDestroy => { hw with owned.imu := false }
  | .eisCreate => { hw with owned.eis := true }
  | .eisDestroy => { hw with owned.eis := false }
  | .osdCreate => { hw with owned.osd := true }
  | .osdDestroy => { hw with owned.osd := false }
  | .recThreadCreate => { hw with owned.recThread := true }
  | .recThreadJoin => { hw with owned.recThread := false }
  | .snrQuery | .snrConfigure | .snrGetInfo | .vifSetDevAttr | .vifSetChnPortAttr | .vpeSetChannelParam | .vpeSetPortMode
  | .vencGetChnDevid0 => hw

/-- A port may be on although enabling it failed, and a half-made output open. -/
def failedEffect (hw : Hardware) : Call → Hardware
  | .vifEnableChnPort => { hw with vif.port := true }
  | .vpeEnablePort => { hw with vpe.port := true }
  | .outputInit => { hw with owned.output := true }
  | .dualOutputInit => { hw with owned.dualOutput := true }
  | _ => hw

/-- The part of VencConfig that decides which calls are made. -/
structure Config where
  prepared : Bool
  request : Request
  audioSkipped : Bool
  imuEnabled : Bool
  eisEnabled : Bool
  eisTestMode : Bool
  showOsd : Bool
  dual : Bool
  dualStream : Bool

/-- What the calls of one operation return: which fail, whether the IMU takes
to its FIFO, and the sensor that is selected. -/
structure Board where
  fails : Call → Bool
  fifo : Bool
  sensor : PipelineGeometry.Sensor

/-- The calls of the SDK that take down, whose results the code does not look at. -/
def teardowns : List Call :=
  [.snrDisable, .vifDisableChnPort, .vifDisableDev, .vpeDisablePort, .vpeStopChannel, .vpeDestroyChannel, .vencStopRecvPic0,
    .vencDestroyChn0, .vencStopRecvPic1, .vencDestroyChn1, .unbindVifVpe, .unbindVpeVenc0, .unbindVpeVenc1]

/-- Whatever else fails, the calls that take down do what they say. -/
def Board.Obeys (board : Board) : Prop := ∀ c ∈ teardowns, board.fails c = false

structure DualVenc where
  bound : Bool
  recStarted : Bool
deriving DecidableEq

/-- Star6ePipelineState with the hardware behind it. The sensor and the VIF
device were to be disabled phyCycles times, and sound says that no call so far
met what it must not meet. -/
@[ext]
structure Pipe where
  hw : Hardware
  boundVifVpe : Bool
  boundVpeVenc : Bool
  dual : Option DualVenc
  imu : Bool
  eis : Bool
  osd : Bool
  sensor : PipelineGeometry.Sensor
  imageWidth : UInt32
  imageHeight : UInt32
  phyCycles : Nat
  sound : Bool
deriving DecidableEq

def isPhyCycle : Call → Bool
  | .snrDisable | .vifDisableDev => true
  | _ => false

/-- A call that succeeds, or has no result. -/
def Pipe.issue (p : Pipe) (c : Call) : Pipe :=
  { p with
    hw := effect p.hw c
    phyCycles := if isPhyCycle c then p.phyCycles + 1 else p.phyCycles
    sound := p.sound && allowed p.hw c }

def Pipe.refused (p : Pipe) (c : Call) : Pipe :=
  { p with
    hw := failedEffect p.hw c
    phyCycles := if isPhyCycle c then p.phyCycles + 1 else p.phyCycles
    sound := p.sound && allowed p.hw c }

def call (board : Board) (c : Call) : Routine Pipe := fun p =>
  if board.fails c then (false, p.refused c) else (true, p.issue c)

/-- A call that the code goes on after, failed or not. -/
def attempt (board : Board) (c : Call) (p : Pipe) : Pipe := if board.fails c then p.refused c else p.issue c

def attempts (board : Board) (cs : List Call) (p : Pipe) : Pipe := cs.foldl (fun p c => attempt board c p) p

/-- MI_VPE_GetChannelAttr tells whether there is a channel to tear down. -/
def teardownVpe (board : Board) (p : Pipe) : Pipe :=
  if p.hw.vpe.channel then attempts board [.vpeDisablePort, .vpeStopChannel, .vpeDestroyChannel] p else p

def preInitTeardown (board : Board) (p : Pipe) : Pipe :=
  let p := attempts board [.unbindVpeVenc0, .unbindVifVpe, .vencStopRecvPic0, .vencDestroyChn0] p
  attempts board [.vifDisableChnPort, .vifDisableDev] (teardownVpe board p)

def sensorSelect (board : Board) : Routine Pipe :=
  andThen (call board .snrQuery)
    (andThen (always (attempt board .snrDisable))
      (andThen (call board .snrConfigure)
        (andThen (call board .snrEnable)
          (andThen (call board .snrGetInfo) (always ({ · with sensor := board.sensor }))))))

def stopSensor (board : Board) (p : Pipe) : Pipe := attempt board .snrDisable p

def selectAndConfigureSensor (board : Board) (cfg : Config) : Routine Pipe :=
  andThen (always (preInitTeardown board))
    (andThen (sensorSelect board)
      (always fun p =>
        let image := clampImageSize (selectedSize p.sensor).1 (selectedSize p.sensor).2 cfg.request.width cfg.request.height
        { p with imageWidth := image.1, imageHeight := image.2 }))

def stopVif (board : Board) (p : Pipe) : Pipe := attempts board [.vifDisableChnPort, .vifDisableDev] p

def startVif (board : Board) : Routine Pipe :=
  andThen (call board .vifSetDevAttr)
    (andThen (call board .vifEnableDev)
      (andThen (undoing (call board .vifSetChnPortAttr) (attempt board .vifDisableDev))
        (undoing (call board .vifEnableChnPort) (attempts board [.vifDisableChnPort, .vifDisableDev]))))

def startVpe (board : Board) : Routine Pipe :=
  andThen (call board .vpeCreateChannel)
    (andThen (undoing (call board .vpeSetChannelParam) (attempt board .vpeDestroyChannel))
      (andThen (undoing (call board .vpeStartChannel) (attempt board .vpeDestroyChannel))
        (andThen (undoing (call board .vpeSetPortMode) (attempts board [.vpeStopChannel, .vpeDestroyChannel]))
          (undoing (call board .vpeEnablePort)
            (attempts board [.vpeDisablePort, .vpeStopChannel, .vpeDestroyChannel])))))

def stopVpe (board : Board) (p : Pipe) : Pipe := attempts board [.vpeDisablePort, .vpeStopChannel, .vpeDestroyChannel] p

/-- star6e_pipeline_start_venc for channel 0. -/
def startVenc0 (board : Board) : Routine Pipe :=
  andThen (call board .vencCreateChn0) (undoing (call board .vencStartRecvPic0) (attempt board .vencDestroyChn0))

def startVenc1 (board : Board) : Routine Pipe :=
  andThen (call board .vencCreateChn1) (undoing (call board .vencStartRecvPic1) (attempt board .vencDestroyChn1))

def stopVenc0 (board : Board) (p : Pipe) : Pipe := attempts board [.vencStopRecvPic0, .vencDestroyChn0] p

def stopVenc1 (board : Board) (p : Pipe) : Pipe := attempts board [.vencStopRecvPic1, .vencDestroyChn1] p

def bindVifVpe (board : Board) : Routine Pipe := fun p =>
  if p.boundVifVpe then (true, p)
  else andThen (call board .bindVifVpe) (always ({ · with boundVifVpe := true })) p

def unbindVifVpe (board : Board) (p : Pipe) : Pipe := { attempt board .unbindVifVpe p with boundVifVpe := false }

def unbindVpeVenc (board : Board) (p : Pipe) : Pipe := { attempt board .unbindVpeVenc0 p with boundVpeVenc := false }

/-- imu_init and imu_start: a thread reads the IMU where its FIFO does not. -/
def startImu (board : Board) (p : Pipe) : Pipe :=
  if board.fails .imuInit then p.refused .imuInit
  else
    let p := { p.issue .imuInit with imu := true }
    if board.fifo then p else attempt board .imuThreadCreate p

def startEis (board : Board) (cfg : Config) (p : Pipe) : Pipe :=
  if !p.imu && !cfg.eisTestMode then p
  else if board.fails .eisCreate then p.refused .eisCreate
  else { p.issue .eisCreate with eis := true }

def startOsd (board : Board) (p : Pipe) : Pipe :=
  if board.fails .osdCreate then p.refused .osdCreate else { p.issue .osdCreate with osd := true }

def startPeripherals (board : Board) (cfg : Config) (p : Pipe) : Pipe :=
  let p := if cfg.audioSkipped then p else attempt board .audioInit p
  let p := if cfg.imuEnabled then startImu board p else p
  let p := if cfg.eisEnabled then startEis board cfg p else p
  if cfg.showOsd then startOsd board p else p

def bindAndFinalizePipeline (board : Board) (cfg : Config) : Routine Pipe :=
  andThen (call board .vencGetChnDevid0)
    (andThen (bindVifVpe board)
      (andThen (undoing (call board .bindVpeVenc0) (unbindVifVpe board))
        (andThen (always ({ · with boundVpeVenc := true }))
          (andThen (undoing (call board .outputInit) fun p =>
              unbindVifVpe board (unbindVpeVenc board (p.issue .outputTeardown)))
            (always (startPeripherals board cfg))))))

/-- star6e_pipeline_start behind prepare_pipeline_config. -/
def acquirePipeline (board : Board) (cfg : Config) : Routine Pipe :=
  andThen (selectAndConfigureSensor board cfg)
    (undoing
      (andThen (startVif board)
        (undoing
          (andThen (startVpe board)
            (undoing
              (andThen (startVenc0 board) (undoing (bindAndFinalizePipeline board cfg) (stopVenc0 board)))
              (stopVpe board)))
          (stopVif board)))
      (stopSensor board))

def pipelineReset (p : Pipe) : Pipe :=
  { p with
    boundVifVpe := false, boundVpeVenc := false, dual := none, imu := false, eis := false, osd := false
    sensor := ⟨⟨0, 0, 0, 0⟩, ⟨0, 0⟩⟩, imageWidth := 0, imageHeight := 0 }

def star6ePipelineStart (board : Board) (cfg : Config) : Routine Pipe :=
  andThen (always pipelineReset) (if cfg.prepared then acquirePipeline board cfg else refuse)

def stopImu (p : Pipe) : Pipe := if p.imu then p.issue .imuStop else p

def destroyEis (p : Pipe) : Pipe := if p.eis then { p.issue .eisDestroy with eis := false } else p

def destroyImu (p : Pipe) : Pipe := if p.imu then { p.issue .imuDestroy with imu := false } else p

def destroyOsd (p : Pipe) : Pipe := if p.osd then { p.issue .osdDestroy with osd := false } else p

def teardownOutputs (p : Pipe) : Pipe :=
  let p := (p.issue .audioTeardown).issue .outputTeardown
  if p.dual.isSome then p.issue .dualOutputTeardown else p

/-- What star6e_pipeline_stop and star6e_pipeline_stop_venc_level do first. -/
def stopPeripherals (p : Pipe) : Pipe :=
  -- the thread pushes to the EIS and has to end before it
  teardownOutputs (destroyOsd (destroyImu (destroyEis (stopImu p))))

def joinRecThread (p : Pipe) : Pipe :=
  match p.dual with
  | some d => if d.recStarted then { p.issue .recThreadJoin with dual := some { d with recStarted := false } } else p
  | none => p

def unbindDual (board : Board) (p : Pipe) : Pipe :=
  match p.dual with
  | some d =>
      if d.bound then { attempt board .unbindVpeVenc1 p with dual := some { d with bound := false } } else p
  | none => p

def stopRecv (board : Board) (p : Pipe) : Pipe :=
  attempt board .vencStopRecvPic0 (if p.dual.isSome then attempt board .vencStopRecvPic1 p else p)

/-- The recording thread ends first: what it takes frames from is unbound next. -/
def stopEncoders (board : Board) (p : Pipe) : Pipe :=
  let p := unbindDual board (joinRecThread p)
  stopRecv board (if p.boundVpeVenc then unbindVpeVenc board p else p)

def destroyEncoders (board : Board) (p : Pipe) : Pipe :=
  attempt board .vencDestroyChn0
    (if p.dual.isSome then { attempt board .vencDestroyChn1 p with dual := none } else p)

def star6ePipelineStop (board : Board) (p : Pipe) : Pipe :=
  let p := stopEncoders board (stopPeripherals p)
  stopSensor board (stopVif board (stopVpe board
    (destroyEncoders board (if p.boundVifVpe then unbindVifVpe board p else p))))

def stopVencLevel (board : Board) (p : Pipe) : Pipe := destroyEncoders board (stopEncoders board (stopPeripherals p))

/-- The aspect ratio changes: the VIF port and the VPE anew, the VIF device as it is. -/
def reconfigureVif (board : Board) : Routine Pipe :=
  andThen (always fun p => if p.boundVifVpe then unbindVifVpe board p else p)
    (andThen (always (stopVpe board))
      (andThen (always (attempt board .vifDisableChnPort))
        (andThen (undoing (call board .vifSetChnPortAttr) (attempt board .vifDisableDev))
          (andThen (undoing (call board .vifEnableChnPort) (attempt board .vifDisableDev))
            (undoing (startVpe board) (stopVif board))))))

def resizeVpePort (board : Board) : Routine Pipe :=
  andThen (always (attempt board .vpeDisablePort))
    (andThen (undoing (call board .vpeSetPortMode) (attempt board .vpeEnablePort)) (call board .vpeEnablePort))

/-- star6e_pipeline_reinit between stop_venc_level and start_venc. -/
def resizeImage (board : Board) (cfg : Config) : Routine Pipe := fun p =>
  let image := clampImageSize p.sensor.capt.width.toUInt32 p.sensor.capt.height.toUInt32 cfg.request.width cfg.request.height
  let resized := { p with imageWidth := image.1, imageHeight := image.2 }
  if image.1 ≠ p.imageWidth ∨ image.2 ≠ p.imageHeight then
    if usablePrecrop p.sensor (usableSize p.sensor) p.imageWidth p.imageHeight ≠
        usablePrecrop p.sensor (usableSize p.sensor) image.1 image.2 then
      reconfigureVif board resized
    else resizeVpePort board resized
  else (true, resized)

def star6ePipelineReinit (board : Board) (cfg : Config) : Routine Pipe :=
  andThen (always (stopVencLevel board))
    (if cfg.prepared then
      andThen (resizeImage board cfg)
        (andThen (startVenc0 board) (undoing (bindAndFinalizePipeline board cfg) (stopVenc0 board)))
    else refuse)

def star6ePipelineStartDual (board : Board) : Routine Pipe :=
  andThen (startVenc1 board)
    (andThen (undoing (call board .bindVpeVenc1) (stopVenc1 board))
      (always ({ · with dual := some ⟨true, false⟩ })))

def dualRecThreadStart (board : Board) (p : Pipe) : Pipe :=
  if board.fails .recThreadCreate then p.refused .recThreadCreate
  else { p.issue .recThreadCreate with dual := p.dual.map ({ · with recStarted := true }) }

/-- The dual channel in star6e_runtime_apply_startup_controls. -/
def applyStartupControls (board : Board) (cfg : Config) (p : Pipe) : Pipe :=
  if cfg.dual then
    match star6ePipelineStartDual board p with
    | (false, p) => p
    | (true, p) => dualRecThreadStart board (if cfg.dualStream then attempt board .dualOutputInit p else p)
  else p

end WaybeamVenc.PipelineLifecycle
