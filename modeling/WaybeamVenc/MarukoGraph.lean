import WaybeamVenc.Runs
import WaybeamVenc.Staged

namespace WaybeamVenc.MarukoGraph

open Runs Staged

/-! The ISP and the scaler are driven by the same calls. -/

inductive StageCall
  | createDevice
  | createChannel
  | setChannelParam
  | startChannel
  | setPortConfig
  | enablePort
  | disablePort
  | stopChannel
  | destroyChannel
  | destroyDevice
deriving DecidableEq

/-- One of the two, with the flags of what has been created. With the 3A of the
ISP running, destroying its channel meets a mutex that the kernel has lost. -/
@[ext]
structure Stage where
  device : Bool
  channel : Bool
  running : Bool
  port : Bool
  devCreated : Bool
  chnCreated : Bool
  threeA : Bool
  mutexSafe : Bool
  sound : Bool
deriving DecidableEq

def Stage.allowed (s : Stage) : StageCall → Bool
  | .createDevice => !s.device
  | .createChannel => s.device && !s.channel
  | .setChannelParam | .startChannel | .setPortConfig | .enablePort | .disablePort | .stopChannel | .destroyChannel =>
      s.channel
  | .destroyDevice => s.device && !s.channel

def Stage.effect (s : Stage) : StageCall → Stage
  | .createDevice => { s with device := true }
  | .createChannel => { s with channel := true }
  | .startChannel => { s with running := true }
  | .enablePort => { s with port := true }
  | .disablePort => { s with port := false }
  | .stopChannel => { s with running := false }
  | .destroyChannel => { s with channel := false, running := false, port := false, mutexSafe := s.mutexSafe && !s.threeA }
  | .destroyDevice => { s with device := false }
  | .setChannelParam | .setPortConfig => s

def Stage.issue (s : Stage) (c : StageCall) : Stage := { s.effect c with sound := s.sound && s.allowed c }

/-- A call that fails. The mutex is met all the same. -/
def Stage.refused (s : Stage) (c : StageCall) : Stage :=
  { s with
    mutexSafe := if c = .destroyChannel then s.mutexSafe && !s.threeA else s.mutexSafe
    sound := s.sound && s.allowed c }

def stageCall (fails : StageCall → Bool) (c : StageCall) : Routine Stage := fun s =>
  if fails c then (false, s.refused c) else (true, s.issue c)

/-- A call whose result the code does not look at. -/
def stageAttempt (fails : StageCall → Bool) (c : StageCall) (s : Stage) : Stage :=
  if fails c then s.refused c else s.issue c

def stageAttempts (fails : StageCall → Bool) (cs : List StageCall) (s : Stage) : Stage :=
  cs.foldl (fun s c => stageAttempt fails c s) s

def createDevice (fails : StageCall → Bool) : Routine Stage := fun s =>
  if s.devCreated then (true, s)
  else andThen (stageCall fails .createDevice) (always ({ · with devCreated := true })) s

def createChannel (fails : StageCall → Bool) : Routine Stage := fun s =>
  if s.chnCreated then (true, s)
  else andThen (stageCall fails .createChannel) (always ({ · with chnCreated := true })) s

/-- configure_maruko_isp and configure_maruko_scl. What their fail label
destroys stays flagged as created. -/
def configureStage (fails : StageCall → Bool) : Routine Stage :=
  andThen (createDevice fails)
    (undoing
      (andThen (createChannel fails)
        (undoing
          (andThen (stageCall fails .setChannelParam)
            (andThen (stageCall fails .startChannel)
              (undoing (andThen (stageCall fails .setPortConfig) (stageCall fails .enablePort))
                (stageAttempt fails .stopChannel))))
          (stageAttempt fails .destroyChannel)))
      (stageAttempt fails .destroyDevice))

/-- What maruko_start_vpe undoes of the ISP when the scaler fails. -/
def dismantle (fails : StageCall → Bool) (s : Stage) : Stage :=
  stageAttempts fails [.disablePort, .stopChannel, .destroyChannel, .destroyDevice] s

/-- The scaler in maruko_stop_vpe_channels. -/
def stopScl (fails : StageCall → Bool) (s : Stage) : Stage :=
  if s.chnCreated then
    { stageAttempts fails [.disablePort, .stopChannel, .destroyChannel] s with chnCreated := false }
  else s

/-- The ISP in maruko_stop_vpe_channels: its channel is kept. -/
def stopIsp (fails : StageCall → Bool) (s : Stage) : Stage :=
  if s.chnCreated then stageAttempts fails [.disablePort, .stopChannel] s else s

/-! The graph around them. -/

@[ext]
structure Vif where
  group : Bool
  dev : Bool
  port : Bool
deriving DecidableEq

@[ext]
structure Venc where
  dev : Bool
  channel : Bool
  receiving : Bool
deriving DecidableEq

@[ext]
structure Links where
  vifIsp : Bool
  ispScl : Bool
  sclVenc : Bool
deriving DecidableEq

def Vif.off : Vif := ⟨false, false, false⟩
def Vif.on : Vif := ⟨true, true, true⟩
def Venc.off : Venc := ⟨false, false, false⟩
def Links.off : Links := ⟨false, false, false⟩

inductive Call
  | snrQuery
  | snrDisable
  | snrConfigure
  | snrEnable
  | snrGetInfo
  | vifCreateDevGroup
  | vifSetDevAttr
  | vifEnableDev
  | vifSetOutputPortAttr
  | vifEnableOutputPort
  | vifDisableOutputPort
  | vifDisableDev
  | vifDestroyDevGroup
  | vencCreateDev
  | vencCreateChn
  | vencStartRecv
  | vencStopRecv
  | vencDestroyChn
  | vencDestroyDev
  | bindVifIsp
  | unbindVifIsp
  | bindIspScl
  | unbindIspScl
  | bindSclVenc
  | unbindSclVenc
  | loadIspBin
  | outputInit
  | outputTeardown
deriving DecidableEq

/-- MarukoBackendContext and the flags of maruko_pipeline.c, with the hardware. -/
@[ext]
structure Ctx where
  sensor : Bool
  vif : Vif
  isp : Stage
  scl : Stage
  venc : Venc
  links : Links
  output : Bool
  sensorEnabled : Bool
  vifStarted : Bool
  vpeStarted : Bool
  vencStarted : Bool
  vencDevCreated : Bool
  boundVifVpe : Bool
  boundIspVpe : Bool
  boundVpeVenc : Bool
  ispInitialized : Bool
  outputEnabled : Bool
  sound : Bool
deriving DecidableEq

def allowed (c : Ctx) : Call → Bool
  | .vifCreateDevGroup => !c.vif.group
  | .vifSetDevAttr | .vifEnableDev | .vifSetOutputPortAttr | .vifEnableOutputPort | .vifDisableOutputPort | .vifDisableDev
  | .vifDestroyDevGroup => c.vif.group
  | .vencCreateDev => !c.venc.dev
  | .vencCreateChn => !c.venc.channel
  | .vencStartRecv | .vencStopRecv | .vencDestroyChn => c.venc.channel
  | .vencDestroyDev => c.venc.dev && !c.venc.channel
  | .bindVifIsp => !c.links.vifIsp
  | .bindIspScl => !c.links.ispScl
  | .bindSclVenc => !c.links.sclVenc
  | .unbindVifIsp => c.links.vifIsp
  | .unbindIspScl => c.links.ispScl
  | .unbindSclVenc => c.links.sclVenc
  | _ => true

def effect (c : Ctx) : Call → Ctx
  | .snrEnable => { c with sensor := true }
  | .snrDisable => { c with sensor := false }
  | .vifCreateDevGroup => { c with vif.group := true }
  | .vifEnableDev => { c with vif.dev := true }
  | .vifEnableOutputPort => { c with vif.port := true }
  | .vifDisableOutputPort => { c with vif.port := false }
  | .vifDisableDev => { c with vif.dev := false }
  | .vifDestroyDevGroup => { c with vif := .off }
  | .vencCreateDev => { c with venc.dev := true }
  | .vencCreateChn => { c with venc.channel := true }
  | .vencStartRecv => { c with venc.receiving := true }
  | .vencStopRecv => { c with venc.receiving := false }
  | .vencDestroyChn => { c with venc.channel := false, venc.receiving := false }
  | .vencDestroyDev => { c with venc.dev := false }
  | .bindVifIsp => { c with links.vifIsp := true }
  | .unbindVifIsp => { c with links.vifIsp := false }
  | .bindIspScl => { c with links.ispScl := true }
  | .unbindIspScl => { c with links.ispScl := false }
  | .bindSclVenc => { c with links.sclVenc := true }
  | .unbindSclVenc => { c with links.sclVenc := false }
  | .outputInit => { c with output := true }
  | .outputTeardown => { c with output := false }
  | .snrQuery | .snrConfigure | .snrGetInfo | .vifSetDevAttr | .vifSetOutputPortAttr | .loadIspBin => c

def Ctx.issue (c : Ctx) (a : Call) : Ctx := { effect c a with sound := c.sound && allowed c a }

def Ctx.refused (c : Ctx) (a : Call) : Ctx := { c with sound := c.sound && allowed c a }

/-- What the calls of one configuration return, and the settings that decide
which are made. -/
structure Board where
  fails : Call → Bool
  ispFails : StageCall → Bool
  sclFails : StageCall → Bool
  ispBin : Bool
  shmWithoutRtp : Bool

def call (board : Board) (a : Call) : Routine Ctx := fun c =>
  if board.fails a then (false, c.refused a) else (true, c.issue a)

def attempt (board : Board) (a : Call) (c : Ctx) : Ctx := if board.fails a then c.refused a else c.issue a

def attempts (board : Board) (as : List Call) (c : Ctx) : Ctx := as.foldl (fun c a => attempt board a c) c

/-- The calls that take down, whose results the code does not look at. -/
def teardowns : List Call :=
  [.snrDisable, .vifDisableOutputPort, .vifDisableDev, .vifDestroyDevGroup, .vencStopRecv, .vencDestroyChn, .vencDestroyDev,
    .unbindVifIsp, .unbindIspScl, .unbindSclVenc]

def stageTeardowns : List StageCall := [.disablePort, .stopChannel, .destroyChannel, .destroyDevice]

def StageObeys (fails : StageCall → Bool) : Prop := ∀ c ∈ stageTeardowns, fails c = false

/-- Whatever else fails, the calls that take down do what they say. -/
structure Board.Obeys (board : Board) : Prop where
  calls : ∀ a ∈ teardowns, board.fails a = false
  isp : StageObeys board.ispFails
  scl : StageObeys board.sclFails

def onIsp : Routine Stage → Routine Ctx := within (·.isp) (fun s c => { c with isp := s })

def onScl : Routine Stage → Routine Ctx := within (·.scl) (fun s c => { c with scl := s })

/-- sensor_select. -/
def sensorSelect (board : Board) : Routine Ctx :=
  andThen (call board .snrQuery)
    (andThen (always (attempt board .snrDisable))
      (andThen (call board .snrConfigure)
        (andThen (call board .snrEnable)
          (andThen (call board .snrGetInfo) (always ({ · with sensorEnabled := true }))))))

def startVif (board : Board) : Routine Ctx :=
  andThen (call board .vifCreateDevGroup)
    (undoing
      (andThen (call board .vifSetDevAttr)
        (andThen (call board .vifEnableDev)
          (undoing (andThen (call board .vifSetOutputPortAttr) (call board .vifEnableOutputPort))
            (attempt board .vifDisableDev))))
      (attempt board .vifDestroyDevGroup))

def stopVif (board : Board) (c : Ctx) : Ctx :=
  attempts board [.vifDisableOutputPort, .vifDisableDev, .vifDestroyDevGroup] c

def startVpe (board : Board) : Routine Ctx :=
  andThen (onIsp (configureStage board.ispFails))
    (undoing (onScl (configureStage board.sclFails)) fun c => { c with isp := dismantle board.ispFails c.isp })

def stopVpeChannels (board : Board) (c : Ctx) : Ctx :=
  { c with scl := stopScl board.sclFails c.scl, isp := stopIsp board.ispFails c.isp }

def createVencDev (board : Board) (c : Ctx) : Ctx :=
  -- a device that is not created is only warned about
  if board.fails .vencCreateDev then { c.refused .vencCreateDev with vencDevCreated := false }
  else { c.issue .vencCreateDev with vencDevCreated := true }

def destroyVencDev (board : Board) (c : Ctx) : Ctx :=
  if c.vencDevCreated then { attempt board .vencDestroyDev c with vencDevCreated := false } else c

def startVenc (board : Board) : Routine Ctx :=
  andThen (always (createVencDev board))
    (undoing
      (andThen (call board .vencCreateChn) (undoing (call board .vencStartRecv) (attempt board .vencDestroyChn)))
      (destroyVencDev board))

def stopVenc (board : Board) (c : Ctx) : Ctx :=
  let c := attempts board [.vencStopRecv, .vencDestroyChn] c
  if c.vencDevCreated then attempt board .vencDestroyDev c else c

/-- The ISP is loaded and its 3A enabled once in the life of the process. -/
def initIsp (board : Board) : Routine Ctx := fun c =>
  if c.ispInitialized then (true, c)
  else
    andThen (if board.ispBin then call board .loadIspBin else always id)
      (always fun c => { c with isp.threeA := true, ispInitialized := true }) c

def bindVifIsp (board : Board) : Routine Ctx :=
  andThen (call board .bindVifIsp) (always ({ · with boundVifVpe := true }))

def bindIspScl (board : Board) : Routine Ctx :=
  andThen (call board .bindIspScl) (always ({ · with boundIspVpe := true }))

def bindSclVenc (board : Board) : Routine Ctx :=
  andThen (call board .bindSclVenc) (always ({ · with boundVpeVenc := true }))

def outputInit (board : Board) : Routine Ctx := if board.shmWithoutRtp then refuse else call board .outputInit

def bindMarukoPipeline (board : Board) : Routine Ctx :=
  andThen (startVenc board)
    (andThen (always ({ · with vencStarted := true }))
      (andThen (bindVifIsp board)
        (andThen (bindIspScl board) (andThen (bindSclVenc board) (andThen (initIsp board) (outputInit board))))))

/-- maruko_pipeline_configure_graph: up to the VIF, up to the scaler, and the rest. -/
def capture (board : Board) : Routine Ctx :=
  andThen (sensorSelect board) (andThen (startVif board) (always ({ · with vifStarted := true })))

def scale (board : Board) : Routine Ctx := andThen (startVpe board) (always ({ · with vpeStarted := true }))

def encode (board : Board) : Routine Ctx :=
  andThen (bindMarukoPipeline board) (always ({ · with outputEnabled := true }))

def configureGraph (board : Board) : Routine Ctx := andThen (capture board) (andThen (scale board) (encode board))

def unbindAll (board : Board) (c : Ctx) : Ctx :=
  let c := if c.boundVpeVenc then { attempt board .unbindSclVenc c with boundVpeVenc := false } else c
  let c := if c.boundIspVpe then { attempt board .unbindIspScl c with boundIspVpe := false } else c
  if c.boundVifVpe then { attempt board .unbindVifIsp c with boundVifVpe := false } else c

def teardownVenc (board : Board) (c : Ctx) : Ctx :=
  if c.vencStarted then { stopVenc board c with vencStarted := false, vencDevCreated := false } else c

def teardownVpe (board : Board) (c : Ctx) : Ctx :=
  if c.vpeStarted then { stopVpeChannels board c with vpeStarted := false } else c

def teardownVif (board : Board) (c : Ctx) : Ctx :=
  if c.vifStarted then { stopVif board c with vifStarted := false } else c

def teardownSensor (board : Board) (c : Ctx) : Ctx :=
  if c.sensorEnabled then { attempt board .snrDisable c with sensorEnabled := false } else c

def teardownGraph (board : Board) (c : Ctx) : Ctx :=
  teardownSensor board (teardownVif board (teardownVpe board (teardownVenc board
    (unbindAll board (c.issue .outputTeardown)))))

/-! One process: maruko_runner_init, maruko_runner_run and maruko_pipeline_teardown. -/

inductive Phase
  | fresh
  | running
  | ended
deriving DecidableEq

structure State where
  ctx : Ctx
  phase : Phase
deriving DecidableEq

inductive Event
  | init (board : Board)
  | restart (prepared : Bool) (board : Board)
  | finish (board : Board)

def Event.board : Event → Board
  | .init board | .restart _ board | .finish board => board

/-- A graph that is not configured ends the process. -/
def configured (board : Board) (c : Ctx) : State :=
  match configureGraph board c with
  | (true, d) => ⟨d, .running⟩
  | (false, d) => ⟨teardownGraph board d, .ended⟩

def step (s : State) : Event → Option State
  | .init board => if s.phase = .fresh then some (configured board s.ctx) else none
  | .restart prepared board =>
      if s.phase = .running then
        some (if prepared then configured board (teardownGraph board s.ctx)
          else ⟨teardownGraph board (teardownGraph board s.ctx), .ended⟩)
      else none
  | .finish board => if s.phase = .running then some ⟨teardownGraph board s.ctx, .ended⟩ else none

def Stage.absent : Stage := ⟨false, false, false, false, false, false, false, true, true⟩

def start : State :=
  ⟨⟨false, .off, .absent, .absent, .off, .off, false, false, false, false, false, false, false, false, false, false,
    false, true⟩, .fresh⟩

end WaybeamVenc.MarukoGraph
