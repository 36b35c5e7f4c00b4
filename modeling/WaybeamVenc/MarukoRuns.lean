import WaybeamVenc.MarukoViews

namespace WaybeamVenc.MarukoRuns

open MarukoGraph MarukoViews Runs Staged

attribute [local simp] Stage.issue Stage.refused Stage.allowed Stage.effect

/-! The calls that take down. -/

theorem stageAttempt_obeys {fails : StageCall → Bool} (h : StageObeys fails) (c : StageCall) (hc : c ∈ stageTeardowns) :
    stageAttempt fails c = (·.issue c) := by
  funext s
  rw [stageAttempt, h c hc]
  rfl

theorem stage_obeys {fails : StageCall → Bool} (h : StageObeys fails) :
    fails .disablePort = false ∧ fails .stopChannel = false ∧ fails .destroyChannel = false ∧ fails .destroyDevice = false := by
  simpa [StageObeys, stageTeardowns] using h

theorem attempt_obeys {board : Board} (h : board.Obeys) (a : Call) (ha : a ∈ teardowns) : attempt board a = (·.issue a) := by
  funext c
  rw [attempt, h.calls a ha]
  rfl

theorem calls_obey {board : Board} (h : board.Obeys) :
    board.fails .snrDisable = false ∧ board.fails .vifDisableOutputPort = false ∧ board.fails .vifDisableDev = false ∧
      board.fails .vifDestroyDevGroup = false ∧ board.fails .vencStopRecv = false ∧ board.fails .vencDestroyChn = false ∧
        board.fails .vencDestroyDev = false ∧ board.fails .unbindVifIsp = false ∧ board.fails .unbindIspScl = false ∧
          board.fails .unbindSclVenc = false := by
  simpa [teardowns] using h.calls

/-! One stage. -/

/-- What is there is flagged as created, and stands still. -/
structure Ready (s : Stage) : Prop where
  device : s.device = s.devCreated
  channel : s.channel = s.chnCreated
  inside : s.chnCreated = true → s.devCreated = true
  running : s.running = false
  port : s.port = false
  threeA : s.threeA = true → s.chnCreated = true

def Stage.up (s : Stage) : Stage :=
  { s with device := true, channel := true, running := true, port := true, devCreated := true, chnCreated := true }

/-- What a configuration that fails leaves of a stage: no channel, and at last
no device. -/
structure Broken (device : Bool) (s t : Stage) : Prop where
  device : t.device = device
  channel : t.channel = false
  running : t.running = false
  port : t.port = false
  threeA : t.threeA = s.threeA
  sound : t.sound = s.sound
  mutexSafe : t.mutexSafe = (s.mutexSafe && !s.threeA)

section

variable {fails : StageCall → Bool} {s : Stage} {c : StageCall} {good bad : Stage → Prop} {q : Routine Stage}

theorem stageCall_ends (hbad : bad (s.refused c)) (hgood : good (s.issue c)) :
    Ends (Eq s) (stageCall fails c) good bad := by
  rintro _ rfl
  by_cases hfails : fails c
  · exact .inr ⟨_, by simp only [stageCall, hfails, if_true], hbad⟩
  · exact .inl ⟨_, by simp only [stageCall, hfails]; rfl, hgood⟩

theorem stageCall_then (hbad : bad (s.refused c)) (k : Ends (Eq (s.issue c)) q good bad) :
    Ends (Eq s) (andThen (stageCall fails c) q) good bad :=
  .andThen (stageCall_ends hbad rfl) k

theorem createDevice_ends (h : s.device = s.devCreated) :
    Ends (Eq s) (createDevice fails) (Eq { s with device := true, devCreated := true })
      (fun t => t = s ∧ s.device = false) := by
  rintro _ rfl
  rw [createDevice]
  split
  case isTrue hc => exact .inl ⟨s, rfl, by simp [Stage.ext_iff, h, hc]⟩
  case isFalse hc =>
    have hd : s.device = false := by simpa [h] using hc
    have hcall : Ends (Eq s) (andThen (stageCall fails .createDevice) (always ({ · with devCreated := true })))
        (Eq { s with device := true, devCreated := true }) (fun t => t = s ∧ s.device = false) :=
      stageCall_then (by simp [hd, Stage.ext_iff]) (.always_eq (by simp [hd]))
    exact hcall s rfl

theorem createChannel_ends (hdev : s.device = true) (h : s.channel = s.chnCreated) :
    Ends (Eq s) (createChannel fails) (Eq { s with channel := true, chnCreated := true })
      (fun t => t = s ∧ s.channel = false) := by
  rintro _ rfl
  rw [createChannel]
  split
  case isTrue hc => exact .inl ⟨s, rfl, by simp [Stage.ext_iff, h, hc]⟩
  case isFalse hc =>
    have hd : s.channel = false := by simpa [h] using hc
    have hcall : Ends (Eq s) (andThen (stageCall fails .createChannel) (always ({ · with chnCreated := true })))
        (Eq { s with channel := true, chnCreated := true }) (fun t => t = s ∧ s.channel = false) :=
      stageCall_then (by simp [hd, hdev, Stage.ext_iff]) (.always_eq (by simp [hd, hdev]))
    exact hcall s rfl

/-- The calls on a channel that is there. -/
theorem runChannel_ends (hchn : s.channel = true) (hrun : s.running = false) :
    Ends (Eq s)
      (andThen (stageCall fails .setChannelParam)
        (andThen (stageCall fails .startChannel)
          (undoing (andThen (stageCall fails .setPortConfig) (stageCall fails .enablePort)) (·.issue .stopChannel))))
      (Eq { s with running := true, port := true }) (Eq s) := by
  have hports : Ends (Eq { s with running := true }) (andThen (stageCall fails .setPortConfig) (stageCall fails .enablePort))
      (Eq { s with running := true, port := true }) (Eq { s with running := true }) := by
    refine stageCall_then ?_ (stageCall_ends ?_ ?_)
    all_goals simp [hchn]
  refine stageCall_then ?_ (stageCall_then ?_ (.of_eq ?_ (.undoing_eq hports ?_)))
  all_goals simp [hchn, hrun, Stage.ext_iff]

theorem Ready.not_threeA {s : Stage} (h : Ready s) (hchn : s.channel = false) : s.threeA = false := by
  have hflag : s.chnCreated = false := h.channel ▸ hchn
  have := h.threeA
  simp_all

theorem configureStage_ends (hobeys : StageObeys fails) (h : Ready s) :
    Ends (Eq s) (configureStage fails) (Eq (Stage.up s)) (Broken false s) := by
  rw [configureStage, stageAttempt_obeys hobeys .stopChannel (by decide), stageAttempt_obeys hobeys .destroyChannel (by decide),
    stageAttempt_obeys hobeys .destroyDevice (by decide)]
  have hchannel : Ends (Eq { s with device := true, devCreated := true, channel := true, chnCreated := true })
      (undoing
        (andThen (stageCall fails .setChannelParam)
          (andThen (stageCall fails .startChannel)
            (undoing (andThen (stageCall fails .setPortConfig) (stageCall fails .enablePort)) (·.issue .stopChannel))))
        (·.issue .destroyChannel)) (Eq (Stage.up s)) (Broken true s) := by
    refine .undoing (runChannel_ends rfl h.running) ?_
    rintro _ rfl
    exact ⟨rfl, rfl, rfl, rfl, rfl, by simp, rfl⟩
  have hdevice : Ends (Eq { s with device := true, devCreated := true })
      (andThen (createChannel fails)
        (undoing
          (andThen (stageCall fails .setChannelParam)
            (andThen (stageCall fails .startChannel)
              (undoing (andThen (stageCall fails .setPortConfig) (stageCall fails .enablePort)) (·.issue .stopChannel))))
          (·.issue .destroyChannel))) (Eq (Stage.up s)) (Broken true s) := by
    refine .andThen ((createChannel_ends ?_ ?_).weaken (fun _ h => h) ?_) hchannel
    · rfl
    · exact h.channel
    · rintro t ⟨rfl, hchn⟩
      exact ⟨rfl, hchn, h.running, h.port, rfl, rfl, by simp [h.not_threeA hchn]⟩
  refine .andThen ((createDevice_ends h.device).weaken (fun _ h => h) ?_) (.undoing hdevice ?_)
  · rintro t ⟨rfl, hdev⟩
    have hchn : t.channel = false := by
      have := h.inside
      have := h.device
      have := h.channel
      simp_all
    exact ⟨hdev, hchn, h.running, h.port, rfl, rfl, by simp [h.not_threeA hchn]⟩
  · intro t ht
    exact ⟨rfl, ht.channel, ht.running, ht.port, ht.threeA, by simp [ht.device, ht.channel, ht.sound], ht.mutexSafe⟩

end

section

variable {fails : StageCall → Bool}

theorem dismantle_broken (hobeys : StageObeys fails) (s : Stage) : Broken false s (dismantle fails (Stage.up s)) := by
  have hall := stage_obeys hobeys
  constructor <;> simp [dismantle, stageAttempts, stageAttempt, Stage.up, hall]

theorem stopScl_up (hobeys : StageObeys fails) (s : Stage) (h : s.threeA = false) :
    stopScl fails (Stage.up s) =
      { Stage.up s with channel := false, running := false, port := false, chnCreated := false } := by
  simp [stopScl, stageAttempts, stageAttempt, Stage.up, h, stage_obeys hobeys]

theorem stopIsp_up (hobeys : StageObeys fails) (s : Stage) :
    stopIsp fails (Stage.up s) = { Stage.up s with running := false, port := false } := by
  simp [stopIsp, stageAttempts, stageAttempt, Stage.up, stage_obeys hobeys]

end

attribute [local simp] Ctx.issue Ctx.refused allowed effect

/-! The graph. -/

section

variable {board : Board} {c : Ctx} {a : Call} {good bad : Ctx → Prop} {q : Routine Ctx}

theorem call_ends (hbad : bad (c.refused a)) (hgood : good (c.issue a)) : Ends (Eq c) (call board a) good bad := by
  rintro _ rfl
  by_cases hfails : board.fails a
  · exact .inr ⟨_, by simp only [call, hfails, if_true], hbad⟩
  · exact .inl ⟨_, by simp only [call, hfails]; rfl, hgood⟩

theorem call_then (hbad : bad (c.refused a)) (k : Ends (Eq (c.issue a)) q good bad) :
    Ends (Eq c) (andThen (call board a) q) good bad :=
  .andThen (call_ends hbad rfl) k

theorem sensorSelect_ends (hobeys : board.Obeys) :
    Ends (Eq c) (sensorSelect board) (Eq { c with sensor := true, sensorEnabled := true })
      (fun d => d = { c with sensor := d.sensor }) := by
  rw [sensorSelect, attempt_obeys hobeys .snrDisable (by decide)]
  refine call_then ?_ (.always_then (call_then ?_ (call_then ?_ (call_then ?_ (.always_eq ?_)))))
  all_goals simp

theorem startVif_ends (hobeys : board.Obeys) (h : c.vif = .off) :
    Ends (Eq c) (startVif board) (Eq { c with vif := .on }) (Eq c) := by
  rw [startVif, attempt_obeys hobeys .vifDisableDev (by decide), attempt_obeys hobeys .vifDestroyDevGroup (by decide)]
  have hports : Ends (Eq { c with vif := ⟨true, true, false⟩ })
      (andThen (call board .vifSetOutputPortAttr) (call board .vifEnableOutputPort)) (Eq { c with vif := .on })
      (Eq { c with vif := ⟨true, true, false⟩ }) := by
    refine call_then ?_ (call_ends ?_ ?_)
    all_goals simp [Vif.on]
  have hdev : Ends (Eq { c with vif := ⟨true, false, false⟩ })
      (andThen (call board .vifSetDevAttr) (andThen (call board .vifEnableDev)
        (undoing (andThen (call board .vifSetOutputPortAttr) (call board .vifEnableOutputPort)) (·.issue .vifDisableDev))))
      (Eq { c with vif := .on }) (Eq { c with vif := ⟨true, false, false⟩ }) := by
    refine call_then ?_ (call_then ?_ (.of_eq ?_ (.undoing_eq hports ?_)))
    all_goals simp
  refine call_then ?_ (.of_eq ?_ (.undoing_eq hdev ?_))
  all_goals simp [h, Vif.off, Ctx.ext_iff]

/-- The ISP has been loaded when and only when its 3A runs. -/
structure Park (c : Ctx) : Prop where
  isp : Ready c.isp
  scl : Ready c.scl
  sclPlain : c.scl.threeA = false
  initialized : c.ispInitialized = c.isp.threeA

def vpeUp (c : Ctx) : Ctx := { c with isp := Stage.up c.isp, scl := Stage.up c.scl }

def VpeFailed (c d : Ctx) : Prop :=
  d = { c with isp := d.isp, scl := d.scl } ∧ Broken false c.isp d.isp ∧ (d.scl = c.scl ∨ Broken false c.scl d.scl)

theorem startVpe_ends (hobeys : board.Obeys) (h : Park c) : Ends (Eq c) (startVpe board) (Eq (vpeUp c)) (VpeFailed c) := by
  have hisp : Ends (Eq c) (onIsp (configureStage board.ispFails)) (Eq { c with isp := Stage.up c.isp }) (VpeFailed c) := by
    refine .within (configureStage_ends hobeys.isp h.isp) ?_ ?_
    · rintro _ rfl
      rfl
    · intro t ht
      exact ⟨rfl, ht, .inl rfl⟩
  have hscl : Ends (Eq { c with isp := Stage.up c.isp }) (onScl (configureStage board.sclFails)) (Eq (vpeUp c))
      (fun d => ∃ t, d = { c with isp := Stage.up c.isp, scl := t } ∧ Broken false c.scl t) := by
    refine .within (configureStage_ends hobeys.scl h.scl) ?_ ?_
    · rintro _ rfl
      rfl
    · intro t ht
      exact ⟨t, rfl, ht⟩
  refine .andThen hisp (.undoing hscl ?_)
  rintro _ ⟨t, rfl, ht⟩
  exact ⟨rfl, dismantle_broken hobeys.isp c.isp, .inr ht⟩

theorem startVenc_ends (hobeys : board.Obeys) (h : c.venc = .off) :
    Ends (Eq c) (startVenc board)
      (fun d => d = { c with venc := ⟨d.vencDevCreated, true, true⟩, vencDevCreated := d.vencDevCreated })
      (Eq { c with vencDevCreated := false }) := by
  have hcreated : createVencDev board c =
      { c with venc := ⟨!board.fails .vencCreateDev, false, false⟩, vencDevCreated := !board.fails .vencCreateDev } := by
    rw [createVencDev]
    split
    case isTrue hf => simp [hf, h, Venc.off]
    case isFalse hf => simp [hf, h, Venc.off]
  rw [startVenc, attempt_obeys hobeys .vencDestroyChn (by decide)]
  refine .always_then ?_
  rw [hcreated]
  generalize (!board.fails .vencCreateDev) = dev
  have hchn : Ends (Eq { c with venc := ⟨dev, false, false⟩, vencDevCreated := dev })
      (andThen (call board .vencCreateChn) (undoing (call board .vencStartRecv) (·.issue .vencDestroyChn)))
      (fun d => d = { c with venc := ⟨d.vencDevCreated, true, true⟩, vencDevCreated := d.vencDevCreated })
      (Eq { c with venc := ⟨dev, false, false⟩, vencDevCreated := dev }) := by
    refine call_then ?_ (.undoing_eq (call_ends rfl ?_) ?_)
    all_goals simp
  refine .undoing_eq hchn ?_
  cases dev <;> simp [destroyVencDev, attempt, calls_obey hobeys, h, Venc.off]

/-! Tearing down, from wherever a configuration got to. -/

/-- The stages stand still, and the scaler has no channel. -/
structure Resting (c : Ctx) : Prop where
  isp : c.isp.running = false ∧ c.isp.port = false ∧ c.isp.device = c.isp.channel
  scl : c.scl.running = false ∧ c.scl.port = false ∧ c.scl.channel = false

/-- What a flag says is what is there. -/
structure Consistent (c : Ctx) : Prop where
  vif : c.vif = if c.vifStarted then .on else .off
  venc : c.venc = if c.vencStarted then ⟨c.vencDevCreated, true, true⟩ else .off
  vencDev : c.vencStarted = false → c.vencDevCreated = false
  links : c.links = ⟨c.boundVifVpe, c.boundIspVpe, c.boundVpeVenc⟩
  up : c.vpeStarted = true → c = vpeUp c ∧ c.scl.threeA = false
  resting : c.vpeStarted = false → Resting c

theorem unbindAll_eq (hobeys : board.Obeys) (h : c.links = ⟨c.boundVifVpe, c.boundIspVpe, c.boundVpeVenc⟩) :
    unbindAll board c = { c with links := .off, boundVifVpe := false, boundIspVpe := false, boundVpeVenc := false } := by
  rw [unbindAll]
  cases hv : c.boundVifVpe <;> cases hi : c.boundIspVpe <;> cases hp : c.boundVpeVenc <;>
    simp [attempt, calls_obey hobeys, hv, hi, hp, h, Links.off, Ctx.ext_iff]

/-- The channel of the ISP is kept, the one of the scaler is not. -/
def rested (c : Ctx) : Ctx :=
  { c with
    isp := { c.isp with running := false, port := false }
    scl := { c.scl with channel := false, chnCreated := false, running := false, port := false } }

theorem stopVpeChannels_eq (hobeys : board.Obeys) (h : c = vpeUp c) (hscl : c.scl.threeA = false) :
    stopVpeChannels board c = rested c := by
  have hisp : c.isp = Stage.up c.isp := congrArg Ctx.isp h
  have hscl' : c.scl = Stage.up c.scl := congrArg Ctx.scl h
  rw [stopVpeChannels, hisp, hscl', stopIsp_up hobeys.isp, stopScl_up hobeys.scl _ hscl, rested, ← hisp, ← hscl']

theorem teardownVenc_eq (hobeys : board.Obeys)
    (h : c.venc = if c.vencStarted then ⟨c.vencDevCreated, true, true⟩ else .off)
    (hdev : c.vencStarted = false → c.vencDevCreated = false) :
    teardownVenc board c = { c with venc := .off, vencStarted := false, vencDevCreated := false } := by
  rw [teardownVenc]
  cases hs : c.vencStarted
  case false => simp_all [Ctx.ext_iff]
  case true =>
    cases hd : c.vencDevCreated <;> simp [stopVenc, attempts, attempt, calls_obey hobeys, h, hs, hd, Venc.off]

theorem teardownVpe_eq (hobeys : board.Obeys) (h : c.vpeStarted = true → c = vpeUp c ∧ c.scl.threeA = false) :
    teardownVpe board c = { (if c.vpeStarted then rested c else c) with vpeStarted := false } := by
  rw [teardownVpe]
  cases hs : c.vpeStarted
  case false => simp [hs, Ctx.ext_iff]
  case true => simp [stopVpeChannels_eq hobeys (h hs).1 (h hs).2]

theorem teardownVif_eq (hobeys : board.Obeys) (h : c.vif = if c.vifStarted then .on else .off) :
    teardownVif board c = { c with vif := .off, vifStarted := false } := by
  rw [teardownVif]
  cases hs : c.vifStarted
  case false => simp_all [Ctx.ext_iff]
  case true => simp [stopVif, attempts, attempt, calls_obey hobeys, h, hs, Vif.on, Vif.off]

theorem teardownSensor_eq (hobeys : board.Obeys) (c : Ctx) :
    teardownSensor board c = { c with sensor := c.sensor && !c.sensorEnabled, sensorEnabled := false } := by
  rw [teardownSensor]
  cases hs : c.sensorEnabled
  case false => simp [hs, Ctx.ext_iff]
  case true => simp [attempt, calls_obey hobeys]

/-- What a teardown leaves. -/
def torn (c : Ctx) : Ctx :=
  { (if c.vpeStarted then rested c else c) with
    sensor := c.sensor && !c.sensorEnabled
    vif := .off
    venc := .off
    links := .off
    output := false
    sensorEnabled := false
    vifStarted := false
    vpeStarted := false
    vencStarted := false
    vencDevCreated := false
    boundVifVpe := false
    boundIspVpe := false
    boundVpeVenc := false }

theorem teardownGraph_eq (hobeys : board.Obeys) (h : Consistent c) : teardownGraph board c = torn c := by
  rw [teardownGraph, unbindAll_eq hobeys, teardownVenc_eq hobeys, teardownVpe_eq hobeys, teardownVif_eq hobeys,
    teardownSensor_eq hobeys]
  · cases hs : c.vpeStarted
    case false => simp [torn, hs]
    case true => simp [torn, rested, hs]
  · cases hs : c.vpeStarted
    case false => simpa [hs] using h.vif
    case true => simpa [hs, rested] using h.vif
  · intro hs
    obtain ⟨hup, hplain⟩ := h.up hs
    refine ⟨?_, hplain⟩
    simpa [vpeUp, Ctx.ext_iff] using hup
  · simpa using h.venc
  · simpa using h.vencDev
  · simpa using h.links

/-! Configuring. -/

/-- Between two graphs: nothing but what a teardown keeps. -/
structure Clear (c : Ctx) : Prop where
  park : Park c
  resting : Resting c
  sclDev : c.isp.threeA = true → c.scl.devCreated = true
  off : c.vif = .off ∧ c.venc = .off ∧ c.links = .off
  flags : c.vifStarted = false ∧ c.vpeStarted = false ∧ c.vencStarted = false ∧ c.vencDevCreated = false
  bound : c.boundVifVpe = false ∧ c.boundIspVpe = false ∧ c.boundVpeVenc = false

/-- No call was made that must not be. -/
structure Kept (c d : Ctx) : Prop where
  sound : d.sound = c.sound
  isp : d.isp.sound = c.isp.sound
  scl : d.scl.sound = c.scl.sound

/-- The sensor is selected, and the VIF runs. -/
def captured (c : Ctx) : Ctx := { c with sensor := true, sensorEnabled := true, vif := .on, vifStarted := true }

def scaled (c : Ctx) : Ctx := { vpeUp (captured c) with vpeStarted := true }

theorem initIsp_ends (h : c.ispInitialized = c.isp.threeA) :
    Ends (Eq c) (initIsp board) (Eq { c with isp.threeA := true, ispInitialized := true }) (Eq c) := by
  rintro _ rfl
  rw [initIsp]
  split
  case isTrue hi => exact .inl ⟨c, rfl, by simp [Ctx.ext_iff, Stage.ext_iff, ← h, hi]⟩
  case isFalse hi =>
    have hload : Ends (Eq c)
        (andThen (if board.ispBin then call board .loadIspBin else always id)
          (always fun c => { c with isp.threeA := true, ispInitialized := true }))
        (Eq { c with isp.threeA := true, ispInitialized := true }) (Eq c) := by
      have hbin : Ends (Eq c) (if board.ispBin then call board .loadIspBin else always id) (Eq c) (Eq c) := by
        split
        · exact call_ends (by simp) (by simp)
        · exact .always_eq rfl
      exact .andThen hbin (.always_eq rfl)
    exact hload c rfl

/-- The encoder runs, and so many links are bound. -/
def encoded (c : Ctx) (dev vifIsp ispScl sclVenc : Bool) : Ctx :=
  { c with
    venc := ⟨dev, true, true⟩
    vencDevCreated := dev
    vencStarted := true
    links := ⟨vifIsp, ispScl, sclVenc⟩
    boundVifVpe := vifIsp
    boundIspVpe := ispScl
    boundVpeVenc := sclVenc }

def loaded (c : Ctx) : Ctx := { c with isp.threeA := true, ispInitialized := true }

inductive Bound (c : Ctx) : Ctx → Prop
  | refused : Bound c c
  | encoded (dev vifIsp ispScl sclVenc : Bool) : Bound c (encoded c dev vifIsp ispScl sclVenc)
  | loaded (dev : Bool) : Bound c (loaded (encoded c dev true true true))

section

variable {dev : Bool}

theorem bindVifIsp_ends : Ends (Eq (encoded c dev false false false)) (bindVifIsp board)
    (Eq (encoded c dev true false false)) (Eq (encoded c dev false false false)) :=
  call_then (by simp [encoded]) (.always_eq (by simp [encoded]))

theorem bindIspScl_ends : Ends (Eq (encoded c dev true false false)) (bindIspScl board)
    (Eq (encoded c dev true true false)) (Eq (encoded c dev true false false)) :=
  call_then (by simp [encoded]) (.always_eq (by simp [encoded]))

theorem bindSclVenc_ends : Ends (Eq (encoded c dev true true false)) (bindSclVenc board)
    (Eq (encoded c dev true true true)) (Eq (encoded c dev true true false)) :=
  call_then (by simp [encoded]) (.always_eq (by simp [encoded]))

theorem outputInit_ends : Ends (Eq c) (outputInit board) (Eq { c with output := true }) (Eq c) := by
  rw [outputInit]
  split
  · exact .refuse fun _ h => h
  · exact call_ends (by simp) (by simp)

end

theorem bindMarukoPipeline_ends (hobeys : board.Obeys) (hvenc : c.venc = .off) (hdev : c.vencDevCreated = false)
    (hlinks : c.links = .off) (hflags : c.boundVifVpe = false ∧ c.boundIspVpe = false ∧ c.boundVpeVenc = false)
    (hinit : c.ispInitialized = c.isp.threeA) :
    Ends (Eq c) (bindMarukoPipeline board)
      (fun d => ∃ dev, d = { loaded (encoded c dev true true true) with output := true }) (Bound c) := by
  refine .andThen ((startVenc_ends hobeys hvenc).weaken (fun _ h => h) ?_) ?_
  · rintro _ rfl
    have hsame : { c with vencDevCreated := false } = c := by simp [Ctx.ext_iff, hdev]
    rw [hsame]
    exact .refused
  · intro d hd
    generalize d.vencDevCreated = dev at hd
    subst hd
    have hinitial : encoded c dev false false false =
        { c with venc := ⟨dev, true, true⟩, vencDevCreated := dev, vencStarted := true } := by
      simp [encoded, hlinks, hflags, Links.off]
    have hisp : (encoded c dev true true true).ispInitialized = (encoded c dev true true true).isp.threeA := hinit
    refine Ends.always_then (.of_eq hinitial (.andThen (bindVifIsp_ends.weaken (fun _ h => h) ?_)
      (.andThen (bindIspScl_ends.weaken (fun _ h => h) ?_) (.andThen (bindSclVenc_ends.weaken (fun _ h => h) ?_)
        (.andThen ((initIsp_ends hisp).weaken (fun _ h => h) ?_) (outputInit_ends.weaken ?_ ?_)))))) _ rfl
    · rintro _ rfl
      exact .encoded dev false false false
    · rintro _ rfl
      exact .encoded dev true false false
    · rintro _ rfl
      exact .encoded dev true true false
    · rintro _ rfl
      exact .encoded dev true true true
    · rintro _ rfl
      exact ⟨dev, rfl⟩
    · rintro _ rfl
      exact .loaded dev

end

/-- Whether a configuration gets as far as the ISP. -/
def reachesVpe (board : Board) : Bool :=
  !([.snrQuery, .snrConfigure, .snrEnable, .snrGetInfo, .vifCreateDevGroup, .vifSetDevAttr, .vifEnableDev,
    .vifSetOutputPortAttr, .vifEnableOutputPort] : List Call).any board.fails

def channelFails (fails : StageCall → Bool) : Bool :=
  [StageCall.setChannelParam, .startChannel, .setPortConfig, .enablePort].any fails

/-- Whether the ISP or the scaler then fails; of the scaler a channel is made anew. -/
def vpeFails (board : Board) : Bool :=
  channelFails board.ispFails || board.sclFails .createChannel || channelFails board.sclFails

section

variable (board : Board) (a : Call) (c : Ctx) (fails : StageCall → Bool) (k : StageCall) (s : Stage)

@[simp] theorem call_fst : (call board a c).1 = !board.fails a := by
  rw [call]
  split <;> simp [*]

@[simp] theorem stageCall_fst : (stageCall fails k s).1 = !fails k := by
  rw [stageCall]
  split <;> simp [*]

theorem capture_fst : (capture board c).1 = reachesVpe board := by
  simp [capture, sensorSelect, startVif, reachesVpe, Bool.and_assoc]

theorem createChannel_fst : (createChannel fails s).1 = (s.chnCreated || !fails .createChannel) := by
  rw [createChannel]
  cases hc : s.chnCreated <;> simp

theorem configureStage_fst (hdev : s.devCreated = true) :
    (configureStage fails s).1 = ((s.chnCreated || !fails .createChannel) && !channelFails fails) := by
  have hdevice : createDevice fails s = (true, s) := by simp [createDevice, hdev]
  simp [configureStage, hdevice, createChannel_fst, channelFails]

end

section

variable {board : Board} {c : Ctx}

/-- The whole graph, with a device of the encoder or without one. -/
def graphUp (c : Ctx) (dev : Bool) : Ctx :=
  { loaded (encoded (scaled c) dev true true true) with output := true, outputEnabled := true }

/-- What a configuration that fails gets to. -/
inductive Partial (c : Ctx) : Ctx → Prop
  | unselected (sensor : Bool) : Partial c { c with sensor := sensor }
  | selected : Partial c { c with sensor := true, sensorEnabled := true }
  | captured {d : Ctx} (h : VpeFailed (captured c) d) : Partial c d
  | scaled {d : Ctx} (h : Bound (scaled c) d) : Partial c d

theorem capture_ends (hobeys : board.Obeys) (h : Clear c) :
    Ends (Eq c) (capture board) (Eq (captured c)) (fun d => Partial c d ∧ d.isp = c.isp) := by
  refine .andThen ((sensorSelect_ends hobeys).weaken (fun _ h => h) ?_)
    (.andThen ((startVif_ends hobeys ?_).weaken (fun _ h => h) ?_) (.always_eq ?_))
  · intro d hd
    rw [hd]
    exact ⟨.unselected d.sensor, rfl⟩
  · exact h.off.1
  · rintro _ rfl
    exact ⟨.selected, rfl⟩
  · rfl

theorem scale_ends (hobeys : board.Obeys) (h : Clear c) :
    Ends (Eq (captured c)) (scale board) (Eq (scaled c)) (VpeFailed (captured c)) := by
  have hpark : Park (captured c) := ⟨h.park.isp, h.park.scl, h.park.sclPlain, h.park.initialized⟩
  exact .andThen (startVpe_ends hobeys hpark) (.always_eq rfl)

theorem encode_ends (hobeys : board.Obeys) (h : Clear c) :
    Ends (Eq (scaled c)) (encode board) (fun d => ∃ dev, d = graphUp c dev) (Bound (scaled c)) := by
  refine .andThen (bindMarukoPipeline_ends hobeys h.off.2.1 h.flags.2.2.2 h.off.2.2 h.bound h.park.initialized) (.always ?_)
  rintro _ ⟨dev, rfl⟩
  exact ⟨dev, rfl⟩

theorem configureGraph_ends (hobeys : board.Obeys) (h : Clear c) :
    Ends (Eq c) (configureGraph board) (fun d => ∃ dev, d = graphUp c dev) (Partial c) :=
  .andThen ((capture_ends hobeys h).weaken (fun _ h => h) fun _ h => h.1)
    (.andThen ((scale_ends hobeys h).weaken (fun _ h => h) fun _ h => .captured h)
      ((encode_ends hobeys h).weaken (fun _ h => h) fun _ h => .scaled h))

theorem graphUp_consistent (h : Clear c) (dev : Bool) : Consistent (graphUp c dev) :=
  ⟨rfl, rfl, nofun, rfl, fun _ => ⟨rfl, h.park.sclPlain⟩, nofun⟩

theorem Clear.consistent (h : Clear c) : Consistent c := by
  refine ⟨?_, ?_, fun _ => h.flags.2.2.2, ?_, fun hs => ?_, fun _ => h.resting⟩
  · simp [h.off.1, h.flags.1]
  · simp [h.off.2.1, h.flags.2.2.1]
  · simp [h.off.2.2, h.bound, Links.off]
  · simp [h.flags.2.1] at hs

theorem captured_consistent (h : Clear c) {d : Ctx} (hd : VpeFailed (captured c) d) : Consistent d := by
  have hc := h.consistent
  obtain ⟨hsame, hisp, hscl⟩ := hd
  rw [hsame]
  refine ⟨rfl, hc.venc, hc.vencDev, hc.links, fun hs => ?_, fun _ => ⟨⟨hisp.running, hisp.port, ?_⟩, ?_⟩⟩
  · simp [captured, h.flags.2.1] at hs
  · exact hisp.device.trans hisp.channel.symm
  · rcases hscl with hscl | hscl
    · rw [hscl]
      exact h.resting.scl
    · exact ⟨hscl.running, hscl.port, hscl.channel⟩

theorem scaled_consistent (h : Clear c) {d : Ctx} (hd : Bound (scaled c) d) : Consistent d := by
  have hc := h.consistent
  cases hd with
  | refused => exact ⟨rfl, hc.venc, hc.vencDev, hc.links, fun _ => ⟨rfl, h.park.sclPlain⟩, nofun⟩
  | encoded dev x y z => exact ⟨rfl, rfl, nofun, rfl, fun _ => ⟨rfl, h.park.sclPlain⟩, nofun⟩
  | loaded dev => exact ⟨rfl, rfl, nofun, rfl, fun _ => ⟨rfl, h.park.sclPlain⟩, nofun⟩

theorem partial_consistent (h : Clear c) {d : Ctx} (hd : Partial c d) : Consistent d := by
  have hc := h.consistent
  have hvpe {x : Prop} (hs : c.vpeStarted = true) : x := by simp [h.flags.2.1] at hs
  cases hd with
  | unselected sensor => exact ⟨hc.vif, hc.venc, hc.vencDev, hc.links, fun hs => hvpe hs,
      fun _ => ⟨h.resting.isp, h.resting.scl⟩⟩
  | selected => exact ⟨hc.vif, hc.venc, hc.vencDev, hc.links, fun hs => hvpe hs,
      fun _ => ⟨h.resting.isp, h.resting.scl⟩⟩
  | captured hd => exact captured_consistent h hd
  | scaled hd => exact scaled_consistent h hd

theorem partial_kept {d : Ctx} (hd : Partial c d) : Kept c d := by
  cases hd with
  | unselected sensor => exact ⟨rfl, rfl, rfl⟩
  | selected => exact ⟨rfl, rfl, rfl⟩
  | captured hd =>
      obtain ⟨hsame, hisp, hscl⟩ := hd
      refine ⟨by rw [hsame]; rfl, hisp.sound, ?_⟩
      rcases hscl with hscl | hscl
      · rw [hscl]
        rfl
      · exact hscl.sound
  | scaled hd => cases hd <;> exact ⟨rfl, rfl, rfl⟩

/-! Runs of one process. -/

/-- Nothing is left but what a teardown keeps. -/
structure Torn (c : Ctx) : Prop where
  off : c.vif = .off ∧ c.venc = .off ∧ c.links = .off ∧ c.output = false
  resting : Resting c

theorem torn_torn (hobeys : board.Obeys) (h : Consistent c) : Torn (teardownGraph board c) := by
  rw [teardownGraph_eq hobeys h]
  refine ⟨⟨rfl, rfl, rfl, rfl⟩, ?_⟩
  cases hs : c.vpeStarted
  case false => simpa [torn, hs] using ⟨(h.resting hs).isp, (h.resting hs).scl⟩
  case true =>
    obtain ⟨hup, -⟩ := h.up hs
    have hisp : c.isp = Stage.up c.isp := congrArg Ctx.isp hup
    have hdev : c.isp.device = c.isp.channel := by
      rw [hisp]
      rfl
    exact ⟨by simp [torn, hs, rested, hdev], by simp [torn, hs, rested]⟩

theorem torn_kept (hobeys : board.Obeys) (h : Consistent c) :
    Kept c (teardownGraph board c) ∧ (teardownGraph board c).isp.mutexSafe = c.isp.mutexSafe := by
  rw [teardownGraph_eq hobeys h]
  cases hs : c.vpeStarted
  case false => exact ⟨⟨by simp [torn, hs], by simp [torn, hs], by simp [torn, hs]⟩, by simp [torn, hs]⟩
  case true =>
    exact ⟨⟨by simp [torn, hs, rested], by simp [torn, hs, rested], by simp [torn, hs, rested]⟩,
      by simp [torn, hs, rested]⟩

/-- After a graph that ran, everything is there for the next one. -/
theorem graphUp_clear (hobeys : board.Obeys) (h : Clear c) (dev : Bool) :
    Clear (teardownGraph board (graphUp c dev)) ∧ (teardownGraph board (graphUp c dev)).isp.threeA = true := by
  rw [teardownGraph_eq hobeys (graphUp_consistent h dev)]
  refine ⟨⟨⟨⟨rfl, rfl, fun _ => rfl, rfl, rfl, fun _ => rfl⟩, ⟨rfl, rfl, nofun, rfl, rfl, ?_⟩, h.park.sclPlain, rfl⟩,
    ⟨⟨rfl, rfl, rfl⟩, rfl, rfl, rfl⟩, fun _ => rfl, ⟨rfl, rfl, rfl⟩, ⟨rfl, rfl, rfl, rfl⟩, rfl, rfl, rfl⟩, rfl⟩
  intro ht
  have hplain : c.scl.threeA = true := ht
  simp [h.park.sclPlain] at hplain

theorem start_clear : Clear start.ctx :=
  ⟨⟨⟨rfl, rfl, nofun, rfl, rfl, nofun⟩, ⟨rfl, rfl, nofun, rfl, rfl, nofun⟩, rfl, rfl⟩,
    ⟨⟨rfl, rfl, rfl⟩, rfl, rfl, rfl⟩, nofun, ⟨rfl, rfl, rfl⟩, ⟨rfl, rfl, rfl, rfl⟩, rfl, rfl, rfl⟩

/-- Everything is up, from the sensor to the output. -/
structure Up (c : Ctx) : Prop where
  sensor : c.sensor = true
  vif : c.vif = .on
  isp : c.isp.port = true ∧ c.isp.running = true ∧ c.isp.threeA = true
  scl : c.scl.port = true ∧ c.scl.running = true
  venc : c.venc.receiving = true
  links : c.links = ⟨true, true, true⟩
  output : c.output = true

def Sound (c : Ctx) : Prop := c.sound = true ∧ c.isp.sound = true ∧ c.scl.sound = true

/-- Of this event, the calls that take down do what they say. -/
def Obeyed (_ : State) (e : Event) : Prop := e.board.Obeys

/-- A graph that runs has been configured from a clear state. -/
structure Wellformed (s : State) : Prop where
  sound : Sound s.ctx
  fresh : s.phase = .fresh → Clear s.ctx ∧ s.ctx.isp.threeA = false
  running : s.phase = .running → ∃ c dev, Clear c ∧ s.ctx = graphUp c dev
  ended : s.phase = .ended → Torn s.ctx

theorem Sound.kept {c d : Ctx} (h : Sound c) (hd : Kept c d) : Sound d :=
  ⟨hd.sound.trans h.1, hd.isp.trans h.2.1, hd.scl.trans h.2.2⟩

theorem Wellformed.of_running {dev : Bool} (h : Clear c) (hs : Sound (graphUp c dev)) : Wellformed ⟨graphUp c dev, .running⟩ where
  sound := hs
  fresh hf := by cases hf
  running _ := ⟨c, dev, h, rfl⟩
  ended he := by cases he

theorem Wellformed.of_ended (hs : Sound c) (h : Torn c) : Wellformed ⟨c, .ended⟩ where
  sound := hs
  fresh hf := by cases hf
  running hr := by cases hr
  ended _ := h

theorem configured_wellformed (hobeys : board.Obeys) (h : Clear c) (hs : Sound c) : Wellformed (configured board c) := by
  rw [configured]
  rcases @configureGraph_ends board c hobeys h c rfl with ⟨d, hd, dev, rfl⟩ | ⟨d, hd, hp⟩
  · rw [hd]
    exact .of_running h hs
  · rw [hd]
    have hcons := partial_consistent h hp
    exact .of_ended ((hs.kept (partial_kept hp)).kept (torn_kept hobeys hcons).1) (torn_torn hobeys hcons)

theorem graphUp_rests (hobeys : board.Obeys) (h : Clear c) {dev : Bool} (hs : Sound (graphUp c dev)) :
    Clear (teardownGraph board (graphUp c dev)) ∧ Sound (teardownGraph board (graphUp c dev)) :=
  ⟨(graphUp_clear hobeys h dev).1, hs.kept (torn_kept hobeys (graphUp_consistent h dev)).1⟩

/-- What a step can do. -/
theorem step_cases {s t : State} {e : Event} (h : step s e = some t) :
    (∃ board, e = .init board ∧ s.phase = .fresh ∧ t = configured board s.ctx) ∨
      (∃ board, e = .restart true board ∧ s.phase = .running ∧ t = configured board (teardownGraph board s.ctx)) ∨
        (∃ board, e = .restart false board ∧ s.phase = .running ∧
          t = ⟨teardownGraph board (teardownGraph board s.ctx), .ended⟩) ∨
          ∃ board, e = .finish board ∧ s.phase = .running ∧ t = ⟨teardownGraph board s.ctx, .ended⟩ := by
  cases e with
  | init board =>
      obtain ⟨hs, ht⟩ := Option.ite_none_right_eq_some.mp h
      cases ht
      exact .inl ⟨board, rfl, hs, rfl⟩
  | restart prepared board =>
      obtain ⟨hs, ht⟩ := Option.ite_none_right_eq_some.mp h
      cases ht
      cases prepared with
      | true => exact .inr (.inl ⟨board, rfl, hs, rfl⟩)
      | false => exact .inr (.inr (.inl ⟨board, rfl, hs, rfl⟩))
  | finish board =>
      obtain ⟨hs, ht⟩ := Option.ite_none_right_eq_some.mp h
      cases ht
      exact .inr (.inr (.inr ⟨board, rfl, hs, rfl⟩))

theorem step_wellformed {s t : State} {e : Event} (h : Wellformed s) (hobeys : Obeyed s e) (hstep : step s e = some t) :
    Wellformed t := by
  have hsound := h.sound
  obtain ⟨board, rfl, hs, rfl⟩ | ⟨board, rfl, hs, rfl⟩ | ⟨board, rfl, hs, rfl⟩ | ⟨board, rfl, hs, rfl⟩ := step_cases hstep
  · exact configured_wellformed hobeys (h.fresh hs).1 hsound
  all_goals
    obtain ⟨c, dev, hc, hctx⟩ := h.running hs
    rw [hctx] at hsound ⊢
    obtain ⟨hclear, hkept⟩ := graphUp_rests hobeys hc hsound
  · exact configured_wellformed hobeys hclear hkept
  · have hcons := hclear.consistent
    exact .of_ended (hkept.kept (torn_kept hobeys hcons).1) (torn_torn hobeys hcons)
  · exact .of_ended hkept (torn_torn hobeys (graphUp_consistent hc dev))

theorem start_wellformed : Wellformed start :=
  ⟨⟨rfl, rfl, rfl⟩, fun _ => ⟨start_clear, rfl⟩, nofun, nofun⟩

theorem reached_wellformed {s : State} (h : Path step Obeyed start s) : Wellformed s :=
  Path.invariant Wellformed start_wellformed (fun _ _ _ hs hobeys hstep => step_wellformed hs hobeys hstep) h

/-- Whether the ISP or the scaler of this configuration fails. -/
def breaks (board : Board) : Bool := reachesVpe board && vpeFails board

theorem scale_fst (h : Clear c) (hA : c.isp.threeA = true) : (scale board (captured c)).1 = !vpeFails board := by
  have hchn : c.isp.chnCreated = true := h.park.isp.threeA hA
  have hisp := configureStage_fst board.ispFails c.isp (h.park.isp.inside hchn)
  have hscl := configureStage_fst board.sclFails c.scl (h.sclDev hA)
  have hnone : c.scl.chnCreated = false := by
    rw [← h.park.scl.channel]
    exact h.resting.scl.2.2
  simp [scale, startVpe, onIsp, onScl, captured, hisp, hscl, hchn, hnone, vpeFails, Bool.and_assoc]

/-- The first configuration finds no 3A to meet. -/
theorem configured_first (hobeys : board.Obeys) (h : Clear c) (hA : c.isp.threeA = false) :
    (configured board c).ctx.isp.mutexSafe = c.isp.mutexSafe := by
  rw [configured]
  rcases @configureGraph_ends board c hobeys h c rfl with ⟨d, hd, dev, rfl⟩ | ⟨d, hd, hp⟩
  · rw [hd]
    rfl
  · rw [hd]
    simp only
    rw [(torn_kept hobeys (partial_consistent h hp)).2]
    cases hp with
    | unselected sensor => rfl
    | selected => rfl
    | captured hfailed => simp [hfailed.2.1.mutexSafe, captured, hA]
    | scaled hb => cases hb <;> rfl

/-- The mutex outlives a restart when and only when its VPE is configured. -/
theorem configured_mutexSafe (hobeys : board.Obeys) (h : Clear c) (hA : c.isp.threeA = true) :
    (configured board c).ctx.isp.mutexSafe = (c.isp.mutexSafe && !breaks board) := by
  have hreach := capture_fst board c
  have hvpe := @scale_fst board c h hA
  simp only [configured, configureGraph, breaks]
  rcases @capture_ends board c hobeys h c rfl with ⟨_, hc, rfl⟩ | ⟨d, hc, hp, hisp⟩
  · rcases @scale_ends board c hobeys h _ rfl with ⟨_, hs, rfl⟩ | ⟨d, hs, hfailed⟩
    · have hkept : vpeFails board = false := by simpa [hs] using hvpe.symm
      rcases @encode_ends board c hobeys h _ rfl with ⟨_, he, dev, rfl⟩ | ⟨d, he, hb⟩
      · simp only [andThen, hc, hs, he, hkept]
        simp [graphUp, loaded, encoded, scaled, vpeUp, captured, Stage.up]
      · simp only [andThen, hc, hs, he, hkept]
        rw [(torn_kept hobeys (scaled_consistent h hb)).2]
        cases hb <;> simp [loaded, encoded, scaled, vpeUp, captured, Stage.up]
    · have hbroke : vpeFails board = true := by simpa [hs] using hvpe.symm
      have hreached : reachesVpe board = true := by simpa [hc] using hreach.symm
      simp only [andThen, hc, hs, hbroke, hreached]
      rw [(torn_kept hobeys (captured_consistent h hfailed)).2, hfailed.2.1.mutexSafe]
      simp [captured, hA]
  · have hreached : reachesVpe board = false := by simpa [hc] using hreach.symm
    simp only [andThen, hc, hreached]
    rw [(torn_kept hobeys (partial_consistent h hp)).2, hisp]
    simp

/-- The restarts that destroy the channel of the ISP under its 3A. -/
def Event.breaks : Event → Bool
  | .restart true board => MarukoRuns.breaks board
  | _ => false

theorem step_mutexSafe {s t : State} {e : Event} (h : Wellformed s) (hobeys : Obeyed s e) (hstep : step s e = some t) :
    t.ctx.isp.mutexSafe = (s.ctx.isp.mutexSafe && !Event.breaks e) := by
  obtain ⟨board, rfl, hs, rfl⟩ | ⟨board, rfl, hs, rfl⟩ | ⟨board, rfl, hs, rfl⟩ | ⟨board, rfl, hs, rfl⟩ := step_cases hstep
  all_goals replace hobeys : board.Obeys := hobeys
  · simp [configured_first hobeys (h.fresh hs).1 (h.fresh hs).2, Event.breaks]
  all_goals
    obtain ⟨c, dev, hc, hctx⟩ := h.running hs
    rw [hctx]
    obtain ⟨hclear, hA⟩ := graphUp_clear hobeys hc dev
    have hkept := (torn_kept hobeys (graphUp_consistent hc dev)).2
  · simp [configured_mutexSafe hobeys hclear hA, hkept, Event.breaks]
  · simp [(torn_kept hobeys hclear.consistent).2, hkept, Event.breaks]
  · simp [hkept, Event.breaks]

theorem run_mutexSafe {s t : State} {events : List Event} (h : Wellformed s) (hobeys : ∀ e ∈ events, e.board.Obeys)
    (hrun : run step s events = some t) :
    t.ctx.isp.mutexSafe = (s.ctx.isp.mutexSafe && events.all (!Event.breaks ·)) := by
  induction events generalizing s with
  | nil =>
      cases hrun
      simp
  | cons e events ih =>
      obtain ⟨u, hu, hrest⟩ := Option.bind_eq_some_iff.mp hrun
      obtain ⟨he, hevents⟩ := List.forall_mem_cons.mp hobeys
      rw [ih (step_wellformed h he hu) hevents hrest, step_mutexSafe h he hu, List.all_cons, Bool.and_assoc]

/-! Whatever the calls that take down return, the ISP goes the same way. -/

/-- The same board, with the calls that take down doing what they say. -/
def obeyed (board : Board) : Board :=
  { board with
    fails := fun a => board.fails a && decide (a ∉ teardowns)
    ispFails := fun c => board.ispFails c && decide (c ∉ stageTeardowns)
    sclFails := fun c => board.sclFails c && decide (c ∉ stageTeardowns) }

theorem obeyed_obeys (board : Board) : (obeyed board).Obeys := by
  refine ⟨fun a ha => ?_, fun c hc => ?_, fun c hc => ?_⟩
  · simp [obeyed, ha]
  · simp [obeyed, hc]
  · simp [obeyed, hc]

theorem obeyed_like (board : Board) : Like board (obeyed board) := by
  refine ⟨fun a ha => ?_, fun c hc => ?_, fun c hc => ?_, rfl, rfl⟩
  · simp [obeyed, ha]
  · simp [obeyed, hc]
  · simp [obeyed, hc]

theorem breaks_obeyed (board : Board) : breaks (obeyed board) = breaks board := by
  simp [breaks, reachesVpe, vpeFails, channelFails, obeyed, teardowns, stageTeardowns]

def Event.obeyed : Event → Event
  | .init board => .init (MarukoRuns.obeyed board)
  | .restart prepared board => .restart prepared (MarukoRuns.obeyed board)
  | .finish board => .finish (MarukoRuns.obeyed board)

theorem event_obeyed_obeys (e : Event) : (Event.obeyed e).board.Obeys := by
  cases e <;> exact obeyed_obeys _

theorem event_breaks_obeyed (e : Event) : Event.breaks (Event.obeyed e) = Event.breaks e := by
  cases e with
  | init board => rfl
  | restart prepared board =>
      cases prepared with
      | true => exact breaks_obeyed board
      | false => rfl
  | finish board => rfl

/-- Two states that the code does not tell apart. -/
def Alike (s t : State) : Prop := s.phase = t.phase ∧ view s.ctx = view t.ctx

theorem step_alike {s s' t : State} {e : Event} (h : Alike s t) (hstep : step s e = some s') :
    ∃ t', step t (Event.obeyed e) = some t' ∧ Alike s' t' := by
  obtain ⟨hphase, hview⟩ := h
  obtain ⟨board, rfl, hs, rfl⟩ | ⟨board, rfl, hs, rfl⟩ | ⟨board, rfl, hs, rfl⟩ | ⟨board, rfl, hs, rfl⟩ := step_cases hstep
  all_goals rw [hphase] at hs
  · exact ⟨_, if_pos hs, configured_sees (obeyed_like board) hview⟩
  · exact ⟨_, if_pos hs, configured_sees (obeyed_like board) (teardownGraph_sees hview)⟩
  · exact ⟨_, if_pos hs, rfl, teardownGraph_sees (teardownGraph_sees hview)⟩
  · exact ⟨_, if_pos hs, rfl, teardownGraph_sees hview⟩

theorem run_alike {s s' t : State} {events : List Event} (h : Alike s t) (hrun : run step s events = some s') :
    ∃ t', run step t (events.map Event.obeyed) = some t' ∧ Alike s' t' := by
  induction events generalizing s t with
  | nil =>
      cases hrun
      exact ⟨t, rfl, h⟩
  | cons e events ih =>
      obtain ⟨u, hu, hrest⟩ := Option.bind_eq_some_iff.mp hrun
      obtain ⟨v, hv, huv⟩ := step_alike h hu
      obtain ⟨t', ht', hst'⟩ := ih huv hrest
      exact ⟨t', Option.bind_eq_some_iff.mpr ⟨v, hv, ht'⟩, hst'⟩

/-- The channel of the ISP is destroyed under its 3A by the restarts whose ISP
or scaler fails, and by nothing else. -/
theorem isp_mutex_iff {s : State} {events : List Event} (hrun : run step start events = some s) :
    s.ctx.isp.mutexSafe = true ↔ ∀ e ∈ events, Event.breaks e = false := by
  obtain ⟨t, ht, -, hview⟩ := run_alike (show Alike start start from ⟨rfl, rfl⟩) hrun
  have hobeys : ∀ e ∈ events.map Event.obeyed, e.board.Obeys := by
    intro e he
    obtain ⟨e', -, rfl⟩ := List.mem_map.mp he
    exact event_obeyed_obeys e'
  have hmutex : s.ctx.isp.mutexSafe = t.ctx.isp.mutexSafe := congrArg Flags.mutexSafe (view_eq_iff.mp hview).1
  rw [hmutex, run_mutexSafe start_wellformed hobeys ht]
  simp [start, Stage.absent, List.all_eq_true, event_breaks_obeyed]

end

def working : Board := ⟨fun _ => false, fun _ => false, fun _ => false, true, false⟩

/-- The scaler does not start. -/
def sclStuck : Board := { working with sclFails := fun c => c = .startChannel }

def trial : List Event := [.init working, .restart true working, .restart true sclStuck]

instance (board : Board) : Decidable board.Obeys :=
  decidable_of_iff ((∀ a ∈ teardowns, board.fails a = false) ∧ (∀ c ∈ stageTeardowns, board.ispFails c = false) ∧
      ∀ c ∈ stageTeardowns, board.sclFails c = false)
    ⟨fun h => ⟨h.1, h.2.1, h.2.2⟩, fun h => ⟨h.calls, h.isp, h.scl⟩⟩

instance (s : State) (e : Event) : Decidable (Obeyed s e) := inferInstanceAs (Decidable e.board.Obeys)

theorem isp_mutex_stuck : ∃ s, run step start trial = some s ∧ s.ctx.isp.mutexSafe = false := by
  have hrun : (run step start trial).isSome = true := by decide
  obtain ⟨s, hs⟩ := Option.isSome_iff_exists.mp hrun
  refine ⟨s, hs, ?_⟩
  have hiff := isp_mutex_iff hs
  have hbreaks : Event.breaks (.restart true sclStuck) = true := by decide
  cases hm : s.ctx.isp.mutexSafe
  case false => rfl
  case true =>
    have := hiff.mp hm (.restart true sclStuck) (by simp [trial])
    simp [hbreaks] at this

end WaybeamVenc.MarukoRuns
