import WaybeamVenc.PipelineLifecycle

namespace WaybeamVenc.PipelineSteps

open PipelineGeometry PipelineLifecycle Staged

attribute [local simp] Pipe.issue Pipe.refused allowed effect failedEffect isPhyCycle attempts

theorem obeys_all {board : Board} (h : board.Obeys) :
    board.fails .snrDisable = false ∧ board.fails .vifDisableChnPort = false ∧ board.fails .vifDisableDev = false ∧
      board.fails .vpeDisablePort = false ∧ board.fails .vpeStopChannel = false ∧ board.fails .vpeDestroyChannel = false ∧
        board.fails .vencStopRecvPic0 = false ∧ board.fails .vencDestroyChn0 = false ∧
          board.fails .vencStopRecvPic1 = false ∧ board.fails .vencDestroyChn1 = false ∧
            board.fails .unbindVifVpe = false ∧ board.fails .unbindVpeVenc0 = false ∧
              board.fails .unbindVpeVenc1 = false := by
  simpa [Board.Obeys, teardowns] using h

/-! Each routine ends in its state or leaves what it found. -/

/-- The same pipe, whatever has been disabled on the way. -/
def Same (p q : Pipe) : Prop := q = { p with phyCycles := q.phyCycles }

section

variable {board : Board} {p : Pipe} {c : Call} {good mid bad : Pipe → Prop} {q : Routine Pipe} {f : Pipe → Pipe}

theorem call_ends (hbad : bad (p.refused c)) (hgood : good (p.issue c)) : Ends (Eq p) (call board c) good bad := by
  rintro _ rfl
  by_cases hfails : board.fails c
  · exact .inr ⟨p.refused c, by simp [call, hfails], hbad⟩
  · exact .inl ⟨p.issue c, by simp [call, hfails], hgood⟩

theorem call_then (hbad : bad (p.refused c)) (k : Ends (Eq (p.issue c)) q good bad) :
    Ends (Eq p) (andThen (call board c) q) good bad :=
  .andThen (call_ends hbad rfl) k

theorem undoing_call (hbad : bad (f (p.refused c))) (hgood : good (p.issue c)) :
    Ends (Eq p) (undoing (call board c) f) good bad :=
  .undoing_eq (call_ends rfl hgood) hbad

theorem startVif_ends (hobeys : board.Obeys) (h : p.hw.vif = .off) :
    Ends (Eq p) (startVif board) (Eq { p with hw.vif := .on }) (Same p) := by
  refine call_then ?_ (call_then ?_ (.andThen (undoing_call ?_ rfl) (undoing_call ?_ ?_)))
  all_goals simp [Same, h, Vif.on, Vif.off, Hardware.ext_iff, attempt, obeys_all hobeys]

theorem startVpe_ends (hobeys : board.Obeys) (h : p.hw.vpe = .off) :
    Ends (Eq p) (startVpe board) (Eq { p with hw.vpe := .on }) (Same p) := by
  refine call_then ?_ (.andThen (undoing_call ?_ rfl) (.andThen (undoing_call ?_ rfl)
    (.andThen (undoing_call ?_ rfl) (undoing_call ?_ ?_))))
  all_goals simp [Same, h, Scaler.on, Scaler.off, Hardware.ext_iff, attempt, obeys_all hobeys]

theorem startVenc0_ends (hobeys : board.Obeys) (h : p.hw.venc0 = .off) :
    Ends (Eq p) (startVenc0 board) (Eq { p with hw.venc0 := .on }) (Same p) := by
  refine call_then ?_ (undoing_call ?_ ?_)
  all_goals simp [Same, h, Encoder.on, Encoder.off, Hardware.ext_iff, attempt, obeys_all hobeys]

theorem startVenc1_ends (hobeys : board.Obeys) (h : p.hw.venc1 = .off) :
    Ends (Eq p) (startVenc1 board) (Eq { p with hw.venc1 := .on }) (Same p) := by
  refine call_then ?_ (undoing_call ?_ ?_)
  all_goals simp [Same, h, Encoder.on, Encoder.off, Hardware.ext_iff, attempt, obeys_all hobeys]

theorem bindVifVpe_ends (h : p.hw.links.vifVpe = p.boundVifVpe) :
    Ends (Eq p) (bindVifVpe board) (Eq { p with hw.links.vifVpe := true, boundVifVpe := true }) (Same p) := by
  rintro _ rfl
  rw [bindVifVpe]
  split
  case isTrue hbound => exact .inl ⟨p, rfl, by simp [h, hbound, Pipe.ext_iff, Hardware.ext_iff, Links.ext_iff]⟩
  case isFalse hbound =>
    have hcall : Ends (Eq p) (andThen (call board .bindVifVpe) (always ({ · with boundVifVpe := true })))
        (Eq { p with hw.links.vifVpe := true, boundVifVpe := true }) (Same p) := by
      refine call_then ?_ (.always_eq ?_)
      · simp [Same]
      · simp
    exact hcall p rfl

end

/-- A pointer in the state stands for what is there. -/
structure Pointers (p : Pipe) : Prop where
  imu : p.hw.owned.imu = p.imu
  eis : p.hw.owned.eis = p.eis
  osd : p.hw.owned.osd = p.osd
  imuThread : p.hw.owned.imuThread = true → p.imu = true

/-- All but the peripherals is the same. -/
def SameBehind (p q : Pipe) : Prop :=
  q = { p with
    hw.owned := { q.hw.owned with
      output := p.hw.owned.output, dualOutput := p.hw.owned.dualOutput, recThread := p.hw.owned.recThread }
    imu := q.imu
    eis := q.eis
    osd := q.osd }

theorem SameBehind.refl (p : Pipe) : SameBehind p p := rfl

theorem SameBehind.trans {p q r : Pipe} (h : SameBehind p q) (k : SameBehind q r) : SameBehind p r := by
  rw [SameBehind] at h k ⊢
  rw [k, h]

theorem attempt_audio (board : Board) {p : Pipe} (h : Pointers p) :
    SameBehind p (attempt board .audioInit p) ∧ Pointers (attempt board .audioInit p) := by
  rw [attempt]
  split
  · exact ⟨by simp [SameBehind], ⟨h.imu, h.eis, h.osd, h.imuThread⟩⟩
  · exact ⟨by simp [SameBehind], ⟨h.imu, h.eis, h.osd, h.imuThread⟩⟩

theorem startImu_spec (board : Board) {p : Pipe} (h : Pointers p) :
    SameBehind p (startImu board p) ∧ Pointers (startImu board p) := by
  simp only [startImu, attempt]
  split_ifs
  · exact ⟨by simp [SameBehind], ⟨h.imu, h.eis, h.osd, h.imuThread⟩⟩
  · exact ⟨by simp [SameBehind], ⟨rfl, h.eis, h.osd, fun _ => rfl⟩⟩
  · exact ⟨by simp [SameBehind],
      ⟨rfl, h.eis, h.osd, fun _ => rfl⟩⟩
  · exact ⟨by simp [SameBehind], ⟨rfl, h.eis, h.osd, fun _ => rfl⟩⟩

theorem startEis_spec (board : Board) (cfg : Config) {p : Pipe} (h : Pointers p) :
    SameBehind p (startEis board cfg p) ∧ Pointers (startEis board cfg p) := by
  simp only [startEis]
  split_ifs
  · exact ⟨rfl, h⟩
  · exact ⟨by simp [SameBehind], ⟨h.imu, h.eis, h.osd, h.imuThread⟩⟩
  · exact ⟨by simp [SameBehind], ⟨h.imu, rfl, h.osd, h.imuThread⟩⟩

theorem startOsd_spec (board : Board) {p : Pipe} (h : Pointers p) :
    SameBehind p (startOsd board p) ∧ Pointers (startOsd board p) := by
  simp only [startOsd]
  split_ifs
  · exact ⟨by simp [SameBehind], ⟨h.imu, h.eis, h.osd, h.imuThread⟩⟩
  · exact ⟨by simp [SameBehind], ⟨h.imu, h.eis, rfl, h.imuThread⟩⟩

theorem startPeripherals_spec (board : Board) (cfg : Config) {p : Pipe} (h : Pointers p) :
    SameBehind p (startPeripherals board cfg p) ∧ Pointers (startPeripherals board cfg p) := by
  rw [startPeripherals]
  have step (b : Bool) (f : Pipe → Pipe) (hf : ∀ {q}, Pointers q → SameBehind q (f q) ∧ Pointers (f q)) {q : Pipe}
      (hq : SameBehind p q ∧ Pointers q) :
      SameBehind p (if b then f q else q) ∧ Pointers (if b then f q else q) := by
    cases b
    case false => exact hq
    case true => exact ⟨hq.1.trans (hf hq.2).1, (hf hq.2).2⟩
  have haudio := step (!cfg.audioSkipped) _ (attempt_audio board) ⟨.refl p, h⟩
  have himu := step cfg.imuEnabled _ (startImu_spec board) haudio
  have heis := step cfg.eisEnabled _ (startEis_spec board cfg) himu
  have hosd := step cfg.showOsd _ (startOsd_spec board) heis
  cases hskip : cfg.audioSkipped <;> simpa [hskip] using hosd

/-- Bound from the sensor to channel 0, with the output open. -/
def Finalized (p q : Pipe) : Prop :=
  SameBehind { p with
    hw.links := { p.hw.links with vifVpe := true, vpeVenc0 := true }
    hw.owned.output := true
    boundVifVpe := true
    boundVpeVenc := true } q ∧ Pointers q

/-- As it was, but for the link behind the VIF. -/
def Unbound (p q : Pipe) : Prop :=
  Same p q ∨ Same { p with hw.links.vifVpe := false, boundVifVpe := false } q

theorem bindAndFinalizePipeline_ends {board : Board} {cfg : Config} {p : Pipe} (hobeys : board.Obeys)
    (hflag : p.hw.links.vifVpe = p.boundVifVpe) (hlink : p.hw.links.vpeVenc0 = false)
    (hbound : p.boundVpeVenc = false) (houtput : p.hw.owned.output = false)
    (hrec : p.hw.owned.recThread = false) (hpointers : Pointers p) :
    Ends (Eq p) (bindAndFinalizePipeline board cfg) (Finalized p) (Unbound p) := by
  refine call_then ?_ (.andThen (.weaken (bindVifVpe_ends ?_) (fun _ h => h) ?_) (.andThen (undoing_call ?_ rfl)
    (.always_then (.andThen (undoing_call ?_ rfl) (.always_eq ?_)))))
  · exact .inl (by simp [Same])
  · simpa
  · intro q hq
    simp only [Same] at hq
    exact .inl (by rw [hq]; simp [Same])
  · refine .inr ?_
    simp [Same, unbindVifVpe, attempt, obeys_all hobeys]
  · refine .inr ?_
    simp [Same, unbindVifVpe, unbindVpeVenc, attempt, obeys_all hobeys, hlink, hbound, houtput, hrec, Pipe.ext_iff,
      Hardware.ext_iff, Owned.ext_iff]
  · refine ⟨.trans ?_ (startPeripherals_spec board cfg ?_).1, (startPeripherals_spec board cfg ?_).2⟩
    · simp [SameBehind]
    · exact ⟨hpointers.imu, hpointers.eis, hpointers.osd, hpointers.imuThread⟩
    · exact ⟨hpointers.imu, hpointers.eis, hpointers.osd, hpointers.imuThread⟩

/-! Stopping. -/

/-- The dual channel is there with all that belongs to it, or nothing of it is. -/
structure DualUp (p : Pipe) : Prop where
  venc1 : p.hw.venc1 = if p.dual.isSome then .on else .off
  link : p.hw.links.vpeVenc1 = p.dual.isSome
  bound : ∀ d, p.dual = some d → d.bound = true
  recThread : p.hw.owned.recThread = p.dual.elim false (·.recStarted)
  output : p.hw.owned.dualOutput = true → p.dual.isSome = true

theorem stopImu_eq {p : Pipe} (h : p.hw.owned.imuThread = true → p.imu = true) :
    stopImu p = { p with hw.owned.imuThread := false } := by
  rw [stopImu]
  cases hi : p.imu
  case false => simp_all [Pipe.ext_iff, Hardware.ext_iff, Owned.ext_iff]
  case true => simp [hi]

theorem destroyEis_eq {p : Pipe} (h : p.hw.owned.eis = p.eis) (hthread : p.hw.owned.imuThread = false) :
    destroyEis p = { p with hw.owned.eis := false, eis := false } := by
  rw [destroyEis]
  cases he : p.eis
  case false => simp_all [Pipe.ext_iff, Hardware.ext_iff, Owned.ext_iff]
  case true => simp [hthread]

theorem destroyImu_eq {p : Pipe} (h : p.hw.owned.imu = p.imu) (hthread : p.hw.owned.imuThread = false) :
    destroyImu p = { p with hw.owned.imu := false, imu := false } := by
  rw [destroyImu]
  cases hi : p.imu
  case false => simp_all [Pipe.ext_iff, Hardware.ext_iff, Owned.ext_iff]
  case true => simp [hthread]

theorem destroyOsd_eq {p : Pipe} (h : p.hw.owned.osd = p.osd) :
    destroyOsd p = { p with hw.owned.osd := false, osd := false } := by
  rw [destroyOsd]
  cases ho : p.osd
  case false => simp_all [Pipe.ext_iff, Hardware.ext_iff, Owned.ext_iff]
  case true => simp

theorem teardownOutputs_eq {p : Pipe} (h : p.hw.owned.dualOutput = true → p.dual.isSome = true) :
    teardownOutputs p =
      { p with hw.owned := { p.hw.owned with audio := false, output := false, dualOutput := false } } := by
  rw [teardownOutputs]
  cases hd : p.dual
  case none => simp_all
  case some d => simp [hd]

theorem stopPeripherals_eq {p : Pipe} (h : Pointers p) (hdual : DualUp p) :
    stopPeripherals p = { p with
      hw.owned := { Owned.none with recThread := p.hw.owned.recThread }, imu := false, eis := false, osd := false } := by
  rw [stopPeripherals, stopImu_eq h.imuThread, destroyEis_eq, destroyImu_eq, destroyOsd_eq, teardownOutputs_eq]
  · rfl
  · exact hdual.output
  · exact h.osd
  · exact h.imu
  · rfl
  · exact h.eis
  · rfl

theorem joinRecThread_eq {p : Pipe} (h : DualUp p) :
    joinRecThread p = { p with hw.owned.recThread := false, dual := p.dual.map ({ · with recStarted := false }) } := by
  have hrec := h.recThread
  rw [joinRecThread]
  cases hd : p.dual with
  | none => simp_all [Pipe.ext_iff, Hardware.ext_iff, Owned.ext_iff]
  | some d =>
      obtain ⟨bound, recStarted⟩ := d
      cases recStarted
      case false => simp_all [Pipe.ext_iff, Hardware.ext_iff, Owned.ext_iff]
      case true => simp

theorem unbindDual_eq {board : Board} {p : Pipe} (hobeys : board.Obeys) (hlink : p.hw.links.vpeVenc1 = p.dual.isSome)
    (hbound : ∀ d, p.dual = some d → d.bound = true) (hrec : p.hw.owned.recThread = false) :
    unbindDual board p = { p with hw.links.vpeVenc1 := false, dual := p.dual.map ({ · with bound := false }) } := by
  rw [unbindDual]
  cases hd : p.dual with
  | none => simp_all [Pipe.ext_iff, Hardware.ext_iff, Links.ext_iff]
  | some d => simp [hbound d hd, hrec, attempt, obeys_all hobeys]

theorem unbindVpeVenc_eq {board : Board} {p : Pipe} (hobeys : board.Obeys)
    (hflag : p.hw.links.vpeVenc0 = p.boundVpeVenc) (hrec : p.hw.owned.recThread = false) :
    (if p.boundVpeVenc then unbindVpeVenc board p else p) = { p with hw.links.vpeVenc0 := false, boundVpeVenc := false } := by
  cases hb : p.boundVpeVenc
  case false => simp_all [Pipe.ext_iff, Hardware.ext_iff, Links.ext_iff]
  case true => simp [unbindVpeVenc, hrec, attempt, obeys_all hobeys]

theorem unbindVifVpe_eq {board : Board} {p : Pipe} (hobeys : board.Obeys) (hflag : p.hw.links.vifVpe = p.boundVifVpe) :
    (if p.boundVifVpe then unbindVifVpe board p else p) = { p with hw.links.vifVpe := false, boundVifVpe := false } := by
  cases hb : p.boundVifVpe
  case false => simp_all [Pipe.ext_iff, Hardware.ext_iff, Links.ext_iff]
  case true => simp [unbindVifVpe, attempt, obeys_all hobeys]

theorem stopRecv_eq {board : Board} {p : Pipe} (hobeys : board.Obeys)
    (hvenc1 : p.hw.venc1 = if p.dual.isSome then .on else .off) (hrec : p.hw.owned.recThread = false) :
    stopRecv board p = { p with hw.venc0.receiving := false, hw.venc1.receiving := false } := by
  rw [stopRecv]
  cases hd : p.dual with
  | none => simp_all [Encoder.off, attempt, obeys_all hobeys]
  | some d => simp [hrec, hd, attempt, obeys_all hobeys]

theorem destroyEncoders_eq {board : Board} {p : Pipe} (hobeys : board.Obeys)
    (hvenc1 : p.dual = none → p.hw.venc1 = .off) :
    destroyEncoders board p = { p with hw.venc0 := .off, hw.venc1 := .off, dual := none } := by
  rw [destroyEncoders]
  cases hd : p.dual with
  | none => simp [hd, hvenc1 hd, attempt, obeys_all hobeys]
  | some d => simp [attempt, obeys_all hobeys]

theorem stopEncoders_eq {board : Board} {p : Pipe} (hobeys : board.Obeys) (h : DualUp p)
    (hflag : p.hw.links.vpeVenc0 = p.boundVpeVenc) :
    stopEncoders board p = { p with
      hw.links := { p.hw.links with vpeVenc0 := false, vpeVenc1 := false }
      hw.venc0.receiving := false
      hw.venc1.receiving := false
      hw.owned.recThread := false
      boundVpeVenc := false
      dual := p.dual.map fun _ => ⟨false, false⟩ } := by
  rw [stopEncoders, joinRecThread_eq h, unbindDual_eq hobeys, unbindVpeVenc_eq hobeys, stopRecv_eq hobeys]
  · simp [Function.comp_def]
  · simpa using h.venc1
  · rfl
  · exact hflag
  · rfl
  · simpa using h.link
  · simpa using h.bound
  · rfl

/-! Up and stopped. -/

structure Up (p : Pipe) : Prop where
  sensor : p.hw.sensor = true
  vif : p.hw.vif = .on
  vpe : p.hw.vpe = .on
  venc0 : p.hw.venc0 = .on
  vifVpe : p.hw.links.vifVpe = true ∧ p.boundVifVpe = true
  vpeVenc0 : p.hw.links.vpeVenc0 = true ∧ p.boundVpeVenc = true
  output : p.hw.owned.output = true
  dual : DualUp p
  pointers : Pointers p

/-- What a reinit keeps. -/
def captured (p : Pipe) : Pipe :=
  { p with
    hw := { p.hw with venc0 := .off, venc1 := .off, links := ⟨true, false, false⟩, owned := .none }
    boundVpeVenc := false
    dual := none
    imu := false
    eis := false
    osd := false }

theorem stopVencLevel_eq {board : Board} {p : Pipe} (hobeys : board.Obeys) (h : Up p) :
    stopVencLevel board p = captured p := by
  have hdual := h.dual
  rw [stopVencLevel, stopPeripherals_eq h.pointers hdual, stopEncoders_eq hobeys, destroyEncoders_eq hobeys]
  · simp [captured, h.vifVpe, Owned.none]
  · intro hnone
    have hd : p.dual = none := by simpa using hnone
    have hvenc1 : p.hw.venc1 = .off := by simpa [hd] using hdual.venc1
    simp [hvenc1, Encoder.off]
  · exact ⟨hdual.venc1, hdual.link, hdual.bound, hdual.recThread, by simp [Owned.none]⟩
  · exact h.vpeVenc0.1.trans h.vpeVenc0.2.symm

theorem star6ePipelineStop_eq {board : Board} {p : Pipe} (hobeys : board.Obeys) (h : Up p) :
    star6ePipelineStop board p = { p with
      hw := .off
      boundVifVpe := false
      boundVpeVenc := false
      dual := none
      imu := false
      eis := false
      osd := false
      phyCycles := p.phyCycles + 2 } := by
  have hdual := h.dual
  rw [star6ePipelineStop, stopPeripherals_eq h.pointers hdual, stopEncoders_eq hobeys, unbindVifVpe_eq hobeys,
    destroyEncoders_eq hobeys]
  · simp [stopVpe, stopVif, stopSensor, attempt, obeys_all hobeys, Owned.none, Hardware.off, Links.off, h.vpe, Scaler.on, Vif.off]
  · intro hnone
    have hd : p.dual = none := by simpa using hnone
    have hvenc1 : p.hw.venc1 = .off := by simpa [hd] using hdual.venc1
    simp [hvenc1, Encoder.off]
  · exact h.vifVpe.1.trans h.vifVpe.2.symm
  · exact ⟨hdual.venc1, hdual.link, hdual.bound, hdual.recThread, by simp [Owned.none]⟩
  · exact h.vpeVenc0.1.trans h.vpeVenc0.2.symm

/-! Starting. -/

/-- What a process leaves behind and the next one begins with. -/
structure AtRest (hw : Hardware) : Prop where
  vpe : hw.vpe.channel = false → hw.vpe = .off
  venc1 : hw.venc1 = .off
  link : hw.links.vpeVenc1 = false
  owned : hw.owned = .none

theorem teardownVpe_eq {board : Board} {p : Pipe} (hobeys : board.Obeys)
    (h : p.hw.vpe.channel = false → p.hw.vpe = .off) :
    teardownVpe board p = { p with hw.vpe := .off } := by
  rw [teardownVpe]
  cases hc : p.hw.vpe.channel
  case false => simp [h hc, Pipe.ext_iff, Hardware.ext_iff]
  case true => simp [hc, attempt, obeys_all hobeys]

theorem preInitTeardown_eq {board : Board} {p : Pipe} (hobeys : board.Obeys) (h : AtRest p.hw) :
    preInitTeardown board p =
      { p with hw := { Hardware.off with sensor := p.hw.sensor }, phyCycles := p.phyCycles + 1 } := by
  rw [preInitTeardown, teardownVpe_eq hobeys]
  · simp [attempt, obeys_all hobeys, h.venc1, h.link, h.owned, Hardware.off, Links.off, Vif.off, Owned.none]
  · simpa [attempt, obeys_all hobeys] using h.vpe

theorem sensorSelect_ends {board : Board} {p : Pipe} (hobeys : board.Obeys) :
    Ends (Eq p) (sensorSelect board)
      (Eq { p with hw.sensor := true, sensor := board.sensor, phyCycles := p.phyCycles + 1 })
      (fun q => Same { p with hw.sensor := q.hw.sensor } q) := by
  refine call_then ?_ (.always_then (call_then ?_ (call_then ?_ (call_then ?_ (.always_eq ?_)))))
  all_goals simp [Same, attempt, obeys_all hobeys]

/-- All off but the sensor, with the state as it is reset. -/
def cleared (p : Pipe) : Pipe :=
  { pipelineReset p with hw := { Hardware.off with sensor := p.hw.sensor }, sensor := p.sensor, imageWidth := p.imageWidth,
                         imageHeight := p.imageHeight }

def Cleared (p : Pipe) : Prop := p = cleared p

theorem selectAndConfigureSensor_ends {board : Board} {cfg : Config} {p : Pipe} (hobeys : board.Obeys) (h : AtRest p.hw)
    (hreset : p = pipelineReset p) :
    Ends (Eq p) (selectAndConfigureSensor board cfg)
      (fun q => Cleared q ∧ q.hw.sensor = true ∧ q.sound = p.sound) (fun q => Cleared q ∧ q.sound = p.sound) := by
  refine .always_then ?_
  rw [preInitTeardown_eq hobeys h, hreset]
  refine .andThen ((sensorSelect_ends hobeys).weaken (fun _ h => h) ?_) (.always_eq ?_)
  · intro q hq
    simp only [Same] at hq
    rw [hq]
    exact ⟨rfl, rfl⟩
  · exact ⟨rfl, rfl, rfl⟩

theorem stopVenc0_same {board : Board} {p q : Pipe} (hobeys : board.Obeys) (h : p.hw.venc0 = .off)
    (hrec : p.hw.owned.recThread = false) (hq : Same { p with hw.venc0 := .on } q) : Same p (stopVenc0 board q) := by
  simp only [Same] at hq ⊢
  rw [hq]
  simp [stopVenc0, attempt, obeys_all hobeys, hrec, ← h]

theorem stopVpe_same {board : Board} {p q : Pipe} (hobeys : board.Obeys) (h : p.hw.vpe = .off)
    (hq : Same { p with hw.vpe := .on } q) : Same p (stopVpe board q) := by
  simp only [Same] at hq ⊢
  rw [hq]
  simp [stopVpe, attempt, obeys_all hobeys, Scaler.on, ← h]

theorem stopVif_same {board : Board} {p q : Pipe} (hobeys : board.Obeys) (h : p.hw.vif = .off)
    (hq : Same { p with hw.vif := .on } q) : Same p (stopVif board q) := by
  simp only [Same] at hq ⊢
  rw [hq]
  simp [stopVif, attempt, obeys_all hobeys, h, Vif.off, Hardware.ext_iff]

/-- Up to the VPE, and nothing behind it. -/
structure Ready (p : Pipe) : Prop where
  hw : p.hw = { Hardware.off with sensor := true, vif := .on, vpe := .on, links.vifVpe := p.boundVifVpe }
  boundVpeVenc : p.boundVpeVenc = false
  dual : p.dual = none
  peripherals : p.imu = false ∧ p.eis = false ∧ p.osd = false

/-- Running without a dual channel, and with nothing disabled on the way. -/
structure Started (p q : Pipe) : Prop where
  up : Up q
  dual : q.dual = none
  sound : q.sound = p.sound
  phyCycles : q.phyCycles = p.phyCycles

theorem started_of_finalized {p q : Pipe} (hp : Ready p) (h : Finalized { p with hw.venc0 := .on } q) : Started p q := by
  obtain ⟨hq, hpointers⟩ := h
  simp only [SameBehind] at hq
  have hnone : q.dual = none := by rw [hq]; exact hp.dual
  refine ⟨⟨?_, ?_, ?_, ?_, ?_, ?_, ?_, ⟨?_, ?_, ?_, ?_, ?_⟩, hpointers⟩, hnone, by rw [hq], by rw [hq]⟩
  all_goals rw [hq]
  all_goals simp [hp.hw, hp.dual, Hardware.off, Owned.none, Links.off]

theorem encode_ends {board : Board} {cfg : Config} {p : Pipe} (hobeys : board.Obeys) (h : Ready p) :
    Ends (Eq p) (andThen (startVenc0 board) (undoing (bindAndFinalizePipeline board cfg) (stopVenc0 board)))
      (Started p) (Unbound p) := by
  have hvenc0 : p.hw.venc0 = .off := by rw [h.hw]; rfl
  have hrec : p.hw.owned.recThread = false := by rw [h.hw]; rfl
  refine Ends.andThen ((startVenc0_ends hobeys hvenc0).weaken (fun _ h => h) fun _ => .inl)
    (.undoing ((bindAndFinalizePipeline_ends hobeys ?_ ?_ ?_ ?_ ?_ ?_).weaken ?_ fun _ h => h) ?_)
  · simp [h.hw]
  · simp [h.hw, Hardware.off, Links.off]
  · exact h.boundVpeVenc
  · simp [h.hw, Hardware.off, Owned.none]
  · exact hrec
  · constructor <;> simp [h.hw, h.peripherals, Hardware.off, Owned.none]
  · intro q hq
    exact started_of_finalized h hq
  · rintro q (hq | hq)
    · exact .inl (stopVenc0_same hobeys hvenc0 hrec hq)
    · exact .inr (stopVenc0_same hobeys hvenc0 hrec hq)

theorem acquirePipeline_ends {board : Board} {cfg : Config} {p : Pipe} (hobeys : board.Obeys) (h : AtRest p.hw)
    (hreset : p = pipelineReset p) :
    Ends (Eq p) (acquirePipeline board cfg)
      (fun q => Up q ∧ q.dual = none ∧ q.sound = p.sound) (fun q => Cleared q ∧ q.sound = p.sound) := by
  refine .andThen (selectAndConfigureSensor_ends hobeys h hreset) ?_
  rintro q ⟨hq, hsensor, hsound⟩
  have hhw : q.hw = { Hardware.off with sensor := true } := by
    rw [hq] at hsensor ⊢
    simpa [cleared, Hardware.off] using hsensor
  have hvif : q.hw.vif = .off := by rw [hhw]; rfl
  have hvpe : q.hw.vpe = .off := by rw [hhw]; rfl
  have hunbound : q.boundVifVpe = false := by rw [hq]; rfl
  have hready : Ready { q with hw.vif := .on, hw.vpe := .on } := by
    constructor
    · simp [hhw, hunbound, Hardware.off, Links.off]
    · rw [hq]; rfl
    · rw [hq]; rfl
    · rw [hq]; exact ⟨rfl, rfl, rfl⟩
  have hstaged : Ends (Eq q)
      (andThen (startVif board) (undoing (andThen (startVpe board) (undoing (andThen (startVenc0 board)
        (undoing (bindAndFinalizePipeline board cfg) (stopVenc0 board))) (stopVpe board))) (stopVif board)))
      (fun r => Up r ∧ r.dual = none ∧ r.sound = p.sound) (Same q) := by
    refine .acquire (startVif_ends hobeys hvif)
      (.acquire (startVpe_ends hobeys hvpe) ((encode_ends hobeys hready).weaken ?_ ?_) ?_) ?_
    · intro r hr
      exact ⟨hr.up, hr.dual, hr.sound.trans hsound⟩
    · rintro r (hr | hr)
      · exact hr
      · simp only [Same] at hr ⊢
        rw [hr]
        simp [hhw, hunbound, Hardware.off, Links.off]
    · intro r hr
      exact stopVpe_same hobeys hvpe hr
    · intro r hr
      exact stopVif_same hobeys hvif hr
  refine Ends.undoing hstaged ?_ q rfl
  intro r hr
  simp only [Same] at hr
  rw [hr, ← hsound, hq]
  simp [Cleared, cleared, pipelineReset, stopSensor, attempt, obeys_all hobeys]

theorem star6ePipelineStart_ends {board : Board} {cfg : Config} {p : Pipe} (hobeys : board.Obeys) (h : AtRest p.hw) :
    Ends (Eq p) (star6ePipelineStart board cfg)
      (fun q => Up q ∧ q.dual = none ∧ q.sound = p.sound) (fun q => AtRest q.hw ∧ q.sound = p.sound) := by
  refine .always_then ?_
  split
  case isTrue =>
    refine (@acquirePipeline_ends board cfg (pipelineReset p) hobeys h rfl).weaken (fun _ hq => hq) ?_
    rintro q ⟨hq, hsound⟩
    refine ⟨?_, hsound⟩
    rw [hq]
    exact ⟨fun _ => rfl, rfl, rfl, rfl⟩
  case isFalse =>
    refine .refuse ?_
    rintro _ rfl
    exact ⟨h, rfl⟩

/-! The dual channel. -/

theorem startDual_ends {board : Board} {p : Pipe} (hobeys : board.Obeys) (h : Up p) (hdual : p.dual = none) :
    Ends (Eq p) (star6ePipelineStartDual board)
      (Eq { p with hw.venc1 := .on, hw.links.vpeVenc1 := true, dual := some ⟨true, false⟩ }) (Same p) := by
  have hvenc1 : p.hw.venc1 = .off := by simpa [hdual] using h.dual.venc1
  have hlink : p.hw.links.vpeVenc1 = false := by simpa [hdual] using h.dual.link
  have hrec : p.hw.owned.recThread = false := by simpa [hdual] using h.dual.recThread
  refine .andThen (startVenc1_ends hobeys hvenc1) (.andThen (undoing_call ?_ rfl) (.always_eq ?_))
  · simp [Same, stopVenc1, attempt, obeys_all hobeys, hrec, ← hvenc1]
  · simp

theorem Up.same {p q : Pipe} (h : Up p) (hq : Same p q) : Up q := by
  simp only [Same] at hq
  rw [hq]
  exact ⟨h.sensor, h.vif, h.vpe, h.venc0, h.vifVpe, h.vpeVenc0, h.output,
    ⟨h.dual.venc1, h.dual.link, h.dual.bound, h.dual.recThread, h.dual.output⟩,
    ⟨h.pointers.imu, h.pointers.eis, h.pointers.osd, h.pointers.imuThread⟩⟩

theorem dual_up {p : Pipe} (h : Up p) (hdual : p.dual = none) :
    Up { p with hw.venc1 := .on, hw.links.vpeVenc1 := true, dual := some ⟨true, false⟩ } := by
  have hrec : p.hw.owned.recThread = false := by simpa [hdual] using h.dual.recThread
  exact ⟨h.sensor, h.vif, h.vpe, h.venc0, h.vifVpe, h.vpeVenc0, h.output,
    ⟨rfl, rfl, by rintro d ⟨⟩; rfl, hrec, fun _ => rfl⟩,
    ⟨h.pointers.imu, h.pointers.eis, h.pointers.osd, h.pointers.imuThread⟩⟩

theorem dualOutput_up (board : Board) {p : Pipe} (h : Up p) (hdual : p.dual = some ⟨true, false⟩) :
    Up (attempt board .dualOutputInit p) ∧ (attempt board .dualOutputInit p).dual = some ⟨true, false⟩ ∧
      (attempt board .dualOutputInit p).sound = p.sound := by
  have hopened : Up { p with hw.owned.dualOutput := true } :=
    ⟨h.sensor, h.vif, h.vpe, h.venc0, h.vifVpe, h.vpeVenc0, h.output,
      ⟨h.dual.venc1, h.dual.link, h.dual.bound, h.dual.recThread, fun _ => by rw [hdual]; rfl⟩,
      ⟨h.pointers.imu, h.pointers.eis, h.pointers.osd, h.pointers.imuThread⟩⟩
  rw [attempt]
  split
  · simpa [hdual] using hopened
  · simpa [hdual] using hopened

theorem recThread_up (board : Board) {p : Pipe} (h : Up p) (hdual : p.dual = some ⟨true, false⟩) :
    Up (dualRecThreadStart board p) ∧ (dualRecThreadStart board p).sound = p.sound := by
  rw [dualRecThreadStart]
  split
  · simpa using h
  · have hstarted : Up { p with hw.owned.recThread := true, dual := some ⟨true, true⟩ } :=
      ⟨h.sensor, h.vif, h.vpe, h.venc0, h.vifVpe, h.vpeVenc0, h.output,
        ⟨by simpa [hdual] using h.dual.venc1, by simpa [hdual] using h.dual.link, by rintro d ⟨⟩; rfl, rfl,
          fun _ => rfl⟩,
        ⟨h.pointers.imu, h.pointers.eis, h.pointers.osd, h.pointers.imuThread⟩⟩
    simpa [hdual] using hstarted

theorem applyStartupControls_up {board : Board} (hobeys : board.Obeys) (cfg : Config) {p : Pipe} (h : Up p)
    (hdual : p.dual = none) :
    Up (applyStartupControls board cfg p) ∧ (applyStartupControls board cfg p).sound = p.sound := by
  rw [applyStartupControls]
  split
  case isFalse => exact ⟨h, rfl⟩
  case isTrue =>
    rcases @startDual_ends board p hobeys h hdual p rfl with ⟨q, hq, hup⟩ | ⟨q, hq, hsame⟩
    · rw [hq, ← hup]
      have hopened := dual_up h hdual
      cases cfg.dualStream
      case false => exact recThread_up board hopened rfl
      case true =>
        obtain ⟨hout, hkept, hsound⟩ := dualOutput_up board hopened rfl
        obtain ⟨hrec, hsound'⟩ := recThread_up board hout hkept
        exact ⟨hrec, hsound'.trans hsound⟩
    · rw [hq]
      exact ⟨h.same hsame, by rw [hsame]⟩

/-! Restarting. -/

theorem captured_ready {p : Pipe} (h : Up p) : Ready (captured p) := by
  refine ⟨?_, rfl, rfl, rfl, rfl, rfl⟩
  simp [captured, h.sensor, h.vif, h.vpe, h.vifVpe.2, Hardware.off, Links.off]

/-- Everything behind the VPE is down, and the rest may be. -/
def Down (p q : Pipe) : Prop := AtRest q.hw ∧ q.sound = p.sound

theorem resizeVpePort_ends {board : Board} {p : Pipe} (hobeys : board.Obeys) (h : Ready p) :
    Ends (Eq p) (resizeVpePort board) (Eq p) (Down p) := by
  have hvpe : p.hw.vpe = .on := by rw [h.hw]
  have hrest (b : Bool) : AtRest { p.hw with vpe := { Scaler.on with port := b } } := by
    rw [h.hw]
    exact ⟨nofun, rfl, rfl, rfl⟩
  refine .always_then (.andThen (undoing_call ?_ rfl) (call_ends ?_ ?_))
  · rw [attempt]
    split
    · simpa [Down, hvpe, Scaler.on, attempt, obeys_all hobeys] using hrest true
    · simpa [Down, hvpe, Scaler.on, attempt, obeys_all hobeys] using hrest true
  · simpa [Down, hvpe, Scaler.on, attempt, obeys_all hobeys] using hrest true
  · simp [hvpe, Scaler.on, attempt, obeys_all hobeys, Pipe.ext_iff, Hardware.ext_iff]

theorem reconfigureVif_ends {board : Board} {p : Pipe} (hobeys : board.Obeys) (h : Ready p) :
    Ends (Eq p) (reconfigureVif board) (Eq { p with hw.links.vifVpe := false, boundVifVpe := false }) (Down p) := by
  have hdown (vif : Vif) (n : Nat) :
      Down p { p with
        hw := { p.hw with vif := vif, vpe := .off, links.vifVpe := false }, boundVifVpe := false, phyCycles := n } := by
    rw [Down, h.hw]
    exact ⟨⟨fun _ => rfl, rfl, rfl, rfl⟩, rfl⟩
  have hvpe : p.hw.vpe = .on := by rw [h.hw]
  have hvif : p.hw.vif = .on := by rw [h.hw]
  refine .always_then ?_
  rw [unbindVifVpe_eq hobeys (by rw [h.hw])]
  refine .always_then (.always_then (.andThen (undoing_call ?_ rfl) (.andThen (undoing_call ?_ rfl)
    (.undoing ((startVpe_ends hobeys ?_).weaken ?_ fun _ h => h) ?_))))
  · simpa [stopVpe, attempt, obeys_all hobeys, hvpe, Scaler.on] using hdown ⟨false, false⟩ (p.phyCycles + 1)
  · simpa [stopVpe, attempt, obeys_all hobeys, hvpe, Scaler.on] using hdown ⟨false, true⟩ (p.phyCycles + 1)
  · simp [stopVpe, attempt, obeys_all hobeys]
  · rintro _ rfl
    simp [stopVpe, attempt, obeys_all hobeys, hvpe, hvif, Scaler.on, Vif.on]
  · intro q hq
    simp only [Same] at hq
    rw [hq]
    simpa [stopVpe, stopVif, attempt, obeys_all hobeys, hvpe, Scaler.on] using hdown ⟨false, false⟩ (q.phyCycles + 1)

theorem resizeImage_ends {board : Board} {cfg : Config} {p : Pipe} (hobeys : board.Obeys) (h : Ready p) :
    Ends (Eq p) (resizeImage board cfg) (fun q => Ready q ∧ q.sound = p.sound ∧ q.phyCycles = p.phyCycles) (Down p) := by
  rintro _ rfl
  simp only [resizeImage]
  generalize clampImageSize p.sensor.capt.width.toUInt32 p.sensor.capt.height.toUInt32 cfg.request.width
    cfg.request.height = image
  have hresized : Ready { p with imageWidth := image.1, imageHeight := image.2 } :=
    ⟨h.hw, h.boundVpeVenc, h.dual, h.peripherals⟩
  split
  case isFalse => exact .inl ⟨_, rfl, hresized, rfl, rfl⟩
  case isTrue =>
    split
    case isTrue =>
      refine (reconfigureVif_ends hobeys hresized).weaken ?_ (fun _ h => h) _ rfl
      rintro _ rfl
      refine ⟨⟨?_, h.boundVpeVenc, h.dual, h.peripherals⟩, rfl, rfl⟩
      simp [h.hw]
    case isFalse =>
      refine (resizeVpePort_ends hobeys hresized).weaken ?_ (fun _ h => h) _ rfl
      rintro _ rfl
      exact ⟨hresized, rfl, rfl⟩

theorem star6ePipelineReinit_ends {board : Board} {cfg : Config} {p : Pipe} (hobeys : board.Obeys) (h : Up p) :
    Ends (Eq p) (star6ePipelineReinit board cfg) (Started p) (Down p) := by
  have hready := captured_ready h
  refine .always_then ?_
  rw [stopVencLevel_eq hobeys h]
  split
  case isTrue =>
    refine .andThen (resizeImage_ends hobeys hready) ?_
    rintro q ⟨hq, hsound, hcycles⟩
    refine (encode_ends hobeys hq).weaken ?_ ?_ q rfl
    · intro r hr
      exact ⟨hr.up, hr.dual, hr.sound.trans hsound, hr.phyCycles.trans hcycles⟩
    · rintro r (hr | hr)
      all_goals
        simp only [Same] at hr
        rw [hr, Down]
        refine ⟨?_, hsound⟩
        rw [hq.hw]
        exact ⟨nofun, rfl, rfl, rfl⟩
  case isFalse =>
    refine .refuse ?_
    rintro _ rfl
    refine ⟨?_, rfl⟩
    rw [hready.hw]
    exact ⟨nofun, rfl, rfl, rfl⟩

end WaybeamVenc.PipelineSteps
