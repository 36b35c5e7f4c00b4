import WaybeamVenc.PipelineLifecycle

namespace WaybeamVenc.PipelinePhy

open PipelineGeometry PipelineLifecycle Staged

/-! What becomes of the sensor and the VIF, whatever the calls return. -/

/-- The sensor and the VIF are on, after so many calls that were to disable them. -/
def On (P : Nat → Prop) (p : Pipe) : Prop := p.hw.sensor = true ∧ p.hw.vif = .on ∧ P p.phyCycles

def cuts : List Call := [.snrDisable, .vifDisableChnPort, .vifDisableDev]

variable {P : Nat → Prop} {board : Board} {cfg : Config} {p : Pipe} {c : Call}

theorem On.issue (h : On P p) (hc : c ∉ cuts) : On P (p.issue c) := by
  obtain ⟨hsensor, hvif, hcycles⟩ := h
  cases c <;> first
    | exact absurd (by decide) hc
    | exact ⟨by simp [Pipe.issue, effect, hsensor], by simp [Pipe.issue, effect, hvif, Vif.on], hcycles⟩

theorem On.refused (h : On P p) (hc : c ∉ cuts) : On P (p.refused c) := by
  obtain ⟨hsensor, hvif, hcycles⟩ := h
  cases c <;> first
    | exact absurd (by decide) hc
    | exact ⟨by simp [Pipe.refused, failedEffect, hsensor], by simp [Pipe.refused, failedEffect, hvif, Vif.on], hcycles⟩

theorem On.attempt (h : On P p) (board : Board) (hc : c ∉ cuts) : On P (attempt board c p) := by
  rw [PipelineLifecycle.attempt]
  split
  · exact h.refused hc
  · exact h.issue hc

theorem On.attempts (h : On P p) (board : Board) {cs : List Call} (hcs : ∀ c ∈ cs, c ∉ cuts) : On P (attempts board cs p) := by
  induction cs generalizing p with
  | nil => exact h
  | cons c cs ih => exact ih (h.attempt board (hcs c (List.mem_cons_self ..))) fun d hd => hcs d (List.mem_cons_of_mem _ hd)

/-- A routine that leaves the sensor and the VIF on where it succeeds. -/
abbrev Keeps (P : Nat → Prop) (r : Routine Pipe) : Prop := Ends (On P) r (On P) fun _ => True

theorem call_stays (hc : c ∉ cuts) : Ends (On P) (call board c) (On P) (On P) := by
  intro p h
  rw [call]
  split
  · exact .inr ⟨_, rfl, h.refused hc⟩
  · exact .inl ⟨_, rfl, h.issue hc⟩

theorem call_keeps (hc : c ∉ cuts) : Keeps P (call board c) :=
  (call_stays hc).weaken (fun _ h => h) fun _ _ => trivial

theorem undoing_keeps {r : Routine Pipe} {f : Pipe → Pipe} (h : Keeps P r) : Keeps P (undoing r f) :=
  .undoing h fun _ _ => trivial

/-! The peripherals. -/

theorem startImu_on (h : On P p) : On P (startImu board p) := by
  simp only [startImu]
  split
  · exact h.refused (by decide)
  · have himu : On P { p.issue .imuInit with imu := true } := h.issue (by decide : Call.imuInit ∉ cuts)
    split
    · exact himu
    · exact himu.attempt board (by decide)

theorem startEis_on (h : On P p) : On P (startEis board cfg p) := by
  unfold startEis
  split
  · exact h
  · split
    · exact h.refused (by decide)
    · exact h.issue (by decide : Call.eisCreate ∉ cuts)

theorem startOsd_on (h : On P p) : On P (startOsd board p) := by
  unfold startOsd
  split
  · exact h.refused (by decide)
  · exact h.issue (by decide : Call.osdCreate ∉ cuts)

theorem startPeripherals_on (h : On P p) : On P (startPeripherals board cfg p) := by
  have haudio : On P (if cfg.audioSkipped then p else attempt board .audioInit p) := by
    split
    · exact h
    · exact h.attempt board (by decide)
  simp only [startPeripherals]
  generalize (if cfg.audioSkipped then p else attempt board .audioInit p) = q at haudio ⊢
  have himu : On P (if cfg.imuEnabled then startImu board q else q) := by
    split
    · exact startImu_on haudio
    · exact haudio
  generalize (if cfg.imuEnabled then startImu board q else q) = q at himu ⊢
  have heis : On P (if cfg.eisEnabled then startEis board cfg q else q) := by
    split
    · exact startEis_on himu
    · exact himu
  split
  · exact startOsd_on heis
  · exact heis

theorem stopPeripherals_on (h : On P p) : On P (stopPeripherals p) := by
  have hthread : On P (stopImu p) := by
    unfold stopImu
    split
    · exact h.issue (by decide)
    · exact h
  have heis : On P (destroyEis (stopImu p)) := by
    unfold destroyEis
    split
    · exact hthread.issue (by decide : Call.eisDestroy ∉ cuts)
    · exact hthread
  have himu : On P (destroyImu (destroyEis (stopImu p))) := by
    unfold destroyImu
    split
    · exact heis.issue (by decide : Call.imuDestroy ∉ cuts)
    · exact heis
  have hosd : On P (destroyOsd (destroyImu (destroyEis (stopImu p)))) := by
    unfold destroyOsd
    split
    · exact himu.issue (by decide : Call.osdDestroy ∉ cuts)
    · exact himu
  have houtputs := (hosd.issue (by decide : Call.audioTeardown ∉ cuts)).issue (by decide : Call.outputTeardown ∉ cuts)
  simp only [stopPeripherals, teardownOutputs]
  split
  · exact houtputs.issue (by decide)
  · exact houtputs

/-! The routines. -/

theorem startVpe_keeps : Keeps P (startVpe board) :=
  .andThen (call_keeps (by decide))
    (.andThen (undoing_keeps (call_keeps (by decide)))
      (.andThen (undoing_keeps (call_keeps (by decide)))
        (.andThen (undoing_keeps (call_keeps (by decide))) (undoing_keeps (call_keeps (by decide))))))

theorem startVenc0_keeps : Keeps P (startVenc0 board) :=
  .andThen (call_keeps (by decide)) (undoing_keeps (call_keeps (by decide)))

theorem bindVifVpe_keeps : Keeps P (bindVifVpe board) := by
  intro p h
  rw [bindVifVpe]
  split
  · exact .inl ⟨p, rfl, h⟩
  · have hcall : Keeps P (andThen (call board .bindVifVpe) (always ({ · with boundVifVpe := true }))) :=
      .andThen (call_keeps (by decide)) (.always fun _ h => h)
    exact hcall p h

theorem bindAndFinalizePipeline_keeps : Keeps P (bindAndFinalizePipeline board cfg) :=
  .andThen (call_keeps (by decide))
    (.andThen bindVifVpe_keeps
      (.andThen (undoing_keeps (call_keeps (by decide)))
        (.andThen (.always fun _ h => h)
          (.andThen (undoing_keeps (call_keeps (by decide))) (.always fun _ h => startPeripherals_on h)))))

theorem encode_keeps {f : Pipe → Pipe} :
    Keeps P (andThen (startVenc0 board) (undoing (bindAndFinalizePipeline board cfg) f)) :=
  .andThen startVenc0_keeps (undoing_keeps bindAndFinalizePipeline_keeps)

theorem joinRecThread_on (h : On P p) : On P (joinRecThread p) := by
  unfold joinRecThread
  split
  · split
    · exact h.issue (by decide : Call.recThreadJoin ∉ cuts)
    · exact h
  · exact h

theorem unbindDual_on (h : On P p) : On P (unbindDual board p) := by
  unfold unbindDual
  split
  · split
    · exact h.attempt board (by decide : Call.unbindVpeVenc1 ∉ cuts)
    · exact h
  · exact h

theorem stopEncoders_on (h : On P p) : On P (stopEncoders board p) := by
  have hdual : On P (unbindDual board (joinRecThread p)) := unbindDual_on (joinRecThread_on h)
  simp only [stopEncoders, stopRecv]
  generalize unbindDual board (joinRecThread p) = q at hdual ⊢
  have hunbound : On P (if q.boundVpeVenc then unbindVpeVenc board q else q) := by
    split
    · exact hdual.attempt board (by decide : Call.unbindVpeVenc0 ∉ cuts)
    · exact hdual
  generalize (if q.boundVpeVenc then unbindVpeVenc board q else q) = q at hunbound ⊢
  have hdual' : On P (if q.dual.isSome then attempt board .vencStopRecvPic1 q else q) := by
    split
    · exact hunbound.attempt board (by decide)
    · exact hunbound
  exact hdual'.attempt board (by decide)

theorem destroyEncoders_on (h : On P p) : On P (destroyEncoders board p) := by
  have hdual : On P (if p.dual.isSome then { attempt board .vencDestroyChn1 p with dual := none } else p) := by
    split
    · exact h.attempt board (by decide : Call.vencDestroyChn1 ∉ cuts)
    · exact h
  exact hdual.attempt board (by decide)

theorem stopVencLevel_on (h : On P p) : On P (stopVencLevel board p) :=
  destroyEncoders_on (stopEncoders_on (stopPeripherals_on h))

theorem unbindVifVpe_on (h : On P p) : On P (if p.boundVifVpe then unbindVifVpe board p else p) := by
  split
  · exact h.attempt board (by decide : Call.unbindVifVpe ∉ cuts)
  · exact h

theorem resizeVpePort_keeps : Keeps P (resizeVpePort board) :=
  .andThen (.always fun _ h => h.attempt board (by decide))
    (.andThen (undoing_keeps (call_keeps (by decide))) (call_keeps (by decide)))

/-- On but for the port. -/
def Half (P : Nat → Prop) (p : Pipe) : Prop := p.hw.sensor = true ∧ p.hw.vif.dev = true ∧ P p.phyCycles

theorem disablePort_half (h : On P p) : Half P (attempt board .vifDisableChnPort p) := by
  obtain ⟨hsensor, hvif, hcycles⟩ := h
  rw [attempt]
  split
  · exact ⟨hsensor, by simp [Pipe.refused, failedEffect, hvif, Vif.on], hcycles⟩
  · exact ⟨hsensor, by simp [Pipe.issue, effect, hvif, Vif.on], hcycles⟩

theorem setPort_half : Ends (Half P) (call board .vifSetChnPortAttr) (Half P) fun _ => True := by
  intro p h
  rw [call]
  split
  · exact .inr ⟨_, rfl, trivial⟩
  · exact .inl ⟨_, rfl, h⟩

theorem enablePort_on : Ends (Half P) (call board .vifEnableChnPort) (On P) fun _ => True := by
  intro p ⟨hsensor, hdev, hcycles⟩
  rw [call]
  split
  · exact .inr ⟨_, rfl, trivial⟩
  · exact .inl ⟨_, rfl, hsensor, by simp [Pipe.issue, effect, hdev, Vif.on], hcycles⟩

/-- The port goes off and comes on again: the device stays as it is. -/
theorem reconfigureVif_keeps : Keeps P (reconfigureVif board) :=
  .andThen (.always fun _ h => unbindVifVpe_on h)
    (.andThen (.always fun _ h => h.attempts board (by decide))
      (.andThen (.always fun _ h => disablePort_half h)
        (.andThen (.undoing setPort_half fun _ _ => trivial)
          (.andThen (.undoing enablePort_on fun _ _ => trivial) (undoing_keeps startVpe_keeps)))))

theorem resizeImage_keeps : Keeps P (resizeImage board cfg) := by
  intro p h
  simp only [resizeImage]
  split
  · split
    · exact reconfigureVif_keeps _ h
    · exact resizeVpePort_keeps _ h
  · exact .inl ⟨_, rfl, h⟩

theorem star6ePipelineReinit_keeps : Keeps P (star6ePipelineReinit board cfg) := by
  refine .andThen (.always fun _ h => stopVencLevel_on h) ?_
  split
  · exact .andThen resizeImage_keeps encode_keeps
  · exact .refuse fun _ _ => trivial

/-! Starting. -/

def Selected (p : Pipe) : Prop := p.hw.sensor = true

theorem snrEnable_selects : Ends (fun _ => True) (call board .snrEnable) Selected fun _ => True := by
  intro p _
  rw [call]
  split
  · exact .inr ⟨_, rfl, trivial⟩
  · exact .inl ⟨_, rfl, rfl⟩

theorem call_any : Ends (fun _ => True) (call board c) (fun _ => True) fun _ => True := by
  intro p _
  rw [call]
  split
  · exact .inr ⟨_, rfl, trivial⟩
  · exact .inl ⟨_, rfl, trivial⟩

theorem call_selected (hc : c ≠ .snrDisable) : Ends Selected (call board c) Selected fun _ => True := by
  intro p h
  rw [call]
  split
  · exact .inr ⟨_, rfl, trivial⟩
  · refine .inl ⟨_, rfl, ?_⟩
    cases c <;> first
      | exact absurd rfl hc
      | exact h
      | rfl

theorem sensorSelect_selects : Ends (fun _ => True) (sensorSelect board) Selected fun _ => True :=
  .andThen call_any (.andThen (.always fun _ _ => trivial) (.andThen call_any
    (.andThen snrEnable_selects (.andThen (call_selected (by decide)) (.always fun _ h => h)))))

theorem enableDev_half : Ends Selected (call board .vifEnableDev) (Half fun _ => True) fun _ => True := by
  intro p h
  rw [call]
  split
  · exact .inr ⟨_, rfl, trivial⟩
  · exact .inl ⟨_, rfl, h, rfl, trivial⟩

theorem startVif_on : Ends Selected (startVif board) (On fun _ => True) fun _ => True :=
  .andThen (call_selected (by decide))
    (.andThen enableDev_half
      (.andThen (.undoing setPort_half fun _ _ => trivial) (.undoing enablePort_on fun _ _ => trivial)))

theorem acquirePipeline_on :
    Ends (fun _ => True) (acquirePipeline board cfg) (On fun _ => True) fun _ => True :=
  .andThen (.andThen (.always fun _ _ => trivial) (.andThen sensorSelect_selects (.always fun _ h => h)))
    (.undoing (.andThen startVif_on (undoing_keeps (.andThen startVpe_keeps (undoing_keeps encode_keeps))))
      fun _ _ => trivial)

theorem star6ePipelineStart_on :
    Ends (fun _ => True) (star6ePipelineStart board cfg) (On fun _ => True) fun _ => True := by
  have hreset : Ends (fun _ => True) (always pipelineReset) (fun _ => True) fun _ => True := .always fun _ _ => trivial
  refine .andThen hreset ?_
  split
  · exact acquirePipeline_on
  · exact .refuse fun _ _ => trivial

theorem dualRecThreadStart_on (h : On P p) : On P (dualRecThreadStart board p) := by
  unfold dualRecThreadStart
  split
  · exact h.refused (by decide)
  · exact h.issue (by decide : Call.recThreadCreate ∉ cuts)

/-- Whether the dual channel starts or not. -/
theorem startDual_stays : Ends (On P) (star6ePipelineStartDual board) (On P) (On P) :=
  .andThen (.andThen (call_stays (by decide)) (.undoing (call_stays (by decide)) fun _ h => h.attempt board (by decide)))
    (.andThen (.undoing (call_stays (by decide)) fun _ h => h.attempts board (by decide)) (.always fun _ h => h))

theorem applyStartupControls_on (h : On P p) : On P (applyStartupControls board cfg p) := by
  rw [applyStartupControls]
  split
  · rcases @startDual_stays P board p h with ⟨q, hq, hon⟩ | ⟨q, hq, hon⟩
    · rw [hq]
      apply dualRecThreadStart_on
      split
      · exact hon.attempt board (by decide)
      · exact hon
    · rw [hq]
      exact hon
  · exact h

end WaybeamVenc.PipelinePhy
