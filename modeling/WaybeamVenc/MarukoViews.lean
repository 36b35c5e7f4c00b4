import WaybeamVenc.MarukoGraph

namespace WaybeamVenc.MarukoViews

open MarukoGraph Staged

/-! The flags decide what the code does, whatever the calls that take down return. -/

/-- What the code knows of a stage, with the 3A and the mutex of the ISP. -/
@[ext]
structure Flags where
  devCreated : Bool
  chnCreated : Bool
  threeA : Bool
  mutexSafe : Bool

def flags (s : Stage) : Flags := ⟨s.devCreated, s.chnCreated, s.threeA, s.mutexSafe⟩

/-- Only the destruction of a channel meets the mutex. -/
def Flags.after (f : Flags) (c : StageCall) : Flags :=
  if c = .destroyChannel then { f with mutexSafe := f.mutexSafe && !f.threeA } else f

theorem flags_issue (s : Stage) (c : StageCall) : flags (s.issue c) = (flags s).after c := by
  cases c <;> rfl

theorem flags_refused (s : Stage) (c : StageCall) : flags (s.refused c) = (flags s).after c := by
  cases c <;> rfl

theorem flags_attempt (fails : StageCall → Bool) (c : StageCall) (s : Stage) :
    flags (stageAttempt fails c s) = (flags s).after c := by
  rw [stageAttempt]
  split
  · exact flags_refused s c
  · exact flags_issue s c

theorem flags_attempts (fails : StageCall → Bool) (cs : List StageCall) (s : Stage) :
    flags (stageAttempts fails cs s) = cs.foldl Flags.after (flags s) := by
  induction cs generalizing s with
  | nil => rfl
  | cons c cs ih => rw [List.foldl_cons, ← flags_attempt fails c s, ← ih, stageAttempts, List.foldl_cons, ← stageAttempts]

section

variable {fails fails' : StageCall → Bool}

/-- The two differ at most in calls that take down. -/
def StageLike (fails fails' : StageCall → Bool) : Prop := ∀ c, c ∉ stageTeardowns → fails c = fails' c

theorem stageCall_agrees (h : StageLike fails fails') {c : StageCall} (hc : c ∉ stageTeardowns) :
    Agree flags (stageCall fails c) (stageCall fails' c) := by
  intro s t hst
  rw [stageCall, stageCall, h c hc]
  split
  · exact ⟨rfl, by rw [flags_refused, flags_refused, hst]⟩
  · exact ⟨rfl, by rw [flags_issue, flags_issue, hst]⟩

theorem createDevice_agrees (h : StageLike fails fails') : Agree flags (createDevice fails) (createDevice fails') := by
  intro s t hst
  rw [createDevice, createDevice, show s.devCreated = t.devCreated from congrArg Flags.devCreated hst]
  split
  · exact ⟨rfl, hst⟩
  · exact Agree.andThen (stageCall_agrees h (by decide))
      (.always fun _ _ h => congrArg (fun f : Flags => { f with devCreated := true }) h) s t hst

theorem createChannel_agrees (h : StageLike fails fails') : Agree flags (createChannel fails) (createChannel fails') := by
  intro s t hst
  rw [createChannel, createChannel, show s.chnCreated = t.chnCreated from congrArg Flags.chnCreated hst]
  split
  · exact ⟨rfl, hst⟩
  · exact Agree.andThen (stageCall_agrees h (by decide))
      (.always fun _ _ h => congrArg (fun f : Flags => { f with chnCreated := true }) h) s t hst

theorem attempt_alike (c : StageCall) (s t : Stage) (hst : flags s = flags t) :
    flags (stageAttempt fails c s) = flags (stageAttempt fails' c t) := by
  rw [flags_attempt, flags_attempt, hst]

theorem attempts_alike (cs : List StageCall) {s t : Stage} (hst : flags s = flags t) :
    flags (stageAttempts fails cs s) = flags (stageAttempts fails' cs t) := by
  rw [flags_attempts, flags_attempts, hst]

theorem configureStage_agrees (h : StageLike fails fails') : Agree flags (configureStage fails) (configureStage fails') :=
  .andThen (createDevice_agrees h)
    (.undoing
      (.andThen (createChannel_agrees h)
        (.undoing
          (.andThen (stageCall_agrees h (by decide))
            (.andThen (stageCall_agrees h (by decide))
              (.undoing (.andThen (stageCall_agrees h (by decide)) (stageCall_agrees h (by decide)))
                (attempt_alike _))))
          (attempt_alike _)))
      (attempt_alike _))

theorem stopScl_alike {s t : Stage} (hst : flags s = flags t) : flags (stopScl fails s) = flags (stopScl fails' t) := by
  have hall := @attempts_alike fails fails' [.disablePort, .stopChannel, .destroyChannel] s t hst
  rw [stopScl, stopScl, show s.chnCreated = t.chnCreated from congrArg Flags.chnCreated hst]
  split
  · exact congrArg (fun f : Flags => { f with chnCreated := false }) hall
  · exact hst

theorem stopIsp_alike {s t : Stage} (hst : flags s = flags t) : flags (stopIsp fails s) = flags (stopIsp fails' t) := by
  rw [stopIsp, stopIsp, show s.chnCreated = t.chnCreated from congrArg Flags.chnCreated hst]
  split
  · exact attempts_alike _ hst
  · exact hst

end

/-! The graph. -/

@[ext]
structure View where
  isp : Flags
  scl : Flags
  vpeStarted : Bool
  ispInitialized : Bool

def view (c : Ctx) : View := ⟨flags c.isp, flags c.scl, c.vpeStarted, c.ispInitialized⟩

theorem view_issue (c : Ctx) (a : Call) : view (c.issue a) = view c := by
  cases a <;> rfl

theorem view_attempt (board : Board) (a : Call) (c : Ctx) : view (attempt board a c) = view c := by
  rw [attempt]
  split
  · rfl
  · exact view_issue c a

theorem view_attempts (board : Board) (as : List Call) (c : Ctx) : view (attempts board as c) = view c := by
  induction as generalizing c with
  | nil => rfl
  | cons a as ih => exact (ih _).trans (view_attempt board a c)

/-- The two boards differ at most in calls that take down. -/
structure Like (board board' : Board) : Prop where
  calls : ∀ a, a ∉ teardowns → board.fails a = board'.fails a
  isp : StageLike board.ispFails board'.ispFails
  scl : StageLike board.sclFails board'.sclFails
  ispBin : board.ispBin = board'.ispBin
  shmWithoutRtp : board.shmWithoutRtp = board'.shmWithoutRtp

section

variable {board board' : Board}

theorem call_agrees (h : Like board board') {a : Call} (ha : a ∉ teardowns) :
    Agree view (call board a) (call board' a) := by
  intro c d hcd
  rw [call, call, h.calls a ha]
  split
  · exact ⟨rfl, hcd⟩
  · exact ⟨rfl, by rw [view_issue, view_issue, hcd]⟩

theorem attempt_sees (a : Call) (c d : Ctx) (hcd : view c = view d) : view (attempt board a c) = view (attempt board' a d) := by
  rw [view_attempt, view_attempt, hcd]

theorem sensorSelect_agrees (h : Like board board') : Agree view (sensorSelect board) (sensorSelect board') :=
  .andThen (call_agrees h (by decide))
    (.andThen (.always (attempt_sees _))
      (.andThen (call_agrees h (by decide))
        (.andThen (call_agrees h (by decide)) (.andThen (call_agrees h (by decide)) (.always fun _ _ h => h)))))

theorem startVif_agrees (h : Like board board') : Agree view (startVif board) (startVif board') :=
  .andThen (call_agrees h (by decide))
    (.undoing
      (.andThen (call_agrees h (by decide))
        (.andThen (call_agrees h (by decide))
          (.undoing (.andThen (call_agrees h (by decide)) (call_agrees h (by decide))) (attempt_sees _))))
      (attempt_sees _))

theorem view_eq_iff {c d : Ctx} :
    view c = view d ↔ flags c.isp = flags d.isp ∧ flags c.scl = flags d.scl ∧ c.vpeStarted = d.vpeStarted ∧
      c.ispInitialized = d.ispInitialized := by
  simp [view]

theorem startVpe_agrees (h : Like board board') : Agree view (startVpe board) (startVpe board') := by
  refine .andThen (.within (configureStage_agrees h.isp) (fun c d hcd => (view_eq_iff.mp hcd).1) ?_)
    (.undoing (.within (configureStage_agrees h.scl) (fun c d hcd => (view_eq_iff.mp hcd).2.1) ?_) ?_)
  · intro c d u v hcd huv
    exact view_eq_iff.mpr ⟨huv, (view_eq_iff.mp hcd).2⟩
  · intro c d u v hcd huv
    exact view_eq_iff.mpr ⟨(view_eq_iff.mp hcd).1, huv, (view_eq_iff.mp hcd).2.2⟩
  · intro c d hcd
    exact view_eq_iff.mpr ⟨attempts_alike _ (view_eq_iff.mp hcd).1, (view_eq_iff.mp hcd).2⟩

theorem view_createVencDev (board : Board) (c : Ctx) : view (createVencDev board c) = view c := by
  rw [createVencDev]
  split
  · rfl
  · exact view_issue c .vencCreateDev

theorem view_destroyVencDev (board : Board) (c : Ctx) : view (destroyVencDev board c) = view c := by
  rw [destroyVencDev]
  split
  · exact view_attempt board .vencDestroyDev c
  · rfl

theorem startVenc_agrees (h : Like board board') : Agree view (startVenc board) (startVenc board') := by
  refine .andThen (.always fun c d hcd => ?_)
    (.undoing (.andThen (call_agrees h (by decide)) (.undoing (call_agrees h (by decide)) (attempt_sees _))) fun c d hcd => ?_)
  · rw [view_createVencDev, view_createVencDev, hcd]
  · rw [view_destroyVencDev, view_destroyVencDev, hcd]

theorem initIsp_agrees (h : Like board board') : Agree view (initIsp board) (initIsp board') := by
  intro c d hcd
  rw [initIsp, initIsp, (view_eq_iff.mp hcd).2.2.2, h.ispBin]
  have hbin : Agree view (if board'.ispBin then call board .loadIspBin else always id)
      (if board'.ispBin then call board' .loadIspBin else always id) := by
    split
    · exact call_agrees h (by decide)
    · exact .always fun _ _ h => h
  split
  · exact ⟨rfl, hcd⟩
  · refine Agree.andThen hbin (.always fun c d hcd => ?_) c d hcd
    exact congrArg (fun v : View => { v with isp := { v.isp with threeA := true }, ispInitialized := true }) hcd

theorem outputInit_agrees (h : Like board board') : Agree view (outputInit board) (outputInit board') := by
  rw [outputInit, outputInit, h.shmWithoutRtp]
  split
  · exact .refuse
  · exact call_agrees h (by decide)

theorem configureGraph_agrees (h : Like board board') : Agree view (configureGraph board) (configureGraph board') := by
  have hbind : Agree view (bindMarukoPipeline board) (bindMarukoPipeline board') :=
    .andThen (startVenc_agrees h)
      (.andThen (.always fun _ _ h => h)
        (.andThen (.andThen (call_agrees h (by decide)) (.always fun _ _ h => h))
          (.andThen (.andThen (call_agrees h (by decide)) (.always fun _ _ h => h))
            (.andThen (.andThen (call_agrees h (by decide)) (.always fun _ _ h => h))
              (.andThen (initIsp_agrees h) (outputInit_agrees h))))))
  refine .andThen (.andThen (sensorSelect_agrees h) (.andThen (startVif_agrees h) (.always fun _ _ h => h)))
    (.andThen (.andThen (startVpe_agrees h) (.always fun c d hcd => ?_)) (.andThen hbind (.always fun _ _ h => h)))
  exact congrArg (fun v : View => { v with vpeStarted := true }) hcd

theorem view_unbindAll (board : Board) (c : Ctx) : view (unbindAll board c) = view c := by
  have hstep (b : Bool) (a : Call) (f : Ctx → Ctx) (hf : ∀ c, view (f c) = view c) (c : Ctx) :
      view (if b then f (attempt board a c) else c) = view c := by
    split
    · exact (hf _).trans (view_attempt board a c)
    · rfl
  simp only [unbindAll]
  refine (hstep _ .unbindVifIsp (fun c => { c with boundVifVpe := false }) (fun _ => rfl) _).trans ?_
  refine (hstep _ .unbindIspScl (fun c => { c with boundIspVpe := false }) (fun _ => rfl) _).trans ?_
  exact hstep _ .unbindSclVenc (fun c => { c with boundVpeVenc := false }) (fun _ => rfl) c

theorem view_teardownVenc (board : Board) (c : Ctx) : view (teardownVenc board c) = view c := by
  have hstop : view (stopVenc board c) = view c := by
    simp only [stopVenc]
    split
    · exact (view_attempt board _ _).trans (view_attempts board _ c)
    · exact view_attempts board _ c
  rw [teardownVenc]
  split
  · exact hstop
  · rfl

theorem teardownVpe_sees {c d : Ctx} (hcd : view c = view d) : view (teardownVpe board c) = view (teardownVpe board' d) := by
  obtain ⟨hisp, hscl, hstarted, hinit⟩ := view_eq_iff.mp hcd
  rw [teardownVpe, teardownVpe, hstarted]
  split
  · exact view_eq_iff.mpr ⟨stopIsp_alike hisp, stopScl_alike hscl, rfl, hinit⟩
  · exact hcd

theorem view_teardownVif (board : Board) (c : Ctx) : view (teardownVif board c) = view c := by
  rw [teardownVif]
  split
  · exact view_attempts board _ c
  · rfl

theorem view_teardownSensor (board : Board) (c : Ctx) : view (teardownSensor board c) = view c := by
  rw [teardownSensor]
  split
  · exact view_attempt board .snrDisable c
  · rfl

theorem teardownGraph_sees {c d : Ctx} (hcd : view c = view d) :
    view (teardownGraph board c) = view (teardownGraph board' d) := by
  rw [teardownGraph, teardownGraph, view_teardownSensor, view_teardownSensor, view_teardownVif, view_teardownVif]
  apply teardownVpe_sees
  rw [view_teardownVenc, view_teardownVenc, view_unbindAll, view_unbindAll, view_issue, view_issue, hcd]

theorem configured_sees (h : Like board board') {c d : Ctx} (hcd : view c = view d) :
    (configured board c).phase = (configured board' d).phase ∧
      view (configured board c).ctx = view (configured board' d).ctx := by
  obtain ⟨hok, hview⟩ := configureGraph_agrees h c d hcd
  rw [configured, configured]
  generalize configureGraph board c = x at hok hview
  generalize configureGraph board' d = y at hok hview
  obtain ⟨ok, u⟩ := x
  obtain ⟨ok', v⟩ := y
  obtain rfl : ok = ok' := hok
  cases ok with
  | true => exact ⟨rfl, hview⟩
  | false => exact ⟨rfl, teardownGraph_sees hview⟩

end

end WaybeamVenc.MarukoViews
