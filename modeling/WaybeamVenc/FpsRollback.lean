import WaybeamVenc.DualBitrate

namespace WaybeamVenc.FpsRollback

open CNumber
open DualBitrate (RateMode)

/-- The configuration that the controls read. -/
structure Vcfg where
  server : CString
  fps : UInt32
deriving DecidableEq

/-- g_star6e_control_ctx; pipeline says whether one is bound. -/
structure ControlCtx where
  sensorFps : UInt32
  pipeline : Bool
  vcfg : Option Vcfg
deriving DecidableEq

/-- The rates of the VPE->VENC bind, the rate control of the encoder, and the
two fields of the pipeline. -/
structure State where
  bind : Option (UInt32 × UInt32)
  mode : RateMode
  fpsNum : UInt32
  outputEnabled : Bool
  storedFps : UInt32
deriving DecidableEq

/-- Which SDK calls succeed. -/
structure Calls where
  unBindChnPort : Bool
  bindChnPort2 : Bool
  restoringBind : Bool
  getChnAttr : Bool
  setChnAttr : Bool
  requestIdr : Bool
deriving DecidableEq

def applyEncoderFps (s : State) (fps : UInt32) (calls : Calls) : State × Int :=
  if calls.getChnAttr then
    if calls.setChnAttr then (if s.mode = .other then s else { s with fpsNum := fps }, 0) else (s, -1)
  else (s, -1)

def applySceneFps (_ : UInt32) : Int := 0

def clampFps (sensorFps fps : UInt32) : UInt32 := if sensorFps < fps then sensorFps else fps

def applyFps (sensorFps : UInt32) (s : State) (fps : UInt32) (calls : Calls) : State × Int :=
  if fps = 0 ∨ 120 < fps then (s, -1)
  else
    let fps := clampFps sensorFps fps
    let s := if calls.unBindChnPort then { s with bind := none } else s
    if calls.bindChnPort2 then
      let s := { s with bind := some (sensorFps, fps) }
      let (s, ret) := applyEncoderFps s fps calls
      if ret ≠ 0 then (s, -1) else if applySceneFps fps ≠ 0 then (s, -1) else (s, 0)
    else (if calls.restoringBind then { s with bind := some (sensorFps, sensorFps) } else s, -1)

def idleFps : UInt32 := 5

def requestIdr (calls : Calls) : Int := if calls.requestIdr then 0 else -1

def restoredFps (s : State) (vcfg : Vcfg) : UInt32 := if s.storedFps ≠ 0 then s.storedFps else vcfg.fps

/-- The rate kept for the next enable. -/
def keptFps (ctx : ControlCtx) : UInt32 := (ctx.vcfg.map Vcfg.fps).getD 30

def enableOutput (ctx : ControlCtx) (s : State) (vcfg : Vcfg) (calls : Calls) : State × Int :=
  let s := { s with outputEnabled := true }
  let (s, ret) := applyFps ctx.sensorFps s (restoredFps s vcfg) calls
  if ret ≠ 0 then ({ s with outputEnabled := false }, -1)
  else if requestIdr calls ≠ 0 then ({ s with outputEnabled := false }, -1)
  else (s, 0)

def disableOutput (ctx : ControlCtx) (s : State) (calls : Calls) : State × Int :=
  let s := { s with outputEnabled := false, storedFps := keptFps ctx }
  let (s, ret) := applyFps ctx.sensorFps s idleFps calls
  if ret ≠ 0 then ({ s with outputEnabled := true }, -1) else (s, 0)

def applyOutputEnabled (ctx : ControlCtx) (s : State) (on : Bool) (calls : Calls) : State × Int :=
  if ctx.pipeline then
    if on then
      match ctx.vcfg with
      | none => (s, -1)
      | some vcfg => if vcfg.server = [] then (s, -1) else enableOutput ctx s vcfg calls
    else disableOutput ctx s calls
  else (s, -1)

/-- The arguments and outcomes under which apply_fps returns -1. -/
def FpsFails (fps : UInt32) (calls : Calls) : Prop :=
  fps = 0 ∨ 120 < fps ∨ calls.bindChnPort2 = false ∨ calls.getChnAttr = false ∨ calls.setChnAttr = false

/-- The bind was already at the rates that a failing apply_fps leaves: the
sensor's own when the bind fails, the new ones when the encoder does. -/
def FpsRestored (sensorFps : UInt32) (s : State) (fps : UInt32) (calls : Calls) : Prop :=
  fps ≠ 0 → fps ≤ 120 →
    (calls.bindChnPort2 = false → s.bind = some (sensorFps, sensorFps)) ∧
      (calls.bindChnPort2 = true → calls.getChnAttr = false ∨ calls.setChnAttr = false →
        s.bind = some (sensorFps, clampFps sensorFps fps))

theorem applyEncoderFps_ret (s : State) (fps : UInt32) (calls : Calls) :
    (applyEncoderFps s fps calls).2 = if calls.getChnAttr = false ∨ calls.setChnAttr = false then -1 else 0 := by
  rw [applyEncoderFps]
  cases calls.getChnAttr with
  | false => rfl
  | true =>
      cases calls.setChnAttr with
      | false => rfl
      | true => rfl

/-- Only the rate of the encoder is changed. -/
theorem applyEncoderFps_frame (s : State) (fps : UInt32) (calls : Calls) :
    ∃ fpsNum, (applyEncoderFps s fps calls).1 = { s with fpsNum } := by
  rw [applyEncoderFps]
  split_ifs
  · exact ⟨s.fpsNum, rfl⟩
  · exact ⟨fps, rfl⟩
  · exact ⟨s.fpsNum, rfl⟩
  · exact ⟨s.fpsNum, rfl⟩

/-- The ways a call of apply_fps ends when the restoring bind succeeds. -/
inductive FpsOutcome (sensorFps : UInt32) (s : State) (fps : UInt32) (calls : Calls) : State × Int → Prop
  | rejected (hfps : fps = 0 ∨ 120 < fps) : FpsOutcome sensorFps s fps calls (s, -1)
  | unbound (hfps : ¬ (fps = 0 ∨ 120 < fps)) (hbind : calls.bindChnPort2 = false) :
      FpsOutcome sensorFps s fps calls ({ s with bind := some (sensorFps, sensorFps) }, -1)
  | refused (fpsNum : UInt32) (hfps : ¬ (fps = 0 ∨ 120 < fps)) (hbind : calls.bindChnPort2 = true)
      (hencoder : calls.getChnAttr = false ∨ calls.setChnAttr = false) :
      FpsOutcome sensorFps s fps calls ({ s with bind := some (sensorFps, clampFps sensorFps fps), fpsNum }, -1)
  | applied (fpsNum : UInt32) (hfps : ¬ (fps = 0 ∨ 120 < fps)) (hbind : calls.bindChnPort2 = true)
      (hencoder : ¬ (calls.getChnAttr = false ∨ calls.setChnAttr = false)) :
      FpsOutcome sensorFps s fps calls ({ s with bind := some (sensorFps, clampFps sensorFps fps), fpsNum }, 0)

theorem applyFps_outcome (sensorFps : UInt32) (s : State) (fps : UInt32) {calls : Calls}
    (hrestore : calls.restoringBind = true) : FpsOutcome sensorFps s fps calls (applyFps sensorFps s fps calls) := by
  have hunbound : ∀ rates, { (if calls.unBindChnPort then { s with bind := none } else s) with bind := rates } =
      { s with bind := rates } := by
    intro rates
    split_ifs <;> rfl
  by_cases hfps : fps = 0 ∨ 120 < fps
  · rw [applyFps, if_pos hfps]
    exact .rejected hfps
  simp only [applyFps, if_neg hfps, hunbound, hrestore, if_true]
  cases hbind : calls.bindChnPort2 with
  | false => exact .unbound hfps hbind
  | true =>
      obtain ⟨fpsNum, hframe⟩ :=
        applyEncoderFps_frame { s with bind := some (sensorFps, clampFps sensorFps fps) } (clampFps sensorFps fps) calls
      simp only [if_true, applyEncoderFps_ret, hframe]
      by_cases hencoder : calls.getChnAttr = false ∨ calls.setChnAttr = false
      · rw [if_pos hencoder]
        exact .refused fpsNum hfps hbind hencoder
      · rw [if_neg hencoder]
        exact .applied fpsNum hfps hbind hencoder

theorem failure_ne : (-1 : Int) ≠ 0 := by decide

theorem FpsOutcome.fails_iff {sensorFps : UInt32} {s : State} {fps : UInt32} {calls : Calls} {r : State × Int}
    (h : FpsOutcome sensorFps s fps calls r) : r.2 ≠ 0 ↔ FpsFails fps calls := by
  rw [FpsFails, ← or_assoc]
  cases h with
  | rejected hfps => exact ⟨fun _ => .inl hfps, fun _ => failure_ne⟩
  | unbound hfps hbind => exact ⟨fun _ => .inr (.inl hbind), fun _ => failure_ne⟩
  | refused fpsNum hfps hbind hencoder => exact ⟨fun _ => .inr (.inr hencoder), fun _ => failure_ne⟩
  | applied fpsNum hfps hbind hencoder =>
      constructor
      · intro h
        exact absurd rfl h
      · rintro (h | h | h)
        · exact absurd h hfps
        · exact absurd (h.symm.trans hbind) (by decide)
        · exact absurd h hencoder

theorem FpsOutcome.frame {sensorFps : UInt32} {s : State} {fps : UInt32} {calls : Calls} {r : State × Int}
    (h : FpsOutcome sensorFps s fps calls r) :
    r.1.outputEnabled = s.outputEnabled ∧ r.1.storedFps = s.storedFps := by
  cases h with
  | rejected => exact ⟨rfl, rfl⟩
  | unbound => exact ⟨rfl, rfl⟩
  | refused => exact ⟨rfl, rfl⟩
  | applied => exact ⟨rfl, rfl⟩

theorem FpsOutcome.ret {sensorFps : UInt32} {s : State} {fps : UInt32} {calls : Calls} {r : State × Int}
    (h : FpsOutcome sensorFps s fps calls r) : r.2 ≠ 0 ↔ r.2 = -1 := by
  cases h with
  | rejected => exact ⟨fun _ => rfl, fun _ => failure_ne⟩
  | unbound => exact ⟨fun _ => rfl, fun _ => failure_ne⟩
  | refused => exact ⟨fun _ => rfl, fun _ => failure_ne⟩
  | applied => exact ⟨fun h => absurd rfl h, fun h => absurd h.symm failure_ne⟩

theorem FpsOutcome.failed_bind_iff {sensorFps : UInt32} {s : State} {fps : UInt32} {calls : Calls} {r : State × Int}
    (h : FpsOutcome sensorFps s fps calls r) (hfails : r.2 ≠ 0) :
    r.1.bind = s.bind ↔ FpsRestored sensorFps s fps calls := by
  have hrange : ¬ (fps = 0 ∨ 120 < fps) → fps ≠ 0 ∧ fps ≤ 120 := by
    intro hfps
    rw [not_or] at hfps
    exact ⟨hfps.1, UInt32.not_lt.mp hfps.2⟩
  rw [FpsRestored]
  cases h with
  | rejected hfps =>
      refine ⟨fun _ hne hle => ?_, fun _ => rfl⟩
      rcases hfps with hzero | hlarge
      · exact absurd hzero hne
      · exact absurd hlarge (UInt32.not_lt.mpr hle)
  | unbound hfps hbind =>
      simp only [hbind, hrange hfps, ne_eq, not_false_eq_true, true_implies, Bool.false_eq_true, false_implies, and_true]
      exact eq_comm
  | refused fpsNum hfps hbind hencoder =>
      simp only [hbind, hencoder, hrange hfps, ne_eq, not_false_eq_true, true_implies, Bool.true_eq_false, false_implies,
        true_and]
      exact eq_comm
  | applied => exact absurd rfl hfails

theorem FpsOutcome.applied_bind {sensorFps : UInt32} {s : State} {fps : UInt32} {calls : Calls} {r : State × Int}
    (h : FpsOutcome sensorFps s fps calls r) (hworks : ¬ r.2 ≠ 0) :
    r.1.bind = some (sensorFps, clampFps sensorFps fps) := by
  cases h with
  | rejected => exact absurd failure_ne hworks
  | unbound => exact absurd failure_ne hworks
  | refused => exact absurd failure_ne hworks
  | applied => rfl

/-- A failing apply_fps leaves the bind rate as it was. -/
def FpsAtomic (ctx : ControlCtx) (s : State) (fps : UInt32) (calls : Calls) : Prop :=
  (applyFps ctx.sensorFps s fps calls).2 = -1 → (applyFps ctx.sensorFps s fps calls).1.bind = s.bind

/-- The state of the output and the bind rate are the same. -/
def SameOutput (s t : State) : Prop := t.outputEnabled = s.outputEnabled ∧ t.storedFps = s.storedFps ∧ t.bind = s.bind

/-- A failing apply_output_enabled leaves the output and the bind as they were. -/
def OutputAtomic (ctx : ControlCtx) (s : State) (on : Bool) (calls : Calls) : Prop :=
  (applyOutputEnabled ctx s on calls).2 = -1 → SameOutput s (applyOutputEnabled ctx s on calls).1

def FpsKept (ctx : ControlCtx) (s : State) (fps : UInt32) (calls : Calls) : Prop :=
  FpsFails fps calls → FpsRestored ctx.sensorFps s fps calls

/-- What an enable that fails leaves behind was there before: the output off,
and the bind at the rates of the step that fails. -/
def EnableKept (ctx : ControlCtx) (s : State) (vcfg : Vcfg) (calls : Calls) : Prop :=
  (FpsFails (restoredFps s vcfg) calls →
      s.outputEnabled = false ∧ FpsRestored ctx.sensorFps s (restoredFps s vcfg) calls) ∧
    (¬ FpsFails (restoredFps s vcfg) calls → calls.requestIdr = false →
      s.outputEnabled = false ∧ s.bind = some (ctx.sensorFps, clampFps ctx.sensorFps (restoredFps s vcfg)))

/-- The same of a disable: the output on and the rate kept already. -/
def DisableKept (ctx : ControlCtx) (s : State) (calls : Calls) : Prop :=
  FpsFails idleFps calls →
    s.outputEnabled = true ∧ s.storedFps = keptFps ctx ∧ FpsRestored ctx.sensorFps s idleFps calls

def OutputKept (ctx : ControlCtx) (s : State) (on : Bool) (calls : Calls) : Prop :=
  ctx.pipeline = true →
    if on then ∀ vcfg, ctx.vcfg = some vcfg → vcfg.server ≠ [] → EnableKept ctx s vcfg calls else DisableKept ctx s calls

theorem fps_atomic_iff (ctx : ControlCtx) (s : State) (fps : UInt32) {calls : Calls}
    (hrestore : calls.restoringBind = true) : FpsAtomic ctx s fps calls ↔ FpsKept ctx s fps calls := by
  have hout := applyFps_outcome ctx.sensorFps s fps hrestore
  rw [FpsAtomic, FpsKept, ← hout.ret, ← hout.fails_iff]
  exact forall_congr' fun hfails => hout.failed_bind_iff hfails

theorem enable_atomic_iff (ctx : ControlCtx) (s : State) (vcfg : Vcfg) {calls : Calls}
    (hrestore : calls.restoringBind = true) :
    ((enableOutput ctx s vcfg calls).2 = -1 → SameOutput s (enableOutput ctx s vcfg calls).1) ↔
      EnableKept ctx s vcfg calls := by
  have hout := applyFps_outcome ctx.sensorFps { s with outputEnabled := true } (restoredFps s vcfg) hrestore
  have hstored := hout.frame.2
  have hfails := hout.fails_iff
  have hrestored : restoredFps { s with outputEnabled := true } vcfg = restoredFps s vcfg := rfl
  rw [EnableKept, ← hfails]
  simp only [enableOutput, hrestored]
  generalize applyFps ctx.sensorFps { s with outputEnabled := true } (restoredFps s vcfg) calls = r at hout hstored ⊢
  by_cases hret : r.2 ≠ 0
  · have hbind : r.1.bind = s.bind ↔ FpsRestored ctx.sensorFps s (restoredFps s vcfg) calls := hout.failed_bind_iff hret
    rw [if_pos hret, ← hbind]
    constructor
    · intro h
      obtain ⟨henabled, -, hsame⟩ := h rfl
      exact ⟨fun _ => ⟨henabled.symm, hsame⟩, fun hworks => absurd hret hworks⟩
    · rintro ⟨h, -⟩ -
      obtain ⟨henabled, hsame⟩ := h hret
      exact ⟨henabled.symm, hstored, hsame⟩
  · have hbind := hout.applied_bind hret
    rw [if_neg hret, ← hbind, requestIdr]
    cases calls.requestIdr with
    | true =>
        constructor
        · intro _
          exact ⟨fun h => absurd h hret, fun _ h => absurd h (by decide)⟩
        · intro _ h
          exact absurd h.symm failure_ne
    | false =>
        constructor
        · intro h
          obtain ⟨henabled, -, hsame⟩ := h rfl
          exact ⟨fun hfailed => absurd hfailed hret, fun _ _ => ⟨henabled.symm, hsame.symm⟩⟩
        · rintro ⟨-, h⟩ -
          obtain ⟨henabled, hsame⟩ := h hret rfl
          exact ⟨henabled.symm, hstored, hsame.symm⟩

theorem disable_atomic_iff (ctx : ControlCtx) (s : State) {calls : Calls} (hrestore : calls.restoringBind = true) :
    ((disableOutput ctx s calls).2 = -1 → SameOutput s (disableOutput ctx s calls).1) ↔ DisableKept ctx s calls := by
  have hout := applyFps_outcome ctx.sensorFps { s with outputEnabled := false, storedFps := keptFps ctx } idleFps hrestore
  have hstored : _ = keptFps ctx := hout.frame.2
  rw [DisableKept, ← hout.fails_iff]
  simp only [disableOutput]
  generalize applyFps ctx.sensorFps { s with outputEnabled := false, storedFps := keptFps ctx } idleFps calls = r
    at hout hstored ⊢
  by_cases hret : r.2 ≠ 0
  · have hbind : r.1.bind = s.bind ↔ FpsRestored ctx.sensorFps s idleFps calls := hout.failed_bind_iff hret
    rw [if_pos hret, ← hbind]
    constructor
    · intro h _
      obtain ⟨henabled, hkept, hsame⟩ := h rfl
      exact ⟨henabled.symm, hkept.symm.trans hstored, hsame⟩
    · intro h _
      obtain ⟨henabled, hkept, hsame⟩ := h hret
      exact ⟨henabled.symm, hstored.trans hkept.symm, hsame⟩
  · rw [if_neg hret]
    constructor
    · intro _ h
      exact absurd h hret
    · intro _ h
      exact absurd h.symm failure_ne

theorem output_atomic_iff (ctx : ControlCtx) (s : State) (on : Bool) {calls : Calls}
    (hrestore : calls.restoringBind = true) : OutputAtomic ctx s on calls ↔ OutputKept ctx s on calls := by
  rw [OutputAtomic, OutputKept, applyOutputEnabled]
  have hsame : SameOutput s s := ⟨rfl, rfl, rfl⟩
  cases ctx.pipeline with
  | false => exact ⟨fun _ h => absurd h (by decide), fun _ _ => hsame⟩
  | true =>
      rw [if_pos rfl, forall_prop_of_true rfl]
      cases on with
      | false => exact disable_atomic_iff ctx s hrestore
      | true =>
          cases hvcfg : ctx.vcfg with
          | none =>
              constructor
              · intro _ other h
                cases h
              · exact fun _ _ => hsame
          | some vcfg =>
              by_cases hserver : vcfg.server = []
              · simp only [if_true, if_pos hserver]
                exact ⟨fun _ other h hne => absurd (Option.some.inj h ▸ hserver) hne, fun _ _ => hsame⟩
              · simp only [if_true, Option.some.injEq, forall_eq', ne_eq, hserver, not_false_eq_true,
                  true_implies]
                exact enable_atomic_iff ctx s vcfg hrestore

/-- The callbacks are atomic exactly where what they leave on a failure was
there before: neither remembers the rate that it replaces. -/
theorem callbacks_atomic_iff (ctx : ControlCtx) (s : State) (calls : Calls) (hrestore : calls.restoringBind = true) :
    (∀ fps, FpsAtomic ctx s fps calls ↔ FpsKept ctx s fps calls) ∧
      ∀ on, OutputAtomic ctx s on calls ↔ OutputKept ctx s on calls :=
  ⟨fun fps => fps_atomic_iff ctx s fps hrestore, fun on => output_atomic_iff ctx s on hrestore⟩

def ctx90 : ControlCtx := ⟨90, true, some ⟨"udp://10.0.0.1:5600".toList, 60⟩⟩

/-- Streaming at 60 of 90 frames per second. -/
def at60 : State := ⟨some (90, 60), .h265Cbr, 60, true, 0⟩

def bindFails : Calls := ⟨true, false, true, true, true, true⟩

theorem callbacks_atomic_iff_full :
    FpsAtomic ctx90 ⟨some (90, 90), .h265Cbr, 90, true, 0⟩ 30 bindFails ∧
      OutputAtomic ctx90 ⟨some (90, 90), .h265Cbr, 90, true, 60⟩ false bindFails := by
  have hfps := (callbacks_atomic_iff ctx90 ⟨some (90, 90), .h265Cbr, 90, true, 0⟩ bindFails rfl).1 30
  have houtput := (callbacks_atomic_iff ctx90 ⟨some (90, 90), .h265Cbr, 90, true, 60⟩ bindFails rfl).2 false
  refine ⟨hfps.mpr ?_, houtput.mpr ?_⟩
  · exact fun _ _ _ => ⟨fun _ => rfl, fun h => absurd h (by decide)⟩
  · intro _ _
    exact ⟨rfl, rfl, fun _ _ => ⟨fun _ => rfl, fun h => absurd h (by decide)⟩⟩

/-- A bind that fails takes the rate from 60 to 90, and disabling the output
leaves the rate that it would have restored. -/
theorem previous_rate_lost :
    applyFps 90 at60 30 bindFails = ({ at60 with bind := some (90, 90) }, -1) ∧ ¬ FpsAtomic ctx90 at60 30 bindFails ∧
      applyOutputEnabled ctx90 at60 false bindFails = ({ at60 with bind := some (90, 90), storedFps := 60 }, -1) ∧
      ¬ OutputAtomic ctx90 at60 false bindFails := by
  refine ⟨by decide, ?_, by decide, ?_⟩
  · intro h
    exact absurd (h (by decide)) (by decide)
  · intro h
    exact absurd (h (by decide)).2.2 (by decide)

end WaybeamVenc.FpsRollback
