import Mathlib.Algebra.Order.Round
import WaybeamVenc.ConfigLoad
import WaybeamVenc.LiveFps
import WaybeamVenc.RationalFloat
import WaybeamVenc.SetTransaction

namespace WaybeamVenc.GopTiming

open CNumber Config ConfigLoad FieldTable SetQuery LiveApply LiveGroups SetTransaction Runs LiveFps

/-- A conversion of a double to uint32_t cuts the fraction off; out of range it
may give anything. -/
structure Conversion where
  toUInt32 : Rat → UInt32
  exact : ∀ q : Rat, 0 ≤ q → q < 4294967296 → (toUInt32 q).toNat = ⌊q⌋₊

/-- Exact numbers with that conversion. -/
@[reducible] def Conversion.float (c : Conversion) : CFloat Rat Rat :=
  { (inferInstance : CFloat Rat Rat) with toUInt32 := c.toUInt32 }

structure SensorMode where
  minFps : UInt32
  maxFps : UInt32
deriving DecidableEq

def sensorModeFpsSupported (mode : SensorMode) (fps : UInt32) : Bool :=
  if fps = 0 then true
  else if mode.maxFps ≠ 0 ∧ mode.maxFps < fps then false
  else if mode.minFps ≠ 0 ∧ fps < mode.minFps then false
  else true

def sensorModeClampFps (mode : SensorMode) (fps : UInt32) : UInt32 :=
  let out := if fps ≠ 0 then fps else 30
  let out := if mode.maxFps ≠ 0 ∧ mode.maxFps < out then mode.maxFps else out
  if mode.minFps ≠ 0 ∧ out < mode.minFps then mode.minFps else out

/-- The rate that the sensor takes; accepts says which rates sensor_try_set_fps
sets. -/
def setSensorFps (mode : SensorMode) (accepts : UInt32 → Bool) (targetFps : UInt32) : Option UInt32 :=
  let requestedFps := if targetFps ≠ 0 then targetFps else 30
  let clamped := if mode.maxFps ≠ 0 then mode.maxFps else sensorModeClampFps mode requestedFps
  if accepts clamped then some clamped
  else
    let fallback := sensorModeClampFps mode 30
    if fallback ≠ 0 ∧ fallback ≠ clamped ∧ sensorModeFpsSupported mode fallback ∧ accepts fallback then some fallback
    else none

/-- SensorSelectResult, as far as the rates go. -/
structure SensorSelectResult where
  mode : SensorMode
  fps : UInt32
deriving DecidableEq

/-- A configuration without scene detection. -/
structure FixedGop where
  cfg : VencConfig Rat Rat
  fixed : (cfg .video0SceneThreshold : UInt16) = 0

def FixedGop.fps (cfg : FixedGop) : UInt32 := cfg.cfg .video0Fps

def FixedGop.gopSize (cfg : FixedGop) : Rat := cfg.cfg .video0GopSize

inductive LiveSet
  | fps (fps : UInt32)
  | gopSize (seconds : Rat)
  | both (fps : UInt32) (seconds : Rat)

def LiveSet.touched : LiveSet → LiveBatchTouched
  | .fps .. => { LiveBatchTouched.none with videoFps := true }
  | .gopSize .. => { LiveBatchTouched.none with videoGop := true }
  | .both .. => { LiveBatchTouched.none with videoFps := true, videoGop := true }

/-- The parameters staged into the stored configuration. -/
def LiveSet.staged (cfg : VencConfig Rat Rat) : LiveSet → VencConfig Rat Rat
  | .fps n => cfg.set .video0Fps n
  | .gopSize seconds => cfg.set .video0GopSize seconds
  | .both n seconds => (cfg.set .video0Fps n).set .video0GopSize seconds

/-- The configuration that the group is applied from. -/
def FixedGop.live (cfg : FixedGop) (l : LiveSet) : FixedGop :=
  ⟨buildLiveGroupConfig cfg.cfg (l.staged cfg.cfg) .videoTiming l.touched, by
    rw [build_of_not_mem]
    · exact cfg.fixed
    · cases l <;> simp [liveGroupFields, LiveSet.touched, LiveBatchTouched.none]⟩

def FixedGop.clampToMode (maxFps : UInt32) (cfg : FixedGop) : FixedGop :=
  if 0 < maxFps ∧ maxFps < cfg.fps then
    ⟨cfg.cfg.set .video0Fps maxFps, by rw [VencConfig.set_other _ _ (by decide)]; exact cfg.fixed⟩
  else cfg

/-- gop is the length the encoder channel has been given. -/
structure State where
  cfg : FixedGop
  sensor : SensorSelectResult
  gop : UInt32

variable (c : Conversion) (b : Backend)

def gopFrames (seconds : Rat) (fps : UInt32) : UInt32 := @pipelineCommonGopFrames Rat Rat c.float seconds fps

def programmed (cfg : FixedGop) (sensor : SensorSelectResult) : State :=
  ⟨cfg, sensor, gopFrames c cfg.gopSize sensor.fps⟩

/-- The start of either pipeline, everything but the sensor succeeding. -/
def pipelineStart (mode : SensorMode) (accepts : UInt32 → Bool) (cfg : FixedGop) : Option State :=
  (setSensorFps mode accepts cfg.fps).map fun fps => programmed c cfg ⟨mode, fps⟩

def reinitSensor (s : State) (selected : SensorSelectResult) : SensorSelectResult :=
  match b with
  | .star6e => s.sensor
  | .maruko => selected

/-- The callbacks, as far as they set the GOP length or refuse. -/
def applyCall (s : State) : ApplyCall → Option State
  | .fps fps => if accepted fps.toNat then some s else none
  | .gop frames => some { s with gop := frames }
  | _ => some s

inductive Act
  | reinit (cfg : FixedGop) (selected : SensorSelectResult)
  | live (l : LiveSet)

/-- A reinit, or the group of a live set applied with success. -/
def step (s : State) : Act → Option State
  | .reinit cfg selected =>
    some (programmed c (cfg.clampToMode s.sensor.mode.maxFps) (reinitSensor b s selected))
  | .live l =>
    (@groupCalls Rat Rat c.float (s.cfg.live l).cfg .videoTiming l.touched).foldlM applyCall
      { s with cfg := s.cfg.live l }

/-- Seconds in frames at a rate. -/
def frames (seconds : Rat) (fps : Nat) : ℤ := max 1 (round (seconds * fps))

def encoderFps (cfg : FixedGop) (sensor : SensorSelectResult) : Nat := min cfg.fps.toNat sensor.fps.toNat

def Right (s : State) : Prop := (s.gop.toNat : ℤ) = frames s.cfg.gopSize (encoderFps s.cfg s.sensor)

/-- The rate that the seconds are multiplied with. -/
def gopFps (fps : UInt32) : Nat := if fps = 0 then 30 else fps.toNat

/-- Both products are below 3/2, or between the same two halves. -/
def SameLength (seconds : Rat) (fps fps' : Nat) : Prop :=
  (seconds * fps < 3 / 2 ∧ seconds * fps' < 3 / 2) ∨
    ∃ n : ℤ, (n - 1 / 2 ≤ seconds * fps ∧ seconds * fps < n + 1 / 2) ∧
      n - 1 / 2 ≤ seconds * fps' ∧ seconds * fps' < n + 1 / 2

/-- The product can be converted. -/
def InRange (seconds : Rat) (fps : Nat) : Prop := seconds * fps + 1 / 2 < 4294967296

/-- The sensor's own rate gives the length that the encoder's rate gives. -/
def StartAlike (cfg : FixedGop) (sensor : SensorSelectResult) : Prop :=
  SameLength cfg.gopSize (gopFps sensor.fps) (encoderFps cfg sensor)

/-- A reinit as a start; in a live set the configured rate gives the length that
the encoder's rate gives. -/
def Alike (s : State) : Act → Prop
  | .reinit cfg selected => StartAlike (cfg.clampToMode s.sensor.mode.maxFps) (reinitSensor b s selected)
  | .live l =>
    SameLength (s.cfg.live l).gopSize (gopFps (s.cfg.live l).fps) (encoderFps (s.cfg.live l) s.sensor)

def Fits (s : State) : Act → Prop
  | .reinit cfg selected =>
    InRange (cfg.clampToMode s.sensor.mode.maxFps).gopSize (gopFps (reinitSensor b s selected).fps)
  | .live l => InRange (s.cfg.live l).gopSize (gopFps (s.cfg.live l).fps)

/-! Seconds in frames. -/

theorem gopFps_toNat (fps : UInt32) : (if fps = 0 then 30 else fps).toNat = gopFps fps := by
  rw [gopFps]
  split <;> rfl

theorem round_lt_two_iff {x : Rat} : round x < 2 ↔ x < 3 / 2 := by
  rw [round_eq, Int.floor_lt]
  push_cast
  constructor <;> intro h <;> linarith

theorem frames_of_nonpos {seconds : Rat} (h : seconds ≤ 0) (fps : Nat) : frames seconds fps = 1 := by
  have hprod : seconds * fps ≤ 0 := mul_nonpos_of_nonpos_of_nonneg h (Nat.cast_nonneg fps)
  have hround : round (seconds * fps) < 2 := round_lt_two_iff.2 (by linarith)
  exact max_eq_left (by omega)

theorem gopFrames_eq {seconds : Rat} {fps : UInt32} (h : InRange seconds (gopFps fps)) :
    ((gopFrames c seconds fps).toNat : ℤ) = frames seconds (gopFps fps) := by
  have hdef : gopFrames c seconds fps =
      if seconds ≤ 0 then 1
      else if c.toUInt32 (seconds * gopFps fps + 1 / 2) < 1 then 1
      else c.toUInt32 (seconds * gopFps fps + 1 / 2) := by
    simp only [gopFrames, pipelineCommonGopFrames, CFloat.le, CFloat.toUInt32, CFloat.add, CFloat.mul,
      CFloat.ofUInt32, CFloat.ofRat, decide_eq_true_eq, gopFps_toNat]
  rw [hdef]
  by_cases hs : seconds ≤ 0
  · rw [if_pos hs, frames_of_nonpos hs]
    rfl
  · have hprod : 0 ≤ seconds * gopFps fps := mul_nonneg (le_of_not_ge hs) (Nat.cast_nonneg _)
    have hconv := c.exact _ (by linarith) h
    have hfloor : (⌊seconds * gopFps fps + 1 / 2⌋₊ : ℤ) = round (seconds * gopFps fps) := by
      rw [round_eq]
      exact Int.natCast_floor_eq_floor (by linarith)
    rw [if_neg hs, frames, ← hfloor, ← hconv]
    split
    · next hlt =>
      have hzero : (c.toUInt32 (seconds * gopFps fps + 1 / 2)).toNat < 1 := UInt32.lt_iff_toNat_lt.1 hlt
      simp only [UInt32.toNat_one]
      omega
    · next hge =>
      have hpos : ¬(c.toUInt32 (seconds * gopFps fps + 1 / 2)).toNat < 1 := fun h => hge (UInt32.lt_iff_toNat_lt.2 h)
      omega

theorem sameLength_iff {seconds : Rat} {fps fps' : Nat} :
    frames seconds fps = frames seconds fps' ↔ SameLength seconds fps fps' := by
  have hmax : frames seconds fps = frames seconds fps' ↔
      (round (seconds * fps) < 2 ∧ round (seconds * fps') < 2) ∨ round (seconds * fps) = round (seconds * fps') := by
    simp only [frames]
    omega
  have hround (x y : Rat) : round x = round y ↔
      ∃ n : ℤ, (n - 1 / 2 ≤ x ∧ x < n + 1 / 2) ∧ n - 1 / 2 ≤ y ∧ y < n + 1 / 2 := by
    constructor
    · intro h
      exact ⟨round y, round_eq_iff.1 h, round_eq_iff.1 rfl⟩
    · rintro ⟨n, hx, hy⟩
      exact (round_eq_iff.2 hx).trans (round_eq_iff.2 hy).symm
  rw [hmax, round_lt_two_iff, round_lt_two_iff, hround, SameLength]

theorem right_iff {s : State} {fps : UInt32} (hgop : s.gop = gopFrames c s.cfg.gopSize fps)
    (hfit : InRange s.cfg.gopSize (gopFps fps)) :
    Right s ↔ SameLength s.cfg.gopSize (gopFps fps) (encoderFps s.cfg s.sensor) := by
  rw [Right, hgop, gopFrames_eq c hfit, sameLength_iff]

/-! What a step programs. -/

variable {c b} {s t : State}

/-- Without scene detection a live set always calls for the GOP length. -/
theorem live_calls (cfg : FixedGop) (l : LiveSet) :
    @groupCalls Rat Rat c.float (cfg.live l).cfg .videoTiming l.touched =
      (if l.touched.videoFps then [.fps (cfg.live l).fps] else []) ++
        [.gop (gopFrames c (cfg.live l).gopSize (cfg.live l).fps)] := by
  have hscene : sceneDetection (cfg.live l).cfg = false := by
    rw [sceneDetection, (cfg.live l).fixed]
    rfl
  have htouched : (l.touched.videoFps || l.touched.videoGop) = true := by cases l <;> rfl
  change (liveGroupCallbacks (cfg.live l).cfg .videoTiming l.touched).map
    (@callbackArgs Rat Rat c.float (cfg.live l).cfg) = _
  rw [liveGroupCallbacks, hscene, htouched, List.map_append]
  split <;> rfl

/-- A live set that succeeds ends with the length of its own configuration. -/
theorem live_some {l : LiveSet} (h : step c b s (.live l) = some t) :
    t = ⟨s.cfg.live l, s.sensor, gopFrames c (s.cfg.live l).gopSize (s.cfg.live l).fps⟩ := by
  rw [step, live_calls] at h
  split at h
  · obtain ⟨u, hu, hrest⟩ := Option.bind_eq_some_iff.1 h
    rw [applyCall] at hu
    split at hu
    · cases hu
      exact (Option.some.inj hrest).symm
    · cases hu
  · exact (Option.some.inj h).symm

/-- Each action leaves the length right exactly when the rate it multiplies
with and the encoder's rate give the same one. -/
theorem step_right_iff (s : State) (a : Act) (t : State) (hfit : Fits b s a) (h : step c b s a = some t) :
    Right t ↔ Alike b s a := by
  cases a with
  | reinit cfg selected =>
      cases h
      exact right_iff c rfl hfit
  | live l =>
      have ht := live_some h
      subst ht
      exact right_iff c rfl hfit

theorem start_right_iff {mode : SensorMode} {accepts : UInt32 → Bool} {cfg : FixedGop}
    (hfit : InRange s.cfg.gopSize (gopFps s.sensor.fps)) (h : pipelineStart c mode accepts cfg = some s) :
    Right s ↔ StartAlike s.cfg s.sensor := by
  obtain ⟨fps, _, rfl⟩ := Option.map_eq_some_iff.1 h
  exact right_iff c rfl hfit

/-- From a start on, the length is right all the way exactly when at each step the
rate that the seconds are multiplied with gives the length of the encoder's rate. -/
theorem gop_right_iff {mode : SensorMode} {accepts : UInt32 → Bool} {cfg : FixedGop} {s₀ : State} (acts : List Act)
    (hstart : pipelineStart c mode accepts cfg = some s₀) (hfirst : InRange s₀.cfg.gopSize (gopFps s₀.sensor.fps))
    (hfits : Meets (step c b) (Fits b) s₀ acts) :
    (∀ t ∈ s₀ :: states (step c b) s₀ acts, Right t) ↔
      StartAlike s₀.cfg s₀.sensor ∧ Meets (step c b) (Alike b) s₀ acts := by
  rw [List.forall_mem_cons, start_right_iff hfirst hstart, forall_states_iff step_right_iff hfits]

theorem sameLength_of_eq {seconds : Rat} {fps fps' : Nat} (h : fps = fps') : SameLength seconds fps fps' :=
  sameLength_iff.1 (congrArg (frames seconds) h)

/-- A start at the sensor's full rate, and a live set at a rate the sensor has,
meet the condition whatever the seconds are. -/
theorem startAlike_of_le {cfg : FixedGop} {sensor : SensorSelectResult} (hpos : sensor.fps ≠ 0)
    (h : sensor.fps.toNat ≤ cfg.fps.toNat) : StartAlike cfg sensor := by
  apply sameLength_of_eq
  rw [gopFps, if_neg hpos, encoderFps, Nat.min_eq_right h]

theorem alike_of_le {l : LiveSet} (hpos : (s.cfg.live l).fps ≠ 0)
    (h : (s.cfg.live l).fps.toNat ≤ s.sensor.fps.toNat) : Alike b s (.live l) := by
  apply sameLength_of_eq
  rw [gopFps, if_neg hpos, encoderFps, Nat.min_eq_left h]

def cutOff : Conversion where
  toUInt32 q := UInt32.ofNat q.floor.toNat
  exact q hnonneg hlt := by
    have hfloor : q.floor.toNat = ⌊q⌋₊ := rfl
    rw [hfloor, UInt32.toNat_ofNat']
    exact Nat.mod_eq_of_lt ((Nat.floor_lt hnonneg).2 (by push_cast; exact hlt))

def defaults : FixedGop := ⟨vencConfigDefaults, rfl⟩

def fullRate : FixedGop := defaults.live (.fps 90)

def mode90 : SensorMode := ⟨3, 90⟩

def started (cfg : FixedGop) : State := programmed cutOff cfg ⟨mode90, 90⟩

def slowerAndShorter : List Act := [.live (.fps 60), .live (.gopSize (1 / 2))]

theorem gop_right_full_rate :
    (∀ t ∈ started fullRate :: states (step cutOff .star6e) (started fullRate) slowerAndShorter, Right t) ∧
      (states (step cutOff .star6e) (started fullRate) slowerAndShorter).length = 2 := by
  have hstart : pipelineStart cutOff mode90 (fun _ => true) fullRate = some (started fullRate) := rfl
  have hfits : Meets (step cutOff .star6e) (Fits .star6e) (started fullRate) slowerAndShorter := by
    intro t ht
    have hlive := live_some ht
    subst hlive
    refine ⟨by rw [Fits, InRange]; decide +kernel, fun u _ => ⟨?_, trivial⟩⟩
    rw [Fits, InRange]
    decide +kernel
  refine ⟨(gop_right_iff slowerAndShorter hstart (by rw [InRange]; decide +kernel) hfits).2 ⟨?_, ?_⟩, rfl⟩
  · exact startAlike_of_le (by decide) (by decide)
  · intro t ht
    have hlive := live_some ht
    subst hlive
    exact ⟨alike_of_le (by decide) (by decide), fun u _ => ⟨alike_of_le (by decide) (by decide), trivial⟩⟩

/-- The defaults on a 90 fps sensor: 60 frames a second and a key frame every
90, until a live set of the same second makes it every 60. -/
theorem gop_depends_on_path : ¬∀ (c : Conversion) (b : Backend) (mode : SensorMode) (accepts : UInt32 → Bool)
    (cfg : FixedGop) (s₀ : State) (acts : List Act), pipelineStart c mode accepts cfg = some s₀ →
      ∀ t ∈ s₀ :: states (step c b) s₀ acts, Right t := by
  intro h
  have hstart : pipelineStart cutOff mode90 (fun _ => true) defaults = some (started defaults) := rfl
  have hright := h cutOff .star6e mode90 _ defaults _ [.live (.gopSize 1)] hstart (started defaults)
    List.mem_cons_self
  have hgop : (started defaults).gop = 90 := by decide +kernel
  have hframes : frames defaults.gopSize (encoderFps defaults ⟨mode90, 90⟩) = 60 := by decide +kernel
  have hninety : ((90 : UInt32).toNat : ℤ) = 60 := by
    rw [← hgop, ← hframes]
    exact hright
  cases hninety

end WaybeamVenc.GopTiming
