import WaybeamVenc.LiveFps
import WaybeamVenc.SidecarTiling
import Mathlib.Algebra.Order.Round
import Mathlib.Data.Rat.Floor
import Mathlib.Tactic.NormNum

namespace WaybeamVenc.VideoClock

open HevcRoundTrip LiveFps RtpPacketizer Runs SidecarTiling VideoSender

/-- The fields of a configuration that the clock of the video depends on; rtp
says that outgoing.stream_mode is "rtp". -/
structure Config where
  live : LiveFps.Config
  rtp : Bool
  maxPayloadSize : UInt16

/-- What rand returns at a start of the video, and the sidecar it opens. -/
structure InitEnv where
  seq : UInt16
  timestamp : UInt32
  ssrc : UInt32
  sidecar : RtpSidecarSender

structure RtpSessionState where
  seq : UInt16
  timestamp : UInt32
  ssrc : UInt32
  frameTicks : UInt32
  payloadType : UInt8

def rtpSessionFrameTicks (sensorFps : UInt32) : UInt32 :=
  if sensorFps = 0 then 3000 else (90000 + sensorFps / 2) / sensorFps

def rtpSessionInit (payloadType : UInt8) (sensorFps : UInt32) (env : InitEnv) : RtpSessionState :=
  ⟨env.seq, env.timestamp, env.ssrc, rtpSessionFrameTicks sensorFps, payloadType⟩

/-- star6e_video_init; 97 is the payload type of PT_H265. -/
def star6eVideoInit (config : Config) (sensorFramerate : UInt32) (env : InitEnv) : Star6eVideoState :=
  let session := rtpSessionInit 97 sensorFramerate env
  { rtpState := if config.rtp then ⟨session.seq, session.timestamp, session.ssrc, session.payloadType⟩ else ⟨0, 0, 0, 0⟩
    rtpFrameTicks := if config.rtp then session.frameTicks else 0
    paramSets := ⟨[], [], []⟩
    rtpPayloadSize := config.maxPayloadSize
    frameCounter := 0
    verbosePacketizerInterval := noStats
    sidecar := env.sidecar }

variable {σ : Type}

/-- clocks lists the frames sent with the step of the timestamp at each and the
destination rate of the bind in effect then. -/
structure State (σ : Type) where
  live : LiveFps.State
  rtp : Bool
  video : Star6eVideoState
  out : σ
  clocks : List (UInt32 × Nat)

/-- bind_and_finalize_pipeline, with the rate the sensor runs at. -/
def finalize (config : Config) (env : InitEnv) (out : σ) (clocks : List (UInt32 × Nat)) (live : LiveFps.State) : State σ :=
  ⟨live, config.rtp, star6eVideoInit config (UInt32.ofNat live.sensor.fps) env, out, clocks⟩

def start (config : Config) (sensor : Sensor) (env : InitEnv) (out : σ) : Option (State σ) :=
  (startup .star6e config.live sensor).map (finalize config env out [])

inductive Act
  | reinit (config : Config) (env : InitEnv)
  | setFps (fps : Nat)
  | setEnabled (on : Bool)
  | frame (call : VideoCall)

/-- A frame of the encoder. Frames of the compact mode have no RTP time. -/
def sendFrame (writer : RtpPacketizerWriteFn σ) (s : State σ) (call : VideoCall) : State σ :=
  if s.rtp then
    let r := star6eVideoSendFrame (logged writer) s.video (s.out, []) { call with outputEnabled := s.live.outputEnabled }
    { s with
      video := r.state
      out := r.out.1
      clocks :=
        if s.live.outputEnabled then
          s.clocks ++ [(r.state.rtpState.timestamp - s.video.rtpState.timestamp, s.live.bindDst)]
        else s.clocks }
  else s

def step (writer : RtpPacketizerWriteFn σ) (s : State σ) : Act → Option (State σ)
  | .reinit config env =>
    (LiveFps.step .star6e s.live (.reinit config.live s.live.sensor)).map (finalize config env s.out s.clocks)
  | .setFps fps => (LiveFps.step .star6e s.live (.setFps fps)).map fun live => { s with live := live }
  | .setEnabled on => (LiveFps.step .star6e s.live (.setEnabled on)).map fun live => { s with live := live }
  | .frame call => some (sendFrame writer s call)

/-! What the clock should do, and when it does. -/

/-- At each frame sent the timestamp went on by the time of a frame at the rate
of the bind. -/
def Clocked (s : State σ) : Prop := ∀ e ∈ s.clocks, (e.1.toNat : ℤ) = round ((90000 : ℚ) / e.2)

/-- The step for the rate of the sensor is the one for another rate as well. -/
def Paced (sensor : Sensor) (fps : Nat) : Prop :=
  ((rtpSessionFrameTicks (UInt32.ofNat sensor.fps)).toNat : ℤ) = round ((90000 : ℚ) / fps)

/-- The rate a pipeline is bound at with its output on. -/
def bindFps (config : LiveFps.Config) (sensor : Sensor) : Nat :=
  if config.fps = 0 then sensorFps .star6e sensor else min config.fps (sensorFps .star6e sensor)

def StartsPaced (config : Config) (sensor : Sensor) : Prop :=
  config.rtp = true → config.live.enabled = true → Paced sensor (bindFps config.live sensor)

/-- Whatever binds the encoder at a rate while its RTP output is on binds it at
one that has the step of the sensor's rate. -/
def KeepsPace (s : State σ) : Act → Prop
  | .reinit config _ =>
    StartsPaced { config with live := clampToMode s.live.sensor.maxFps config.live } s.live.sensor
  | .setFps fps =>
    s.rtp = true → s.live.outputEnabled = true → Paced s.live.sensor (min fps (sensorFps .star6e s.live.sensor))
  | .setEnabled on =>
    s.rtp = true → on = true → Paced s.live.sensor (min (restoredFps s.live) (sensorFps .star6e s.live.sensor))
  | .frame _ => True

/-! The step for one rate. -/

theorem rtpSessionFrameTicks_toNat {f : UInt32} (h : 0 < f.toNat) :
    (rtpSessionFrameTicks f).toNat = (180000 + f.toNat) / (2 * f.toNat) := by
  have hne : f ≠ 0 := by
    rintro rfl
    exact Nat.lt_irrefl _ h
  have hlt := f.toNat_lt
  have hhalf : (f / 2).toNat = f.toNat / 2 := UInt32.toNat_div f 2
  have hsum : (90000 + f / 2).toNat = (180000 + f.toNat) / 2 := by
    rw [UInt32.toNat_add, hhalf, Nat.mod_eq_of_lt]
    · change 90000 + f.toNat / 2 = _
      omega
    · change 90000 + f.toNat / 2 < _
      omega
  rw [rtpSessionFrameTicks, if_neg hne, UInt32.toNat_div, hsum, Nat.div_div_eq_div_mul]

/-- The integer division is the nearest number of ticks. -/
theorem rtpSessionFrameTicks_round {f : UInt32} (h : 0 < f.toNat) :
    ((rtpSessionFrameTicks f).toNat : ℤ) = round ((90000 : ℚ) / f.toNat) := by
  have hpos : (f.toNat : ℚ) ≠ 0 := by exact_mod_cast h.ne'
  have hhalf : (90000 : ℚ) / f.toNat + 1 / 2 = ((180000 + f.toNat : ℕ) : ℚ) / ((2 * f.toNat : ℕ) : ℚ) := by
    push_cast
    field_simp
    ring
  rw [round_eq, hhalf, Rat.floor_natCast_div_natCast, rtpSessionFrameTicks_toNat h]
  rfl

theorem paced_self {maxFps fps : Nat} (h : 0 < fps) (hlt : fps < 2 ^ 32) : Paced ⟨maxFps, fps⟩ fps := by
  have hnat : (UInt32.ofNat fps).toNat = fps := UInt32.toNat_ofNat_of_lt hlt
  have hround := rtpSessionFrameTicks_round (f := UInt32.ofNat fps) (by omega)
  rwa [hnat] at hround

/-! One step. -/

structure Inv (s : State σ) : Prop where
  clocked : Clocked s
  ticks : s.rtp = true → s.video.rtpFrameTicks = rtpSessionFrameTicks (UInt32.ofNat s.live.sensor.fps)
  paced : s.rtp = true → s.live.outputEnabled = true → Paced s.live.sensor s.live.bindDst

theorem bindPipeline_some {config : LiveFps.Config} {sensor : Sensor} {storedFps : Nat} {live : LiveFps.State}
    (h : bindPipeline .star6e config sensor storedFps = some live) :
    live.sensor = sensor ∧ (live.outputEnabled = true → config.enabled = true ∧ live.bindDst = bindFps config sensor) := by
  cases henabled : config.enabled with
  | true =>
      simp only [bindPipeline, henabled, and_true, if_true] at h
      split_ifs at h with hserver hsrc
      · cases h
        refine ⟨rfl, fun _ => ⟨rfl, ?_⟩⟩
        rw [bindFps]
        split_ifs with hzero
        · rfl
        · exact (Nat.min_eq_right (hsrc.resolve_left hzero).le).symm
      · cases h
        refine ⟨rfl, fun _ => ⟨rfl, ?_⟩⟩
        rw [not_or] at hsrc
        rw [bindFps, if_neg hsrc.1, Nat.min_eq_left (Nat.not_lt.1 hsrc.2)]
  | false =>
      simp only [bindPipeline, henabled, Bool.false_eq_true, and_false, if_false, applyFps_idle, Option.getD_some] at h
      cases h
      exact ⟨rfl, fun h => absurd h Bool.false_ne_true⟩

theorem finalize_inv {config : Config} {sensor : Sensor} {env : InitEnv} {out : σ} {clocks : List (UInt32 × Nat)}
    {storedFps : Nat} {live : LiveFps.State} (hclocked : ∀ e ∈ clocks, (e.1.toNat : ℤ) = round ((90000 : ℚ) / e.2))
    (hpaced : StartsPaced config sensor) (h : bindPipeline .star6e config.live sensor storedFps = some live) :
    Inv (finalize config env out clocks live) := by
  obtain ⟨hsensor, hbind⟩ := bindPipeline_some h
  refine ⟨hclocked, ?_, ?_⟩
  · intro hrtp
    exact if_pos hrtp
  · intro hrtp hon
    obtain ⟨henabled, hdst⟩ := hbind hon
    have hpace := hpaced hrtp henabled
    rw [← hdst, ← hsensor] at hpace
    exact hpace

theorem setFps_inv {s : State σ} {fps : Nat} {live : LiveFps.State} (hi : Inv s) (hok : KeepsPace s (.setFps fps))
    (h : LiveFps.step .star6e s.live (.setFps fps) = some live) : Inv { s with live := live } := by
  have hlive := applyFps_some .star6e h
  subst hlive
  exact ⟨hi.clocked, hi.ticks, hok⟩

theorem enable_accepted {s t : LiveFps.State} (h : LiveFps.step .star6e s (.setEnabled true) = some t) :
    accepted (restoredFps s) := by
  simp only [LiveFps.step, applyOutputEnabled, if_true, orIgnored, applyFps] at h
  by_contra hacc
  have hrestored : ¬ accepted (restoredFps
      { s with config := { s.config with enabled := true }, outputEnabled := true }) := hacc
  split_ifs at h

theorem setEnabled_inv {s : State σ} {on : Bool} {live : LiveFps.State} (hi : Inv s) (hok : KeepsPace s (.setEnabled on))
    (h : LiveFps.step .star6e s.live (.setEnabled on) = some live) : Inv { s with live := live } := by
  cases on with
  | true =>
      obtain ⟨_, hsensor, _, hdst⟩ := enable_some .star6e h
      rw [if_pos (enable_accepted h)] at hdst
      refine ⟨hi.clocked, ?_, ?_⟩
      · intro hrtp
        rw [hi.ticks hrtp, hsensor]
      · intro hrtp _
        have hpace := hok hrtp rfl
        rwa [← hdst, ← hsensor] at hpace
  | false =>
      obtain ⟨_, hsensor, hoff, _⟩ := disable_some .star6e h
      refine ⟨hi.clocked, ?_, ?_⟩
      · intro hrtp
        rw [hi.ticks hrtp, hsensor]
      · intro _ hon
        exact absurd (hoff.symm.trans hon) Bool.false_ne_true

/-- A frame changes nothing but the clock, which goes on by the step if the
frame is sent. -/
theorem sendFrame_spec (writer : RtpPacketizerWriteFn σ) (s : State σ) (call : VideoCall) :
    (sendFrame writer s call).live = s.live ∧ (sendFrame writer s call).rtp = s.rtp ∧
      (sendFrame writer s call).video.rtpFrameTicks = s.video.rtpFrameTicks ∧
      (sendFrame writer s call).clocks =
        if s.rtp && s.live.outputEnabled then s.clocks ++ [(s.video.rtpFrameTicks, s.live.bindDst)] else s.clocks := by
  cases hrtp : s.rtp with
  | false =>
      rw [sendFrame, if_neg (by rw [hrtp]; exact Bool.false_ne_true)]
      exact ⟨rfl, hrtp, rfl, rfl⟩
  | true =>
      cases hon : s.live.outputEnabled with
      | false =>
          simp only [sendFrame, if_pos hrtp, hon, star6eVideoSendFrame, Bool.false_eq_true, if_false, Bool.and_false]
          exact ⟨trivial, hrtp, trivial, trivial⟩
      | true =>
          obtain ⟨_, _, _, _, hticks, _, hstamp, _⟩ :=
            @sendFrame_tiles σ writer s.video s.out { call with outputEnabled := true } rfl
          have hstep : s.video.rtpState.timestamp + s.video.rtpFrameTicks - s.video.rtpState.timestamp =
              s.video.rtpFrameTicks := by
            rw [UInt32.add_comm, UInt32.add_sub_cancel]
          simp only [sendFrame, hon, if_true, Bool.and_self, hticks, hstamp, hstep, and_true, hrtp]

theorem sendFrame_inv (writer : RtpPacketizerWriteFn σ) {s : State σ} (call : VideoCall) (hi : Inv s) :
    Inv (sendFrame writer s call) := by
  obtain ⟨hlive, hrtp, hticks, hclocks⟩ := sendFrame_spec writer s call
  refine ⟨?_, ?_, ?_⟩
  · rw [Clocked, hclocks]
    split
    · next hsent =>
      obtain ⟨hon, henabled⟩ := Bool.and_eq_true_iff.1 hsent
      intro e he
      rcases List.mem_append.1 he with he | he
      · exact hi.clocked e he
      · rw [List.mem_singleton.1 he, hi.ticks hon]
        exact hi.paced hon henabled
    · exact hi.clocked
  · rw [hlive, hrtp, hticks]
    exact hi.ticks
  · rw [hlive, hrtp]
    exact hi.paced

theorem step_inv {writer : RtpPacketizerWriteFn σ} {s t : State σ} (a : Act) (hi : Inv s) (hok : KeepsPace s a)
    (h : step writer s a = some t) : Inv t := by
  cases a with
  | reinit config env =>
      obtain ⟨live, hlive, rfl⟩ := Option.map_eq_some_iff.1 h
      let clamped : Config := { config with live := clampToMode s.live.sensor.maxFps config.live }
      have hinv : Inv (finalize clamped env s.out s.clocks live) := finalize_inv hi.clocked hok hlive
      exact hinv
  | setFps fps =>
      obtain ⟨live, hlive, rfl⟩ := Option.map_eq_some_iff.1 h
      exact setFps_inv hi hok hlive
  | setEnabled on =>
      obtain ⟨live, hlive, rfl⟩ := Option.map_eq_some_iff.1 h
      exact setEnabled_inv hi hok hlive
  | frame call =>
      cases h
      exact sendFrame_inv writer call hi

/-- The clock follows the bind as long as every bind with the RTP output on is
at a rate that has the step of the sensor's rate. -/
theorem clock_follows_bind {writer : RtpPacketizerWriteFn σ} {config : Config} {sensor : Sensor} {env : InitEnv} {out : σ}
    {s₀ s : State σ} (hstart : start config sensor env out = some s₀) (hpaced : StartsPaced config sensor)
    (h : Path (step writer) KeepsPace s₀ s) : Clocked s := by
  obtain ⟨live, hlive, rfl⟩ := Option.map_eq_some_iff.1 hstart
  have hi : Inv s := h.invariant Inv (finalize_inv (fun _ he => absurd he List.not_mem_nil) hpaced hlive)
    fun _ a _ hi hok hs => step_inv a hi hok hs
  exact hi.clocked

def rtp60 : Config := ⟨streaming, true, 1400⟩

def silentEnv : InitEnv := ⟨0, 0, 7, ⟨-1, 0, 0⟩⟩

def accepting : RtpPacketizerWriteFn Unit := fun _ _ => (true, ())

def started : State Unit := finalize rtp60 silentEnv () [] ⟨streaming, ⟨60, 60⟩, true, 0, 60⟩

/-- A disable, the enable behind it, and a frame. -/
theorem clock_follows_bind_enabled :
    ∃ s, run (step accepting) started [.setEnabled false, .setEnabled true, .frame (plainCall [2, 1, 9])] = some s ∧
      s.clocks.map Prod.snd = [60] ∧ Clocked s := by
  have hpaced : Paced ⟨60, 60⟩ 60 := paced_self (by decide) (by decide)
  let idle : LiveFps.State := ⟨{ streaming with enabled := false }, ⟨60, 60⟩, false, 60, 5⟩
  let enabled : LiveFps.State := ⟨streaming, ⟨60, 60⟩, true, 60, 60⟩
  have hoff : step accepting started (.setEnabled false) = some { started with live := idle } := rfl
  have hon : step accepting { started with live := idle } (.setEnabled true) = some { started with live := enabled } := rfl
  refine ⟨_, rfl, rfl, ?_⟩
  have hrun : Path (step accepting) KeepsPace started { started with live := enabled } :=
    .next (.setEnabled true) (.next (.setEnabled false) .refl (fun _ h => absurd h Bool.false_ne_true) hoff)
      (fun _ _ => hpaced) hon
  have hstart : start rtp60 ⟨60, 60⟩ silentEnv () = some started := rfl
  exact clock_follows_bind hstart (fun _ _ => hpaced)
    (hrun.next (.frame (plainCall [2, 1, 9])) trivial rfl)

/-- Live to 30 frames a second: the clock goes on by half the time. -/
theorem clock_runs_slow : ¬ ∀ (config : Config) (sensor : Sensor) (env : InitEnv) (s₀ s : State Unit),
    start config sensor env () = some s₀ → Reaches (step accepting) s₀ s → Clocked s := by
  intro h
  let slowed : LiveFps.State := ⟨{ streaming with fps := 30 }, ⟨60, 60⟩, true, 0, 30⟩
  have hfps : step accepting started (.setFps 30) = some { started with live := slowed } := rfl
  have hreach : Reaches (step accepting) started (sendFrame accepting { started with live := slowed } (plainCall [2, 1, 9])) :=
    .next (.frame (plainCall [2, 1, 9])) (.next (.setFps 30) .refl trivial hfps) trivial rfl
  have hclocks := (sendFrame_spec accepting { started with live := slowed } (plainCall [2, 1, 9])).2.2.2
  have hround := h rtp60 ⟨60, 60⟩ silentEnv started _ rfl hreach (1500, 30)
    (by rw [hclocks]; exact List.mem_singleton_self _)
  have hthirty : round ((90000 : ℚ) / ((30 : ℕ) : ℚ)) = 3000 := by
    rw [show ((90000 : ℚ) / ((30 : ℕ) : ℚ)) = ((3000 : ℤ) : ℚ) by norm_num, round_intCast]
  rw [hthirty] at hround
  exact absurd hround (by decide)

end WaybeamVenc.VideoClock
