import WaybeamVenc.Runs

namespace WaybeamVenc.Cus3a

open Runs

@[ext]
structure IspExposureLimit where
  minShutterUs : UInt32
  maxShutterUs : UInt32
  minApertX10 : UInt32
  maxApertX10 : UInt32
  minSensorGain : UInt32
  minIspGain : UInt32
  maxSensorGain : UInt32
  maxIspGain : UInt32
deriving DecidableEq

def noLimit : IspExposureLimit := ⟨0, 0, 0, 0, 0, 0, 0, 0⟩

structure Cus3aConfig where
  sensorFps : UInt32
  shutterMaxUs : UInt32
  gainMax : UInt32
deriving DecidableEq

/-- The locals of cus3a_thread. -/
structure Thread where
  curLimit : IspExposureLimit
  appliedShutterMax : UInt32
  appliedGainMax : UInt32
  frames : UInt32
  fpsKickDone : Bool
deriving DecidableEq

/-- A call of MI_SNR_SetFps: the frame it came at, and the sensor's shutter and
the cap that led to it. -/
structure Kick where
  frames : UInt32
  shutter : UInt32
  cap : UInt32
  fps : UInt32
deriving DecidableEq

/-- What g_cus3a holds, the limits that are in the ISP and the kicks since the
last start. -/
structure State where
  cfg : Cus3aConfig
  shutterMaxUs : UInt32
  gainMax : UInt32
  binMaxSensorGain : UInt32
  thread : Option Thread
  isp : IspExposureLimit
  kicks : List Kick
deriving DecidableEq

def computeMaxShutter (s : State) : UInt32 :=
  if 0 < s.shutterMaxUs then s.shutterMaxUs
  else if 0 < s.cfg.sensorFps then 1000000 / s.cfg.sensorFps
  else 8333

def effectiveGain (s : State) : UInt32 := if 0 < s.gainMax then s.gainMax else s.binMaxSensorGain

/-- How the calls of a start go. -/
structure StartCalls where
  resolved : Bool
  getBin : Bool
  created : Bool
  getLimit : Bool
  setLimit : Bool
deriving DecidableEq

/-- How the calls of one turn of the loop go, and the sensor's shutter where it
can be read. -/
structure TickCalls where
  stats : Bool
  getLimit : Bool
  shutter : Option UInt32
  canSetFps : Bool
  setLimit : Bool
deriving DecidableEq

/-- A limit is lowered to what is wanted. -/
def lowered (want current : UInt32) : UInt32 := if 0 < want ∧ want ≤ current then want else current

/-- What the thread does in front of its loop. -/
def threadStart (c : StartCalls) (s : State) : State :=
  let cur := if c.getLimit then s.isp else noLimit
  let cur := { cur with
    maxShutterUs := lowered (computeMaxShutter s) cur.maxShutterUs
    maxSensorGain := lowered s.gainMax cur.maxSensorGain }
  { s with
    isp := if c.setLimit then cur else s.isp
    thread := some ⟨cur, cur.maxShutterUs, cur.maxSensorGain, 0, false⟩ }

def star6eCus3aStart (cfg : Cus3aConfig) (c : StartCalls) (s : State) : State :=
  if s.thread.isSome then s
  else
    let s := { s with
      cfg := cfg, shutterMaxUs := cfg.shutterMaxUs, gainMax := cfg.gainMax, binMaxSensorGain := 0, kicks := [] }
    if !c.resolved then s
    else
      let s := if c.getBin && 0 < s.isp.maxSensorGain then { s with binMaxSensorGain := s.isp.maxSensorGain } else s
      if !c.created then s else threadStart c s

/-- A wanted value against the one applied last: the limit, what is applied now
and whether that changed. -/
def follow (want applied current : UInt32) : UInt32 × UInt32 × Bool :=
  if 0 < want ∧ want ≠ applied then (want, want, true) else (current, applied, false)

/-- The sensor's shutter where it is stuck above the cap in the first frames. -/
def stuckAbove (c : TickCalls) (t : Thread) (cap : UInt32) : Option UInt32 :=
  if 0 < t.frames ∧ t.frames ≤ 15 ∧ t.fpsKickDone = false ∧ 0 < cap then c.shutter.filter fun shutter => cap < shutter
  else none

def tick (c : TickCalls) (s : State) (t : Thread) : State :=
  if !c.stats then s
  else
    let cur := if c.getLimit then s.isp else t.curLimit
    let shutter := follow (computeMaxShutter s) t.appliedShutterMax cur.maxShutterUs
    let gain := follow (effectiveGain s) t.appliedGainMax cur.maxSensorGain
    let stuck := stuckAbove c t shutter.2.1
    let cur := { cur with
      maxShutterUs := if stuck.isSome then shutter.2.1 else shutter.1
      maxSensorGain := gain.1 }
    let kick := if t.frames = 15 ∧ c.canSetFps = true ∧ 0 < s.cfg.sensorFps then stuck else none
    let changed := shutter.2.2 || gain.2.2 || stuck.isSome
    { s with
      isp := if changed && c.setLimit then cur else s.isp
      kicks := s.kicks ++ (kick.map fun reg => ⟨t.frames, reg, shutter.2.1, s.cfg.sensorFps⟩).toList
      thread := some ⟨cur, shutter.2.1, gain.2.1, t.frames + 1, t.fpsKickDone || kick.isSome⟩ }

inductive Action
  | start (cfg : Cus3aConfig) (c : StartCalls)
  | stop
  | setShutterMax (maxUs : UInt32)
  | setGainMax (gain : UInt32)
  -- the limits are written by another part of the program
  | foreign (limit : IspExposureLimit)
  | tick (c : TickCalls)

def step (s : State) : Action → Option State
  | .start cfg c => some (star6eCus3aStart cfg c s)
  | .stop => some { s with thread := none }
  | .setShutterMax maxUs => some (if 0 < maxUs then { s with shutterMaxUs := maxUs } else s)
  | .setGainMax gain => some { s with gainMax := gain }
  | .foreign limit => some { s with isp := limit }
  | .tick c => s.thread.map (tick c s)

/-! The kick. -/

/-- At most one since the last start, at the sixteenth frame and with the
sensor's shutter above the cap. -/
structure KicksRight (s : State) : Prop where
  once : s.kicks.length ≤ 1
  unspent : ∀ t ∈ s.thread, t.fpsKickDone = false → s.kicks = []
  stuck : ∀ k ∈ s.kicks, k.frames = 15 ∧ 0 < k.cap ∧ k.cap < k.shutter ∧ 0 < k.fps

theorem stuckAbove_some {c : TickCalls} {t : Thread} {cap reg : UInt32} (h : stuckAbove c t cap = some reg) :
    t.fpsKickDone = false ∧ 0 < cap ∧ cap < reg := by
  rw [stuckAbove] at h
  split at h
  · next hearly =>
      obtain ⟨-, -, hunspent, hcap⟩ := hearly
      rw [Option.filter_eq_some_iff] at h
      exact ⟨hunspent, hcap, by simpa using h.2⟩
  · cases h

theorem tick_kicks {s : State} (h : KicksRight s) {t : Thread} (ht : s.thread = some t) (c : TickCalls) :
    KicksRight (tick c s t) := by
  rw [tick]
  split
  · exact h
  · dsimp only
    generalize hcap : (follow (computeMaxShutter s) t.appliedShutterMax _).2.1 = cap
    generalize follow (effectiveGain s) t.appliedGainMax _ = gain
    cases hkick : (if t.frames = 15 ∧ c.canSetFps = true ∧ 0 < s.cfg.sensorFps then stuckAbove c t cap else none) with
    | none =>
        constructor
        · simpa using h.once
        · intro u hu hdone
          obtain rfl := Option.some.inj hu
          simpa using h.unspent t ht (by simpa using hdone)
        · simpa using h.stuck
    | some reg =>
        obtain ⟨hat, hreg⟩ :
            (t.frames = 15 ∧ c.canSetFps = true ∧ 0 < s.cfg.sensorFps) ∧ stuckAbove c t cap = some reg := by
          simpa using hkick
        obtain ⟨hunspent, hpos, habove⟩ := stuckAbove_some hreg
        have hnone := h.unspent t ht hunspent
        constructor
        · simp [hnone]
        · intro u hu hdone
          obtain rfl := Option.some.inj hu
          simp at hdone
        · intro k hk
          obtain rfl : k = ⟨t.frames, reg, cap, s.cfg.sensorFps⟩ := by simpa [hnone] using hk
          exact ⟨hat.1, hpos, habove, hat.2.2⟩

theorem start_kicks {s : State} (h : KicksRight s) (cfg : Cus3aConfig) (c : StartCalls) :
    KicksRight (star6eCus3aStart cfg c s) := by
  rw [star6eCus3aStart]
  split
  · exact h
  · have hnone : ∀ s : State, s.kicks = [] → KicksRight s := by
      intro s hs
      exact ⟨by simp [hs], fun _ _ _ => hs, by simp [hs]⟩
    apply hnone
    dsimp only
    split
    · rfl
    · split
      · split <;> rfl
      · rw [threadStart]
        split <;> rfl

theorem step_kicks {s s' : State} (a : Action) (h : KicksRight s) (hstep : step s a = some s') : KicksRight s' := by
  cases a with
  | start cfg c =>
      cases hstep
      exact start_kicks h cfg c
  | stop =>
      cases hstep
      exact ⟨h.once, by simp, h.stuck⟩
  | setShutterMax maxUs =>
      cases hstep
      split
      · exact ⟨h.once, h.unspent, h.stuck⟩
      · exact h
  | setGainMax gain =>
      cases hstep
      exact ⟨h.once, h.unspent, h.stuck⟩
  | foreign limit =>
      cases hstep
      exact ⟨h.once, h.unspent, h.stuck⟩
  | tick c =>
      obtain ⟨t, ht, rfl⟩ := Option.map_eq_some_iff.1 hstep
      exact tick_kicks h ht c

/-- Over any run, the restarts, the changes of the wanted limits and the writes of
others in any order, the sensor is set anew at most once a start. -/
theorem kicks_once {s₀ s : State} (hboot : s₀.kicks = []) (h : Reaches step s₀ s) :
    s.kicks.length ≤ 1 ∧ ∀ k ∈ s.kicks, k.frames = 15 ∧ 0 < k.cap ∧ k.cap < k.shutter ∧ 0 < k.fps := by
  have hstart : KicksRight s₀ := ⟨by simp [hboot], fun _ _ _ => hboot, by simp [hboot]⟩
  have hright := h.invariant KicksRight hstart fun t a u ht _ hstep => step_kicks a ht hstep
  exact ⟨hright.once, hright.stuck⟩

/-! A sensor that came up too slow. -/

def cold : State where
  cfg := ⟨0, 0, 0⟩
  shutterMaxUs := 0
  gainMax := 0
  binMaxSensorGain := 0
  thread := none
  isp := ⟨100, 33333, 10, 100, 1024, 1024, 204800, 8192⟩
  kicks := []

def allStart : StartCalls := ⟨true, true, true, true, true⟩

def stuckTick : TickCalls := ⟨true, true, some 33333, true, true⟩

def stuckRun : List Action := .start ⟨120, 0, 0⟩ allStart :: List.replicate 20 (.tick stuckTick)

def kicked : State := (run step cold stuckRun).getD cold

theorem kicks_once_stuck : kicked.kicks = [⟨15, 33333, 8333, 120⟩] ∧
    kicked.kicks.length ≤ 1 ∧ ∀ k ∈ kicked.kicks, k.frames = 15 ∧ 0 < k.cap ∧ k.cap < k.shutter ∧ 0 < k.fps := by
  have hrun : run step cold stuckRun = some kicked := by decide
  exact ⟨by decide, kicks_once rfl (reaches_of_run stuckRun hrun)⟩

/-! The limits. -/

/-- The limits that the thread has nothing to do with. -/
def IspExposureLimit.rest (l : IspExposureLimit) : IspExposureLimit := { l with maxShutterUs := 0, maxSensorGain := 0 }

/-- The ISP has the two limits that the thread applied last. -/
def Followed (s : State) : Prop :=
  ∀ t ∈ s.thread, s.isp.maxShutterUs = t.appliedShutterMax ∧ s.isp.maxSensorGain = t.appliedGainMax

/-- Nobody else writes the limits, and the calls that read and write them succeed. -/
def Undisturbed (_ : State) : Action → Prop
  | .start _ c => c.getLimit = true ∧ c.setLimit = true
  | .tick c => c.getLimit = true ∧ c.setLimit = true
  | .foreign _ => False
  | _ => True

theorem follow_limit (want applied : UInt32) : (follow want applied applied).1 = (follow want applied applied).2.1 := by
  rw [follow]
  split <;> rfl

theorem follow_unchanged {want applied current : UInt32} (h : (follow want applied current).2.2 = false) :
    (follow want applied current).2.1 = applied := by
  rw [follow] at h ⊢
  split at h
  · cases h
  · next hsame => rw [if_neg hsame]

theorem follow_wanted {want : UInt32} (h : 0 < want) (applied current : UInt32) :
    (follow want applied current).2.1 = want := by
  rw [follow]
  split
  · rfl
  · next hsame => exact (not_not.1 (not_and.1 hsame h)).symm

/-- The limits after a turn, also one that has nothing to write. -/
theorem tick_limits {s : State} {t : Thread} {c : TickCalls} (hstats : c.stats = true) (hget : c.getLimit = true)
    (hset : c.setLimit = true) (hshutter : s.isp.maxShutterUs = t.appliedShutterMax)
    (hgain : s.isp.maxSensorGain = t.appliedGainMax) :
    let shutter := (follow (computeMaxShutter s) t.appliedShutterMax t.appliedShutterMax).2.1
    let gain := (follow (effectiveGain s) t.appliedGainMax t.appliedGainMax).2.1
    (tick c s t).isp = { s.isp with maxShutterUs := shutter, maxSensorGain := gain } ∧
      ∃ u, (tick c s t).thread = some u ∧ u.appliedShutterMax = shutter ∧ u.appliedGainMax = gain := by
  dsimp only
  simp only [tick, hstats, hget, hset, hshutter, hgain, Bool.not_true, Bool.false_eq_true, if_false, if_true, Bool.and_true,
    follow_limit, ite_self]
  refine ⟨?_, _, rfl, rfl, rfl⟩
  split
  · rfl
  · next hsame =>
      simp only [Bool.or_eq_true, not_or, Bool.not_eq_true] at hsame
      rw [follow_unchanged hsame.1.1, follow_unchanged hsame.1.2, ← hshutter, ← hgain]

theorem tick_followed {s : State} (h : Followed s) {t : Thread} (ht : s.thread = some t) {c : TickCalls}
    (hget : c.getLimit = true) (hset : c.setLimit = true) :
    Followed (tick c s t) ∧ (tick c s t).isp.rest = s.isp.rest := by
  obtain ⟨hshutter, hgain⟩ := h t ht
  cases hstats : c.stats with
  | false =>
      have hsame : tick c s t = s := by simp [tick, hstats]
      rw [hsame]
      exact ⟨h, rfl⟩
  | true =>
      obtain ⟨hisp, u, hu, hushutter, hugain⟩ := tick_limits hstats hget hset hshutter hgain
      constructor
      · intro v hv
        obtain rfl := Option.some.inj (hu.symm.trans hv)
        rw [hisp, hushutter, hugain]
        exact ⟨rfl, rfl⟩
      · rw [hisp]
        rfl

theorem start_followed {s : State} (h : Followed s) (cfg : Cus3aConfig) {c : StartCalls} (hget : c.getLimit = true)
    (hset : c.setLimit = true) :
    Followed (star6eCus3aStart cfg c s) ∧ (star6eCus3aStart cfg c s).isp.rest = s.isp.rest := by
  rw [star6eCus3aStart]
  split
  · exact ⟨h, rfl⟩
  · next hstopped =>
      have hnone : s.thread = none := by simpa using hstopped
      have hidle : ∀ u : State, u.thread = none → u.isp = s.isp → Followed u ∧ u.isp.rest = s.isp.rest := by
        intro u hu hisp
        refine ⟨fun t ht => ?_, by rw [hisp]⟩
        rw [hu] at ht
        cases ht
      have hthread : ∀ u : State, u.isp = s.isp →
          Followed (threadStart c u) ∧ (threadStart c u).isp.rest = s.isp.rest := by
        intro u hisp
        simp only [threadStart, hget, hset, if_true]
        refine ⟨fun t ht => ?_, by rw [hisp]; rfl⟩
        obtain rfl := Option.some.inj ht
        exact ⟨rfl, rfl⟩
      dsimp only
      split
      · exact hidle _ hnone rfl
      · split
        · split
          · exact hidle _ hnone rfl
          · exact hidle _ hnone rfl
        · split
          · exact hthread _ rfl
          · exact hthread _ rfl

/-- What every undisturbed run keeps, from limits that were there at first. -/
structure Kept (first : IspExposureLimit) (s : State) : Prop where
  followed : Followed s
  rest : s.isp.rest = first.rest

theorem step_kept {first : IspExposureLimit} {s s' : State} (a : Action) (h : Kept first s) (hclean : Undisturbed s a)
    (hstep : step s a = some s') : Kept first s' := by
  cases a with
  | start cfg c =>
      cases hstep
      obtain ⟨hfollowed, hrest⟩ := start_followed h.followed cfg hclean.1 hclean.2
      exact ⟨hfollowed, hrest.trans h.rest⟩
  | stop =>
      cases hstep
      exact ⟨by simp [Followed], h.rest⟩
  | setShutterMax maxUs =>
      cases hstep
      split
      · exact ⟨h.followed, h.rest⟩
      · exact h
  | setGainMax gain =>
      cases hstep
      exact ⟨h.followed, h.rest⟩
  | foreign limit => exact hclean.elim
  | tick c =>
      obtain ⟨t, ht, rfl⟩ := Option.map_eq_some_iff.1 hstep
      obtain ⟨hfollowed, hrest⟩ := tick_followed h.followed ht hclean.1 hclean.2
      exact ⟨hfollowed, hrest.trans h.rest⟩

theorem tick_settings (c : TickCalls) (s : State) (t : Thread) :
    computeMaxShutter (tick c s t) = computeMaxShutter s ∧ effectiveGain (tick c s t) = effectiveGain s := by
  rw [tick]
  split <;> exact ⟨rfl, rfl⟩

/-- In an undisturbed run, through restarts and changes of what is wanted, each turn
that finds statistics leaves the ISP with exactly the wanted cap and gain, and no
turn touches the other limits. -/
theorem limits_follow {s₀ s s' : State} (hboot : s₀.thread = none) (h : Path step Undisturbed s₀ s) {c : TickCalls}
    (hstats : c.stats = true) (hclean : Undisturbed s (.tick c)) (hstep : step s (.tick c) = some s') :
    (0 < computeMaxShutter s' → s'.isp.maxShutterUs = computeMaxShutter s') ∧
      (0 < effectiveGain s' → s'.isp.maxSensorGain = effectiveGain s') ∧ s'.isp.rest = s₀.isp.rest := by
  have hfirst : Kept s₀.isp s₀ := ⟨by simp [Followed, hboot], rfl⟩
  have hkept := h.invariant (Kept s₀.isp) hfirst fun t a u ht hok hstep => step_kept a ht hok hstep
  have hlast := step_kept (.tick c) hkept hclean hstep
  obtain ⟨t, ht, rfl⟩ := Option.map_eq_some_iff.1 hstep
  obtain ⟨hshutter, hgain⟩ := hkept.followed t ht
  obtain ⟨hisp, -⟩ := tick_limits hstats hclean.1 hclean.2 hshutter hgain
  obtain ⟨hsame, hsame'⟩ := tick_settings c s t
  refine ⟨fun hpos => ?_, fun hpos => ?_, hlast.rest⟩
  · rw [hsame] at hpos ⊢
    rw [hisp, follow_wanted hpos]
  · rw [hsame'] at hpos ⊢
    rw [hisp, follow_wanted hpos]

/-- Started at 120 fps with a gain of its own, and then with a shorter shutter. -/
def wanted : State := { star6eCus3aStart ⟨120, 0, 2048⟩ allStart cold with shutterMaxUs := 5000 }

theorem limits_follow_set :
    ∃ s, step wanted (.tick stuckTick) = some s ∧
      s.isp = { cold.isp with maxShutterUs := 5000, maxSensorGain := 2048 } ∧
      (0 < computeMaxShutter s → s.isp.maxShutterUs = computeMaxShutter s) ∧
      (0 < effectiveGain s → s.isp.maxSensorGain = effectiveGain s) ∧ s.isp.rest = cold.isp.rest := by
  obtain ⟨s, hs⟩ : ∃ s, step wanted (.tick stuckTick) = some s := ⟨_, rfl⟩
  have hpath : Path step Undisturbed cold wanted :=
    .next (.setShutterMax 5000) (.next (.start ⟨120, 0, 2048⟩ allStart) .refl ⟨rfl, rfl⟩ rfl) trivial rfl
  refine ⟨s, hs, ?_, limits_follow rfl hpath rfl ⟨rfl, rfl⟩ hs⟩
  cases hs
  decide

end WaybeamVenc.Cus3a
