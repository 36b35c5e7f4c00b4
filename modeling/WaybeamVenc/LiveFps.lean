import WaybeamVenc.Runs
import Mathlib.Tactic.SplitIfs

namespace WaybeamVenc.LiveFps

open Runs

inductive Backend
  | star6e
  | maruko
deriving DecidableEq

structure Config where
  fps : Nat
  enabled : Bool
  server : String
deriving DecidableEq

/-- maxFps of the selected sensor mode (0 when unknown) and the rate the sensor accepted. -/
structure Sensor where
  maxFps : Nat
  fps : Nat
deriving DecidableEq

/-- bindDst is the destination rate of the last VPE->VENC bind. -/
structure State where
  config : Config
  sensor : Sensor
  outputEnabled : Bool
  storedFps : Nat
  bindDst : Nat
deriving DecidableEq

def idleFps : Nat := 5

def sensorFps (b : Backend) (sensor : Sensor) : Nat :=
  match b with
  | .star6e => if sensor.maxFps ≠ 0 then sensor.maxFps else sensor.fps
  | .maruko => sensor.fps

def accepted (fps : Nat) : Prop := ¬ (fps = 0 ∨ 120 < fps)

instance (fps : Nat) : Decidable (accepted fps) := inferInstanceAs (Decidable (¬ _))

variable (b : Backend)

/-- apply_fps of either backend, all SDK calls succeeding. -/
def applyFps (s : State) (fps : Nat) : Option State :=
  if accepted fps then
    some { s with bindDst := if sensorFps b s.sensor < fps then sensorFps b s.sensor else fps }
  else none

def restoredFps (s : State) : Nat := if s.storedFps ≠ 0 then s.storedFps else s.config.fps

/-- The Maruko backend ignores what its apply_fps returns. -/
def orIgnored (s : State) (r : Option State) : Option State :=
  match b with
  | .star6e => r
  | .maruko => some (r.getD s)

def applyOutputEnabled (s : State) (on : Bool) : Option State :=
  if on then
    if s.config.server = "" then none
    else
      let s := { s with outputEnabled := true }
      orIgnored b s (applyFps b s (restoredFps s))
  else
    let s := { s with outputEnabled := false, storedFps := s.config.fps }
    orIgnored b s (applyFps b s idleFps)

/-- Binding and finishing the pipeline for a configuration; storedFps is what
the last run of the pipeline left behind. -/
def bindPipeline (config : Config) (sensor : Sensor) (storedFps : Nat) : Option State :=
  match b with
  | .star6e =>
      if config.server = "" ∧ config.enabled then none
      else
        let src := sensorFps .star6e sensor
        let dst := if config.fps = 0 ∨ src < config.fps then src else config.fps
        let s : State := ⟨config, sensor, config.enabled, storedFps, dst⟩
        if config.enabled then some s
        else
          let s := { s with storedFps := config.fps }
          some ((applyFps .star6e s idleFps).getD s)
  | .maruko => some ⟨config, sensor, true, storedFps, sensor.fps⟩

def startup (config : Config) (sensor : Sensor) : Option State := bindPipeline b config sensor 0

def clampToMode (maxFps : Nat) (config : Config) : Config :=
  if 0 < maxFps ∧ maxFps < config.fps then { config with fps := maxFps } else config

/-- The sensor a reinit runs with: Star6E keeps it, Maruko selects it again. -/
def reinitSensor (s : State) (selected : Sensor) : Sensor :=
  match b with
  | .star6e => s.sensor
  | .maruko => selected

inductive Act
  | reinit (config : Config) (selected : Sensor)
  | setFps (fps : Nat)
  | setEnabled (on : Bool)

/-- A reinit or a live set that is answered 200; the new value is in the
configuration when the callback runs. -/
def step (s : State) : Act → Option State
  | .reinit config selected =>
      bindPipeline b (clampToMode s.sensor.maxFps config) (reinitSensor b s selected) s.storedFps
  | .setFps fps => applyFps b { s with config := { s.config with fps := fps } } fps
  | .setEnabled on => applyOutputEnabled b { s with config := { s.config with enabled := on } } on

/-- The rate the configuration and a state of the output ask for. -/
def wantedFps (s : State) (enabled : Bool) : Nat :=
  if enabled then min s.config.fps (sensorFps b s.sensor) else min idleFps (sensorFps b s.sensor)

/-- The bind runs at the wanted rate, whether enabled is read off the pipeline
or off the configuration. -/
def Rated (s : State) : Prop :=
  s.bindDst = wantedFps b s s.outputEnabled ∧ s.bindDst = wantedFps b s s.config.enabled

/-- Star6E takes a configured rate of 0 for the sensor's own; Maruko binds at the
sensor's rate with the output on, whatever the configuration says. -/
def startsRight (config : Config) (sensor : Sensor) : Prop :=
  match b with
  | .star6e => config.enabled = true → config.fps ≠ 0
  | .maruko => config.enabled = true ∧ sensor.fps ≤ config.fps

/-- The rate is changed only while the output is on (or to one that idles as
well), and the rate an enable restores is the configured one. -/
def Restores (s : State) : Act → Prop
  | .reinit config selected =>
      startsRight b (clampToMode s.sensor.maxFps config) (reinitSensor b s selected)
  | .setFps fps =>
      s.outputEnabled = true ∨ min fps (sensorFps b s.sensor) = min idleFps (sensorFps b s.sensor)
  | .setEnabled on => on = true →
      if accepted (restoredFps s) then
        min (restoredFps s) (sensorFps b s.sensor) = min s.config.fps (sensorFps b s.sensor)
      else s.outputEnabled = true

structure Inv (s : State) : Prop where
  flags : s.config.enabled = s.outputEnabled
  rate : s.bindDst = wantedFps b s s.outputEnabled

theorem clamp_eq_min (n m : Nat) : (if m < n then m else n) = min n m := by
  split_ifs <;> omega

theorem idle_accepted : accepted idleFps := by decide

theorem applyFps_some {s t : State} {fps : Nat} (h : applyFps b s fps = some t) :
    t = { s with bindDst := min fps (sensorFps b s.sensor) } := by
  rw [applyFps, clamp_eq_min] at h
  by_cases hacc : accepted fps
  · rw [if_pos hacc] at h
    exact (Option.some.inj h).symm
  · rw [if_neg hacc] at h
    cases h

theorem applyFps_idle (s : State) :
    applyFps b s idleFps = some { s with bindDst := min idleFps (sensorFps b s.sensor) } := by
  rw [applyFps, if_pos idle_accepted, clamp_eq_min]

theorem bindPipeline_inv {config : Config} {sensor : Sensor} {storedFps : Nat} {s : State}
    (hok : startsRight b config sensor) (h : bindPipeline b config sensor storedFps = some s) : Inv b s := by
  cases b with
  | star6e =>
      by_cases hserver : config.server = "" ∧ config.enabled = true
      · simp only [bindPipeline, if_pos hserver] at h
        cases h
      · cases henabled : config.enabled with
        | true =>
            have hfps : config.fps ≠ 0 := hok henabled
            simp only [bindPipeline, henabled, and_true, hfps, false_or, clamp_eq_min, if_true] at h
            split_ifs at h
            cases h
            exact ⟨henabled, by simp only [wantedFps, if_true]⟩
        | false =>
            simp only [bindPipeline, henabled, Bool.false_eq_true, and_false, if_false, applyFps_idle,
              Option.getD_some] at h
            cases h
            exact ⟨henabled, by simp only [wantedFps, Bool.false_eq_true, if_false]⟩
  | maruko =>
      cases h
      refine ⟨hok.1, ?_⟩
      simp only [wantedFps, if_true, sensorFps]
      exact (Nat.min_eq_right hok.2).symm

theorem setFps_inv {s t : State} {fps : Nat} (hi : Inv b s) (hok : Restores b s (.setFps fps))
    (h : step b s (.setFps fps) = some t) : Inv b t := by
  have ht := applyFps_some b h
  subst ht
  refine ⟨hi.flags, ?_⟩
  cases hon : s.outputEnabled with
  | true => simp only [wantedFps, if_true]
  | false =>
      simp only [Restores, hon, Bool.false_eq_true, false_or] at hok
      simp only [wantedFps, Bool.false_eq_true, if_false]
      exact hok

/-- What an enable leaves behind when it reports success. -/
theorem enable_some {s t : State} (h : step b s (.setEnabled true) = some t) :
    t.config = { s.config with enabled := true } ∧ t.sensor = s.sensor ∧ t.outputEnabled = true ∧
      t.bindDst = if accepted (restoredFps s) then min (restoredFps s) (sensorFps b s.sensor) else s.bindDst := by
  simp only [step, applyOutputEnabled, if_true] at h
  split_ifs at h
  have hrestored : restoredFps { s with config := { s.config with enabled := true }, outputEnabled := true } =
      restoredFps s := rfl
  rw [hrestored, applyFps, clamp_eq_min] at h
  by_cases hacc : accepted (restoredFps s)
  · rw [if_pos hacc] at h
    cases b with
    | star6e => cases h; exact ⟨rfl, rfl, rfl, (if_pos hacc).symm⟩
    | maruko => cases h; exact ⟨rfl, rfl, rfl, (if_pos hacc).symm⟩
  · rw [if_neg hacc] at h
    cases b with
    | star6e => cases h
    | maruko => cases h; exact ⟨rfl, rfl, rfl, (if_neg hacc).symm⟩

theorem disable_some {s t : State} (h : step b s (.setEnabled false) = some t) :
    t.config = { s.config with enabled := false } ∧ t.sensor = s.sensor ∧ t.outputEnabled = false ∧
      t.bindDst = min idleFps (sensorFps b s.sensor) := by
  simp only [step, applyOutputEnabled, Bool.false_eq_true, if_false, applyFps_idle] at h
  cases b <;> cases h <;> exact ⟨rfl, rfl, rfl, rfl⟩

theorem setEnabled_inv {s t : State} {on : Bool} (hi : Inv b s) (hok : Restores b s (.setEnabled on))
    (h : step b s (.setEnabled on) = some t) : Inv b t := by
  cases on with
  | true =>
      obtain ⟨hconfig, hsensor, hon, hdst⟩ := enable_some b h
      refine ⟨by rw [hconfig, hon], ?_⟩
      rw [wantedFps, hon, if_pos rfl, hdst, hconfig, hsensor]
      have hrest := hok rfl
      split_ifs at hrest ⊢ with hacc
      · exact hrest
      · rw [hi.rate, wantedFps, hrest, if_pos rfl]
  | false =>
      obtain ⟨hconfig, hsensor, hon, hdst⟩ := disable_some b h
      refine ⟨by rw [hconfig, hon], ?_⟩
      rw [wantedFps, hon, hdst, hsensor]
      rfl

theorem step_inv {s t : State} (a : Act) (hi : Inv b s) (hok : Restores b s a) (h : step b s a = some t) :
    Inv b t := by
  cases a with
  | reinit config selected => exact bindPipeline_inv b hok h
  | setFps fps => exact setFps_inv b hi hok h
  | setEnabled on => exact setEnabled_inv b hi hok h

/-- Started right, and with the rate changed only while the output is on, the
bind follows the configuration. -/
theorem rate_follows_config {config : Config} {sensor : Sensor} {s₀ s : State}
    (hstart : startup b config sensor = some s₀) (hright : startsRight b config sensor)
    (h : Path (step b) (Restores b) s₀ s) : Rated b s := by
  have hi : Inv b s := h.invariant (Inv b) (bindPipeline_inv b hright hstart)
    (fun _ a _ hi hok hs => step_inv b a hi hok hs)
  exact ⟨hi.rate, by rw [hi.flags]; exact hi.rate⟩

def streaming : Config := ⟨60, true, "udp://10.0.0.1:5600"⟩

def sensor90 : Sensor := ⟨90, 90⟩

def restores (s : State) : Act → Bool
  | .reinit _ _ => false
  | .setFps _ => s.outputEnabled
  | .setEnabled on => !on || decide (accepted (restoredFps s)) &&
      restoredFps s == s.config.fps

theorem restores_spec (s : State) (a : Act) (h : restores s a = true) : Restores b s a := by
  cases a with
  | reinit config selected => cases h
  | setFps fps => exact .inl h
  | setEnabled on =>
      intro hon
      subst hon
      simp only [restores, Bool.not_true, Bool.false_or, Bool.and_eq_true, decide_eq_true_eq, beq_iff_eq] at h
      rw [if_pos h.1, h.2]

def onOff : List Act := [.setFps 30, .setEnabled false, .setEnabled true, .setEnabled false]

theorem rate_follows_config_star6e :
    runIf (step .star6e) restores ⟨streaming, sensor90, true, 0, 60⟩ onOff =
        some ⟨⟨30, false, streaming.server⟩, sensor90, false, 30, 5⟩ ∧
      Rated .star6e ⟨⟨30, false, streaming.server⟩, sensor90, false, 30, 5⟩ := by
  have hstart : startup .star6e streaming sensor90 = some ⟨streaming, sensor90, true, 0, 60⟩ := by decide
  have hruns : runIf (step .star6e) restores ⟨streaming, sensor90, true, 0, 60⟩ onOff =
      some ⟨⟨30, false, streaming.server⟩, sensor90, false, 30, 5⟩ := by decide
  exact ⟨hruns, rate_follows_config .star6e hstart (fun _ => by decide)
    (path_of_runIf onOff (restores_spec .star6e) hruns)⟩

/-- A rate set while the output is off is bound at once, and the next enable
restores the rate from before; Maruko's start ignores the configured rate. -/
theorem rate_departs_from_config :
    (∃ s₀ s, startup .star6e streaming sensor90 = some s₀ ∧
      run (step .star6e) s₀ [.setEnabled false, .setFps 30] = some s ∧ ¬ Rated .star6e s) ∧
    (∃ s₀ s, startup .star6e streaming sensor90 = some s₀ ∧
      run (step .star6e) s₀ [.setEnabled false, .setEnabled true, .setFps 30, .setEnabled true] = some s ∧
      ¬ Rated .star6e s) ∧
    ∃ s₀, startup .maruko streaming sensor90 = some s₀ ∧ ¬ Rated .maruko s₀ := by
  have hstart : startup .star6e streaming sensor90 = some ⟨streaming, sensor90, true, 0, 60⟩ := by decide
  refine ⟨⟨_, ⟨⟨30, false, streaming.server⟩, sensor90, false, 60, 30⟩, hstart, by decide, ?_⟩,
    ⟨_, ⟨⟨30, true, streaming.server⟩, sensor90, true, 60, 60⟩, hstart, by decide, ?_⟩,
    ⟨⟨streaming, sensor90, true, 0, 90⟩, by decide, ?_⟩⟩
  · exact fun h => absurd h.1 (by decide)
  · exact fun h => absurd h.1 (by decide)
  · exact fun h => absurd h.1 (by decide)

end WaybeamVenc.LiveFps
