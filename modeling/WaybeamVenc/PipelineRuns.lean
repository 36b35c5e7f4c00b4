import WaybeamVenc.PipelinePhy
import WaybeamVenc.PipelineSteps

namespace WaybeamVenc.PipelineRuns

open PipelineLifecycle PipelinePhy PipelineSteps Runs Staged

structure State where
  pipe : Pipe
  started : Bool
deriving DecidableEq

inductive Event
  | run (board : Board) (cfg : Config)
  | restart (board : Board) (cfg : Config)
  | restartUnloaded (board : Board)
  | shutdown (board : Board)

def Event.board : Event → Board
  | .run board _ | .restart board _ | .restartUnloaded board | .shutdown board => board

/-- A restart that fails ends the process with pipeline_started cleared, and
star6e_runner_teardown then stops nothing; a configuration that does not load
ends it with the pipeline up. -/
def step (s : State) : Event → Option State
  | .run board cfg =>
      if s.started then none
      else
        match star6ePipelineStart board cfg s.pipe with
        | (true, p) => some ⟨applyStartupControls board cfg p, true⟩
        | (false, p) => some ⟨p, false⟩
  | .restart board cfg =>
      if s.started then
        match star6ePipelineReinit board cfg s.pipe with
        | (true, p) => some ⟨p, true⟩
        | (false, p) => some ⟨p, false⟩
      else none
  | .restartUnloaded board | .shutdown board =>
      if s.started then some ⟨star6ePipelineStop board s.pipe, false⟩ else none

def boot (hw : Hardware) : State :=
  ⟨⟨hw, false, false, none, false, false, false, ⟨⟨0, 0, 0, 0⟩, ⟨0, 0⟩⟩, 0, 0, 0, true⟩, false⟩

/-- Of this event, the calls that take down do what they say. -/
def Obeyed (_ : State) (e : Event) : Prop := e.board.Obeys

instance (s : State) (e : Event) : Decidable (Obeyed s e) :=
  inferInstanceAs (Decidable (∀ c ∈ teardowns, e.board.fails c = false))

structure Wellformed (s : State) : Prop where
  sound : s.pipe.sound = true
  up : s.started = true → Up s.pipe
  atRest : s.started = false → AtRest s.pipe.hw

theorem stop_wellformed {s : State} {board : Board} (hobeys : board.Obeys) (h : Wellformed s) (hs : s.started = true) :
    Wellformed ⟨star6ePipelineStop board s.pipe, false⟩ := by
  rw [star6ePipelineStop_eq hobeys (h.up hs)]
  exact ⟨h.sound, nofun, fun _ => ⟨fun _ => rfl, rfl, rfl, rfl⟩⟩

theorem run_wellformed {s t : State} {board : Board} {cfg : Config} (hobeys : board.Obeys) (h : Wellformed s)
    (hstep : step s (.run board cfg) = some t) : Wellformed t := by
  simp only [step] at hstep
  split at hstep
  case isTrue => cases hstep
  case isFalse hs =>
    have hrest := h.atRest (by simpa using hs)
    rcases @star6ePipelineStart_ends board cfg s.pipe hobeys hrest s.pipe rfl with
      ⟨q, hq, hup, hdual, hsound⟩ | ⟨q, hq, hrest', hsound⟩
    · rw [hq] at hstep
      cases hstep
      obtain ⟨hup', hsound'⟩ := applyStartupControls_up hobeys cfg hup hdual
      exact ⟨hsound'.trans (hsound.trans h.sound), fun _ => hup', nofun⟩
    · rw [hq] at hstep
      cases hstep
      exact ⟨hsound.trans h.sound, nofun, fun _ => hrest'⟩

theorem restart_cases {s t : State} {board : Board} {cfg : Config} (hobeys : board.Obeys) (h : Wellformed s)
    (hstep : step s (.restart board cfg) = some t) :
    s.started = true ∧ (t.started = true ∧ Started s.pipe t.pipe ∨ t.started = false ∧ Down s.pipe t.pipe) := by
  simp only [step] at hstep
  split at hstep
  case isFalse => cases hstep
  case isTrue hs =>
    refine ⟨hs, ?_⟩
    rcases @star6ePipelineReinit_ends board cfg s.pipe hobeys (h.up hs) s.pipe rfl with
      ⟨q, hq, hstarted⟩ | ⟨q, hq, hdown⟩
    · rw [hq] at hstep
      cases hstep
      exact .inl ⟨rfl, hstarted⟩
    · rw [hq] at hstep
      cases hstep
      exact .inr ⟨rfl, hdown⟩

theorem step_wellformed {s t : State} {e : Event} (h : Wellformed s) (hobeys : Obeyed s e) (hstep : step s e = some t) :
    Wellformed t := by
  cases e with
  | run board cfg => exact run_wellformed hobeys h hstep
  | restart board cfg =>
      obtain ⟨-, ⟨ht, hstarted⟩ | ⟨ht, hrest, hsound⟩⟩ := restart_cases hobeys h hstep
      · exact ⟨hstarted.sound.trans h.sound, fun _ => hstarted.up, fun hf => by simp [ht] at hf⟩
      · exact ⟨hsound.trans h.sound, fun hs => by simp [ht] at hs, fun _ => hrest⟩
  | _ =>
      simp only [step] at hstep
      split at hstep
      case isFalse => cases hstep
      case isTrue hs =>
        cases hstep
        exact stop_wellformed hobeys h hs

theorem reached_wellformed {hw : Hardware} (hrest : AtRest hw) {s : State} (h : Path step Obeyed (boot hw) s) :
    Wellformed s :=
  Path.invariant Wellformed ⟨rfl, fun hs => by simp [boot] at hs, fun _ => hrest⟩
    (fun _ _ _ hs hobeys hstep => step_wellformed hs hobeys hstep) h

theorem shutdown_off {s t : State} {board : Board} {e : Event} (h : Wellformed s) (hobeys : board.Obeys)
    (he : e = .shutdown board ∨ e = .restartUnloaded board) (hstep : step s e = some t) : t.pipe.hw = Hardware.off := by
  rcases he with rfl | rfl
  all_goals
    simp only [step] at hstep
    split at hstep
    case isFalse => cases hstep
    case isTrue hs =>
      cases hstep
      rw [star6ePipelineStop_eq hobeys (h.up hs)]

/-- Whatever fails but the calls that take down: no call meets what it must not
meet, a process that is running has everything up, one that has ended leaves what
the next can begin with, and one that is shut down leaves nothing. -/
theorem lifecycle {hw : Hardware} (hrest : AtRest hw) {s : State} (h : Path step Obeyed (boot hw) s) :
    s.pipe.sound = true ∧ (s.started = true → Up s.pipe) ∧ (s.started = false → AtRest s.pipe.hw) ∧
      ∀ board e t, board.Obeys → e = .shutdown board ∨ e = .restartUnloaded board → step s e = some t →
        t.pipe.hw = Hardware.off := by
  have hs := reached_wellformed hrest h
  exact ⟨hs.sound, hs.up, hs.atRest, fun _ _ _ hobeys he hstep => shutdown_off hs hobeys he hstep⟩

/-- What a crash of a running process leaves. -/
def crashed : Hardware :=
  { Hardware.off with sensor := true, vif := .on, vpe := .on, venc0 := .on, links := ⟨true, true, false⟩ }

def working : Board := ⟨fun c => c = .imuThreadCreate, false, ⟨⟨0, 0, 1920, 1080⟩, ⟨1920, 1080⟩⟩⟩

def dualConfig (width height : UInt32) : Config :=
  ⟨true, ⟨width, height⟩, false, true, true, false, true, true, true⟩

def trial : List Event :=
  [.run working (dualConfig 1920 1080), .restart working (dualConfig 1440 1080), .restartUnloaded working]

theorem crashed_atRest : AtRest crashed := ⟨nofun, rfl, rfl, rfl⟩

theorem lifecycle_after_crash :
    ∃ s, runIf step (fun s e => decide (Obeyed s e)) (boot crashed) trial = some s ∧ s.started = false ∧
      s.pipe.sound = true ∧ AtRest s.pipe.hw := by
  have hrun : (runIf step (fun s e => decide (Obeyed s e)) (boot crashed) trial).isSome = true := by decide
  obtain ⟨s, hs⟩ := Option.isSome_iff_exists.mp hrun
  have hlife := lifecycle crashed_atRest (path_of_runIf trial (fun _ _ => of_decide_eq_true) hs)
  have hstarted : (runIf step (fun s e => decide (Obeyed s e)) (boot crashed) trial).all (!·.started) = true := by decide
  have hended : s.started = false := by simpa [hs] using hstarted
  exact ⟨s, hs, hended, hlife.1, hlife.2.2.1 hended⟩

def reinitOnly (_ : State) (e : Event) : Prop := ∃ board cfg, e = .restart board cfg

theorem run_on {s t : State} {board : Board} {cfg : Config} (hstep : step s (.run board cfg) = some t)
    (ht : t.started = true) : On (fun _ => True) t.pipe := by
  simp only [step] at hstep
  split at hstep
  case isTrue => cases hstep
  case isFalse =>
    rcases @star6ePipelineStart_on board cfg s.pipe trivial with ⟨q, hq, hon⟩ | ⟨q, hq, -⟩
    · rw [hq] at hstep
      cases hstep
      exact applyStartupControls_on hon
    · rw [hq] at hstep
      cases hstep
      cases ht

theorem restart_on {P : Nat → Prop} {s t : State} {board : Board} {cfg : Config} (h : s.started = true → On P s.pipe)
    (hstep : step s (.restart board cfg) = some t) (ht : t.started = true) : On P t.pipe := by
  simp only [step] at hstep
  split at hstep
  case isFalse => cases hstep
  case isTrue hs =>
    rcases @star6ePipelineReinit_keeps P board cfg s.pipe (h hs) with ⟨q, hq, hon⟩ | ⟨q, hq, -⟩
    · rw [hq] at hstep
      cases hstep
      exact hon
    · rw [hq] at hstep
      cases hstep
      cases ht

theorem reached_on {hw : Hardware} {s : State} (h : Reaches step (boot hw) s) (hs : s.started = true) :
    On (fun _ => True) s.pipe := by
  refine Path.invariant (fun s => s.started = true → On (fun _ => True) s.pipe) (fun hs => by cases hs) ?_ h hs
  intro s e t hon _ hstep ht
  cases e with
  | run board cfg => exact run_on hstep ht
  | restart board cfg => exact restart_on hon hstep ht
  | _ =>
      simp only [step] at hstep
      split at hstep
      case isFalse => cases hstep
      case isTrue =>
        cases hstep
        cases ht

/-- The PHY does not recover from a disabled sensor, and no restart disables it,
whatever its calls return. -/
theorem restarts_keep_phy {hw : Hardware} {s t : State} (h : Reaches step (boot hw) s)
    (hpath : Path step reinitOnly s t) (ht : t.started = true) :
    t.pipe.phyCycles = s.pipe.phyCycles ∧ t.pipe.hw.sensor = true ∧ t.pipe.hw.vif = .on := by
  have hon : On (· = s.pipe.phyCycles) t.pipe := by
    refine Path.invariant (fun u => u.started = true → On (· = s.pipe.phyCycles) u.pipe) (fun hs => ?_) ?_ hpath ht
    · obtain ⟨hsensor, hvif, -⟩ := reached_on h hs
      exact ⟨hsensor, hvif, rfl⟩
    · rintro u _ v hu ⟨board, cfg, rfl⟩ hstep hv
      exact restart_on hu hstep hv
  exact ⟨hon.2.2, hon.1, hon.2.1⟩

theorem restarts_keep_phy_once :
    ∃ s t, run step (boot crashed) [.run working (dualConfig 1920 1080)] = some s ∧
      step s (.restart working (dualConfig 1440 1080)) = some t ∧ t.pipe.phyCycles = s.pipe.phyCycles := by
  have hrun : ((run step (boot crashed) [.run working (dualConfig 1920 1080)]).bind
      fun s => step s (.restart working (dualConfig 1440 1080))).any (·.started) = true := by decide
  cases hs : run step (boot crashed) [.run working (dualConfig 1920 1080)] with
  | none => simp [hs] at hrun
  | some s =>
      cases ht : step s (.restart working (dualConfig 1440 1080)) with
      | none => simp [hs, ht] at hrun
      | some t =>
          have hstarted : t.started = true := by simpa [hs, ht] using hrun
          exact ⟨s, t, rfl, ht, (restarts_keep_phy (reaches_of_run _ hs) (.next _ .refl ⟨_, _, rfl⟩ ht) hstarted).1⟩

end WaybeamVenc.PipelineRuns
