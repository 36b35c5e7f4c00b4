import Mathlib.Tactic.Common
import WaybeamVenc.CNumber
import WaybeamVenc.Runs

namespace WaybeamVenc.RecordControl

open CNumber Runs

/-- What a char array of 256 bytes holds: the handler's dir, the shared buffer
and the loop's own. -/
abbrev Dir := { s : CString // s.length ≤ 255 }

def recorderDefaultDir : Dir := ⟨"/mnt/mmcblk0p1".toList, by decide⟩

inductive RecordAction
  | start (dir : Dir)
  | stop
deriving DecidableEq

/-- What has happened: a request, a start request taken by the loop, and what
the loop did to the recorders. -/
inductive Event
  | requested (a : RecordAction)
  | taken
  | executed (a : RecordAction)
deriving DecidableEq

/-- The loop between two iterations, with a start to execute, behind the start,
and with a stop to execute. -/
inductive MainPc
  | between
  | starting (recDir : Dir)
  | polled
  | stopping
deriving DecidableEq

/-- The log has the newest event first. -/
structure State where
  startPending : Bool
  stopPending : Bool
  startDir : Dir
  main : MainPc
  log : List Event
deriving DecidableEq

def initial : State := ⟨false, false, ⟨[], by decide⟩, .between, []⟩

def requestRecordStart (s : State) (dir : Option Dir) : State :=
  { s with
    startDir := clip 255 (dir.getD recorderDefaultDir).1
    startPending := true
    stopPending := false
    log := .requested (.start (dir.getD recorderDefaultDir)) :: s.log }

def requestRecordStop (s : State) : State :=
  { s with stopPending := true, startPending := false, log := .requested .stop :: s.log }

def getRecordStart (s : State) : State × Option Dir :=
  ({ s with startPending := false }, if s.startPending then some (clip 255 s.startDir.1) else none)

def getRecordStop (s : State) : State × Bool := ({ s with stopPending := false }, s.stopPending)

def mainStep (s : State) : State :=
  match s.main with
  | .between =>
    match getRecordStart s with
    | (s, some recDir) => { s with main := .starting recDir, log := .taken :: s.log }
    | (s, none) => { s with main := .polled }
  | .starting recDir => { s with main := .polled, log := .executed (.start recDir) :: s.log }
  | .polled =>
    match getRecordStop s with
    | (s, true) => { s with main := .stopping }
    | (s, false) => { s with main := .between }
  | .stopping => { s with main := .between, log := .executed .stop :: s.log }

inductive Act
  | requestStart (dir : Option Dir)
  | requestStop
  | main

def step (s : State) : Act → Option State
  | .requestStart dir => some (requestRecordStart s dir)
  | .requestStop => some (requestRecordStop s)
  | .main => some (mainStep s)

/-! Reading the log. -/

def Event.request? : Event → Option RecordAction
  | .requested a => some a
  | _ => none

def Event.execution? : Event → Option RecordAction
  | .executed a => some a
  | _ => none

def Event.startRequest? : Event → Option Dir
  | .requested (.start dir) => some dir
  | _ => none

def lastRequest (log : List Event) : Option RecordAction := log.findSome? Event.request?

def lastExecuted (log : List Event) : Option RecordAction := log.findSome? Event.execution?

def latestStart (log : List Event) : Option Dir := log.findSome? Event.startRequest?

/-- The newest event but requests took a start request, and the latest one
before it was for this directory. -/
def TookStart (log : List Event) (dir : Dir) : Prop :=
  ∃ mid early, log = mid ++ .taken :: early ∧ (∀ e ∈ mid, e.request?.isSome) ∧ latestStart early = some dir

/-- Every start ran with the directory of the latest request before it was taken. -/
def StartsRight (log : List Event) : Prop :=
  ∀ late dir before, log = late ++ .executed (.start dir) :: before → TookStart before dir

def underWay (s : State) : Option RecordAction :=
  match s.main with
  | .between | .polled => lastExecuted s.log
  | .starting dir => some (.start dir)
  | .stopping => some .stop

structure Inv (s : State) : Prop where
  exclusive : ¬(s.startPending = true ∧ s.stopPending = true)
  starts : StartsRight s.log
  start : s.startPending = true → lastRequest s.log = some (.start s.startDir)
  stop : s.stopPending = true → lastRequest s.log = some .stop
  settled : s.startPending = false → s.stopPending = false → underWay s = lastRequest s.log
  taken : ∀ dir, s.main = .starting dir → TookStart s.log dir

theorem latestStart_of_lastRequest {log : List Event} {dir : Dir} (h : lastRequest log = some (.start dir)) :
    latestStart log = some dir := by
  induction log with
  | nil => cases h
  | cons e log ih =>
      cases e with
      | requested a =>
          cases h
          rfl
      | taken => exact ih h
      | executed a => exact ih h

theorem TookStart.requested {log : List Event} {dir : Dir} (h : TookStart log dir) (a : RecordAction) :
    TookStart (.requested a :: log) dir := by
  obtain ⟨mid, early, rfl, hmid, hearly⟩ := h
  refine ⟨.requested a :: mid, early, rfl, ?_, hearly⟩
  intro e he
  cases he with
  | head => rfl
  | tail _ he => exact hmid e he

theorem StartsRight.cons {log : List Event} {e : Event} (h : StartsRight log)
    (he : ∀ dir, e = .executed (.start dir) → TookStart log dir) : StartsRight (e :: log) := by
  intro late dir before hlog
  cases late with
  | nil =>
      rw [List.nil_append, List.cons.injEq] at hlog
      obtain ⟨rfl, rfl⟩ := hlog
      exact he dir rfl
  | cons e' late =>
      rw [List.cons_append, List.cons.injEq] at hlog
      exact h late dir before hlog.2

theorem initial_inv : Inv initial where
  exclusive h := by cases h.1
  starts late dir before h := by cases late <;> cases h
  start h := by cases h
  stop h := by cases h
  settled _ _ := rfl
  taken dir h := by cases h

variable {s : State}

theorem requestRecordStart_inv (hi : Inv s) (dir : Option Dir) : Inv (requestRecordStart s dir) where
  exclusive h := by cases h.2
  starts := hi.starts.cons fun dir h => by cases h
  start _ := by
    rw [requestRecordStart, clip_of_le (dir.getD recorderDefaultDir).2]
    rfl
  stop h := by cases h
  settled h := by cases h
  taken dir h := (hi.taken dir h).requested _

theorem requestRecordStop_inv (hi : Inv s) : Inv (requestRecordStop s) where
  exclusive h := by cases h.1
  starts := hi.starts.cons fun dir h => by cases h
  start h := by cases h
  stop _ := rfl
  settled _ h := by cases h
  taken dir h := (hi.taken dir h).requested _

/-- A start request is taken with its own directory, and nothing is pending then. -/
theorem taken_inv {startDir : Dir} {log : List Event} (hi : Inv ⟨true, s.stopPending, startDir, .between, log⟩) :
    Inv ⟨false, s.stopPending, startDir, .starting (clip 255 startDir.1), .taken :: log⟩ where
  exclusive h := by cases h.1
  starts := hi.starts.cons fun dir h => by cases h
  start h := by cases h
  stop h := absurd ⟨rfl, h⟩ hi.exclusive
  settled _ _ := by
    rw [clip_of_le startDir.2]
    exact (hi.start rfl).symm
  taken dir h := by
    rw [clip_of_le startDir.2, MainPc.starting.injEq] at h
    subst h
    exact ⟨[], log, rfl, List.forall_mem_nil _, latestStart_of_lastRequest (hi.start rfl)⟩

theorem started_inv {recDir : Dir} (hi : Inv s) (hm : s.main = .starting recDir) :
    Inv { s with main := .polled, log := .executed (.start recDir) :: s.log } where
  exclusive := hi.exclusive
  starts := by
    apply hi.starts.cons
    intro dir h
    cases h
    exact hi.taken recDir hm
  start := hi.start
  stop := hi.stop
  settled hstart hstop := by
    have hunder := hi.settled hstart hstop
    rw [underWay, hm] at hunder
    exact hunder
  taken dir h := by cases h

theorem stopped_inv (hi : Inv s) (hm : s.main = .stopping) :
    Inv { s with main := .between, log := .executed .stop :: s.log } where
  exclusive := hi.exclusive
  starts := hi.starts.cons fun dir h => by cases h
  start := hi.start
  stop := hi.stop
  settled hstart hstop := by
    have hunder := hi.settled hstart hstop
    rw [underWay, hm] at hunder
    exact hunder
  taken dir h := by cases h

theorem mainStep_inv (hi : Inv s) : Inv (mainStep s) := by
  obtain ⟨startPending, stopPending, startDir, main, log⟩ := s
  cases main with
  | between =>
      cases startPending with
      | true => exact taken_inv (s := ⟨true, stopPending, startDir, .between, log⟩) hi
      | false => exact ⟨hi.exclusive, hi.starts, hi.start, hi.stop, hi.settled, fun dir h => by cases h⟩
  | starting recDir => exact started_inv hi rfl
  | polled =>
      cases stopPending with
      | true =>
          refine ⟨fun h => ?_, hi.starts, hi.start, fun h => ?_, fun _ _ => ?_, fun dir h => ?_⟩
          · cases h.2
          · cases h
          · exact (hi.stop rfl).symm
          · cases h
      | false => exact ⟨hi.exclusive, hi.starts, hi.start, hi.stop, hi.settled, fun dir h => by cases h⟩
  | stopping => exact stopped_inv hi rfl

theorem step_inv (s : State) (a : Act) (t : State) (hi : Inv s) (h : step s a = some t) : Inv t := by
  cases a with
  | requestStart dir =>
      cases h
      exact requestRecordStart_inv hi dir
  | requestStop =>
      cases h
      exact requestRecordStop_inv hi
  | main =>
      cases h
      exact mainStep_inv hi

/-- Whatever order the requests and the loop's steps come in: the two flags
exclude each other, a start runs with the directory of the latest request before
it was taken, and between two iterations with nothing pending the last thing done
to the recorders is what was last asked for. -/
theorem last_request_wins {s : State} (h : Reaches step initial s) :
    ¬(s.startPending = true ∧ s.stopPending = true) ∧ StartsRight s.log ∧
      (s.main = .between → s.startPending = false → s.stopPending = false →
        lastExecuted s.log = lastRequest s.log) := by
  have hi : Inv s := h.invariant Inv initial_inv fun s a t hi _ hs => step_inv s a t hi hs
  refine ⟨hi.exclusive, hi.starts, ?_⟩
  intro hm hstart hstop
  have hunder := hi.settled hstart hstop
  rwa [underWay, hm] at hunder

def sdCard : Dir := ⟨"/mnt/sd".toList, by decide⟩

/-- A stop and a new start come while the first start is executed. -/
def overtaken : List Act :=
  [.requestStart none, .main, .requestStop, .requestStart (some sdCard), .main, .main, .main, .main, .main]

theorem last_request_wins_overtaken :
    ∃ s, run step initial overtaken = some s ∧ s.main = .between ∧ lastExecuted s.log = some (.start sdCard) ∧
      lastExecuted s.log = lastRequest s.log := by
  refine ⟨_, rfl, rfl, rfl, ?_⟩
  exact (last_request_wins (reaches_of_run overtaken rfl)).2.2 rfl rfl rfl

end WaybeamVenc.RecordControl
