import WaybeamVenc.Runs
import Mathlib.Tactic.SplitIfs

namespace WaybeamVenc.RecorderOwnership

open Runs

/-- A file, socket or mapped ring; never handed out twice. -/
abbrev Handle := Nat

/-- The next step of dual_rec_thread_fn, down through write_stream, write_video,
check_rotation and stop_with_reason, or through star6e_video_send_frame. -/
inductive RecPc
  | notStarted
  | top
  | gate
  | entry
  | video
  | disk
  | rotation
  | rotateClose
  | rotateClear
  | openSegment
  | loadPatPmt
  | writePatPmt (fd : Option Handle)
  | segmentClose
  | segmentClear
  | loadFd
  | writeTs (fd : Option Handle)
  | stopCheck
  | stopClose
  | stopClear
  | sendRing
  | sendSocket
  | sendPacket (h : Handle)
  | exited
deriving DecidableEq

inductive Teardown
  | reinit
  | shutdown
deriving DecidableEq

/-- The main loop, or where it is in star6e_ts_recorder_stop and in one of the
two functions that stop the pipeline. -/
inductive MainPc
  | loop
  | stopCheck (q : Teardown)
  | stopClose (q : Teardown)
  | stopClear (q : Teardown)
  | loadConfig
  | destroyRing (q : Teardown)
  | clearRing (q : Teardown)
  | closeSocket (q : Teardown)
  | clearSocket (q : Teardown)
  | stopThread (q : Teardown)
  | join (q : Teardown)
  | rebuild
  | halted
deriving DecidableEq

/-- fd is ts_recorder's; ring and socket are those of d->output. -/
structure State where
  openHandles : List Handle
  nextHandle : Handle
  fd : Option Handle
  running : Bool
  dual : Bool
  isDualStream : Bool
  ring : Option Handle
  socket : Option Handle
  recStarted : Bool
  recRunning : Bool
  recorder : RecPc
  main : MainPc

inductive Outcome
  | yes
  | no
  | again
deriving DecidableEq

inductive Act
  | recorder (c : Outcome)
  | reinit
  | shutdown
  | main (ok : Bool)
  | signal

def closeHandle (openHandles : List Handle) : Option Handle → List Handle
  | some h => openHandles.filter (· ≠ h)
  | none => openHandles

def recorderStep (s : State) (c : Outcome) : Option State :=
  match s.recorder with
  | .notStarted | .exited => none
  | .top =>
      if s.recRunning then some { s with recorder := if c = .yes then .gate else .top }
      else some { s with recorder := .exited }
  | .gate =>
      if s.running then some { s with recorder := if s.isDualStream then .sendRing else .entry }
      else some { s with recorder := .top }
  | .entry => some { s with recorder := if s.fd.isSome ∧ c = .yes then .video else .top }
  | .video => some { s with recorder := if s.fd.isSome then .disk else .top }
  | .disk => some { s with recorder := if c = .yes then .rotation else .stopCheck }
  | .rotation => some { s with recorder := if c = .yes then .rotateClose else .loadFd }
  | .rotateClose =>
      some { s with openHandles := closeHandle s.openHandles s.fd, recorder := .rotateClear }
  | .rotateClear => some { s with fd := none, recorder := .openSegment }
  | .openSegment =>
      if c = .yes then
        some { s with
          openHandles := s.nextHandle :: s.openHandles
          nextHandle := s.nextHandle + 1
          fd := some s.nextHandle
          recorder := .loadPatPmt }
      else some { s with fd := none, recorder := .top }
  | .loadPatPmt => some { s with recorder := .writePatPmt s.fd }
  | .writePatPmt fd => match c with
    | .yes => some { s with recorder := .loadFd }
    | .again => some { s with recorder := .writePatPmt fd }
    | .no => some { s with recorder := .segmentClose }
  | .segmentClose =>
      some { s with openHandles := closeHandle s.openHandles s.fd, recorder := .segmentClear }
  | .segmentClear => some { s with fd := none, recorder := .top }
  | .loadFd => some { s with recorder := .writeTs s.fd }
  | .writeTs fd => match c with
    | .yes => some { s with recorder := .top }
    | .again => some { s with recorder := .writeTs fd }
    | .no => some { s with recorder := .stopCheck }
  | .stopCheck => some { s with recorder := if s.fd.isSome then .stopClose else .top }
  | .stopClose =>
      some { s with openHandles := closeHandle s.openHandles s.fd, recorder := .stopClear }
  | .stopClear => some { s with fd := none, recorder := .top }
  | .sendRing => match s.ring with
    | some r => some { s with recorder := .sendPacket r }
    | none => some { s with recorder := .sendSocket }
  | .sendSocket => match s.socket with
    | some h => some { s with recorder := .sendPacket h }
    | none => some { s with recorder := if c = .again then .sendRing else .top }
  | .sendPacket _ => some { s with recorder := if c = .again then .sendRing else .top }

def afterStop : Teardown → MainPc
  | .reinit => .loadConfig
  | .shutdown => .halted

def afterJoin : Teardown → MainPc
  | .reinit => .rebuild
  | .shutdown => .stopCheck .shutdown

def mainStep (s : State) (ok : Bool) : Option State :=
  match s.main with
  | .loop | .halted => none
  | .stopCheck q => some { s with main := if s.fd.isSome then .stopClose q else afterStop q }
  | .stopClose q => some { s with openHandles := closeHandle s.openHandles s.fd, main := .stopClear q }
  | .stopClear q => some { s with fd := none, main := afterStop q }
  | .loadConfig => some { s with main := if ok then .destroyRing .reinit else .destroyRing .shutdown }
  | .destroyRing q =>
      if s.dual then
        match s.ring with
        | some r => some { s with openHandles := closeHandle s.openHandles (some r), main := .clearRing q }
        | none => some { s with main := .closeSocket q }
      else some { s with main := afterJoin q }
  | .clearRing q => some { s with ring := none, main := .closeSocket q }
  | .closeSocket q => match s.socket with
    | some h => some { s with openHandles := closeHandle s.openHandles (some h), main := .clearSocket q }
    | none => some { s with main := .stopThread q }
  | .clearSocket q => some { s with socket := none, main := .stopThread q }
  | .stopThread q =>
      if s.recStarted then some { s with recRunning := false, main := .join q }
      else some { s with dual := false, main := afterJoin q }
  | .join q => match s.recorder with
    | .exited => some { s with recStarted := false, dual := false, main := afterJoin q }
    | _ => none
  | .rebuild => some { s with main := if ok then .loop else .stopCheck .shutdown }

def step (s : State) : Act → Option State
  | .recorder c => recorderStep s c
  | .reinit => match s.main with
    | .loop => some { s with main := .stopCheck .reinit }
    | _ => none
  | .shutdown => match s.main with
    | .loop => some { s with main := .destroyRing .shutdown }
    | _ => none
  | .main ok => mainStep s ok
  | .signal => some { s with running := false }

def writesTo : RecPc → Option Handle
  | .writePatPmt fd | .writeTs fd => fd
  | .sendPacket h => some h
  | _ => none

/-- A step respects the thread's ownership: while it is started and not joined
no other thread touches its fd and its output, and it writes to open handles only. -/
def Respects (s : State) (a : Act) (t : State) : Prop :=
  match a with
  | .recorder _ => ∀ h, writesTo s.recorder = some h → h ∈ s.openHandles
  | _ => s.recStarted = true →
      t.fd = s.fd ∧ t.ring = s.ring ∧ t.socket = s.socket ∧ t.openHandles = s.openHandles

/-- Nothing is open that the main thread would release before the join. -/
def NothingToRelease (s : State) : Act → Prop
  | .main _ => s.recStarted = true → match s.main with
    | .stopCheck _ => s.fd = none
    | .destroyRing _ => s.ring = none
    | .closeSocket _ => s.socket = none
    | _ => True
  | _ => True

/-- The state that the start of the pipeline leaves: the recording thread runs
or was not started, and what it is to use is open. -/
structure Started (s : State) : Prop where
  main : s.main = .loop
  recorder : s.recorder = if s.recStarted then .top else .notStarted
  dual : s.recStarted = true → s.dual = true
  fd : ∀ h, s.fd = some h → h ∈ s.openHandles
  output : s.isDualStream = true → ∀ h, s.ring = some h ∨ s.socket = some h → h ∈ s.openHandles

/-- Where the thread has closed its fd and not yet cleared it. -/
def clearing : RecPc → Bool
  | .rotateClear | .segmentClear | .stopClear => true
  | _ => false

/-- The part of the program a thread of the given mode can be in. -/
def inMode (isDualStream : Bool) : RecPc → Bool
  | .top | .gate | .exited => true
  | .sendRing | .sendSocket | .sendPacket _ => isDualStream
  | .notStarted => false
  | _ => !isDualStream

/-- Where the main thread has begun to release something. -/
def releasing : MainPc → Bool
  | .stopClose _ | .stopClear _ | .clearRing _ | .clearSocket _ => true
  | _ => false

structure Owns (s : State) : Prop where
  mode : inMode s.isDualStream s.recorder = true
  main : releasing s.main = false
  writes : ∀ h, writesTo s.recorder = some h → h ∈ s.openHandles
  fd : s.isDualStream = false → clearing s.recorder = false → ∀ h, s.fd = some h → h ∈ s.openHandles
  output : s.isDualStream = true → ∀ h, s.ring = some h ∨ s.socket = some h → h ∈ s.openHandles

def Inv (s : State) : Prop :=
  if s.recStarted then Owns s else s.recorder = .notStarted ∨ s.recorder = .exited

theorem Started.inv {s : State} (h : Started s) : Inv s := by
  have hr := h.recorder
  cases hs : s.recStarted with
  | true =>
      rw [hs, if_pos rfl] at hr
      rw [Inv, hs, if_pos rfl]
      exact ⟨by rw [hr]; rfl, by rw [h.main]; rfl, by rw [hr]; nofun, fun _ _ => h.fd, h.output⟩
  | false =>
      rw [hs] at hr
      rw [Inv, hs]
      exact .inl hr

theorem Owns.goto {s : State} {pc : RecPc} (h : Owns s) (hmode : inMode s.isDualStream pc = true)
    (hclear : clearing s.recorder = false) (hw : ∀ x, writesTo pc = some x → x ∈ s.openHandles) :
    Owns { s with recorder := pc } :=
  ⟨hmode, h.main, hw, fun hd _ => h.fd hd hclear, h.output⟩

theorem Owns.close {s : State} {pc : RecPc} (h : Owns s) (hmode : s.isDualStream = false)
    (hpc : inMode false pc = true) (hclear : clearing pc = true) (hw : writesTo pc = none) :
    Owns { s with openHandles := closeHandle s.openHandles s.fd, recorder := pc } := by
  refine ⟨by rw [hmode]; exact hpc, h.main, fun x hx => ?_, fun _ hc => ?_, fun hd => ?_⟩
  · rw [hw] at hx; cases hx
  · rw [hclear] at hc; cases hc
  · rw [hmode] at hd; cases hd

theorem Owns.clear {s : State} {pc : RecPc} (h : Owns s) (hmode : inMode s.isDualStream pc = true)
    (hw : writesTo pc = none) : Owns { s with fd := none, recorder := pc } := by
  refine ⟨hmode, h.main, fun x hx => ?_, fun _ _ x hx => ?_, h.output⟩
  · rw [hw] at hx; cases hx
  · cases hx

theorem Owns.opened {s : State} (h : Owns s) (hmode : s.isDualStream = false) :
    Owns { s with
      openHandles := s.nextHandle :: s.openHandles
      nextHandle := s.nextHandle + 1
      fd := some s.nextHandle
      recorder := .loadPatPmt } := by
  refine ⟨by rw [hmode]; rfl, h.main, nofun, fun _ _ x hx => ?_, fun hd => ?_⟩
  · cases hx; exact List.mem_cons_self
  · rw [hmode] at hd; cases hd

theorem recorderStep_owns {s t : State} {c : Outcome} (h : Owns s) (hs : recorderStep s c = some t) :
    Owns t := by
  have hmode := h.mode
  have hdual (b : Bool) (hb : (!b) = true) : b = false := by simpa using hb
  cases hr : s.recorder <;> rw [hr] at hmode <;> simp only [recorderStep, hr] at hs
  case notStarted | exited => cases hs
  case top =>
      split_ifs at hs <;> cases hs <;> exact h.goto rfl (by rw [hr]; rfl) nofun
  case gate =>
      split_ifs at hs with _ hd <;> cases hs
      · exact h.goto hd (by rw [hr]; rfl) nofun
      · exact h.goto (by simpa [inMode] using hd) (by rw [hr]; rfl) nofun
      · exact h.goto rfl (by rw [hr]; rfl) nofun
  case entry | video | stopCheck =>
      split_ifs at hs <;> cases hs
      · exact h.goto hmode (by rw [hr]; rfl) nofun
      · exact h.goto rfl (by rw [hr]; rfl) nofun
  case disk | rotation =>
      split_ifs at hs <;> cases hs <;> exact h.goto hmode (by rw [hr]; rfl) nofun
  case rotateClose | segmentClose | stopClose =>
      cases hs
      exact h.close (hdual _ hmode) rfl rfl rfl
  case rotateClear | segmentClear | stopClear =>
      cases hs
      first
        | exact h.clear hmode rfl
        | exact h.clear rfl rfl
  case openSegment =>
      split_ifs at hs
      · cases hs
        exact h.opened (hdual _ hmode)
      · cases hs
        exact h.clear rfl rfl
  case loadPatPmt | loadFd =>
      cases hs
      refine h.goto hmode (by rw [hr]; rfl) (fun x hx => ?_)
      exact h.fd (hdual _ hmode) (by rw [hr]; rfl) x hx
  case writePatPmt fd | writeTs fd =>
      have hopen : ∀ x, fd = some x → x ∈ s.openHandles := fun x hx => h.writes x (by rw [hr]; exact hx)
      cases c <;> cases hs
      · first
          | exact h.goto hmode (by rw [hr]; rfl) nofun
          | exact h.goto rfl (by rw [hr]; rfl) nofun
      · exact h.goto hmode (by rw [hr]; rfl) nofun
      · exact h.goto hmode (by rw [hr]; rfl) hopen
  case sendRing =>
      split at hs
      · next r hring =>
        cases hs
        refine h.goto hmode (by rw [hr]; rfl) (fun x hx => ?_)
        cases hx
        exact h.output hmode _ (.inl hring)
      · cases hs
        exact h.goto hmode (by rw [hr]; rfl) nofun
  case sendSocket =>
      split at hs
      · next x hsocket =>
        cases hs
        refine h.goto hmode (by rw [hr]; rfl) (fun x hx => ?_)
        cases hx
        exact h.output hmode _ (.inr hsocket)
      · split_ifs at hs <;> cases hs
        · exact h.goto hmode (by rw [hr]; rfl) nofun
        · exact h.goto rfl (by rw [hr]; rfl) nofun
  case sendPacket x =>
      split_ifs at hs <;> cases hs
      · exact h.goto hmode (by rw [hr]; rfl) nofun
      · exact h.goto rfl (by rw [hr]; rfl) nofun

/-- What the main thread leaves alone while it waits its turn. -/
structure Untouched (s t : State) : Prop where
  fd : t.fd = s.fd
  ring : t.ring = s.ring
  socket : t.socket = s.socket
  openHandles : t.openHandles = s.openHandles
  mode : t.isDualStream = s.isDualStream
  recorder : t.recorder = s.recorder

theorem Owns.untouched {s t : State} (h : Owns s) (hu : Untouched s t) (hmain : releasing t.main = false) :
    Owns t := by
  refine ⟨?_, hmain, ?_, ?_, ?_⟩
  · rw [hu.mode, hu.recorder]; exact h.mode
  · rw [hu.recorder, hu.openHandles]; exact h.writes
  · rw [hu.mode, hu.recorder, hu.fd, hu.openHandles]; exact h.fd
  · rw [hu.mode, hu.ring, hu.socket, hu.openHandles]; exact h.output

theorem afterStop_not_releasing (q : Teardown) : releasing (afterStop q) = false := by cases q <;> rfl

theorem afterJoin_not_releasing (q : Teardown) : releasing (afterJoin q) = false := by cases q <;> rfl

theorem mainStep_untouched {s t : State} {ok : Bool} (hrec : s.recStarted = true) (h : releasing s.main = false)
    (hok : NothingToRelease s (.main ok)) (hs : mainStep s ok = some t) :
    Untouched s t ∧ releasing t.main = false ∧ (t.recStarted = true ∨ t.recorder = .exited) := by
  have hnone := hok hrec
  cases hm : s.main <;> rw [hm] at h hnone <;> simp only [mainStep, hm] at hs
  case loop | halted => cases hs
  case stopClose | stopClear | clearRing | clearSocket => cases h
  case stopCheck q =>
      simp only [hnone, Option.isSome_none, Bool.false_eq_true, if_false] at hs
      cases hs
      exact ⟨⟨hnone.symm, rfl, rfl, rfl, rfl, rfl⟩, afterStop_not_releasing q, .inl hrec⟩
  case loadConfig | rebuild =>
      cases hs
      exact ⟨⟨rfl, rfl, rfl, rfl, rfl, rfl⟩, by cases ok <;> rfl, .inl hrec⟩
  case destroyRing q =>
      simp only [hnone] at hs
      split_ifs at hs <;> cases hs
      · exact ⟨⟨rfl, hnone.symm, rfl, rfl, rfl, rfl⟩, rfl, .inl hrec⟩
      · exact ⟨⟨rfl, hnone.symm, rfl, rfl, rfl, rfl⟩, afterJoin_not_releasing q, .inl hrec⟩
  case closeSocket q =>
      simp only [hnone] at hs
      cases hs
      exact ⟨⟨rfl, rfl, hnone.symm, rfl, rfl, rfl⟩, rfl, .inl hrec⟩
  case stopThread q =>
      rw [if_pos hrec] at hs
      cases hs
      exact ⟨⟨rfl, rfl, rfl, rfl, rfl, rfl⟩, rfl, .inl hrec⟩
  case join q =>
      split at hs
      · next hexit =>
        cases hs
        exact ⟨⟨rfl, rfl, rfl, rfl, rfl, rfl⟩, afterJoin_not_releasing q, .inr hexit⟩
      · cases hs

theorem mainStep_idle {s t : State} {ok : Bool} (hrec : s.recStarted = false) (hs : mainStep s ok = some t) :
    t.recStarted = false ∧ t.recorder = s.recorder := by
  cases hm : s.main <;> simp only [mainStep, hm] at hs
  case loop | halted => cases hs
  case destroyRing q =>
      split_ifs at hs
      · split at hs <;> cases hs <;> exact ⟨hrec, rfl⟩
      · cases hs; exact ⟨hrec, rfl⟩
  case closeSocket q => split at hs <;> cases hs <;> exact ⟨hrec, rfl⟩
  case join q => split at hs <;> cases hs; exact ⟨rfl, rfl⟩
  case stopThread q =>
      rw [hrec] at hs
      cases hs
      exact ⟨rfl, rfl⟩
  case stopCheck | stopClose | stopClear | loadConfig | clearRing | clearSocket | rebuild =>
      cases hs; exact ⟨hrec, rfl⟩

theorem recorderStep_started {s t : State} {c : Outcome} (hs : recorderStep s c = some t) :
    t.recStarted = s.recStarted := by
  cases hr : s.recorder <;> simp only [recorderStep, hr] at hs
  case notStarted | exited => cases hs
  case writePatPmt | writeTs => cases c <;> cases hs <;> rfl
  case sendRing | sendSocket => split at hs <;> cases hs <;> rfl
  case top | gate | openSegment => split_ifs at hs <;> cases hs <;> rfl
  all_goals cases hs; rfl

theorem Inv.owns {s : State} (h : Inv s) (hrec : s.recStarted = true) : Owns s := by
  rwa [Inv, if_pos hrec] at h

theorem Owns.inv {s : State} (h : Owns s) (hrec : s.recStarted = true) : Inv s := by
  rwa [Inv, if_pos hrec]

theorem Inv.idle {s : State} (h : Inv s) (hrec : s.recStarted = false) :
    s.recorder = .notStarted ∨ s.recorder = .exited := by
  rwa [Inv, hrec, if_neg Bool.false_ne_true] at h

theorem idle_inv {s : State} (h : s.recorder = .notStarted ∨ s.recorder = .exited)
    (hrec : s.recStarted = false) : Inv s := by
  rwa [Inv, hrec, if_neg Bool.false_ne_true]

/-- A step that leaves all but the position of the main thread as it was. -/
theorem Inv.moved {s t : State} (h : Inv s) (hu : Untouched s t) (hrec : t.recStarted = s.recStarted)
    (hmain : releasing t.main = false) : Inv t := by
  cases hs : s.recStarted with
  | true => exact ((h.owns hs).untouched hu hmain).inv (hrec.trans hs)
  | false => exact idle_inv (by rw [hu.recorder]; exact h.idle hs) (hrec.trans hs)

theorem step_inv {s t : State} (a : Act) (h : Inv s) (hok : NothingToRelease s a) (hs : step s a = some t) :
    Inv t := by
  cases a with
  | recorder c =>
      cases hrec : s.recStarted with
      | true => exact (recorderStep_owns (h.owns hrec) hs).inv ((recorderStep_started hs).trans hrec)
      | false =>
          rcases h.idle hrec with hr | hr
          · simp [step, recorderStep, hr] at hs
          · simp [step, recorderStep, hr] at hs
  | main ok =>
      cases hrec : s.recStarted with
      | true =>
          have ho := h.owns hrec
          obtain ⟨hu, hmain, hleft⟩ := mainStep_untouched hrec ho.main hok hs
          cases ht : t.recStarted with
          | true => exact (ho.untouched hu hmain).inv ht
          | false => exact idle_inv (.inr (hleft.resolve_left (by simp [ht]))) ht
      | false =>
          obtain ⟨ht, hr⟩ := mainStep_idle hrec hs
          exact idle_inv (by rw [hr]; exact h.idle hrec) ht
  | reinit | shutdown =>
      simp only [step] at hs
      split at hs <;> cases hs
      exact h.moved ⟨rfl, rfl, rfl, rfl, rfl, rfl⟩ rfl rfl
  | signal =>
      cases hs
      cases hrec : s.recStarted with
      | true =>
          have ho := h.owns hrec
          have hu : Untouched s { s with running := false } := ⟨rfl, rfl, rfl, rfl, rfl, rfl⟩
          exact hrec ▸ (ho.untouched hu ho.main).inv hrec
      | false => exact hrec ▸ idle_inv (h.idle hrec) hrec

theorem step_respects {s t : State} (a : Act) (h : Inv s) (hok : NothingToRelease s a)
    (hs : step s a = some t) : Respects s a t := by
  cases a with
  | recorder c =>
      cases hrec : s.recStarted with
      | true => exact (h.owns hrec).writes
      | false =>
          rcases h.idle hrec with hr | hr
          · simp [step, recorderStep, hr] at hs
          · simp [step, recorderStep, hr] at hs
  | main ok =>
      intro hrec
      obtain ⟨hu, _, _⟩ := mainStep_untouched hrec (h.owns hrec).main hok hs
      exact ⟨hu.fd, hu.ring, hu.socket, hu.openHandles⟩
  | reinit | shutdown =>
      intro _
      simp only [step] at hs
      split at hs <;> cases hs
      exact ⟨rfl, rfl, rfl, rfl⟩
  | signal =>
      intro _
      cases hs
      exact ⟨rfl, rfl, rfl, rfl⟩

/-- When the main thread finds nothing to release before the join, the recording
thread keeps its handles: nobody else touches them, and it writes to open ones. -/
theorem recorder_owns_handles {s₀ s t : State} {a : Act} (hstart : Started s₀)
    (h : Path step NothingToRelease s₀ s) (hok : NothingToRelease s a) (hs : step s a = some t) :
    Respects s a t :=
  step_respects a (h.invariant Inv hstart.inv (fun _ a _ hi hok hs => step_inv a hi hok hs)) hok hs

/-- Dual mode with a recording open as handle 5; d->output is as calloc left
it, with socket 0. -/
def recording : State :=
  ⟨[0, 5], 6, some 5, true, true, false, none, some 0, true, true, .top, .loop⟩

theorem recording_started : Started recording :=
  ⟨rfl, rfl, fun _ => rfl, fun h hh => by cases hh; decide, nofun⟩

/-- Dual-stream mode whose output could not be opened. -/
def unsent : State :=
  ⟨[0], 1, none, true, true, true, none, none, true, true, .top, .loop⟩

theorem unsent_started : Started unsent :=
  ⟨rfl, rfl, fun _ => rfl, nofun, fun _ _ hh => by rcases hh with hh | hh <;> cases hh⟩

def nothingToRelease (s : State) : Act → Bool
  | .main _ => s.fd.isNone && s.ring.isNone && s.socket.isNone
  | _ => true

theorem nothingToRelease_spec (s : State) (a : Act) (h : nothingToRelease s a = true) :
    NothingToRelease s a := by
  cases a with
  | main ok =>
      simp only [nothingToRelease, Bool.and_eq_true, Option.isNone_iff_eq_none] at h
      intro _
      split
      · exact h.1.1
      · exact h.1.2
      · exact h.2
      · trivial
  | recorder | reinit | shutdown | signal => trivial

/-- The thread is at a frame when a reinit runs up to the join. -/
def quietReinit : List Act :=
  [.recorder .yes, .recorder .yes, .reinit, .main true, .main true, .main true, .main true, .main true,
    .recorder .yes, .recorder .yes, .recorder .yes]

def joining : State := ⟨[0], 1, none, true, true, true, none, none, true, false, .exited, .join .reinit⟩

theorem recorder_owns_handles_unsent :
    runIf step nothingToRelease unsent quietReinit = some joining ∧
      ∃ t, step joining (.main true) = some t ∧ Respects joining (.main true) t := by
  have hrun : runIf step nothingToRelease unsent quietReinit = some joining := rfl
  refine ⟨hrun, _, rfl, ?_⟩
  exact recorder_owns_handles unsent_started (path_of_runIf quietReinit nothingToRelease_spec hrun)
    (nothingToRelease_spec _ _ rfl) rfl

/-- A reinit finds the thread with its fd loaded for the next write. -/
def midWrite : List Act :=
  [.recorder .yes, .recorder .yes, .recorder .yes, .recorder .yes, .recorder .yes, .recorder .no,
    .recorder .yes, .reinit, .main true]

def closingUnderWrite : State :=
  ⟨[0, 5], 6, some 5, true, true, false, none, some 0, true, true, .writeTs (some 5), .stopClose .reinit⟩

/-- The main thread closes the file, and the thread goes on to write to it. -/
theorem reinit_closes_under_writer : Started recording ∧
    run step recording midWrite = some closingUnderWrite ∧
    ∃ s t, step closingUnderWrite (.main true) = some s ∧ ¬ Respects closingUnderWrite (.main true) s ∧
      step s (.recorder .yes) = some t ∧ ¬ Respects s (.recorder .yes) t := by
  refine ⟨recording_started, rfl, _, _, rfl, fun h => ?_, rfl, fun h => ?_⟩
  · exact absurd (h rfl).2.2.2 (by decide)
  · exact absurd (h 5 rfl) (by decide)

end WaybeamVenc.RecorderOwnership
