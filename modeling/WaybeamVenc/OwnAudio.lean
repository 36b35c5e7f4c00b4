import WaybeamVenc.Runs
import WaybeamVenc.TsRecorder

namespace WaybeamVenc.OwnAudio

open CNumber Runs TsMux TsRecorder

def audioRingPcmMax : Nat := 3840

def audioRingCapacity : Nat := 64

/-- A push into a full ring drops the oldest entry. -/
def audioRingPush {α : Type} (ring : List α) (e : α) : List α :=
  if ring.length < audioRingCapacity then ring ++ [e] else ring.tail ++ [e]

/-- An entry of the recording ring, with the starts there had been at its push. -/
structure Queued where
  entry : AudioRingEntry
  starts : Nat

/-- An entry whose PES write_video has put into a file, with the number and the
time of the start that opened the recording. -/
structure Pes where
  queued : Queued
  recording : Nat
  startedAt : UInt64

/-- star6e_audio_encode_fn in front of its pop, of its look at rec_ring and of
what it does with it. -/
inductive EncodePc
  | waiting
  | popped (entry : AudioRingEntry)
  | loaded (entry : AudioRingEntry) (recRing : Bool)

/-- What the record control finds requested; only a start that is not for the
raw recorder comes to star6e_ts_recorder_start. -/
inductive Command
  | startHevc
  | startTs (audioEnabled : Bool) (dir : CString) (env : StartEnv)
  | stop

/-- The main loop, in the drain of star6e_ts_recorder_write_video, or where the
record control has stopped the recorders, has cleared rec_ring, or has set it. -/
inductive MainPc
  | loop
  | draining (path : CString) (frame : Frame) (env : CallEnv) (mux : TsMuxState) (tsLen : Nat) (taken : List Queued)
  | stopped (command : Command)
  | detached (audioEnabled : Bool) (dir : CString) (env : StartEnv)
  | attached (audioEnabled : Bool) (dir : CString) (env : StartEnv)

/-- now is CLOCK_MONOTONIC in microseconds. -/
structure State where
  now : UInt64
  capRing : List AudioRingEntry
  encoder : EncodePc
  recRing : Bool
  audioRing : List Queued
  recorder : Recording
  main : MainPc
  starts : Nat
  startedAt : UInt64
  written : List Pes

inductive Act
  | tick (now : UInt64)
  | capture (pcm : List UInt8)
  | encode
  | video (frame : Frame) (env : CallEnv)
  | command (c : Command)
  | main

def encodeStep (s : State) : Option State :=
  match s.encoder with
  | .waiting => match s.capRing with
    | [] => none
    | entry :: ring => some { s with capRing := ring, encoder := .popped entry }
  | .popped entry => some { s with encoder := .loaded entry s.recRing }
  | .loaded entry recRing =>
      some { s with
        audioRing := if recRing then audioRingPush s.audioRing ⟨entry, s.starts⟩ else s.audioRing
        encoder := .waiting }

/-- star6e_ts_recorder_write_video up to its packets: the recording, and the
file that the frame goes to. -/
def settleSegment (r : Recording) (frame : Frame) (env : CallEnv) : Recording × Option CString :=
  if r.state.fd = none ∨ frame.data = [] then (r, none)
  else
    let (state, spaceLeft) := checkDiskSpace r.state env.freeSpace
    if spaceLeft then
      let (r, settled) := checkRotation { r with state := state } frame env.now env.segment
      match settled, r.state.fd with
      | true, some path => (r, some path)
      | _, _ => (r, none)
    else ({ r with state := state }, none)

def videoStep (s : State) (frame : Frame) (env : CallEnv) : State :=
  match settleSegment s.recorder frame env with
  | (r, none) => { s with recorder := r }
  | (r, some path) =>
    let (mux, video) := tsMuxWriteVideo r.state.mux tsBufSize frame.data frame.pts frame.isIdr
    { s with recorder := r, main := .draining path frame env mux (tsPacketSize * video.length) [] }

/-- Whether the drain loop tries a pop. -/
def drains (r : Recording) (tsLen : Nat) : Bool :=
  r.state.audioRing && decide (8 * tsPacketSize ≤ tsBufSize - tsLen)

def mainStep (s : State) : Option State :=
  match s.main with
  | .loop => none
  | .draining path frame env mux tsLen taken => match drains s.recorder tsLen, s.audioRing with
    | true, ae :: ring =>
        let (mux, packets) := tsMuxWriteAudio mux (tsBufSize - tsLen) ae.entry.pcm (audioPts ae.entry)
        some { s with
          audioRing := ring
          main := .draining path frame env mux (tsLen + tsPacketSize * packets.length) (taken ++ [ae]) }
    | _, _ =>
        some { s with
          recorder := (writeFrame s.recorder path frame { env with audio := taken.map Queued.entry }).1
          main := .loop
          written := s.written ++ taken.map fun q => ⟨q, s.starts, s.startedAt⟩ }
  | .stopped (.startTs audioEnabled dir env) =>
      some { s with recRing := false, main := .detached audioEnabled dir env }
  | .stopped _ => some { s with recRing := false, main := .loop }
  | .detached audioEnabled dir env => some { s with recRing := audioEnabled, main := .attached audioEnabled dir env }
  | .attached audioEnabled dir env =>
      some { s with
        recorder := (star6eTsRecorderStart s.recorder.state dir audioEnabled env).1
        main := .loop
        starts := s.starts + 1
        startedAt := s.now }

/-- The capture thread, the encode thread and the main loop, a step at a time. -/
def step (s : State) : Act → Option State
  | .tick now => if s.now ≤ now then some { s with now := now } else none
  | .capture pcm => some { s with capRing := audioRingPush s.capRing ⟨pcm.take audioRingPcmMax, s.now⟩ }
  | .encode => encodeStep s
  | .video frame env => match s.main with
    | .loop => some (videoStep s frame env)
    | _ => none
  | .command c => match s.main with
    | .loop =>
        some { s with
          recorder := { s.recorder with state := stopWithReason s.recorder.state .manual }
          main := .stopped c }
    | _ => none
  | .main => mainStep s

/-- What star6e_audio_encode_fn has taken and will push. -/
def onItsWay : EncodePc → List AudioRingEntry
  | .popped entry | .loaded entry true => [entry]
  | .waiting | .loaded _ false => []

def takenOf : MainPc → List Queued
  | .draining _ _ _ _ _ taken => taken
  | _ => []

/-- The entry was pushed behind the start of its recording, and is no older. -/
structure Own (p : Pes) : Prop where
  pushed : p.queued.starts = p.recording
  captured : p.startedAt ≤ p.queued.entry.timestampUs

def AllOwn (s : State) : Prop := ∀ p ∈ s.written, Own p

/-- The state that the start of the pipeline leaves; frames may have been captured. -/
structure Initial (s : State) : Prop where
  main : s.main = .loop
  audioRing : s.audioRing = []
  closed : s.recorder.state.fd = none
  startedAt : s.startedAt = 0
  written : s.written = []

/-- The directory has a name and space, and the file opens. -/
def Opens (dir : CString) (env : StartEnv) : Prop :=
  dir ≠ [] ∧ ¬(0 < env.freeSpace ∧ env.freeSpace < recorderMinFreeBytes) ∧ env.segment.opens = true

/-- A recording with audio opens its file only when the ring is empty, and so
are the capture ring and the hands of the encode thread. -/
def NothingLeft (s : State) : Act → Prop
  | .main => match s.main with
    | .attached true dir env => Opens dir env → s.audioRing = [] ∧ s.capRing = [] ∧ onItsWay s.encoder = []
    | _ => True
  | _ => True

/-- Where the record control has stopped the recorders. -/
def recordersStopped : MainPc → Bool
  | .stopped _ | .detached _ _ _ | .attached _ _ _ => true
  | _ => false

def isDraining : MainPc → Bool
  | .draining _ _ _ _ _ _ => true
  | _ => false

/-- An entry of the ring that the recording under way may have. -/
def Current (s : State) (q : Queued) : Prop := q.starts = s.starts ∧ s.startedAt ≤ q.entry.timestampUs

structure Fresh (s : State) : Prop where
  ring : ∀ q ∈ s.audioRing, Current s q
  captured : ∀ e ∈ s.capRing, s.startedAt ≤ e.timestampUs
  way : ∀ e ∈ onItsWay s.encoder, s.startedAt ≤ e.timestampUs

structure Inv (s : State) : Prop where
  clock : s.startedAt ≤ s.now
  written : AllOwn s
  taken : ∀ q ∈ takenOf s.main, Current s q
  closed : recordersStopped s.main = true → s.recorder.state.fd = none
  opened : isDraining s.main = true → s.recorder.state.fd ≠ none
  fresh : s.recorder.state.fd ≠ none → s.recorder.state.audioRing = true → Fresh s

theorem mem_audioRingPush {α : Type} {ring : List α} {e x : α} (h : x ∈ audioRingPush ring e) : x ∈ ring ∨ x = e := by
  rw [audioRingPush] at h
  split_ifs at h
  · exact (List.mem_append.mp h).imp_right List.mem_singleton.mp
  · exact (List.mem_append.mp h).imp List.mem_of_mem_tail List.mem_singleton.mp

theorem stopWithReason_audioRing (state : Star6eTsRecorderState) (reason : StopReason) :
    (stopWithReason state reason).audioRing = state.audioRing := by
  rw [stopWithReason]
  split_ifs <;> rfl

theorem stopWithReason_fd (state : Star6eTsRecorderState) (reason : StopReason) :
    (stopWithReason state reason).fd = none := by
  rw [stopWithReason]
  split_ifs with h
  · exact h
  · rfl

theorem openNewSegment_audioRing (r : Recording) (opener : Option Frame) (env : OpenEnv) :
    (openNewSegment r opener env).1.state.audioRing = r.state.audioRing := by
  rw [openNewSegment]
  split_ifs
  · dsimp only
    split <;> rfl
  · rfl

theorem checkDiskSpace_audioRing (state : Star6eTsRecorderState) (freeSpace : Nat) :
    (checkDiskSpace state freeSpace).1.audioRing = state.audioRing := by
  rw [checkDiskSpace]
  split_ifs
  · rfl
  · exact stopWithReason_audioRing _ _
  · rfl

theorem checkRotation_audioRing (r : Recording) (frame : Frame) (now : Timespec) (env : OpenEnv) :
    (checkRotation r frame now env).1.state.audioRing = r.state.audioRing := by
  rw [checkRotation]
  split_ifs
  · dsimp only
    split_ifs <;> exact openNewSegment_audioRing _ _ _
  · rfl

theorem settleSegment_audioRing (r : Recording) (frame : Frame) (env : CallEnv) :
    (settleSegment r frame env).1.state.audioRing = r.state.audioRing := by
  have hspace := checkDiskSpace_audioRing r.state env.freeSpace
  rw [settleSegment]
  split_ifs
  · rfl
  · dsimp only
    split_ifs
    · rw [← hspace]
      split <;> exact checkRotation_audioRing _ frame env.now env.segment
    · exact hspace

theorem settleSegment_closed {r : Recording} (hr : r.state.fd = none) (frame : Frame) (env : CallEnv) :
    settleSegment r frame env = (r, none) := by
  rw [settleSegment, if_pos (.inl hr)]

/-- The drain stands between the segment and the rest of the call. -/
theorem writeVideo_settle (r : Recording) (frame : Frame) (env : CallEnv) :
    (star6eTsRecorderWriteVideo r frame env).1 =
      match settleSegment r frame env with
      | (r, none) => r
      | (r, some path) => (writeFrame r path frame env).1 := by
  rw [star6eTsRecorderWriteVideo, settleSegment]
  by_cases hidle : r.state.fd = none ∨ frame.data = []
  · rw [if_pos hidle, if_pos hidle]
  · rw [if_neg hidle, if_neg hidle]
    dsimp only
    by_cases hspace : (checkDiskSpace r.state env.freeSpace).2 = true
    · rw [if_pos hspace, if_pos hspace]
      generalize checkRotation _ frame env.now env.segment = settled
      cases hfd : settled.1.state.fd <;> cases hsettled : settled.2 <;> rfl
    · rw [if_neg hspace, if_neg hspace]

theorem settleSegment_opened {r : Recording} {frame : Frame} {env : CallEnv} {path : CString}
    (h : (settleSegment r frame env).2 = some path) : (settleSegment r frame env).1.state.fd ≠ none := by
  rw [settleSegment] at h ⊢
  split_ifs at h ⊢
  dsimp only at h ⊢
  split_ifs at h ⊢
  generalize checkRotation _ frame env.now env.segment = settled at h ⊢
  cases hfd : settled.1.state.fd <;> cases hsettled : settled.2 <;> simp_all

theorem writeFrame_audioRing (r : Recording) (path : CString) (frame : Frame) (env : CallEnv) :
    (writeFrame r path frame env).1.state.audioRing = r.state.audioRing := by
  rw [writeFrame]
  dsimp only
  split
  · exact stopWithReason_audioRing _ _
  · rfl

theorem writeFrame_closed {r : Recording} (hr : r.state.fd = none) (path : CString) (frame : Frame) (env : CallEnv) :
    (writeFrame r path frame env).1.state.fd = none := by
  rw [writeFrame]
  dsimp only
  split
  · exact stopWithReason_fd _ _
  · exact hr

theorem start_opens {state : Star6eTsRecorderState} {dir : CString} {audioRing : Bool} {env : StartEnv}
    (hstate : state.fd = none) (h : (star6eTsRecorderStart state dir audioRing env).1.state.fd ≠ none) :
    Opens dir env ∧ (star6eTsRecorderStart state dir audioRing env).1.state.audioRing = audioRing := by
  rw [star6eTsRecorderStart] at h ⊢
  split_ifs at h ⊢ with hdir hspace
  · exact absurd hstate h
  · exact absurd (stopWithReason_fd state .manual) h
  · dsimp only at h ⊢
    rw [openNewSegment_audioRing]
    refine ⟨⟨hdir, hspace, ?_⟩, rfl⟩
    by_contra hopens
    rw [openNewSegment, if_neg hopens] at h
    exact h rfl

theorem Initial.inv {s : State} (h : Initial s) : Inv s where
  clock := by
    rw [h.startedAt]
    exact UInt64.zero_le
  written := by
    intro p hp
    rw [h.written] at hp
    cases hp
  taken := by
    intro q hq
    rw [h.main] at hq
    cases hq
  closed := fun _ => h.closed
  opened := by
    intro hdraining
    rw [h.main] at hdraining
    cases hdraining
  fresh := fun hopen => absurd h.closed hopen

theorem Fresh.of_audio {s t : State} (h : Fresh s) (hstart : t.starts = s.starts ∧ t.startedAt = s.startedAt)
    (hring : ∀ q ∈ t.audioRing, q ∈ s.audioRing) (hcap : t.capRing = s.capRing) (hencoder : t.encoder = s.encoder) :
    Fresh t := by
  obtain ⟨hstarts, hat⟩ := hstart
  refine ⟨fun q hq => ?_, fun e he => ?_, fun e he => ?_⟩
  · rw [Current, hstarts, hat]
    exact h.ring q (hring q hq)
  · rw [hat]
    exact h.captured e (hcap ▸ he)
  · rw [hat]
    exact h.way e (hencoder ▸ he)

/-- The audio threads change nothing but the rings and what the one holds. -/
theorem Inv.audio {s : State} {capRing : List AudioRingEntry} {encoder : EncodePc} {audioRing : List Queued}
    (h : Inv s)
    (hfresh : Fresh s → Fresh { s with capRing := capRing, encoder := encoder, audioRing := audioRing }) :
    Inv { s with capRing := capRing, encoder := encoder, audioRing := audioRing } :=
  ⟨h.clock, h.written, h.taken, h.closed, h.opened, fun hopen hring => hfresh (h.fresh hopen hring)⟩

theorem capture_inv {s : State} (h : Inv s) (pcm : List UInt8) :
    Inv { s with capRing := audioRingPush s.capRing ⟨pcm.take audioRingPcmMax, s.now⟩ } := by
  refine h.audio fun hfresh => ⟨hfresh.ring, fun e he => ?_, hfresh.way⟩
  rcases mem_audioRingPush he with hold | rfl
  · exact hfresh.captured e hold
  · exact h.clock

theorem encodeStep_inv {s t : State} (h : Inv s) (hs : encodeStep s = some t) : Inv t := by
  rw [encodeStep] at hs
  cases hpc : s.encoder with
  | waiting =>
      cases hcap : s.capRing with
      | nil => simp only [hpc, hcap, reduceCtorEq] at hs
      | cons entry ring =>
          simp only [hpc, hcap, Option.some.injEq] at hs
          subst hs
          refine h.audio fun hfresh => ?_
          have hcaptured := hfresh.captured
          rw [hcap] at hcaptured
          refine ⟨hfresh.ring, fun e he => hcaptured e (List.mem_cons_of_mem entry he), fun e he => ?_⟩
          exact hcaptured e (List.mem_singleton.mp he ▸ List.mem_cons_self)
  | popped entry =>
      simp only [hpc, Option.some.injEq] at hs
      subst hs
      refine h.audio fun hfresh => ⟨hfresh.ring, hfresh.captured, ?_⟩
      have hway := hfresh.way
      rw [hpc] at hway
      cases s.recRing with
      | true => exact hway
      | false => exact List.forall_mem_nil _
  | loaded entry recRing =>
      simp only [hpc, Option.some.injEq] at hs
      subst hs
      refine h.audio fun hfresh => ⟨fun q hq => ?_, hfresh.captured, List.forall_mem_nil _⟩
      cases recRing with
      | false => exact hfresh.ring q hq
      | true =>
          rcases mem_audioRingPush hq with hold | rfl
          · exact hfresh.ring q hold
          · exact ⟨rfl, hfresh.way entry (by rw [hpc]; exact List.mem_singleton_self entry)⟩

theorem videoStep_inv {s : State} (h : Inv s) (hmain : s.main = .loop) (frame : Frame) (env : CallEnv) :
    Inv (videoStep s frame env) := by
  have hring := settleSegment_audioRing s.recorder frame env
  have hopened := @settleSegment_opened s.recorder frame env
  have hfresh : (settleSegment s.recorder frame env).1.state.fd ≠ none →
      (settleSegment s.recorder frame env).1.state.audioRing = true → Fresh s := by
    intro hopen haudio
    rw [hring] at haudio
    refine h.fresh (fun hclosed => hopen ?_) haudio
    rw [settleSegment_closed hclosed]
    exact hclosed
  rw [videoStep]
  generalize settleSegment s.recorder frame env = settled at hfresh hopened ⊢
  obtain ⟨r, path⟩ := settled
  cases path with
  | none =>
      refine ⟨h.clock, h.written, h.taken, fun hc => ?_, fun hd => ?_, fun hopen haudio => ?_⟩
      · dsimp only at hc
        rw [hmain] at hc
        cases hc
      · dsimp only at hd
        rw [hmain] at hd
        cases hd
      · exact (hfresh hopen haudio).of_audio ⟨rfl, rfl⟩ (fun _ hq => hq) rfl rfl
  | some path =>
      refine ⟨h.clock, h.written, List.forall_mem_nil _, fun hc => absurd hc Bool.false_ne_true,
        fun _ => hopened rfl, fun hopen haudio => ?_⟩
      exact (hfresh hopen haudio).of_audio ⟨rfl, rfl⟩ (fun _ hq => hq) rfl rfl

/-- The drain moves entries from the ring to what it has taken. -/
theorem drain_inv {s : State} (h : Inv s) {path : CString} {frame : Frame} {env : CallEnv} {mux : TsMuxState}
    {tsLen : Nat} {taken ring : List Queued} {ae : Queued} (hmain : s.main = .draining path frame env mux tsLen taken)
    (hdrains : drains s.recorder tsLen = true) (hring : s.audioRing = ae :: ring) (mux' : TsMuxState) (tsLen' : Nat) :
    Inv { s with audioRing := ring, main := .draining path frame env mux' tsLen' (taken ++ [ae]) } := by
  have hopen := h.opened (by rw [hmain]; rfl)
  have hfresh := h.fresh hopen (Bool.and_eq_true_iff.mp hdrains).1
  have htaken := h.taken
  rw [hmain] at htaken
  refine ⟨h.clock, h.written, fun q hq => ?_, fun hc => absurd hc Bool.false_ne_true, fun _ => hopen, fun _ _ => ?_⟩
  · rcases List.mem_append.mp hq with hold | hnew
    · exact htaken q hold
    · rw [List.mem_singleton.mp hnew]
      exact hfresh.ring ae (hring ▸ List.mem_cons_self)
  · exact hfresh.of_audio ⟨rfl, rfl⟩ (fun q hq => hring ▸ List.mem_cons_of_mem ae hq) rfl rfl

theorem write_inv {s : State} (h : Inv s) {path : CString} {frame : Frame} {env : CallEnv} {mux : TsMuxState}
    {tsLen : Nat} {taken : List Queued} (hmain : s.main = .draining path frame env mux tsLen taken) :
    Inv { s with
      recorder := (writeFrame s.recorder path frame { env with audio := taken.map Queued.entry }).1
      main := .loop
      written := s.written ++ taken.map fun q => ⟨q, s.starts, s.startedAt⟩ } := by
  have htaken := h.taken
  rw [hmain] at htaken
  refine ⟨h.clock, fun p hp => ?_, List.forall_mem_nil _, fun hc => absurd hc Bool.false_ne_true,
    fun hd => absurd hd Bool.false_ne_true, fun hopen haudio => ?_⟩
  · rcases List.mem_append.mp hp with hold | hnew
    · exact h.written p hold
    · obtain ⟨q, hq, rfl⟩ := List.mem_map.mp hnew
      exact ⟨(htaken q hq).1, (htaken q hq).2⟩
  · dsimp only at hopen haudio
    rw [writeFrame_audioRing] at haudio
    have hbefore : s.recorder.state.fd ≠ none := fun hclosed => hopen (writeFrame_closed hclosed _ _ _)
    exact (h.fresh hbefore haudio).of_audio ⟨rfl, rfl⟩ (fun _ hq => hq) rfl rfl

/-- The record control with the recorders stopped. -/
theorem Inv.control {s : State} (h : Inv s) (hclosed : s.recorder.state.fd = none) {main : MainPc}
    (htaken : takenOf main = []) (hdraining : isDraining main = false) (recRing : Bool) :
    Inv { s with recRing := recRing, main := main } := by
  refine ⟨h.clock, h.written, fun q hq => ?_, fun _ => hclosed, fun hd => ?_, fun hopen => absurd hclosed hopen⟩
  · dsimp only at hq
    rw [htaken] at hq
    cases hq
  · dsimp only at hd
    rw [hdraining] at hd
    cases hd

theorem openFile_inv {s : State} (h : Inv s) {audioEnabled : Bool} {dir : CString} {env : StartEnv}
    (hmain : s.main = .attached audioEnabled dir env) (hleft : NothingLeft s .main) :
    Inv { s with
      recorder := (star6eTsRecorderStart s.recorder.state dir audioEnabled env).1
      main := .loop
      starts := s.starts + 1
      startedAt := s.now } := by
  have hclosed : s.recorder.state.fd = none := h.closed (by rw [hmain]; rfl)
  refine ⟨UInt64.le_refl s.now, h.written, List.forall_mem_nil _, fun hc => absurd hc Bool.false_ne_true,
    fun hd => absurd hd Bool.false_ne_true, fun hopen haudio => ?_⟩
  obtain ⟨hopens, hring⟩ := start_opens hclosed hopen
  rw [hring.symm.trans haudio] at hmain
  rw [NothingLeft, hmain] at hleft
  obtain ⟨hnone, hcap, hway⟩ := hleft hopens
  refine ⟨fun q hq => ?_, fun e he => ?_, fun e he => ?_⟩
  · exact absurd (hnone ▸ hq) List.not_mem_nil
  · exact absurd (hcap ▸ he) List.not_mem_nil
  · exact absurd (hway ▸ he) List.not_mem_nil

theorem mainStep_inv {s t : State} (h : Inv s) (hleft : NothingLeft s .main) (hs : mainStep s = some t) : Inv t := by
  rw [mainStep] at hs
  cases hmain : s.main with
  | loop => simp only [hmain, reduceCtorEq] at hs
  | draining path frame env mux tsLen taken =>
      rw [hmain] at hs
      dsimp only at hs
      split at hs
      · next ae ring hdrains hring =>
        cases hs
        exact drain_inv h hmain hdrains hring _ _
      · cases hs
        exact write_inv h hmain
  | stopped command =>
      have hclosed := h.closed (by rw [hmain]; rfl)
      cases command <;> simp only [hmain, Option.some.injEq] at hs <;> subst hs <;> exact h.control hclosed rfl rfl false
  | detached audioEnabled dir env =>
      simp only [hmain, Option.some.injEq] at hs
      subst hs
      exact h.control (h.closed (by rw [hmain]; rfl)) rfl rfl audioEnabled
  | attached audioEnabled dir env =>
      simp only [hmain, Option.some.injEq] at hs
      subst hs
      exact openFile_inv h hmain hleft

theorem step_inv {s t : State} (a : Act) (h : Inv s) (hleft : NothingLeft s a) (hs : step s a = some t) : Inv t := by
  cases a with
  | tick now =>
      simp only [step, Option.ite_none_right_eq_some, Option.some.injEq] at hs
      obtain ⟨hle, rfl⟩ := hs
      refine ⟨UInt64.le_trans h.clock hle, h.written, h.taken, h.closed, h.opened, fun hopen haudio => ?_⟩
      exact (h.fresh hopen haudio).of_audio ⟨rfl, rfl⟩ (fun _ hq => hq) rfl rfl
  | capture pcm =>
      cases hs
      exact capture_inv h pcm
  | encode => exact encodeStep_inv h hs
  | video frame env =>
      cases hmain : s.main <;> simp only [step, hmain, reduceCtorEq, Option.some.injEq] at hs
      subst hs
      exact videoStep_inv h hmain frame env
  | command c =>
      cases hmain : s.main <;> simp only [step, hmain, reduceCtorEq, Option.some.injEq] at hs
      subst hs
      have hclosed := stopWithReason_fd s.recorder.state .manual
      exact ⟨h.clock, h.written, List.forall_mem_nil _, fun _ => hclosed, fun hd => absurd hd Bool.false_ne_true,
        fun hopen => absurd hclosed hopen⟩
  | main => exact mainStep_inv h hleft hs

/-- Where every recording with audio starts with nothing left, whatever the
audio threads and the main loop do in between, its file has its own audio only. -/
theorem own_audio {s t : State} (hstart : Initial s) (h : Path step NothingLeft s t) : AllOwn t :=
  (h.invariant Inv hstart.inv fun _ a _ hi hleft hs => step_inv a hi hleft hs).written

/-- One more entry behind a drain that has room for it. -/
theorem drainAudio_snoc {mux mux' : TsMuxState} {tsLen : Nat} {ring : List AudioRingEntry} {packets : List (List UInt8)}
    (h : drainAudio mux tsLen ring = (mux', packets))
    (hroom : 8 * tsPacketSize ≤ tsBufSize - (tsLen + tsPacketSize * packets.length)) (ae : AudioRingEntry) :
    drainAudio mux tsLen (ring ++ [ae]) =
      ((tsMuxWriteAudio mux' (tsBufSize - (tsLen + tsPacketSize * packets.length)) ae.pcm (audioPts ae)).1,
        packets ++ (tsMuxWriteAudio mux' (tsBufSize - (tsLen + tsPacketSize * packets.length)) ae.pcm (audioPts ae)).2) := by
  induction ring generalizing mux tsLen packets with
  | nil =>
      cases h
      rw [List.length_nil, Nat.mul_zero, Nat.add_zero] at hroom ⊢
      rw [List.nil_append, drainAudio, if_pos hroom]
      exact congrArg (Prod.mk _) (List.append_nil _)
  | cons e ring ih =>
      rw [drainAudio] at h
      by_cases hfirst : 8 * tsPacketSize ≤ tsBufSize - tsLen
      · rw [if_pos hfirst] at h
        dsimp only at h
        obtain ⟨rfl, rfl⟩ := Prod.mk.inj h
        rw [List.length_append, Nat.mul_add, ← Nat.add_assoc] at hroom ⊢
        rw [List.cons_append, drainAudio, if_pos hfirst]
        dsimp only
        rw [ih rfl hroom, List.append_assoc]
      · rw [if_neg hfirst] at h
        cases h
        exact absurd hroom hfirst

/-- In the drain, the packets so far are those of the entries taken. -/
def Drained (s : State) : Prop :=
  match s.main with
  | .draining _ frame _ mux tsLen taken =>
    let (mux₀, video) := tsMuxWriteVideo s.recorder.state.mux tsBufSize frame.data frame.pts frame.isIdr
    ∃ more, drainAudio mux₀ (tsPacketSize * video.length) (taken.map Queued.entry) = (mux, more) ∧
      tsLen = tsPacketSize * video.length + tsPacketSize * more.length
  | _ => True

theorem videoStep_drained {s : State} (hmain : s.main = .loop) (frame : Frame) (env : CallEnv) :
    Drained (videoStep s frame env) := by
  rw [videoStep]
  split
  · rw [Drained, hmain]
    trivial
  · exact ⟨[], rfl, rfl⟩

theorem mainStep_drained {s t : State} (h : Drained s) (hs : mainStep s = some t) : Drained t := by
  rw [mainStep] at hs
  cases hmain : s.main with
  | loop => simp only [hmain, reduceCtorEq] at hs
  | draining path frame env mux tsLen taken =>
      rw [hmain] at hs
      dsimp only at hs
      split at hs
      · next ae ring hdrains hring =>
        cases hs
        rw [Drained, hmain] at h
        obtain ⟨more, hdrain, rfl⟩ := h
        have hroom := of_decide_eq_true (Bool.and_eq_true_iff.mp hdrains).2
        have hsnoc := drainAudio_snoc hdrain hroom ae.entry
        refine ⟨_, by rw [List.map_append, List.map_singleton]; exact hsnoc, ?_⟩
        rw [List.length_append, Nat.mul_add, Nat.add_assoc]
      · cases hs
        trivial
  | stopped command => cases command <;> simp only [hmain, Option.some.injEq] at hs <;> subst hs <;> trivial
  | detached audioEnabled dir env =>
      simp only [hmain, Option.some.injEq] at hs
      subst hs
      trivial
  | attached audioEnabled dir env =>
      simp only [hmain, Option.some.injEq] at hs
      subst hs
      trivial

theorem encodeStep_frame {s t : State} (hs : encodeStep s = some t) : t.main = s.main ∧ t.recorder = s.recorder := by
  rw [encodeStep] at hs
  cases hpc : s.encoder with
  | waiting =>
      cases hcap : s.capRing <;> simp only [hpc, hcap, reduceCtorEq, Option.some.injEq] at hs
      subst hs
      exact ⟨rfl, rfl⟩
  | popped entry =>
      simp only [hpc, Option.some.injEq] at hs
      subst hs
      exact ⟨rfl, rfl⟩
  | loaded entry recRing =>
      simp only [hpc, Option.some.injEq] at hs
      subst hs
      exact ⟨rfl, rfl⟩

theorem step_drained {s t : State} (a : Act) (h : Drained s) (hs : step s a = some t) : Drained t := by
  cases a with
  | tick now =>
      simp only [step, Option.ite_none_right_eq_some, Option.some.injEq] at hs
      obtain ⟨-, rfl⟩ := hs
      exact h
  | capture pcm =>
      cases hs
      exact h
  | encode =>
      obtain ⟨hmain, hrecorder⟩ := encodeStep_frame hs
      rw [Drained, hmain, hrecorder]
      exact h
  | video frame env =>
      cases hmain : s.main <;> simp only [step, hmain, reduceCtorEq, Option.some.injEq] at hs
      subst hs
      exact videoStep_drained hmain frame env
  | command c =>
      cases hmain : s.main <;> simp only [step, hmain, reduceCtorEq, Option.some.injEq] at hs
      subst hs
      trivial
  | main => exact mainStep_drained h hs

/-- However the pushes fall between the pops, the frame that is written has the
packets that one drain of the entries taken would give. -/
theorem drain_interleaved {s t : State} (hstart : Initial s) (h : Reaches step s t) : Drained t := by
  refine h.invariant Drained ?_ fun _ a _ hi _ hs => step_drained a hi hs
  rw [Drained, hstart.main]
  trivial

/-- A recorder with audio in front of the loop, nothing captured yet. -/
def idle : State where
  now := 0
  capRing := []
  encoder := .waiting
  recRing := false
  audioRing := []
  recorder := ⟨star6eTsRecorderInit 48000 2, []⟩
  main := .loop
  starts := 0
  startedAt := 0
  written := []

theorem idle_initial : Initial idle := ⟨rfl, rfl, rfl, rfl, rfl⟩

def openEnv : OpenEnv := ⟨⟨0, 0⟩, true, [], ⟨0, 0⟩⟩

/-- A start as the loop carries it out, with the file it opens. -/
def startUp : List Act := [.command (.startTs true ['r'] ⟨0, ⟨0, 0⟩, openEnv⟩), .main, .main, .main]

/-- A frame captured, popped and pushed. -/
def pushed (now : UInt64) : List Act := [.tick now, .capture [1, 2], .encode, .encode, .encode]

def videoFrame : Act := .video ⟨[0, 0, 0, 1], 0, false⟩ ⟨0, ⟨0, 0⟩, openEnv, [], []⟩

def nothingLeft (s : State) : Act → Bool
  | .main => match s.main with
    | .attached true _ _ => s.audioRing.isEmpty && s.capRing.isEmpty && (onItsWay s.encoder).isEmpty
    | _ => true
  | _ => true

theorem nothingLeft_spec (s : State) (a : Act) (h : nothingLeft s a = true) : NothingLeft s a := by
  cases a with
  | main =>
      rw [nothingLeft] at h
      rw [NothingLeft]
      split at h
      · simp only [Bool.and_eq_true, List.isEmpty_iff] at h
        exact fun _ => ⟨h.1.1, h.1.2, h.2⟩
      · trivial
  | tick | capture | encode | video | command => trivial

/-- One recording with one audio frame. -/
def oneFrame : List Act := startUp ++ pushed 1000 ++ [videoFrame, .main, .main]

theorem own_audio_one_frame :
    ∃ t, runIf step nothingLeft idle oneFrame = some t ∧ t.written.length = 1 ∧ AllOwn t := by
  have hrun : (runIf step nothingLeft idle oneFrame).map (fun t => t.written.length) = some 1 := by decide
  obtain ⟨t, ht, hlength⟩ := Option.map_eq_some_iff.mp hrun
  exact ⟨t, ht, hlength, own_audio idle_initial (path_of_runIf oneFrame nothingLeft_spec ht)⟩

/-- A frame is pushed behind the last drain of a recording, and another
recording is started. -/
def leftBehind : List Act :=
  startUp ++ [videoFrame, .main] ++ pushed 1000 ++ [.command .stop, .main, .tick 2000] ++ startUp ++
    [videoFrame, .main, .main]

/-- What the log says of a PES. -/
def Pes.stamps (p : Pes) : (Nat × Nat) × (UInt64 × UInt64) :=
  ((p.queued.starts, p.recording), (p.queued.entry.timestampUs, p.startedAt))

theorem earlier_audio_written : Initial idle ∧ ∃ t, run step idle leftBehind = some t ∧ ¬ AllOwn t := by
  have hrun : (run step idle leftBehind).map (fun t => t.written.map Pes.stamps) = some [((1, 2), (1000, 2000))] := by
    decide
  obtain ⟨t, ht, hwritten⟩ := Option.map_eq_some_iff.mp hrun
  obtain ⟨p, hp, hstamps⟩ := List.map_eq_singleton_iff.mp hwritten
  refine ⟨idle_initial, t, ht, fun hown => ?_⟩
  have hpushed : p.queued.starts = p.recording := (hown p (hp ▸ List.mem_singleton_self p)).pushed
  have hearlier : (p.queued.starts, p.recording) = (1, 2) := congrArg Prod.fst hstamps
  cases (congrArg Prod.fst hearlier).symm.trans (hpushed.trans (congrArg Prod.snd hearlier))

end WaybeamVenc.OwnAudio
