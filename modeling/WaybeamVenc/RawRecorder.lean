import WaybeamVenc.HevcRtp
import WaybeamVenc.Runs
import WaybeamVenc.TsRecorder

namespace WaybeamVenc.RawRecorder

open CNumber HevcRtp Runs
open TsRecorder (WriteRet StopReason recorderSyncDefaultFrames recorderMinFreeBytes recorderSpaceCheckInterval)

/-- Star6eRecorderState; fd says whether a file is open. The counter of bytes
has 64 bits, which no file fills. -/
structure Star6eRecorderState where
  fd : Bool
  bytesWritten : Nat
  framesWritten : UInt32
  syncIntervalFrames : UInt32
  framesSinceSync : UInt32
  spaceCheckCountdown : UInt32
  lastStopReason : StopReason
deriving DecidableEq

def star6eRecorderInit : Star6eRecorderState := ⟨false, 0, 0, recorderSyncDefaultFrames, 0, 0, .manual⟩

def stopWithReason (state : Star6eRecorderState) (reason : StopReason) : Star6eRecorderState :=
  if state.fd then { state with fd := false, lastStopReason := reason } else state

def star6eRecorderStop (state : Star6eRecorderState) : Star6eRecorderState := stopWithReason state .manual

/-- What writev_retry puts into the file and returns, the error of errno being
whether it is ENOSPC; behind the list every call is complete. -/
def writevRetry : List WriteRet → List (List UInt8) → List UInt8 × Except Bool Nat × List WriteRet
  | [], iov => (iov.flatten, .ok iov.flatten.length, [])
  | .interrupted :: rets, iov => writevRetry rets iov
  | .failed noSpace :: rets, _ => ([], .error noSpace, rets)
  | .wrote n :: rets, iov => (iov.flatten.take n, .ok (min n iov.flatten.length), rets)

/-- Where the writes of a call have got to. -/
structure Progress where
  appended : List UInt8
  total : Nat
  error : Option Bool
  rets : List WriteRet
deriving DecidableEq

/-- One writev; behind an error the function has been left. -/
def sendBatch (p : Progress) (iov : List (List UInt8)) : Progress :=
  if p.error.isSome then p
  else
    match writevRetry p.rets iov with
    | (_, .error noSpace, rets) => { p with error := some noSpace, rets }
    | (bytes, .ok written, rets) => ⟨p.appended ++ bytes, p.total + written, none, rets⟩

/-- A vector is added to the array of sixteen, which is written out first where
it is full. -/
def addVector (g : List (List UInt8) × Progress) (v : List UInt8) : List (List UInt8) × Progress :=
  if 16 ≤ g.1.length then ([v], sendBatch g.2 g.1) else (g.1 ++ [v], g.2)

def addInfo (data : List UInt8) (g : List (List UInt8) × Progress) (info : MiVencPackInfo) :
    List (List UInt8) × Progress :=
  match infoSlice data info with
  | none => g
  | some slice => addVector g slice

def addPack (g : List (List UInt8) × Progress) (pack : MiVencPack) : List (List UInt8) × Progress :=
  match pack.data with
  | none => g
  | some data =>
    if 0 < pack.packNum then (pack.packetInfo.toList.take pack.packNum).foldl (addInfo data) g
    else if data.length ≤ pack.offset then g
    else addVector g (data.drop pack.offset)

def writeVectors (rets : List WriteRet) (packs : List MiVencPack) : Progress :=
  let (iov, p) := packs.foldl addPack ([], ⟨[], 0, none, rets⟩)
  if 0 < iov.length then sendBatch p iov else p

def checkDiskSpace (state : Star6eRecorderState) (freeSpace : Nat) : Star6eRecorderState × Bool :=
  if 0 < state.spaceCheckCountdown then ({ state with spaceCheckCountdown := state.spaceCheckCountdown - 1 }, true)
  else
    let state := { state with spaceCheckCountdown := recorderSpaceCheckInterval }
    if 0 < freeSpace ∧ freeSpace < recorderMinFreeBytes then (stopWithReason state .diskFull, false) else (state, true)

/-- A recorder, the file that it opened last, and every byte it was given to
write since. -/
structure Recording where
  state : Star6eRecorderState
  file : List UInt8
  offered : List UInt8
deriving DecidableEq

def star6eRecorderStart (r : Recording) (dir : CString) (freeSpace : Nat) (opens : Bool) : Recording × Int :=
  if dir = [] then (r, -1)
  else
    let state := star6eRecorderStop r.state
    if 0 < freeSpace ∧ freeSpace < recorderMinFreeBytes then
      ({ r with state := { state with lastStopReason := .diskFull } }, -1)
    else if opens then
      (⟨{ state with
          fd := true, bytesWritten := 0, framesWritten := 0, framesSinceSync := 0
          spaceCheckCountdown := recorderSpaceCheckInterval, lastStopReason := .manual }, [], []⟩, 0)
    else ({ r with state := state }, -1)

def synced (state : Star6eRecorderState) : Star6eRecorderState :=
  if 0 < state.syncIntervalFrames ∧ state.syncIntervalFrames ≤ state.framesSinceSync then
    { state with framesSinceSync := 0 }
  else state

/-- The NAL bytes of a pack, in the vectors they are written from. -/
def packVectors (pack : MiVencPack) : List (List UInt8) :=
  match pack.data with
  | none => []
  | some data =>
    if 0 < pack.packNum then (pack.packetInfo.toList.take pack.packNum).filterMap (infoSlice data)
    else if data.length ≤ pack.offset then []
    else [data.drop pack.offset]

def frameVectors (packs : List MiVencPack) : List (List UInt8) := packs.flatMap packVectors

def writeFrame (r : Recording) (packs : List MiVencPack) (freeSpace : Nat) (rets : List WriteRet) :
    Recording × Int :=
  let (state, enough) := checkDiskSpace r.state freeSpace
  if enough then
    let p := writeVectors rets packs
    let file := r.file ++ p.appended
    match p.error with
    | some noSpace =>
      ({ r with state := stopWithReason state (if noSpace then .diskFull else .writeError), file }, -1)
    | none =>
      ({ r with
          state := synced { state with
            bytesWritten := state.bytesWritten + p.total
            framesWritten := state.framesWritten + 1
            framesSinceSync := state.framesSinceSync + 1 }
          file }, (Int32.ofNat p.total).toInt)
  else ({ r with state := state }, 0)

def star6eRecorderWriteFrame (r : Recording) (packs : List MiVencPack) (freeSpace : Nat) (rets : List WriteRet) :
    Recording × Int :=
  if r.state.fd then writeFrame r packs freeSpace rets else (r, 0)

inductive Act
  | start (dir : CString) (freeSpace : Nat) (opens : Bool)
  | frame (packs : List MiVencPack) (freeSpace : Nat) (rets : List WriteRet)
  | stop

/-- A call, and what it adds to the bytes given. -/
def step (r : Recording) : Act → Option Recording
  | .start dir freeSpace opens => some (star6eRecorderStart r dir freeSpace opens).1
  | .frame packs freeSpace rets =>
    let next := (star6eRecorderWriteFrame r packs freeSpace rets).1
    some { next with offered := next.offered ++ (frameVectors packs).flatten }
  | .stop => some { r with state := star6eRecorderStop r.state }

def begun : Recording := ⟨star6eRecorderInit, [], []⟩

/-- The file is a prefix of the bytes given, it is all of them while the
recorder goes on, and the counter is its length. -/
structure Sound (r : Recording) : Prop where
  before : r.file <+: r.offered
  whole : r.state.fd = true → r.file = r.offered
  counted : r.state.bytesWritten = r.file.length

/-- The arrays of vectors that a frame is written out in, some already pending. -/
def batches (pending : List (List UInt8)) : List (List UInt8) → List (List (List UInt8))
  | [] => if 0 < pending.length then [pending] else []
  | v :: vs => if 16 ≤ pending.length then pending :: batches [v] vs else batches (pending ++ [v]) vs

def answers (rets : List WriteRet) : List WriteRet := rets.filter (· ≠ .interrupted)

/-- A call that writes every byte it is given. -/
def Complete (iov : List (List UInt8)) (ret : Option WriteRet) : Prop :=
  ret = none ∨ ∃ n, ret = some (.wrote n) ∧ iov.flatten.length ≤ n

def AllComplete (rets : List WriteRet) (calls : List (List (List UInt8))) : Prop :=
  ∀ i (h : i < calls.length), Complete calls[i] (answers rets)[i]?

/-- A call fails, and those before it write nothing at all. -/
def FailsAtOnce (rets : List WriteRet) (calls : List (List (List UInt8))) : Prop :=
  ∃ k < calls.length, (∃ noSpace, (answers rets)[k]? = some (.failed noSpace)) ∧
    ∀ i < k, (answers rets)[i]? = some (.wrote 0)

theorem addPack_eq (g : List (List UInt8) × Progress) (pack : MiVencPack) :
    addPack g pack = (packVectors pack).foldl addVector g := by
  rw [addPack, packVectors]
  cases pack.data with
  | none => rfl
  | some data =>
      dsimp only
      split_ifs with hlisted hempty
      · rw [List.foldl_filterMap]
        congr 1
        funext g info
        rw [addInfo]
        cases infoSlice data info with
        | none => rfl
        | some slice => rfl
      · rfl
      · rfl

theorem addVector_batches (vs : List (List UInt8)) (g : List (List UInt8) × Progress) :
    (let g := vs.foldl addVector g
     if 0 < g.1.length then sendBatch g.2 g.1 else g.2) = (batches g.1 vs).foldl sendBatch g.2 := by
  induction vs generalizing g with
  | nil =>
      rw [batches]
      dsimp only [List.foldl_nil]
      split_ifs <;> rfl
  | cons v vs ih =>
      rw [List.foldl_cons, ih, addVector, batches]
      split_ifs <;> rfl

/-- The writes of a frame are those of its arrays, one after the other. -/
theorem writeVectors_eq (rets : List WriteRet) (packs : List MiVencPack) :
    writeVectors rets packs = (batches [] (frameVectors packs)).foldl sendBatch ⟨[], 0, none, rets⟩ := by
  have hpack : addPack = fun g pack => (packVectors pack).foldl addVector g := by
    funext g pack
    exact addPack_eq g pack
  rw [writeVectors, hpack, ← List.foldl_flatMap]
  exact addVector_batches (frameVectors packs) ([], ⟨[], 0, none, rets⟩)

theorem batches_flatten (pending vs : List (List UInt8)) : (batches pending vs).flatten = pending ++ vs := by
  induction vs generalizing pending with
  | nil =>
      rw [batches]
      split_ifs with hpending
      · rw [List.flatten_singleton, List.append_nil]
      · rw [List.length_pos_iff, not_not] at hpending
        rw [hpending]
        rfl
  | cons v vs ih =>
      rw [batches]
      split_ifs with hfull
      · rw [List.flatten_cons, ih]
        rfl
      · rw [ih, List.append_assoc]
        rfl

theorem batch_ne_nil {pending vs batch : List (List UInt8)} (h : batch ∈ batches pending vs) : batch ≠ [] := by
  induction vs generalizing pending with
  | nil =>
      rw [batches] at h
      split_ifs at h with hpending
      · rw [List.mem_singleton.mp h]
        exact List.length_pos_iff.mp hpending
      · cases h
  | cons v vs ih =>
      rw [batches] at h
      split_ifs at h with hfull
      · rcases List.mem_cons.mp h with rfl | hlater
        · rintro rfl
          exact absurd hfull (by decide)
        · exact ih hlater
      · exact ih h

/-- A call that does not fail writes n bytes. -/
def Moves (iov : List (List UInt8)) (answer : Option WriteRet) (n : Nat) : Prop :=
  answer = none ∧ n = iov.flatten.length ∨ ∃ m, answer = some (.wrote m) ∧ n = min m iov.flatten.length

theorem Moves.le {iov : List (List UInt8)} {answer : Option WriteRet} {n : Nat} (h : Moves iov answer n) :
    n ≤ iov.flatten.length := by
  rcases h with ⟨-, hall⟩ | ⟨m, -, hmin⟩
  · exact hall.le
  · exact hmin.le.trans (Nat.min_le_right _ _)

theorem Moves.complete_iff {iov : List (List UInt8)} {answer : Option WriteRet} {n : Nat} (h : Moves iov answer n) :
    Complete iov answer ↔ n = iov.flatten.length := by
  rw [Complete]
  rcases h with ⟨hnone, hall⟩ | ⟨m, hsome, hmin⟩
  · exact ⟨fun _ => hall, fun _ => .inl hnone⟩
  · rw [hsome]
    simp only [reduceCtorEq, Option.some.injEq, WriteRet.wrote.injEq, exists_eq_left', false_or]
    omega

theorem Moves.not_failed {iov : List (List UInt8)} {answer : Option WriteRet} {n : Nat} (h : Moves iov answer n) :
    ¬ ∃ noSpace, answer = some (.failed noSpace) := by
  rintro ⟨noSpace, hfailed⟩
  rcases h with ⟨hnone, -⟩ | ⟨m, hsome, -⟩
  · cases hnone.symm.trans hfailed
  · cases hsome.symm.trans hfailed

theorem Moves.zero_iff {iov : List (List UInt8)} {answer : Option WriteRet} {n : Nat} (h : Moves iov answer n)
    (hiov : 0 < iov.flatten.length) : answer = some (.wrote 0) ↔ n = 0 := by
  rcases h with ⟨hnone, hall⟩ | ⟨m, hsome, hmin⟩
  · rw [hnone]
    constructor
    · intro h
      cases h
    · intro h
      omega
  · rw [hsome, Option.some.injEq, WriteRet.wrote.injEq]
    omega

/-- One writev, as the first answer that is not an interruption decides it. -/
inductive Attempt (p : Progress) (iov : List (List UInt8)) : Progress → Prop
  | fails (noSpace : Bool) (rets : List WriteRet) (hanswer : (answers p.rets).head? = some (.failed noSpace))
      (hrest : answers rets = (answers p.rets).tail) : Attempt p iov ⟨p.appended, p.total, some noSpace, rets⟩
  | writes (n : Nat) (rets : List WriteRet) (hanswer : Moves iov (answers p.rets).head? n)
      (hrest : answers rets = (answers p.rets).tail) :
      Attempt p iov ⟨p.appended ++ iov.flatten.take n, p.total + n, none, rets⟩

theorem sendBatch_attempt {p : Progress} (hp : p.error = none) (iov : List (List UInt8)) :
    Attempt p iov (sendBatch p iov) := by
  obtain ⟨appended, total, error, rets⟩ := p
  cases hp
  induction rets with
  | nil =>
      have hall : iov.flatten.take iov.flatten.length = iov.flatten := List.take_length
      have h := @Attempt.writes ⟨appended, total, none, []⟩ iov iov.flatten.length [] (.inl ⟨rfl, rfl⟩) rfl
      rw [hall] at h
      exact h
  | cons ret rets ih =>
      cases ret with
      | interrupted =>
          -- an interrupted call is made again and answered by what follows
          have hsame : sendBatch ⟨appended, total, none, .interrupted :: rets⟩ iov =
              sendBatch ⟨appended, total, none, rets⟩ iov := rfl
          rw [hsame]
          cases hsent : sendBatch ⟨appended, total, none, rets⟩ iov with
          | mk appended' total' error' rets' =>
              rw [hsent] at ih
              cases ih with
              | fails noSpace _ hanswer hrest => exact .fails noSpace rets' hanswer hrest
              | writes n _ hanswer hrest => exact .writes n rets' hanswer hrest
      | failed noSpace => exact .fails noSpace rets rfl rfl
      | wrote n =>
          have hall : iov.flatten.take (min n iov.flatten.length) = iov.flatten.take n := by
            rw [← List.take_take, List.take_length]
          have h := @Attempt.writes ⟨appended, total, none, .wrote n :: rets⟩ iov (min n iov.flatten.length) rets
            (.inr ⟨n, rfl, rfl⟩) rfl
          rw [hall] at h
          exact h

theorem sendBatch_of_error {p : Progress} {noSpace : Bool} (hp : p.error = some noSpace)
    (calls : List (List (List UInt8))) : calls.foldl sendBatch p = p := by
  induction calls with
  | nil => rfl
  | cons call calls ih =>
      have hskip : sendBatch p call = p := by
        rw [sendBatch, hp]
        rfl
      rw [List.foldl_cons, hskip, ih]

theorem allComplete_cons {rets rets' : List WriteRet} (hrest : answers rets' = (answers rets).tail)
    (call : List (List UInt8)) (calls : List (List (List UInt8))) :
    AllComplete rets (call :: calls) ↔ Complete call (answers rets).head? ∧ AllComplete rets' calls := by
  have hnext : ∀ i, (answers rets)[i + 1]? = (answers rets')[i]? := by
    intro i
    rw [hrest, List.getElem?_tail]
  constructor
  · intro h
    constructor
    · rw [List.head?_eq_getElem?]
      exact h 0 (Nat.succ_pos _)
    · intro i hi
      rw [← hnext]
      exact h (i + 1) (Nat.succ_lt_succ hi)
  · rintro ⟨hfirst, hothers⟩ i hi
    cases i with
    | zero =>
        rw [List.head?_eq_getElem?] at hfirst
        exact hfirst
    | succ i =>
        rw [hnext]
        exact hothers i (Nat.lt_of_succ_lt_succ hi)

theorem failsAtOnce_cons {rets rets' : List WriteRet} (hrest : answers rets' = (answers rets).tail)
    (call : List (List UInt8)) (calls : List (List (List UInt8))) :
    FailsAtOnce rets (call :: calls) ↔ (∃ noSpace, (answers rets).head? = some (.failed noSpace)) ∨
      (answers rets).head? = some (.wrote 0) ∧ FailsAtOnce rets' calls := by
  have hnext : ∀ i, (answers rets)[i + 1]? = (answers rets')[i]? := by
    intro i
    rw [hrest, List.getElem?_tail]
  rw [List.head?_eq_getElem?]
  constructor
  · rintro ⟨k, hk, hfails, hnothing⟩
    cases k with
    | zero => exact .inl hfails
    | succ k =>
        refine .inr ⟨hnothing 0 (Nat.succ_pos k), k, Nat.lt_of_succ_lt_succ hk, ?_, ?_⟩
        · rw [← hnext]
          exact hfails
        · intro i hi
          rw [← hnext]
          exact hnothing (i + 1) (Nat.succ_lt_succ hi)
  · rintro (hfails | ⟨hfirst, k, hk, hfails, hnothing⟩)
    · exact ⟨0, Nat.succ_pos _, hfails, fun i hi => absurd hi (Nat.not_lt_zero i)⟩
    · refine ⟨k + 1, Nat.succ_lt_succ hk, ?_, ?_⟩
      · rw [hnext]
        exact hfails
      · intro i hi
        cases i with
        | zero => exact hfirst
        | succ i =>
            rw [hnext]
            exact hnothing i (Nat.lt_of_succ_lt_succ hi)

/-- What the writes of some calls have added when they end. -/
structure Written (calls : List (List (List UInt8))) (p r : Progress) (bytes : List UInt8) : Prop where
  appended : r.appended = p.appended ++ bytes
  total : r.error = none → r.total = p.total + bytes.length
  bounded : bytes.length ≤ calls.flatten.flatten.length
  complete_iff : AllComplete p.rets calls ↔ r.error = none ∧ bytes = calls.flatten.flatten
  fails_iff : FailsAtOnce p.rets calls ↔ r.error ≠ none ∧ bytes = []

theorem Written.cons {call : List (List UInt8)} {calls : List (List (List UInt8))} {p r : Progress} {n : Nat}
    {rets : List WriteRet} {bytes : List UInt8} (hcall : 0 < call.flatten.length)
    (hmoves : Moves call (answers p.rets).head? n) (hrest : answers rets = (answers p.rets).tail)
    (h : Written calls ⟨p.appended ++ call.flatten.take n, p.total + n, none, rets⟩ r bytes) :
    Written (call :: calls) p r (call.flatten.take n ++ bytes) := by
  have htake : (call.flatten.take n).length = n := List.length_take_of_le hmoves.le
  have hempty : call.flatten.take n = [] ↔ n = 0 := by rw [← List.length_eq_zero_iff, htake]
  constructor
  · rw [h.appended, List.append_assoc]
  · intro herror
    rw [h.total herror, List.length_append, htake]
    exact Nat.add_assoc _ _ _
  · rw [List.flatten_cons, List.flatten_append, List.length_append, List.length_append, htake]
    exact Nat.add_le_add hmoves.le h.bounded
  · rw [allComplete_cons hrest, hmoves.complete_iff, h.complete_iff, List.flatten_cons, List.flatten_append]
    constructor
    · rintro ⟨hall, herror, hbytes⟩
      rw [hall, List.take_length, hbytes]
      exact ⟨herror, rfl⟩
    · rintro ⟨herror, hbytes⟩
      -- what follows is no longer than its vectors, so this call was not short
      have hlength := congrArg List.length hbytes
      rw [List.length_append, List.length_append, htake] at hlength
      have hall : n = call.flatten.length := by
        have hle := hmoves.le
        have hbounded := h.bounded
        omega
      rw [hall, List.take_length] at hbytes
      exact ⟨hall, herror, List.append_cancel_left hbytes⟩
  · rw [failsAtOnce_cons hrest, or_iff_right hmoves.not_failed, hmoves.zero_iff hcall, h.fails_iff,
      List.append_eq_nil_iff, hempty]
    exact ⟨fun h => ⟨h.2.1, h.1, h.2.2⟩, fun h => ⟨h.2.1, h.1, h.2.2⟩⟩

theorem sendBatches_written {calls : List (List (List UInt8))} (hcalls : ∀ call ∈ calls, call.flatten ≠ [])
    {p : Progress} (hp : p.error = none) : ∃ bytes, Written calls p (calls.foldl sendBatch p) bytes := by
  induction calls generalizing p with
  | nil =>
      refine ⟨[], (List.append_nil _).symm, fun _ => rfl, le_refl _, ?_, ?_⟩
      · exact ⟨fun _ => ⟨hp, rfl⟩, fun _ i hi => absurd hi (Nat.not_lt_zero i)⟩
      · constructor
        · rintro ⟨k, hk, -⟩
          cases hk
        · rintro ⟨herror, -⟩
          exact absurd hp herror
  | cons call calls ih =>
      obtain ⟨hcall, hothers⟩ := List.forall_mem_cons.mp hcalls
      have hpos : 0 < call.flatten.length := List.length_pos_iff.mpr hcall
      have hattempt := sendBatch_attempt hp call
      rw [List.foldl_cons]
      generalize sendBatch p call = q at hattempt
      cases hattempt with
      | fails noSpace rets hanswer hrest =>
          rw [sendBatch_of_error rfl]
          refine ⟨[], (List.append_nil _).symm, fun h => absurd h (Option.some_ne_none noSpace), Nat.zero_le _, ?_, ?_⟩
          · rw [allComplete_cons hrest, hanswer]
            constructor
            · rintro ⟨h | ⟨n, h, -⟩, -⟩
              · cases h
              · cases h
            · rintro ⟨h, -⟩
              cases h
          · rw [failsAtOnce_cons hrest]
            exact ⟨fun _ => ⟨Option.some_ne_none noSpace, rfl⟩, fun _ => .inl ⟨noSpace, hanswer⟩⟩
      | writes n rets hanswer hrest =>
          obtain ⟨bytes, hwritten⟩ := @ih hothers ⟨p.appended ++ call.flatten.take n, p.total + n, none, rets⟩ rfl
          exact ⟨_, hwritten.cons hpos hanswer hrest⟩

/-! A call from a recorder that is sound. -/

/-- The call writes to the file: a recording is open and the periodic check
does not end it. -/
def Writes (state : Star6eRecorderState) (freeSpace : Nat) : Prop :=
  state.fd = true ∧ (0 < state.spaceCheckCountdown ∨ freeSpace = 0 ∨ recorderMinFreeBytes ≤ freeSpace)

/-- Every array of a frame that is written goes out whole, or the first write
that does anything fails. -/
def Kept (r : Recording) : Act → Prop
  | .frame packs freeSpace rets =>
    Writes r.state freeSpace →
      AllComplete rets (batches [] (frameVectors packs)) ∨ FailsAtOnce rets (batches [] (frameVectors packs))
  | _ => True

theorem checkDiskSpace_writes {state : Star6eRecorderState} {freeSpace : Nat} (h : Writes state freeSpace) :
    ∃ countdown, checkDiskSpace state freeSpace = ({ state with spaceCheckCountdown := countdown }, true) := by
  rw [checkDiskSpace]
  by_cases hcountdown : 0 < state.spaceCheckCountdown
  · rw [if_pos hcountdown]
    exact ⟨_, rfl⟩
  · have hspace : ¬ (0 < freeSpace ∧ freeSpace < recorderMinFreeBytes) := by
      have hbound := h.2.resolve_left hcountdown
      omega
    rw [if_neg hcountdown]
    simp only [if_neg hspace]
    exact ⟨_, rfl⟩

theorem stopWithReason_fd (state : Star6eRecorderState) (reason : StopReason) :
    (stopWithReason state reason).fd = false ∧ (stopWithReason state reason).bytesWritten = state.bytesWritten := by
  rw [stopWithReason]
  cases hfd : state.fd with
  | true => exact ⟨rfl, rfl⟩
  | false => exact ⟨hfd, rfl⟩

/-- A write call that writes nothing leaves the file and the counter, and the
recorder open only where it was not. -/
theorem writeFrame_idle {r : Recording} {packs : List MiVencPack} {freeSpace : Nat} {rets : List WriteRet}
    (h : ¬ Writes r.state freeSpace) :
    (star6eRecorderWriteFrame r packs freeSpace rets).1.file = r.file ∧
      (star6eRecorderWriteFrame r packs freeSpace rets).1.offered = r.offered ∧
      (star6eRecorderWriteFrame r packs freeSpace rets).1.state.fd = false ∧
      (star6eRecorderWriteFrame r packs freeSpace rets).1.state.bytesWritten = r.state.bytesWritten := by
  rw [star6eRecorderWriteFrame]
  cases hfd : r.state.fd with
  | false => exact ⟨rfl, rfl, hfd, rfl⟩
  | true =>
      rw [Writes, not_and] at h
      have hlow := h hfd
      have hcheck : checkDiskSpace r.state freeSpace =
          (stopWithReason { r.state with spaceCheckCountdown := recorderSpaceCheckInterval } .diskFull, false) := by
        rw [checkDiskSpace, if_neg (fun hcountdown => hlow (.inl hcountdown))]
        exact if_pos ⟨by omega, by omega⟩
      simp only [if_true, writeFrame, hcheck, Bool.false_eq_true, if_false]
      exact ⟨trivial, trivial, stopWithReason_fd _ _⟩

theorem infoSlice_ne_nil {data slice : List UInt8} {info : MiVencPackInfo} (h : infoSlice data info = some slice) :
    slice ≠ [] := by
  rw [infoSlice] at h
  split_ifs at h with hinvalid
  rw [Option.some.injEq] at h
  rw [← h, ← List.length_pos_iff, List.length_take, List.length_drop]
  omega

theorem frameVectors_ne_nil {packs : List MiVencPack} {v : List UInt8} (h : v ∈ frameVectors packs) : v ≠ [] := by
  obtain ⟨pack, -, hv⟩ := List.mem_flatMap.mp h
  rw [packVectors] at hv
  cases hdata : pack.data with
  | none =>
      rw [hdata] at hv
      cases hv
  | some data =>
      rw [hdata] at hv
      dsimp only at hv
      split_ifs at hv with hlisted hempty
      · obtain ⟨info, -, hslice⟩ := List.mem_filterMap.mp hv
        exact infoSlice_ne_nil hslice
      · cases hv
      · rw [List.mem_singleton.mp hv, ← List.length_pos_iff, List.length_drop]
        omega

/-- Every array has a byte to write. -/
theorem batch_bytes_ne_nil {packs : List MiVencPack} {batch : List (List UInt8)}
    (h : batch ∈ batches [] (frameVectors packs)) : batch.flatten ≠ [] := by
  obtain ⟨v, hv⟩ := List.exists_mem_of_ne_nil batch (batch_ne_nil h)
  have hmem : v ∈ frameVectors packs := by
    rw [← List.nil_append (frameVectors packs), ← batches_flatten]
    exact List.mem_flatten_of_mem h hv
  intro hempty
  exact frameVectors_ne_nil hmem (List.flatten_eq_nil_iff.mp hempty v hv)

/-- What a call that writes does: an error ends the recording and is not
counted, anything else goes on. -/
structure FrameWritten (r next : Recording) (packs : List MiVencPack) (rets : List WriteRet) (bytes : List UInt8) :
    Prop where
  file : next.file = r.file ++ bytes
  offered : next.offered = r.offered
  counted : next.state.bytesWritten = r.state.bytesWritten + if next.state.fd then bytes.length else 0
  complete_iff : AllComplete rets (batches [] (frameVectors packs)) ↔
    next.state.fd = true ∧ bytes = (frameVectors packs).flatten
  fails_iff : FailsAtOnce rets (batches [] (frameVectors packs)) ↔ next.state.fd = false ∧ bytes = []

theorem synced_frame (state : Star6eRecorderState) :
    (synced state).fd = state.fd ∧ (synced state).bytesWritten = state.bytesWritten := by
  rw [synced]
  split_ifs <;> exact ⟨rfl, rfl⟩

theorem writeFrame_written {r : Recording} (packs : List MiVencPack) {freeSpace : Nat} (rets : List WriteRet)
    (hwrites : Writes r.state freeSpace) :
    ∃ bytes, FrameWritten r (star6eRecorderWriteFrame r packs freeSpace rets).1 packs rets bytes := by
  obtain ⟨countdown, hcheck⟩ := checkDiskSpace_writes hwrites
  obtain ⟨bytes, hwritten⟩ := @sendBatches_written (batches [] (frameVectors packs))
    (fun _ h => batch_bytes_ne_nil h) ⟨[], 0, none, rets⟩ rfl
  have hcomplete := hwritten.complete_iff
  have hfails := hwritten.fails_iff
  rw [← writeVectors_eq] at hwritten hcomplete hfails
  rw [batches_flatten, List.nil_append] at hcomplete
  refine ⟨bytes, ?_⟩
  rw [star6eRecorderWriteFrame, if_pos hwrites.1, writeFrame, hcheck]
  have happended := hwritten.appended
  have htotal := hwritten.total
  rw [List.nil_append] at happended
  rw [Nat.zero_add] at htotal
  simp only [if_true, happended]
  cases herror : (writeVectors rets packs).error with
  | some noSpace =>
      rw [herror] at hcomplete hfails
      obtain ⟨hfd, hcount⟩ := stopWithReason_fd { r.state with spaceCheckCountdown := countdown }
        (if noSpace then .diskFull else .writeError)
      refine ⟨rfl, rfl, ?_, ?_, ?_⟩
      · rw [hcount, hfd]
        rfl
      · rw [hcomplete, hfd]
        exact ⟨fun h => absurd h.1 (Option.some_ne_none noSpace), fun h => absurd h.1 Bool.false_ne_true⟩
      · rw [hfails, hfd]
        exact and_congr_left fun _ => ⟨fun _ => rfl, fun _ => Option.some_ne_none noSpace⟩
  | none =>
      rw [herror] at hcomplete hfails
      have hopen := hwrites.1
      refine ⟨rfl, rfl, ?_, ?_, ?_⟩
      · rw [(synced_frame _).1, (synced_frame _).2, htotal herror]
        simp only [hopen, if_true]
      · rw [hcomplete, (synced_frame _).1]
        exact and_congr_left fun _ => ⟨fun _ => hopen, fun _ => rfl⟩
      · rw [hfails, (synced_frame _).1]
        exact ⟨fun h => absurd rfl h.1, fun h => absurd (hopen.symm.trans h.1) Bool.false_ne_true.symm⟩

/-- From a sound recorder, a frame that is written leaves a sound one exactly
when it goes out whole or not at all. -/
theorem FrameWritten.sound_iff {r next : Recording} {packs : List MiVencPack} {rets : List WriteRet}
    {bytes : List UInt8} (h : FrameWritten r next packs rets bytes) (hr : Sound r) (hopen : r.state.fd = true) :
    Sound { next with offered := next.offered ++ (frameVectors packs).flatten } ↔
      AllComplete rets (batches [] (frameVectors packs)) ∨ FailsAtOnce rets (batches [] (frameVectors packs)) := by
  have hwhole := hr.whole hopen
  rw [h.complete_iff, h.fails_iff]
  cases hfd : next.state.fd with
  | true =>
      have hcounted := h.counted
      rw [hfd, if_pos rfl, hr.counted] at hcounted
      constructor
      · intro hsound
        have hall := hsound.whole hfd
        rw [h.file, h.offered, hwhole] at hall
        exact .inl ⟨rfl, List.append_cancel_left hall⟩
      · rintro (⟨-, hbytes⟩ | ⟨hclosed, -⟩)
        · have hfile : next.file = next.offered ++ (frameVectors packs).flatten := by
            rw [h.file, h.offered, hwhole, hbytes]
          refine ⟨?_, fun _ => hfile, ?_⟩
          · exact ⟨[], by rw [List.append_nil, hfile]⟩
          · rw [hcounted, h.file, List.length_append]
        · cases hclosed
  | false =>
      have hcounted := h.counted
      rw [hfd, if_neg Bool.false_ne_true, hr.counted, Nat.add_zero] at hcounted
      constructor
      · intro hsound
        have hlength := hsound.counted
        rw [hcounted, h.file, List.length_append] at hlength
        exact .inr ⟨rfl, List.eq_nil_of_length_eq_zero (by omega)⟩
      · rintro (⟨hgoes, -⟩ | ⟨-, hnothing⟩)
        · cases hgoes
        · have hfile : next.file = r.file := by rw [h.file, hnothing, List.append_nil]
          refine ⟨?_, fun hgoes => ?_, ?_⟩
          · rw [hfile, h.offered, hwhole]
            exact List.prefix_append _ _
          · exact absurd (hfd.symm.trans hgoes) Bool.false_ne_true
          · rw [hcounted, hfile]

theorem stop_sound {r : Recording} (hr : Sound r) : Sound { r with state := star6eRecorderStop r.state } := by
  obtain ⟨hfd, hcount⟩ := stopWithReason_fd r.state .manual
  refine ⟨hr.before, fun hgoes => ?_, ?_⟩
  · exact absurd (hfd.symm.trans hgoes) Bool.false_ne_true
  · exact hcount.trans hr.counted

theorem start_sound {r : Recording} (hr : Sound r) (dir : CString) (freeSpace : Nat) (opens : Bool) :
    Sound (star6eRecorderStart r dir freeSpace opens).1 := by
  have hstopped := stop_sound hr
  rw [star6eRecorderStart]
  split_ifs
  · exact hr
  · exact ⟨hstopped.before, hstopped.whole, hstopped.counted⟩
  · exact ⟨List.prefix_refl _, fun _ => rfl, rfl⟩
  · exact hstopped

theorem step_sound_iff {r : Recording} {a : Act} {t : Recording} (hr : Sound r) (h : step r a = some t) :
    Sound t ↔ Kept r a := by
  cases a with
  | start dir freeSpace opens =>
      cases h
      exact ⟨fun _ => trivial, fun _ => start_sound hr dir freeSpace opens⟩
  | stop =>
      cases h
      exact ⟨fun _ => trivial, fun _ => stop_sound hr⟩
  | frame packs freeSpace rets =>
      cases h
      rw [Kept]
      by_cases hwrites : Writes r.state freeSpace
      · obtain ⟨bytes, hwritten⟩ := writeFrame_written packs rets hwrites
        rw [hwritten.sound_iff hr hwrites.1]
        exact (imp_iff_right hwrites).symm
      · obtain ⟨hfile, hoffered, hfd, hcount⟩ := @writeFrame_idle r packs freeSpace rets hwrites
        refine ⟨fun _ h => absurd h hwrites, fun _ => ⟨?_, fun hgoes => ?_, ?_⟩⟩
        · rw [hfile, hoffered]
          exact hr.before.trans (List.prefix_append _ _)
        · exact absurd (hfd.symm.trans hgoes) Bool.false_ne_true
        · exact (hcount.trans hr.counted).trans (congrArg List.length hfile.symm)

/-- In a run of calls the file stays a prefix of the frames given, the recorder
stops with the first byte that is lost and the counter stays exact, just when
every frame written goes out whole or not at all. -/
theorem recorder_sound_iff (acts : List Act) : (∀ t ∈ states step begun acts, Sound t) ↔ Meets step Kept begun acts :=
  forall_states_iff_of_start (fun _ _ _ hr h => step_sound_iff hr h) ⟨List.prefix_refl _, fun _ => rfl, rfl⟩

def nalPack (data : List UInt8) : MiVencPack := ⟨some data, 0, 0, Vector.replicate 8 ⟨0, 0, 0⟩⟩

def started : Act := .start ['/', 'm'] 0 true

/-- A short write loses two bytes of a frame and the next one follows; and a
second array that fails takes the first one out of the counter. -/
theorem short_write_goes_on :
    (∃ t ∈ states step begun [started, .frame [nalPack [1, 2, 3, 4]] 0 [.wrote 2], .frame [nalPack [5]] 0 []],
      t.file = [1, 2, 5] ∧ t.offered = [1, 2, 3, 4, 5] ∧ t.state.fd = true ∧ ¬ Sound t) ∧
      ∃ t ∈ states step begun [started, .frame (List.replicate 17 (nalPack [7])) 0 [.wrote 16, .failed true]],
        t.file.length = 16 ∧ t.state.bytesWritten = 0 ∧ ¬ Sound t := by
  constructor
  · refine ⟨⟨⟨true, 3, 2, 900, 2, 298, .manual⟩, [1, 2, 5], [1, 2, 3, 4, 5]⟩, by decide, rfl, rfl, rfl, ?_⟩
    intro h
    exact absurd (h.whole rfl) (by decide)
  · refine ⟨⟨⟨false, 0, 0, 900, 0, 299, .diskFull⟩, List.replicate 16 7, List.replicate 17 7⟩, by decide, rfl, rfl, ?_⟩
    intro h
    exact absurd h.counted (by decide)

end WaybeamVenc.RawRecorder
