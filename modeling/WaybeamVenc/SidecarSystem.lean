import WaybeamVenc.Runs
import WaybeamVenc.TimingProbe

namespace WaybeamVenc.SidecarSystem

open BigEndian VideoSender SidecarWire ClockOffset TimingProbe Runs

/-! The listener in the encoder. -/

structure SockaddrIn where
  addr : UInt32
  port : UInt16
deriving DecidableEq

structure Listener where
  sender : RtpSidecarSender
  subscriber : SockaddrIn

/-- After rtp_sidecar_sender_init with a port, on the descriptor it got. -/
def opened (fd : Nat) : Listener := ⟨⟨fd, 0, 0⟩, ⟨0, 0⟩⟩

/-- The listener with another subscription. -/
def renew (l : Listener) (expiresUs : UInt64) (src : SockaddrIn) : Listener where
  sender := { l.sender with subExpiresUs := expiresUs }
  subscriber := src

def subRefresh (l : Listener) (nowUs : UInt64) (src : SockaddrIn) : Listener := renew l (nowUs + rtpSidecarSubTtlUs) src

def sizeofSyncReq : Nat := 16

def recvBuf : Nat := 64

/-- What a datagram asks the listener for. -/
inductive Request
  | nothing
  | subscribe
  | sync (t1 : List UInt8)
deriving DecidableEq

def request (datagram : Datagram) : Request :=
  let buf := datagram.take recvBuf
  match msgType buf with
  | none => .nothing
  | some t =>
    if t = rtpSidecarMsgSubscribe then .subscribe
    else if t = rtpSidecarMsgSyncReq then
      if buf.length < sizeofSyncReq then .nothing else .sync ((buf.drop 8).take 8)
    else .nothing

/-- One iteration of the loop in rtp_sidecar_poll, with the clock where it
reads it: for t2, for t3 and for the new expiry. -/
def pollOnce (l : Listener) (src : SockaddrIn) (datagram : Datagram) (t2 t3 refreshUs : UInt64) :
    Listener × Option Datagram :=
  match request datagram with
  | .nothing => (l, none)
  | .subscribe => (subRefresh l refreshUs src, none)
  | .sync t1 => (subRefresh l refreshUs src, some (syncResp t1 t2 t3))

def pollIterations : Nat := 8

/-- rtp_sidecar_send_frame, which reads the clock for the expiry and once more
for the message. -/
def sendFrame (l : Listener) (activeUs sentUs : UInt64) (frame : FrameRecord) : Listener × Option RtpSidecarFrameExt :=
  if l.sender.fd < 0 then (l, none)
  else if subActive l.sender activeUs then
    ({ l with sender := { l.sender with frameId := l.sender.frameId + 1 } },
      some ⟨frameFlags frame.encInfo, l.sender.frameId, frame, sentUs⟩)
  else (l, none)

theorem sendFrame_eq (l : Listener) (nowUs : UInt64) (frame : FrameRecord) :
    ((sendFrame l nowUs nowUs frame).2, (sendFrame l nowUs nowUs frame).1.sender) = rtpSidecarSendFrame l.sender nowUs frame := by
  unfold sendFrame rtpSidecarSendFrame
  split
  · rfl
  · split <;> rfl

/-! The encoder and the probe with the network between them. -/

/-- What the listener did, and when by its own clock, for the record. -/
inductive Event
  | heard (time : Nat) (src : SockaddrIn)
  | frame (time : Nat) (dest : SockaddrIn) (m : RtpSidecarFrameExt)
  | silent (time : Nat)
deriving DecidableEq

/-- A clock in microseconds, which at a moment shows a number and never goes
back: how fast it goes, and where it began, is its own. -/
structure Clock where
  reading : Nat → Nat
  forward : Monotone reading

/-- What a machine reads from its clock. -/
def Clock.us (c : Clock) (moment : Nat) : UInt64 := UInt64.ofNat (c.reading moment)

/-- A clock that began at a number and counts every moment. -/
def Clock.since (start : Nat) : Clock := ⟨fun moment => start + moment, fun _ _ h => Nat.add_le_add_left h start⟩

structure System where
  now : Nat
  venc : Listener
  polling : Option Nat
  probe : Probe
  requests : List Datagram
  sent : List (SockaddrIn × Datagram)
  events : List Event
  exchanges : List Exchange
  stored : List CacheEntry

/-- The network loses, repeats and reorders, and other hosts send the encoder
what they like; only the probe sends from the probe's address, and only the
encoder sends to it. -/
inductive Action
  | tick (d : Nat)
  | turn (d : Nat)
  | deliver (datagram : Datagram) (d : Nat)
  | pollBegin
  | pollTurn (src : SockaddrIn) (datagram : Datagram) (d2 d3 d4 : Nat)
  | pollEnd
  | frame (frame : FrameRecord) (d1 d2 : Nat)

section

-- the clocks of the probe and of the encoder, and where the probe is
variable (pClock vClock : Clock) (probeAddr : SockaddrIn)

def start (fd : Nat) : System := ⟨0, opened fd, none, started, [], [], [], [], []⟩

def turnStep (s : System) (d : Nat) : System :=
  let (probe, out) := subscribeTurn s.probe (pClock.us s.now)
  let (probe, out') := syncTurn probe (pClock.us s.now) (pClock.us (s.now + d))
  { s with now := s.now + d, probe := probe, requests := s.requests ++ (out ++ out') }

/-- The exchange that a datagram completes. -/
def completed (p : Probe) (datagram : Datagram) (recvTs : UInt64) : List Exchange :=
  let buf := datagram.take maxPkt
  let t1 := UInt64.ofNat (field buf 8 8)
  if msgType buf = some rtpSidecarMsgSyncResp ∧ sizeofSyncResp ≤ buf.length ∧ p.sync.pendingT1 ≠ 0 ∧
      t1 = p.sync.pendingT1 then
    [exchange t1 (UInt64.ofNat (field buf 16 8)) (UInt64.ofNat (field buf 24 8)) recvTs]
  else []

/-- The entry that a datagram leaves in the cache. -/
def entryFrom (datagram : Datagram) (recvTs : UInt64) : List CacheEntry :=
  let buf := datagram.take maxPkt
  if msgType buf = some rtpSidecarMsgFrame ∧ sizeofFrame ≤ buf.length then [readFrame buf recvTs] else []

def deliverStep (s : System) (datagram : Datagram) (d : Nat) : System :=
  let recvTs := pClock.us (s.now + d)
  { s with
    now := s.now + d
    probe := receive s.probe datagram recvTs
    exchanges := s.exchanges ++ completed s.probe datagram recvTs
    stored := s.stored ++ entryFrom datagram recvTs }

def pollStep (s : System) (iter : Nat) (src : SockaddrIn) (datagram : Datagram) (d2 d3 d4 : Nat) : System :=
  let r2 := s.now + d2
  let r3 := r2 + d3
  let r4 := r3 + d4
  let (venc, reply) := pollOnce s.venc src datagram (vClock.us r2) (vClock.us r3) (vClock.us r4)
  { s with
    now := r4
    venc := venc
    polling := some (iter + 1)
    sent := s.sent ++ reply.toList.map (src, ·)
    events := if request datagram = .nothing then s.events else .heard (vClock.reading r4) src :: s.events }

def frameStep (s : System) (frame : FrameRecord) (d1 d2 : Nat) : System :=
  let r1 := s.now + d1
  let r2 := r1 + d2
  let (venc, message) := sendFrame s.venc (vClock.us r1) (vClock.us r2) frame
  { s with
    now := r2
    venc := venc
    sent := s.sent ++ message.toList.map fun m => (s.venc.subscriber, frameBytes m)
    events := (match message with
      | some m => .frame (vClock.reading r1) s.venc.subscriber m
      | none => .silent (vClock.reading r1)) :: s.events }

def move (s : System) : Action → Option System
  | .tick d => some { s with now := s.now + d }
  | .turn d => some (turnStep pClock s d)
  | .deliver datagram d => if (probeAddr, datagram) ∈ s.sent then some (deliverStep pClock s datagram d) else none
  | .pollBegin => if s.polling = none then some { s with polling := some 0 } else none
  | .pollTurn src datagram d2 d3 d4 =>
    match s.polling with
    | none => none
    | some iter =>
      if iter < pollIterations ∧ (src = probeAddr → datagram ∈ s.requests) then
        some (pollStep vClock s iter src datagram d2 d3 d4)
      else none
  | .pollEnd => if s.polling = none then none else some { s with polling := none }
  | .frame frame d1 d2 => if s.polling = none then some (frameStep vClock s frame d1 d2) else none

/-- Clocks that have not run for tens of thousands of years. -/
def InRange (s : System) : Prop := pClock.reading s.now < 2 ^ 60 ∧ vClock.reading s.now < 2 ^ 60

instance (s : System) : Decidable (InRange pClock vClock s) := by unfold InRange; infer_instance

def step (s : System) (a : Action) : Option System :=
  (move pClock vClock probeAddr s a).filter fun t => decide (InRange pClock vClock t)

end

variable {pClock vClock : Clock} {probeAddr : SockaddrIn} {s t : System} {a : Action}

theorem step_some (h : step pClock vClock probeAddr s a = some t) :
    move pClock vClock probeAddr s a = some t ∧ InRange pClock vClock t := by
  simpa [step] using h

theorem Clock.toNat_us {c : Clock} {moment : Nat} (h : c.reading moment < 2 ^ 60) : (c.us moment).toNat = c.reading moment := by
  rw [Clock.us, UInt64.toNat_ofNat']
  omega

-- not by definition: the kernel would compare the expiries as well
@[simp] theorem renew_fd (l : Listener) (expiresUs : UInt64) (src : SockaddrIn) :
    (renew l expiresUs src).sender.fd = l.sender.fd := (rfl)

@[simp] theorem renew_frameId (l : Listener) (expiresUs : UInt64) (src : SockaddrIn) :
    (renew l expiresUs src).sender.frameId = l.sender.frameId := (rfl)

@[simp] theorem renew_subExpiresUs (l : Listener) (expiresUs : UInt64) (src : SockaddrIn) :
    (renew l expiresUs src).sender.subExpiresUs = expiresUs := (rfl)

@[simp] theorem renew_subscriber (l : Listener) (expiresUs : UInt64) (src : SockaddrIn) :
    (renew l expiresUs src).subscriber = src := (rfl)

theorem request_subscribe : request subscribe = .subscribe := by decide

theorem request_syncReq (t1 : UInt64) : request (syncReq t1) = .sync (bytes 8 t1.toNat) := by
  have hbuf : (syncReq t1).take recvBuf = syncReq t1 := by
    apply List.take_of_length_le
    simp [length_syncReq, recvBuf]
  simp only [request, hbuf, msgType_syncReq, length_syncReq, sizeofSyncReq]
  simp [syncReq, rtpSidecarMsgSyncReq, rtpSidecarMsgSubscribe, List.take_of_length_le]

theorem length_of_request_sync {datagram : Datagram} {t1 : List UInt8} (h : request datagram = .sync t1) : t1.length = 8 := by
  simp only [request] at h
  split at h
  · cases h
  · split at h
    · cases h
    · split at h
      · split at h
        · cases h
        · next hlen =>
          cases h
          simp [sizeofSyncReq] at hlen ⊢
          omega
      · cases h

end WaybeamVenc.SidecarSystem
