import WaybeamVenc.AudioTarget
import WaybeamVenc.ByteBuffer
import WaybeamVenc.OwnAudio
import WaybeamVenc.SidecarTiling

namespace WaybeamVenc.AudioClock

open AudioTarget ByteBuffer HevcRoundTrip RtpPacketizer SidecarTiling TsRecorder

/-- Whatever is not one of the three is sent as it was captured. -/
inductive AudioType
  | g711a
  | g711u
  | opus
  | pcm
deriving DecidableEq

/-- The fields that the encode thread only reads; opusReady says that there is
an encoder and that opus_encode was found. -/
structure Star6eAudioConfig where
  codecType : AudioType
  opusReady : Bool
  channels : Nat
  isRtp : Bool
  maxPayloadSize : UInt16
  rtpFrameTicks : UInt32

structure Star6eAudioState where
  rtp : RtpPacketizerState
  recRing : Option (List AudioRingEntry)

def encBufSize : Nat := 4096

/-- A frame that was popped and what the encoder, the lookup of the target and
the sends do with it. -/
structure Capture where
  entry : AudioRingEntry
  opusEncode : List UInt8 → Nat → Int × Vector UInt8 encBufSize
  target : Option Target
  accepts : Nat → Bool

/-- The loops over exp_mask, from an exponent down to the lowest one. -/
def exponentLoop (lowest pcm : Nat) : Nat → Nat
  | 0 => 0
  | e + 1 => if pcm &&& (0x4000 >>> (6 - e)) = 0 ∧ lowest < e + 1 then exponentLoop lowest pcm e else e + 1

def pcm16ToAlaw (pcmIn : Int16) : UInt8 :=
  let sign := if pcmIn.toInt < 0 then 0x80 else 0
  let pcm := if pcmIn.toInt < 0 then (-pcmIn.toInt - 1).toNat else pcmIn.toInt.toNat
  let pcm := if 32635 < pcm then 32635 else pcm
  let exponent := if 256 ≤ pcm then exponentLoop 1 pcm 7 else 0
  let mantissa := if 256 ≤ pcm then (pcm >>> (exponent + 3)) &&& 0x0F else pcm >>> 4
  UInt8.ofNat ((sign ||| (exponent <<< 4) ||| mantissa) ^^^ 0xD5)

def pcm16ToUlaw (pcmIn : Int16) : UInt8 :=
  let sign := if pcmIn.toInt < 0 then 0x80 else 0
  let pcm := (if pcmIn.toInt < 0 then (-pcmIn.toInt).toNat else pcmIn.toInt.toNat) + 132
  let pcm := if 32767 < pcm then 32767 else pcm
  let exponent := exponentLoop 0 pcm 7
  let mantissa := (pcm >>> (exponent + 3)) &&& 0x0F
  ~~~ UInt8.ofNat (sign ||| (exponent <<< 4) ||| mantissa)

/-- The bytes of a frame as samples. -/
def samples : List UInt8 → List Int16
  | b0 :: b1 :: rest => (word16 [b0, b1]).toInt16 :: samples rest
  | _ => []

def star6eAudioEncodeG711 (codecType : AudioType) (pcm : List Int16) : List UInt8 :=
  pcm.map fun p => if codecType = .g711a then pcm16ToAlaw p else pcm16ToUlaw p

variable (cfg : Star6eAudioConfig)

/-- The bytes to send for a frame, none for one that opus_encode refuses. -/
def encode (c : Capture) : Option (List UInt8) :=
  let data := c.entry.pcm
  if data ≠ [] ∧ cfg.codecType = .opus ∧ cfg.opusReady then
    let r := c.opusEncode data (data.length / 2 / cfg.channels)
    if r.1 ≤ 0 then none else some (r.2.toList.take r.1.toNat)
  else if data ≠ [] ∧ (cfg.codecType = .g711a ∨ cfg.codecType = .g711u) then
    some (star6eAudioEncodeG711 cfg.codecType ((samples data).take encBufSize))
  else some data

/-- output_socket_send_parts to a target. -/
def sendAudioRtp (target : Target) (accepts : Nat → Bool) : RtpPacketizerWriteFn Unit := fun _ call =>
  if target.socketHandle < 0 ∨ target.dstLen = 0 ∨ call.header = [] ∨ call.payload1 = [] then (false, ())
  else (accepts 0, ())

/-- What the socket of a target got. -/
inductive Sent
  | rtp (call : WriteCall)
  | compact (header data : List UInt8)

def star6eAudioOutputSendRtp (rtp : RtpPacketizerState) (target : Option Target) (accepts : Nat → Bool)
    (data : List UInt8) (frameTicks : UInt32) : RtpPacketizerState × List Sent :=
  if data = [] then (rtp, [])
  else
    match target with
    | none => (rtp, [])
    | some target =>
      match rtpPacketizerSendPacket (logged (sendAudioRtp target accepts)) ⟨rtp, (), []⟩ data [] false with
      | (false, t) => (t.rtp, (delivered t.out.2).map .rtp)
      | (true, t) => ({ t.rtp with timestamp := t.rtp.timestamp + frameTicks }, (delivered t.out.2).map .rtp)

/-- Every turn sends at least one byte, so fuel of the length suffices. -/
def compactLoop (accepts : Nat → Bool) (maxData : Nat) : Nat → Nat → List UInt8 → List Sent
  | 0, _, _ => []
  | fuel + 1, calls, data =>
    if data = [] then []
    else
      let chunk := if maxData < data.length then maxData else data.length
      let hdr : List UInt8 := [0xAA, 0x01, UInt8.ofNat ((chunk >>> 8) &&& 0xFF), UInt8.ofNat (chunk &&& 0xFF)]
      if accepts calls then .compact hdr (data.take chunk) :: compactLoop accepts maxData fuel (calls + 1) (data.drop chunk)
      else []

def star6eAudioOutputSendCompact (maxPayloadSize : UInt16) (target : Option Target) (accepts : Nat → Bool)
    (data : List UInt8) : List Sent :=
  if data = [] then []
  else
    match target with
    | none => []
    | some _ =>
      let maxData := if 4 < maxPayloadSize then maxPayloadSize - 4 else 0
      if maxData = 0 then [] else compactLoop accepts maxData.toNat data.length 0 data

def star6eAudioOutputSend (rtp : RtpPacketizerState) (c : Capture) (data : List UInt8) :
    RtpPacketizerState × List Sent :=
  if cfg.isRtp then star6eAudioOutputSendRtp rtp c.target c.accepts data cfg.rtpFrameTicks
  else (rtp, star6eAudioOutputSendCompact cfg.maxPayloadSize c.target c.accepts data)

/-- One turn of star6e_audio_encode_fn, behind a pop that found a frame. -/
def encodeTurn (s : Star6eAudioState) (c : Capture) : Star6eAudioState × List Sent :=
  let s := { s with recRing := s.recRing.map fun ring => OwnAudio.audioRingPush ring c.entry }
  match encode cfg c with
  | none => (s, [])
  | some data =>
    if data = [] then (s, [])
    else
      let r := star6eAudioOutputSend cfg s.rtp c data
      ({ s with rtp := r.1 }, r.2)

/-- What goes out for the frames of a run, each with the number of its frame
among all that were popped. -/
def audioRun : Star6eAudioState → Nat → List Capture → List (Nat × Sent)
  | _, _, [] => []
  | s, k, c :: cs =>
    let r := encodeTurn cfg s c
    r.2.map (fun sent => (k, sent)) ++ audioRun r.1 (k + 1) cs

/-! Which frames are sent. -/

/-- The encoder has bytes for the frame, there is a target and its socket takes
the packet. -/
def goesOut (c : Capture) : Bool :=
  cfg.isRtp && match encode cfg c, c.target with
    | some (_ :: _), some target => decide (0 ≤ target.socketHandle ∧ target.dstLen ≠ 0) && c.accepts 0
    | _, _ => false

/-- The frames lost in front of one. -/
def lostBefore (cs : List Capture) (k : Nat) : Nat := (cs.take k).countP fun c => !goesOut cfg c

/-- The clock of the frames: every frame that is sent as an RTP packet has the
time of its number. -/
def FollowsCapture (s : Star6eAudioState) (cs : List Capture) : Prop :=
  ∀ k call, (k, Sent.rtp call) ∈ audioRun cfg s 0 cs →
    timestamp call = s.rtp.timestamp + UInt32.ofNat k * cfg.rtpFrameTicks

/-! One frame. -/

/-- The packet went out and the clock moved on, or neither happened. -/
inductive Turn (ticks ts : UInt32) : Bool → List Sent → UInt32 → Prop
  | sent (call) (hstamp : timestamp call = ts) : Turn ticks ts true [.rtp call] (ts + ticks)
  | lost (sents) (hnone : ∀ call, Sent.rtp call ∉ sents) : Turn ticks ts false sents ts

theorem sendAudioRtp_accepts (rtp : RtpPacketizerState) (target : Target) (accepts : Nat → Bool) {data : List UInt8}
    (hdata : data ≠ []) :
    (sendAudioRtp target accepts () ⟨rtpHeader rtp false, data, []⟩).1 =
      (decide (0 ≤ target.socketHandle ∧ target.dstLen ≠ 0) && accepts 0) := by
  have hheader : rtpHeader rtp false ≠ [] := List.cons_ne_nil _ _
  rw [sendAudioRtp]
  by_cases hopen : 0 ≤ target.socketHandle ∧ target.dstLen ≠ 0
  · have hno : ¬ (target.socketHandle < 0 ∨ target.dstLen = 0 ∨ rtpHeader rtp false = [] ∨ data = []) := by
      simp [hheader, hdata, hopen.1, hopen.2]
    rw [if_neg hno, decide_eq_true hopen, Bool.true_and]
  · have hyes : target.socketHandle < 0 ∨ target.dstLen = 0 ∨ rtpHeader rtp false = [] ∨ data = [] := by
      by_cases hlen : target.dstLen = 0
      · exact .inr (.inl hlen)
      · exact .inl (Int.not_le.1 fun h => hopen ⟨h, hlen⟩)
    rw [if_pos hyes, decide_eq_false hopen, Bool.false_and]

theorem sendRtp_turn (rtp : RtpPacketizerState) (target : Target) (accepts : Nat → Bool) {data : List UInt8}
    (hdata : data ≠ []) (ticks : UInt32) :
    let r := star6eAudioOutputSendRtp rtp (some target) accepts data ticks
    Turn ticks rtp.timestamp (decide (0 ≤ target.socketHandle ∧ target.dstLen ≠ 0) && accepts 0) r.2 r.1.timestamp := by
  have hok := sendAudioRtp_accepts rtp target accepts hdata
  cases h : decide (0 ≤ target.socketHandle ∧ target.dstLen ≠ 0) && accepts 0 with
  | false =>
      rw [h] at hok
      simp only [star6eAudioOutputSendRtp, rtpPacketizerSendPacket, if_neg hdata, logged, hok]
      exact .lost [] fun _ => List.not_mem_nil
  | true =>
      rw [h] at hok
      simp only [star6eAudioOutputSendRtp, rtpPacketizerSendPacket, if_neg hdata, logged, hok]
      exact .sent _ (timestamp_header _ _ _ _)

theorem compactLoop_no_rtp (accepts : Nat → Bool) (maxData fuel calls : Nat) (data : List UInt8) (call : WriteCall) :
    Sent.rtp call ∉ compactLoop accepts maxData fuel calls data := by
  induction fuel generalizing calls data with
  | zero => exact List.not_mem_nil
  | succ fuel ih =>
      simp only [compactLoop]
      by_cases hdata : data = []
      · rw [if_pos hdata]
        exact List.not_mem_nil
      · rw [if_neg hdata]
        by_cases hsend : accepts calls = true
        · rw [if_pos hsend]
          intro h
          rcases List.mem_cons.1 h with h | h
          · cases h
          · exact ih _ _ h
        · rw [if_neg hsend]
          exact List.not_mem_nil

theorem sendCompact_no_rtp (maxPayloadSize : UInt16) (target : Option Target) (accepts : Nat → Bool) (data : List UInt8)
    (call : WriteCall) : Sent.rtp call ∉ star6eAudioOutputSendCompact maxPayloadSize target accepts data := by
  by_cases hdata : data = []
  · simp only [star6eAudioOutputSendCompact, if_pos hdata]
    exact List.not_mem_nil
  · cases target with
    | none =>
        simp only [star6eAudioOutputSendCompact, if_neg hdata]
        exact List.not_mem_nil
    | some target =>
        simp only [star6eAudioOutputSendCompact, if_neg hdata]
        generalize (if 4 < maxPayloadSize then maxPayloadSize - 4 else 0) = maxData
        split
        · exact List.not_mem_nil
        · exact compactLoop_no_rtp _ _ _ _ _ call

variable {cfg}

theorem encodeTurn_turn (s : Star6eAudioState) (c : Capture) :
    Turn cfg.rtpFrameTicks s.rtp.timestamp (goesOut cfg c) (encodeTurn cfg s c).2 (encodeTurn cfg s c).1.rtp.timestamp := by
  have hnone : ∀ call, Sent.rtp call ∉ ([] : List Sent) := fun _ => List.not_mem_nil
  cases hdata : encode cfg c with
  | none =>
      have hlost : goesOut cfg c = false := by simp only [goesOut, hdata, Bool.and_false]
      simp only [encodeTurn, hdata, hlost]
      exact .lost [] hnone
  | some data =>
      cases data with
      | nil =>
          have hlost : goesOut cfg c = false := by simp only [goesOut, hdata, Bool.and_false]
          simp only [encodeTurn, hdata, hlost]
          exact .lost [] hnone
      | cons b bytes =>
          simp only [encodeTurn, hdata, if_neg (List.cons_ne_nil b bytes), star6eAudioOutputSend]
          cases hrtp : cfg.isRtp with
          | false =>
              have hlost : goesOut cfg c = false := by simp only [goesOut, hrtp, Bool.false_and]
              rw [hlost, if_neg (by decide)]
              exact .lost _ (sendCompact_no_rtp cfg.maxPayloadSize c.target c.accepts (b :: bytes))
          | true =>
              cases htarget : c.target with
              | none =>
                  have hlost : goesOut cfg c = false := by simp only [goesOut, hdata, htarget, Bool.and_false]
                  rw [hlost]
                  exact .lost [] hnone
              | some target =>
                  have hout : goesOut cfg c = (decide (0 ≤ target.socketHandle ∧ target.dstLen ≠ 0) && c.accepts 0) := by
                    simp only [goesOut, hrtp, hdata, htarget, Bool.true_and]
                  rw [hout]
                  exact sendRtp_turn s.rtp target c.accepts (List.cons_ne_nil b bytes) cfg.rtpFrameTicks

/-! A run. -/

theorem lostBefore_zero (cs : List Capture) : lostBefore cfg cs 0 = 0 := rfl

theorem lostBefore_succ (c : Capture) (cs : List Capture) (k : Nat) :
    lostBefore cfg (c :: cs) (k + 1) = (if goesOut cfg c then 0 else 1) + lostBefore cfg cs k := by
  rw [lostBefore, List.take_succ_cons, List.countP_cons, Nat.add_comm]
  cases goesOut cfg c <;> rfl

/-- The frames behind the first one, which adds to those lost or does not. -/
theorem no_drift_cons (ticks : UInt32) (m : Nat) (c : Capture) (cs : List Capture) :
    (∀ k c', (c :: cs)[k]? = some c' → goesOut cfg c' = true → UInt32.ofNat (m + lostBefore cfg (c :: cs) k) * ticks = 0) ↔
      (goesOut cfg c = true → UInt32.ofNat m * ticks = 0) ∧
        ∀ k c', cs[k]? = some c' → goesOut cfg c' = true →
          UInt32.ofNat (m + (if goesOut cfg c then 0 else 1) + lostBefore cfg cs k) * ticks = 0 := by
  rw [← Nat.and_forall_add_one]
  simp only [List.getElem?_cons_zero, List.getElem?_cons_succ, lostBefore_succ, lostBefore_zero, Nat.add_assoc, Nat.add_zero,
    Option.some.injEq, forall_eq']

/-- A run from the nth frame on, m frames having been lost before it. -/
theorem audioRun_iff {t0 : UInt32} (s : Star6eAudioState) (n m : Nat) (cs : List Capture)
    (hclock : s.rtp.timestamp + UInt32.ofNat m * cfg.rtpFrameTicks = t0 + UInt32.ofNat n * cfg.rtpFrameTicks) :
    (∀ k call, (k, Sent.rtp call) ∈ audioRun cfg s n cs → timestamp call = t0 + UInt32.ofNat k * cfg.rtpFrameTicks) ↔
      ∀ k c, cs[k]? = some c → goesOut cfg c = true →
        UInt32.ofNat (m + lostBefore cfg cs k) * cfg.rtpFrameTicks = 0 := by
  induction cs generalizing s n m with
  | nil => exact iff_of_true (fun _ _ h => absurd h List.not_mem_nil) (fun _ _ h => absurd h (by simp))
  | cons c cs ih =>
      have hturn := @encodeTurn_turn cfg s c
      have hhead : (∀ k call, (k, Sent.rtp call) ∈ audioRun cfg s n (c :: cs) →
          timestamp call = t0 + UInt32.ofNat k * cfg.rtpFrameTicks) ↔
          (∀ call, Sent.rtp call ∈ (encodeTurn cfg s c).2 → timestamp call = t0 + UInt32.ofNat n * cfg.rtpFrameTicks) ∧
            ∀ k call, (k, Sent.rtp call) ∈ audioRun cfg (encodeTurn cfg s c).1 (n + 1) cs →
              timestamp call = t0 + UInt32.ofNat k * cfg.rtpFrameTicks := by
        simp only [audioRun, List.mem_append, List.mem_map, Prod.mk.injEq]
        grind
      rw [hhead, no_drift_cons]
      have hnext : ∀ i : Nat, UInt32.ofNat (i + 1) * cfg.rtpFrameTicks =
          UInt32.ofNat i * cfg.rtpFrameTicks + cfg.rtpFrameTicks := by
        intro i
        rw [UInt32.ofNat_add]
        grind
      generalize hts : (encodeTurn cfg s c).1.rtp.timestamp = ts at hturn
      generalize (encodeTurn cfg s c).2 = sents at hturn ⊢
      generalize goesOut cfg c = out at hturn ⊢
      cases hturn with
      | sent call hstamp =>
          have htail := ih (encodeTurn cfg s c).1 (n + 1) m (by rw [hts, hnext]; grind)
          have hone : (∀ call', Sent.rtp call' ∈ [Sent.rtp call] →
              timestamp call' = t0 + UInt32.ofNat n * cfg.rtpFrameTicks) ↔ UInt32.ofNat m * cfg.rtpFrameTicks = 0 := by
            simp only [List.mem_singleton, Sent.rtp.injEq, forall_eq, hstamp]
            grind
          rw [htail, hone, if_pos rfl, Nat.add_zero]
          exact and_congr_left' ⟨fun h _ => h, fun h => h rfl⟩
      | lost _ hnone =>
          have htail := ih (encodeTurn cfg s c).1 (n + 1) (m + 1) (by rw [hts, hnext, hnext]; grind)
          rw [htail, if_neg (by decide)]
          exact and_congr_left' (iff_of_true (fun call h => absurd h (hnone call)) (fun h => absurd h (by decide)))

/-- Every packet has the time of its frame exactly when the frames lost in
front of it amount to no time. -/
theorem follows_capture_iff (cfg : Star6eAudioConfig) (s : Star6eAudioState) (cs : List Capture) :
    FollowsCapture cfg s cs ↔ ∀ k c, cs[k]? = some c → goesOut cfg c = true →
      UInt32.ofNat (lostBefore cfg cs k) * cfg.rtpFrameTicks = 0 := by
  have h := @audioRun_iff cfg s.rtp.timestamp s 0 0 cs rfl
  simp only [Nat.zero_add] at h
  exact h

/-- The send of the first frame fails; the second one takes its time. -/
theorem second_frame_early : ¬ ∀ (cfg : Star6eAudioConfig) (s : Star6eAudioState) (cs : List Capture), FollowsCapture cfg s cs := by
  intro h
  let cfg : Star6eAudioConfig := ⟨.pcm, false, 1, true, 1400, 320⟩
  let rtp : RtpPacketizerState := ⟨0, 0, 0, 110⟩
  let capture (accepted : Bool) : Capture :=
    ⟨⟨[1, 2], 0⟩, fun _ _ => (0, Vector.replicate encBufSize 0), some ⟨3, [], 16⟩, fun _ => accepted⟩
  have hsent : audioRun cfg ⟨rtp, none⟩ 0 [capture false, capture true] =
      [(1, .rtp ⟨rtpHeader rtp false, [1, 2], []⟩)] := rfl
  have hlate := h cfg ⟨rtp, none⟩ [capture false, capture true] 1 ⟨rtpHeader rtp false, [1, 2], []⟩
    (by rw [hsent]; exact List.mem_singleton_self _)
  rw [timestamp_header] at hlate
  exact absurd hlate (by decide)

end WaybeamVenc.AudioClock
