import Mathlib.Init

namespace WaybeamVenc.RtpPacketizer

variable {σ : Type}

def rtpBufferMax : Nat := 8192

structure RtpPacketizerState where
  seq : UInt16
  timestamp : UInt32
  ssrc : UInt32
  payloadType : UInt8
deriving DecidableEq

structure RtpPacketizerResult where
  packetCount : UInt32
  payloadBytes : UInt32
  fragmented : Bool
deriving DecidableEq

structure WriteCall where
  header : List UInt8
  payload1 : List UInt8
  payload2 : List UInt8
deriving DecidableEq

def WriteCall.payload (c : WriteCall) : List UInt8 := c.payload1 ++ c.payload2

/-- A writer over what its opaque pointer points to; true stands for a return
of zero. -/
abbrev RtpPacketizerWriteFn (σ : Type) := σ → WriteCall → Bool × σ

/-- A packetizer state and the state of the writer it sends with. -/
structure Sender (σ : Type) where
  rtp : RtpPacketizerState
  out : σ

def rtpHeader (state : RtpPacketizerState) (marker : Bool) : List UInt8 :=
  [0x80, (if marker then 0x80 else 0x00 : UInt8) ||| (state.payloadType &&& 0x7F),
    ((state.seq >>> 8) &&& 0xFF).toUInt8, (state.seq &&& 0xFF).toUInt8,
    ((state.timestamp >>> 24) &&& 0xFF).toUInt8, ((state.timestamp >>> 16) &&& 0xFF).toUInt8,
    ((state.timestamp >>> 8) &&& 0xFF).toUInt8, (state.timestamp &&& 0xFF).toUInt8,
    ((state.ssrc >>> 24) &&& 0xFF).toUInt8, ((state.ssrc >>> 16) &&& 0xFF).toUInt8,
    ((state.ssrc >>> 8) &&& 0xFF).toUInt8, (state.ssrc &&& 0xFF).toUInt8]

def rtpPacketizerSendPacket (writer : RtpPacketizerWriteFn σ) (t : Sender σ) (payload1 payload2 : List UInt8)
    (marker : Bool) : Bool × Sender σ :=
  if payload1 = [] then (false, t)
  else
    match writer t.out ⟨rtpHeader t.rtp marker, payload1, payload2⟩ with
    | (false, out) => (false, { t with out := out })
    | (true, out) => (true, { rtp := { t.rtp with seq := t.rtp.seq + 1 }, out := out })

def nuhLayerId (header0 header1 : UInt8) : UInt8 :=
  ((header0 &&& 0x01) <<< (5 : UInt8)) ||| (header1 >>> (3 : UInt8))

def fuIndicator0 (header0 header1 : UInt8) : UInt8 :=
  (header0 &&& 0x80) ||| ((49 : UInt8) <<< (1 : UInt8)) ||| ((nuhLayerId header0 header1 >>> (5 : UInt8)) &&& 0x01)

def fuIndicator1 (header0 header1 : UInt8) : UInt8 :=
  ((nuhLayerId header0 header1 &&& 0x1F) <<< (3 : UInt8)) ||| (header1 &&& 0x07)

def fuFlags (header0 : UInt8) (start last : Bool) : UInt8 :=
  (if start then 0x80 else 0x00 : UInt8) ||| (if last then 0x40 else 0x00 : UInt8) |||
    (((header0 >>> (1 : UInt8)) &&& 0x3F) &&& 0x3F)

/-- What the loop over the fragments returns: whether it ran to its end, the
bytes it sent and the result. -/
structure FuLoop (σ : Type) where
  finished : Bool
  totalBytes : Nat
  result : RtpPacketizerResult
  sender : Sender σ

/-- The fragments of a payload; every turn takes at least one byte, so fuel of
its length suffices. -/
def fuLoop (writer : RtpPacketizerWriteFn σ) (header0 header1 : UInt8) (isLast : Bool) (maxFragment : Nat) :
    Nat → Sender σ → List UInt8 → Bool → Nat → RtpPacketizerResult → FuLoop σ
  | 0, t, _, _, total, result => ⟨true, total, result, t⟩
  | fuel + 1, t, payload, start, total, result =>
    if payload.length = 0 then ⟨true, total, result, t⟩
    else
      let chunk := if maxFragment < payload.length then maxFragment else payload.length
      let last := decide (payload.length = chunk)
      match rtpPacketizerSendPacket writer t
          [fuIndicator0 header0 header1, fuIndicator1 header0 header1, fuFlags header0 start last]
          (payload.take chunk) (last && isLast) with
      | (false, t) => ⟨false, total, result, t⟩
      | (true, t) =>
        fuLoop writer header0 header1 isLast maxFragment fuel t (payload.drop chunk) false (total + chunk)
          ⟨result.packetCount + 1, result.payloadBytes + UInt32.ofNat (chunk + 3), true⟩

def rtpPacketizerSendHevcFu (writer : RtpPacketizerWriteFn σ) (t : Sender σ) (data : List UInt8) (isLast : Bool)
    (maxPayload : Nat) : Nat × RtpPacketizerResult × Sender σ :=
  match data with
  | header0 :: header1 :: payload =>
    if payload.length = 0 ∨ maxPayload ≤ 3 then (0, ⟨0, 0, false⟩, t)
    else
      let maxPayload := if rtpBufferMax < maxPayload then rtpBufferMax else maxPayload
      let r := fuLoop writer header0 header1 isLast (maxPayload - 3) payload.length t payload true 0 ⟨0, 0, false⟩
      (if r.finished then r.totalBytes + 2 else r.totalBytes, r.result, r.sender)
  | _ => (0, ⟨0, 0, false⟩, t)

def rtpPacketizerSendHevcNal (writer : RtpPacketizerWriteFn σ) (t : Sender σ) (data : List UInt8) (isLast : Bool)
    (maxPayload : Nat) : Nat × RtpPacketizerResult × Sender σ :=
  if data.length = 0 then (0, ⟨0, 0, false⟩, t)
  else if data.length ≤ maxPayload then
    match rtpPacketizerSendPacket writer t data [] isLast with
    | (true, t) => (data.length, ⟨1, UInt32.ofNat data.length, false⟩, t)
    | (false, t) => (0, ⟨0, 0, false⟩, t)
  else rtpPacketizerSendHevcFu writer t data isLast maxPayload

end WaybeamVenc.RtpPacketizer
