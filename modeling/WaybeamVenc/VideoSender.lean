import WaybeamVenc.HevcRtp

namespace WaybeamVenc.VideoSender

open H26x RtpPacketizer HevcRtp

variable {σ : Type}

structure RtpSidecarEncInfo where
  frameSizeBytes : UInt32
  frameType : UInt8
  qp : UInt8
  complexity : UInt8
  sceneChange : UInt8
  gopState : UInt8
  idrInserted : UInt8
  framesSinceIdr : UInt16
deriving DecidableEq

structure RtpSidecarSender where
  fd : Int
  frameId : UInt64
  subExpiresUs : UInt64
deriving DecidableEq

structure FrameRecord where
  ssrc : UInt32
  rtpTs : UInt32
  seqFirst : UInt16
  seqCount : UInt16
  captureUs : UInt64
  frameReadyUs : UInt64
  encInfo : Option RtpSidecarEncInfo
deriving DecidableEq

structure RtpSidecarFrameExt where
  flags : UInt8
  frameId : UInt64
  frame : FrameRecord
  lastPktSendUs : UInt64
deriving DecidableEq

def subActive (s : RtpSidecarSender) (nowUs : UInt64) : Bool := s.subExpiresUs != 0 && decide (nowUs < s.subExpiresUs)

def frameFlags : Option RtpSidecarEncInfo → UInt8
  | none => 0
  | some info => 0x02 ||| (if info.frameType = 1 ∨ info.frameType = 2 then 0x01 else 0)

/-- The message a subscriber gets, none while there is no subscriber. -/
def rtpSidecarSendFrame (s : RtpSidecarSender) (nowUs : UInt64) (frame : FrameRecord) :
    Option RtpSidecarFrameExt × RtpSidecarSender :=
  if s.fd < 0 then (none, s)
  else if subActive s nowUs then
    (some ⟨frameFlags frame.encInfo, s.frameId, frame, nowUs⟩, { s with frameId := s.frameId + 1 })
  else (none, s)

structure Star6eVideoState where
  rtpState : RtpPacketizerState
  rtpFrameTicks : UInt32
  paramSets : H26xParamSets
  rtpPayloadSize : UInt16
  frameCounter : UInt32
  verbosePacketizerInterval : Star6eHevcRtpStats
  sidecar : RtpSidecarSender

/-- A call of star6e_video_send_frame: its stream with the timestamp of its
first pack, its other arguments, the clock before and after the packets, and
when the subscription ends after the poll. -/
structure VideoCall where
  packs : List MiVencPack
  timestamp : UInt64
  outputEnabled : Bool
  verboseEnabled : Bool
  encInfo : Option RtpSidecarEncInfo
  readyUs : UInt64
  sentUs : UInt64
  subExpiresUs : UInt64

/-- What a call returns and leaves behind, and what it hands to the sidecar. -/
structure VideoSent (σ : Type) where
  totalBytes : Nat
  state : Star6eVideoState
  out : σ
  record : Option FrameRecord
  message : Option RtpSidecarFrameExt

def noStats : Star6eHevcRtpStats := ⟨0, 0, 0, 0, 0, 0, 0⟩

def addStats (interval frame : Star6eHevcRtpStats) : Star6eHevcRtpStats where
  totalNals := interval.totalNals + frame.totalNals
  singlePackets := interval.singlePackets + frame.singlePackets
  apPackets := interval.apPackets + frame.apPackets
  apNals := interval.apNals + frame.apNals
  fuPackets := interval.fuPackets + frame.fuPackets
  rtpPackets := interval.rtpPackets + frame.rtpPackets
  rtpPayloadBytes := interval.rtpPayloadBytes + frame.rtpPayloadBytes

def sendFrameOutputRtp (writer : RtpPacketizerWriteFn σ) (state : Star6eVideoState) (out : σ)
    (packs : List MiVencPack) : Frame σ :=
  star6eHevcRtpSendFrame writer packs ⟨state.rtpState, out⟩ state.rtpFrameTicks (some state.paramSets)
    state.rtpPayloadSize.toNat noStats

/-- star6e_video_send_frame with an output in RTP mode. -/
def star6eVideoSendFrame (writer : RtpPacketizerWriteFn σ) (state : Star6eVideoState) (out : σ) (call : VideoCall) :
    VideoSent σ :=
  let state := { state with frameCounter := state.frameCounter + 1 }
  if call.outputEnabled then
    let polled := if state.sidecar.fd < 0 then state.sidecar
      else { state.sidecar with subExpiresUs := call.subExpiresUs }
    let frameRtpTs := state.rtpState.timestamp
    let seqBefore := state.rtpState.seq
    let captureUs := if call.packs = [] then 0 else call.timestamp
    let f := sendFrameOutputRtp writer state out call.packs
    let rtp := f.tx.sender.rtp
    let record : FrameRecord :=
      ⟨rtp.ssrc, frameRtpTs, seqBefore, rtp.seq - seqBefore, captureUs, call.readyUs, call.encInfo⟩
    let (message, sidecar) := rtpSidecarSendFrame polled call.sentUs record
    { totalBytes := f.totalBytes
      state := { state with
        rtpState := rtp
        paramSets := f.params.getD state.paramSets
        verbosePacketizerInterval :=
          if call.verboseEnabled then addStats state.verbosePacketizerInterval f.tx.stats
          else state.verbosePacketizerInterval
        sidecar := sidecar }
      out := f.tx.sender.out
      record := some record
      message := message }
  else ⟨0, state, out, none, none⟩

end WaybeamVenc.VideoSender
