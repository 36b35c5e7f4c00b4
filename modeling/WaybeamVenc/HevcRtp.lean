import WaybeamVenc.H26x
import WaybeamVenc.RtpPacketizer

namespace WaybeamVenc.HevcRtp

open H26x RtpPacketizer

variable {σ : Type}

structure Star6eHevcRtpStats where
  totalNals : UInt32
  singlePackets : UInt32
  apPackets : UInt32
  apNals : UInt32
  fuPackets : UInt32
  rtpPackets : UInt32
  rtpPayloadBytes : UInt32
deriving DecidableEq

/-- The builder of an aggregation packet. The payload is kept from its third
byte on, since its header is written when it is flushed. -/
structure HevcApBuilder where
  payload : List UInt8
  nalBytes : Nat
  nalCount : Nat
  forbiddenZero : UInt8
  layerId : UInt8
  tidPlus1 : UInt8

/-- What the functions of one frame change. -/
structure Tx (σ : Type) where
  sender : Sender σ
  ap : HevcApBuilder
  stats : Star6eHevcRtpStats

def applyStats (stats : Star6eHevcRtpStats) (result : RtpPacketizerResult) : Star6eHevcRtpStats :=
  if result.packetCount = 0 then stats
  else
    { stats with
      fuPackets := if result.fragmented then stats.fuPackets + result.packetCount else stats.fuPackets
      singlePackets := if result.fragmented then stats.singlePackets else stats.singlePackets + result.packetCount
      rtpPackets := stats.rtpPackets + result.packetCount
      rtpPayloadBytes := stats.rtpPayloadBytes + result.payloadBytes }

def hevcApReset : HevcApBuilder := ⟨[], 0, 0, 0, 0, 1⟩

def hevcApCanAdd (ap : HevcApBuilder) (nalLen maxPayload : Nat) : Bool :=
  if nalLen = 0 ∨ 65535 < nalLen then false
  else decide ((if ap.nalCount = 0 then 2 else 2 + ap.payload.length) + 2 + nalLen ≤ maxPayload)

def hevcApAdd (ap : HevcApBuilder) (nal : List UInt8) : HevcApBuilder :=
  if nal.length = 0 then ap
  else
    let forbiddenZero := nal.headD 0 &&& 0x80
    let layerId := h26xUtilHevcGetLayerId nal
    let tidPlus1 := h26xUtilHevcGetTidPlus1 nal
    let size := [UInt8.ofNat (nal.length >>> 8 &&& 0xFF), UInt8.ofNat (nal.length &&& 0xFF)]
    if ap.nalCount = 0 then ⟨size ++ nal, ap.nalBytes + nal.length, 1, forbiddenZero, layerId, tidPlus1⟩
    else
      { payload := ap.payload ++ (size ++ nal)
        nalBytes := ap.nalBytes + nal.length
        nalCount := ap.nalCount + 1
        forbiddenZero := ap.forbiddenZero ||| forbiddenZero
        layerId := if layerId < ap.layerId then layerId else ap.layerId
        tidPlus1 := if tidPlus1 < ap.tidPlus1 then tidPlus1 else ap.tidPlus1 }

def sendRtpPacket (writer : RtpPacketizerWriteFn σ) (t : Sender σ) (payload : List UInt8) (marker : Bool) :
    Bool × Sender σ :=
  if payload.length = 0 then (true, t) else rtpPacketizerSendPacket writer t payload [] marker

def firstQueued : List UInt8 → List UInt8
  | s1 :: s0 :: bytes => bytes.take ((s1.toNat <<< 8) ||| s0.toNat)
  | _ => []

def apHeader (ap : HevcApBuilder) : List UInt8 :=
  [ap.forbiddenZero ||| ((48 : UInt8) <<< 1) ||| ((ap.layerId >>> 5) &&& 0x01),
    ((ap.layerId &&& 0x1F) <<< 3) ||| (ap.tidPlus1 &&& 0x07)]

def hevcApFlush (writer : RtpPacketizerWriteFn σ) (x : Tx σ) (marker : Bool) : Nat × Tx σ :=
  if x.ap.nalCount = 0 then (0, x)
  else if x.ap.nalCount = 1 then
    let nal := firstQueued x.ap.payload
    match sendRtpPacket writer x.sender nal marker with
    | (true, sender) =>
      (nal.length, ⟨sender, hevcApReset,
        { x.stats with
          singlePackets := x.stats.singlePackets + 1
          rtpPackets := x.stats.rtpPackets + 1
          rtpPayloadBytes := x.stats.rtpPayloadBytes + UInt32.ofNat nal.length }⟩)
    | (false, sender) => (0, ⟨sender, hevcApReset, x.stats⟩)
  else
    let payload := apHeader x.ap ++ x.ap.payload
    match sendRtpPacket writer x.sender payload marker with
    | (true, sender) =>
      (x.ap.nalBytes, ⟨sender, hevcApReset,
        { x.stats with
          apPackets := x.stats.apPackets + 1
          apNals := x.stats.apNals + UInt32.ofNat x.ap.nalCount
          rtpPackets := x.stats.rtpPackets + 1
          rtpPayloadBytes := x.stats.rtpPayloadBytes + UInt32.ofNat payload.length }⟩)
    | (false, sender) => (0, ⟨sender, hevcApReset, x.stats⟩)

def sendNalRtpHevc (writer : RtpPacketizerWriteFn σ) (x : Tx σ) (data : List UInt8) (isLast : Bool)
    (maxPayload : Nat) : Nat × Tx σ :=
  if data.length = 0 then (0, x)
  else
    let (totalBytes, result, sender) := rtpPacketizerSendHevcNal writer x.sender data isLast maxPayload
    (totalBytes, { x with sender := sender, stats := applyStats x.stats result })

def sendOrQueueNalRtpHevc (writer : RtpPacketizerWriteFn σ) (x : Tx σ) (data : List UInt8) (isLast : Bool)
    (maxPayload : Nat) : Nat × Tx σ :=
  if data.length = 0 then (0, x)
  else
    let x := { x with stats := { x.stats with totalNals := x.stats.totalNals + 1 } }
    if maxPayload < data.length ∨ 65535 < data.length then
      let (flushed, x) := hevcApFlush writer x false
      let (sent, x) := sendNalRtpHevc writer x data isLast maxPayload
      (flushed + sent, x)
    else
      let (flushed, x) := if hevcApCanAdd x.ap data.length maxPayload then (0, x) else hevcApFlush writer x false
      if hevcApCanAdd x.ap data.length maxPayload then
        let x := { x with ap := hevcApAdd x.ap data }
        if isLast then
          let (sent, x) := hevcApFlush writer x true
          (flushed + sent, x)
        else (flushed, x)
      else
        let (sent, x) := sendNalRtpHevc writer x data isLast maxPayload
        (flushed + sent, x)

/-- The loop of send_prepend_param_sets_hevc over the references. -/
def sendRefs (writer : RtpPacketizerWriteFn σ) (maxPayload : Nat) : List (List UInt8) → Tx σ → Nat × Tx σ
  | [], x => (0, x)
  | ref :: refs, x =>
    let (sent, x) := sendOrQueueNalRtpHevc writer x ref false maxPayload
    let (rest, x) := sendRefs writer maxPayload refs x
    (sent + rest, x)

def sendPrependParamSetsHevc (writer : RtpPacketizerWriteFn σ) (params : H26xParamSets) (nalType : UInt8) (x : Tx σ)
    (maxPayload : Nat) : Nat × Tx σ :=
  sendRefs writer maxPayload (h26xParamSetsGetPrepend params .h265 nalType 3) x

structure MiVencPackInfo where
  h265Nalu : UInt32
  offset : Nat
  length : Nat

/-- An encoder pack; data are the bytes that its pointer and length span, none
a null pointer. -/
structure MiVencPack where
  data : Option (List UInt8)
  offset : Nat
  packNum : Nat
  packetInfo : Vector MiVencPackInfo 8

structure Frame (σ : Type) where
  totalBytes : Nat
  tx : Tx σ
  params : Option H26xParamSets

/-- The body of the inner loop from the slice on. -/
def sendSlice (writer : RtpPacketizerWriteFn σ) (maxPayload : Nat) (f : Frame σ) (slice : List UInt8)
    (infoType : Option UInt8) (lastNal : Bool) : Frame σ :=
  if slice.length = 0 then f
  else
    let nal := h26xUtilStripStartCode slice
    if nal.length = 0 then f
    else
      let nalType := infoType.getD (h26xUtilHevcNaluType nal)
      let params := f.params.map (h26xParamSetsUpdate · .h265 nalType nal)
      let (prepended, x) :=
        match params with
        | none => (0, f.tx)
        | some params => sendPrependParamSetsHevc writer params nalType f.tx maxPayload
      let (sent, x) := sendOrQueueNalRtpHevc writer x nal lastNal maxPayload
      ⟨f.totalBytes + prepended + sent, x, params⟩

/-- The bytes of an entry, none when it is empty or out of range. -/
def infoSlice (data : List UInt8) (info : MiVencPackInfo) : Option (List UInt8) :=
  if info.length = 0 ∨ data.length ≤ info.offset ∨ data.length - info.offset < info.length then none
  else some ((data.drop info.offset).take info.length)

def infoLoop (writer : RtpPacketizerWriteFn σ) (maxPayload : Nat) (data : List UInt8) (lastPack : Bool) :
    List MiVencPackInfo → Frame σ → Frame σ
  | [], f => f
  | info :: infos, f =>
    infoLoop writer maxPayload data lastPack infos
      (match infoSlice data info with
      | none => f
      | some slice => sendSlice writer maxPayload f slice (some info.h265Nalu.toUInt8) (lastPack && infos.isEmpty))

def sendPack (writer : RtpPacketizerWriteFn σ) (maxPayload : Nat) (pack : MiVencPack) (lastPack : Bool)
    (f : Frame σ) : Frame σ :=
  match pack.data with
  | none => f
  | some data =>
    if 0 < pack.packNum then
      infoLoop writer maxPayload data lastPack (pack.packetInfo.toList.take pack.packNum) f
    else if data.length ≤ pack.offset then f
    else sendSlice writer maxPayload f (data.drop pack.offset) none lastPack

def packLoop (writer : RtpPacketizerWriteFn σ) (maxPayload : Nat) : List MiVencPack → Frame σ → Frame σ
  | [], f => f
  | pack :: packs, f => packLoop writer maxPayload packs (sendPack writer maxPayload pack packs.isEmpty f)

def star6eHevcRtpSendFrame (writer : RtpPacketizerWriteFn σ) (packs : List MiVencPack) (sender : Sender σ)
    (frameTicks : UInt32) (params : Option H26xParamSets) (maxPayload : Nat) (stats : Star6eHevcRtpStats) :
    Frame σ :=
  let maxPayload := if rtpBufferMax < maxPayload then rtpBufferMax else maxPayload
  let f := packLoop writer maxPayload packs ⟨0, ⟨sender, hevcApReset, stats⟩, params⟩
  let (sent, x) := hevcApFlush writer f.tx true
  { f with
    totalBytes := f.totalBytes + sent
    tx := { x with
      sender := { x.sender with rtp := { x.sender.rtp with timestamp := x.sender.rtp.timestamp + frameTicks } } } }

end WaybeamVenc.HevcRtp
