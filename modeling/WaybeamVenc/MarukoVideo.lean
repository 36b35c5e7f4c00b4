import WaybeamVenc.FrameUnits

namespace WaybeamVenc.MarukoVideo

open H26x RtpPacketizer FrameUnits

variable {σ : Type}

structure MarukoRtpState where
  seq : UInt16
  timestamp : UInt32
  ssrc : UInt32
  payloadType : UInt8
  frameTicks : UInt32
deriving DecidableEq

/-- An RTP state and the state of what maruko_rtp_write sends with. -/
structure MarukoSender (σ : Type) where
  rtp : MarukoRtpState
  out : σ

/-- Whether there is a socket or a ring; the destination is never null. -/
structure MarukoOutput where
  socketHandle : Int
  ring : Bool

/-- The packetizer state that each sender fills from rtp. -/
def MarukoSender.packetizer (s : MarukoSender σ) : Sender σ :=
  ⟨⟨s.rtp.seq, s.rtp.timestamp, s.rtp.ssrc, s.rtp.payloadType⟩, s.out⟩

/-- The assignment of state.seq to rtp->seq. -/
def MarukoSender.copyBack (s : MarukoSender σ) (t : Sender σ) : MarukoSender σ :=
  ⟨{ s.rtp with seq := t.rtp.seq }, t.out⟩

def marukoSendRtpPacket (writer : RtpPacketizerWriteFn σ) (output : MarukoOutput) (s : MarukoSender σ)
    (payload : List UInt8) (marker : Bool) : Bool × MarukoSender σ :=
  if payload.length = 0 ∨ (output.socketHandle < 0 ∧ output.ring = false) then (false, s)
  else
    let (ok, t) := rtpPacketizerSendPacket writer s.packetizer payload [] marker
    (ok, s.copyBack t)

def fuIndicatorH264 (header : UInt8) : UInt8 := (header &&& 0x60) ||| 28

def fuFlagsH264 (header : UInt8) (start last : Bool) : UInt8 :=
  (if start then 0x80 else 0x00 : UInt8) ||| (if last then 0x40 else 0x00 : UInt8) ||| (header &&& 0x1F)

/-- The fragments of a payload: whether the loop ran to its end and the bytes it
sent. Fuel of the payload's length suffices. -/
def marukoFuLoop (writer : RtpPacketizerWriteFn σ) (header : UInt8) (isLast : Bool) (maxFragment : Nat) :
    Nat → Sender σ → List UInt8 → Bool → Nat → Bool × Nat × Sender σ
  | 0, t, _, _, total => (true, total, t)
  | fuel + 1, t, payload, start, total =>
    if payload.length = 0 then (true, total, t)
    else
      let chunk := if maxFragment < payload.length then maxFragment else payload.length
      let last := decide (payload.length = chunk)
      match rtpPacketizerSendPacket writer t [fuIndicatorH264 header, fuFlagsH264 header start last]
          (payload.take chunk) (last && isLast) with
      | (false, t) => (false, total, t)
      | (true, t) => marukoFuLoop writer header isLast maxFragment fuel t (payload.drop chunk) false (total + chunk)

def marukoSendFuH264 (writer : RtpPacketizerWriteFn σ) (s : MarukoSender σ) (data : List UInt8) (isLast : Bool)
    (maxPayload : Nat) : Nat × MarukoSender σ :=
  match data with
  | header :: payload =>
    if payload.length = 0 ∨ maxPayload ≤ 2 then (0, s)
    else
      let maxPayload := if rtpBufferMax < maxPayload then rtpBufferMax else maxPayload
      let (finished, total, t) :=
        marukoFuLoop writer header isLast (maxPayload - 2) payload.length s.packetizer payload true 0
      (if finished then total + 1 else total, s.copyBack t)
  | [] => (0, s)

def marukoSendNalRtpH264 (writer : RtpPacketizerWriteFn σ) (output : MarukoOutput) (s : MarukoSender σ)
    (data : List UInt8) (isLast : Bool) (maxPayload : Nat) : Nat × MarukoSender σ :=
  if data.length = 0 then (0, s)
  else if data.length ≤ maxPayload then
    let (ok, s) := marukoSendRtpPacket writer output s data isLast
    (if ok then data.length else 0, s)
  else marukoSendFuH264 writer s data isLast maxPayload

def marukoSendNalRtpHevc (writer : RtpPacketizerWriteFn σ) (s : MarukoSender σ) (data : List UInt8) (isLast : Bool)
    (maxPayload : Nat) : Nat × MarukoSender σ :=
  if data.length = 0 then (0, s)
  else
    let (total, _, t) := rtpPacketizerSendHevcNal writer s.packetizer data isLast maxPayload
    (total, s.copyBack t)

def marukoSendNal (writer : RtpPacketizerWriteFn σ) (output : MarukoOutput) (codec : PayloadType) (s : MarukoSender σ)
    (data : List UInt8) (isLast : Bool) (maxPayload : Nat) : Nat × MarukoSender σ :=
  match codec with
  | .h265 => marukoSendNalRtpHevc writer s data isLast maxPayload
  | .h264 => marukoSendNalRtpH264 writer output s data isLast maxPayload

/-- The loop of maruko_send_prepend_param_sets over the references. -/
def marukoSendRefs (writer : RtpPacketizerWriteFn σ) (output : MarukoOutput) (codec : PayloadType) (maxPayload : Nat) :
    List (List UInt8) → MarukoSender σ → Nat × MarukoSender σ
  | [], s => (0, s)
  | ref :: refs, s =>
    let (sent, s) := marukoSendNal writer output codec s ref false maxPayload
    let (rest, s) := marukoSendRefs writer output codec maxPayload refs s
    (sent + rest, s)

def marukoSendPrependParamSets (writer : RtpPacketizerWriteFn σ) (output : MarukoOutput) (params : H26xParamSets)
    (codec : PayloadType) (nalType : UInt8) (s : MarukoSender σ) (maxPayload : Nat) : Nat × MarukoSender σ :=
  marukoSendRefs writer output codec maxPayload (h26xParamSetsGetPrepend params codec nalType 3) s

/-- packType is a union, so one number serves both codecs. -/
structure I6cVencPackInfo where
  packType : UInt32
  offset : Nat
  length : Nat

structure I6cVencPack where
  data : Option (List UInt8)
  offset : Nat
  packNum : Nat
  packetInfo : Vector I6cVencPackInfo 8

structure MarukoFrame (σ : Type) where
  totalBytes : Nat
  sender : MarukoSender σ
  params : Option H26xParamSets

/-- The body of the inner loop from the slice on. -/
def marukoSendSlice (writer : RtpPacketizerWriteFn σ) (output : MarukoOutput) (codec : PayloadType) (maxPayload : Nat)
    (f : MarukoFrame σ) (slice : List UInt8) (infoType : Option UInt8) (lastNal : Bool) : MarukoFrame σ :=
  let nal := h26xUtilStripStartCode slice
  if nal.length = 0 then f
  else
    let nalType := infoType.getD (h26xNaluType codec nal)
    let params := f.params.map (h26xParamSetsUpdate · codec nalType nal)
    let (prepended, s) :=
      match params with
      | none => (0, f.sender)
      | some params => marukoSendPrependParamSets writer output params codec nalType f.sender maxPayload
    let (sent, s) := marukoSendNal writer output codec s nal lastNal maxPayload
    ⟨f.totalBytes + prepended + sent, s, params⟩

def packInfoSlice (data : List UInt8) (info : I6cVencPackInfo) : Option (List UInt8) :=
  if info.length = 0 ∨ data.length ≤ info.offset ∨ data.length - info.offset < info.length then none
  else some ((data.drop info.offset).take info.length)

def marukoInfoLoop (writer : RtpPacketizerWriteFn σ) (output : MarukoOutput) (codec : PayloadType) (maxPayload : Nat)
    (data : List UInt8) (lastPack : Bool) : List I6cVencPackInfo → MarukoFrame σ → MarukoFrame σ
  | [], f => f
  | info :: infos, f =>
    marukoInfoLoop writer output codec maxPayload data lastPack infos
      (match packInfoSlice data info with
      | none => f
      | some slice =>
        marukoSendSlice writer output codec maxPayload f slice (some info.packType.toUInt8) (lastPack && infos.isEmpty))

def marukoSendPack (writer : RtpPacketizerWriteFn σ) (output : MarukoOutput) (codec : PayloadType) (maxPayload : Nat)
    (pack : I6cVencPack) (lastPack : Bool) (f : MarukoFrame σ) : MarukoFrame σ :=
  match pack.data with
  | none => f
  | some data =>
    if 0 < pack.packNum then
      marukoInfoLoop writer output codec maxPayload data lastPack (pack.packetInfo.toList.take pack.packNum) f
    else if data.length ≤ pack.offset then f
    else marukoSendSlice writer output codec maxPayload f (data.drop pack.offset) none lastPack

def marukoPackLoop (writer : RtpPacketizerWriteFn σ) (output : MarukoOutput) (codec : PayloadType) (maxPayload : Nat) :
    List I6cVencPack → MarukoFrame σ → MarukoFrame σ
  | [], f => f
  | pack :: packs, f =>
    marukoPackLoop writer output codec maxPayload packs
      (marukoSendPack writer output codec maxPayload pack packs.isEmpty f)

def marukoSendFrameRtp (writer : RtpPacketizerWriteFn σ) (output : MarukoOutput) (packs : List I6cVencPack)
    (sender : MarukoSender σ) (params : Option H26xParamSets) (codec : PayloadType) (maxPayload : Nat) : MarukoFrame σ :=
  let f := marukoPackLoop writer output codec maxPayload packs ⟨0, sender, params⟩
  { f with
    sender := { f.sender with
      rtp := { f.sender.rtp with timestamp := f.sender.rtp.timestamp + f.sender.rtp.frameTicks } } }

/-! The frame loop over the units. -/

def marukoPackEntries (pack : I6cVencPack) : List Entry :=
  match pack.data with
  | none => []
  | some data =>
    if 0 < pack.packNum then
      (pack.packetInfo.toList.take pack.packNum).map fun info =>
        ⟨packInfoSlice data info, some info.packType.toUInt8⟩
    else [⟨if data.length ≤ pack.offset then none else some (data.drop pack.offset), none⟩]

def marukoUnits (codec : PayloadType) (packs : List I6cVencPack) : List NalUnit :=
  frameUnits codec (packs.map marukoPackEntries)

def marukoSendUnit (writer : RtpPacketizerWriteFn σ) (output : MarukoOutput) (codec : PayloadType) (maxPayload : Nat)
    (f : MarukoFrame σ) (u : NalUnit) : MarukoFrame σ :=
  let params := f.params.map (h26xParamSetsUpdate · codec u.nalType u.nal)
  let (prepended, s) :=
    match params with
    | none => (0, f.sender)
    | some params => marukoSendPrependParamSets writer output params codec u.nalType f.sender maxPayload
  let (sent, s) := marukoSendNal writer output codec s u.nal u.last maxPayload
  ⟨f.totalBytes + prepended + sent, s, params⟩

variable (writer : RtpPacketizerWriteFn σ) (output : MarukoOutput) (codec : PayloadType) (maxPayload : Nat)

theorem marukoSendSlice_eq (f : MarukoFrame σ) (slice : List UInt8) (infoType : Option UInt8) (last : Bool) :
    marukoSendSlice writer output codec maxPayload f slice infoType last =
      (entryUnits codec last ⟨some slice, infoType⟩).foldl (marukoSendUnit writer output codec maxPayload) f := by
  rw [marukoSendSlice]
  dsimp only [entryUnits]
  by_cases hnal : h26xUtilStripStartCode slice = []
  · rw [hnal]
    rfl
  · rw [if_neg fun h => hnal (List.eq_nil_of_length_eq_zero h), if_neg hnal]
    rfl

theorem marukoInfoLoop_eq (data : List UInt8) (lastPack : Bool) (infos : List I6cVencPackInfo) (f : MarukoFrame σ) :
    marukoInfoLoop writer output codec maxPayload data lastPack infos f =
      (packUnits codec lastPack (infos.map fun info => ⟨packInfoSlice data info, some info.packType.toUInt8⟩)).foldl
        (marukoSendUnit writer output codec maxPayload) f := by
  induction infos generalizing f with
  | nil => rfl
  | cons info infos ih =>
      rw [marukoInfoLoop, ih, List.map_cons, packUnits, List.foldl_append, List.isEmpty_map]
      congr 1
      cases packInfoSlice data info with
      | none => rfl
      | some slice => exact marukoSendSlice_eq writer output codec maxPayload f slice _ _

theorem marukoSendPack_eq (pack : I6cVencPack) (lastPack : Bool) (f : MarukoFrame σ) :
    marukoSendPack writer output codec maxPayload pack lastPack f =
      (packUnits codec lastPack (marukoPackEntries pack)).foldl (marukoSendUnit writer output codec maxPayload) f := by
  rw [marukoSendPack, marukoPackEntries]
  cases pack.data with
  | none => rfl
  | some data =>
      dsimp only
      by_cases hnum : 0 < pack.packNum
      · rw [if_pos hnum, if_pos hnum]
        exact marukoInfoLoop_eq writer output codec maxPayload data lastPack _ f
      · rw [if_neg hnum, if_neg hnum, packUnits, packUnits, List.append_nil, List.isEmpty_nil, Bool.and_true]
        by_cases hoffset : data.length ≤ pack.offset
        · rw [if_pos hoffset, if_pos hoffset]
          rfl
        · rw [if_neg hoffset, if_neg hoffset]
          exact marukoSendSlice_eq writer output codec maxPayload f _ none lastPack

theorem marukoPackLoop_eq (packs : List I6cVencPack) (f : MarukoFrame σ) :
    marukoPackLoop writer output codec maxPayload packs f =
      (marukoUnits codec packs).foldl (marukoSendUnit writer output codec maxPayload) f := by
  rw [marukoUnits]
  induction packs generalizing f with
  | nil => rfl
  | cons pack packs ih =>
      rw [marukoPackLoop, ih, List.map_cons, frameUnits, List.foldl_append, List.isEmpty_map, marukoSendPack_eq]

end WaybeamVenc.MarukoVideo
