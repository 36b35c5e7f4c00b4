import WaybeamVenc.HevcRoundTrip

namespace WaybeamVenc.IdrAgreement

open H26x RtpPacketizer HevcRtp HevcRoundTrip

variable {σ : Type}

/-- A pack with the type the SDK gives it where it lists no units; the types are
a union, so one number serves both codecs. -/
structure StreamPack extends MiVencPack where
  naluType : UInt32

def encFrameP : UInt8 := 0

def encFrameIdr : UInt8 := 2

def isIdrType (codec : PayloadType) (nalu : UInt32) : Bool :=
  match codec with
  | .h264 => nalu == 5
  | .h265 => nalu == 19

def packIsIdr (codec : PayloadType) (pack : StreamPack) : Bool :=
  let n := if 8 < pack.packNum then 8 else pack.packNum
  if 0 < n then (pack.packetInfo.toList.take n).any fun info => isIdrType codec info.h265Nalu
  else isIdrType codec pack.naluType

def sceneFrameType (packs : List StreamPack) (codec : PayloadType) : UInt8 :=
  if packs.any (packIsIdr codec) then encFrameIdr else encFrameP

/-- The buffer and the flag of star6e_ts_recorder_write_stream. -/
structure Recorded where
  nalBuf : List UInt8
  isIdr : Bool

def sizeofNalBuf : Nat := 512 * 1024

def isKeyType (nalu : UInt32) : Bool := nalu == 19 || nalu == 20

def recordInfos (data : List UInt8) : List MiVencPackInfo → Recorded → Recorded
  | [], r => r
  | info :: infos, r =>
    match infoSlice data info with
    | none => recordInfos data infos r
    | some slice =>
      let isIdr := r.isIdr || isKeyType info.h265Nalu
      if sizeofNalBuf < r.nalBuf.length + info.length then ⟨r.nalBuf, isIdr⟩
      else recordInfos data infos ⟨r.nalBuf ++ slice, isIdr⟩

def recordPacks : List StreamPack → Recorded → Recorded
  | [], r => r
  | pack :: packs, r =>
    match pack.data with
    | none => recordPacks packs r
    | some data =>
      if 0 < pack.packNum then
        recordPacks packs (recordInfos data (pack.packetInfo.toList.take pack.packNum) r)
      else if data.length ≤ pack.offset then recordPacks packs r
      else if sizeofNalBuf < r.nalBuf.length + (data.length - pack.offset) then r
      else recordPacks packs { r with nalBuf := r.nalBuf ++ data.drop pack.offset }

/-- What an open recorder hands to star6e_ts_recorder_write_video, if anything. -/
def star6eTsRecorderWriteStream (packs : List StreamPack) : Option Recorded :=
  let r := recordPacks packs ⟨[], false⟩
  if r.nalBuf.length = 0 then none else some r

/-- The units of a stream that star6e_hevc_rtp_send_frame sends, with the types
it goes by. -/
def streamNals (packs : List StreamPack) : List (List UInt8 × UInt8) :=
  packs.flatMap fun pack => packNals pack.toMiVencPack

/-- The references that send_prepend_param_sets_hevc gets over a frame. -/
def prepended (params : Option H26xParamSets) : List (List UInt8 × UInt8) → List (List UInt8)
  | [] => []
  | nal :: nals =>
    match params.map (h26xParamSetsUpdate · .h265 nal.2 nal.1) with
    | none => prepended none nals
    | some params => h26xParamSetsGetPrepend params .h265 nal.2 3 ++ prepended (some params) nals

/-! The frame loop counts exactly those references and units. -/

def Counts (x x' : Tx σ) (n : Nat) : Prop := x'.stats.totalNals = x.stats.totalNals + UInt32.ofNat n

theorem Counts.refl (x : Tx σ) : Counts x x 0 := (UInt32.add_zero _).symm

theorem Counts.trans {x y z : Tx σ} {m n : Nat} (hxy : Counts x y m) (hyz : Counts y z n) : Counts x z (m + n) := by
  rw [Counts] at hxy hyz ⊢
  rw [hyz, hxy, UInt32.ofNat_add, UInt32.add_assoc]

/-- A part of the frame loop: what it counts, and the cache it leaves. -/
structure Sent (f f' : Frame σ) (nals : List (List UInt8 × UInt8)) : Prop where
  counts : Counts f.tx f'.tx ((prepended f.params nals).length + nals.length)
  params : f'.params = cacheAfter f.params nals

theorem prepended_append (params : Option H26xParamSets) (xs ys : List (List UInt8 × UInt8)) :
    prepended params (xs ++ ys) = prepended params xs ++ prepended (cacheAfter params xs) ys := by
  induction xs generalizing params with
  | nil => rfl
  | cons x xs ih =>
      cases params with
      | none => exact ih none
      | some params =>
          change h26xParamSetsGetPrepend _ .h265 x.2 3 ++ prepended _ (xs ++ ys) = _
          rw [ih, ← List.append_assoc]
          rfl

theorem Sent.refl (f : Frame σ) : Sent f f [] := ⟨Counts.refl f.tx, rfl⟩

theorem Sent.trans {f g h : Frame σ} {nals nals' : List (List UInt8 × UInt8)} (hfg : Sent f g nals)
    (hgh : Sent g h nals') : Sent f h (nals ++ nals') := by
  constructor
  · have hn : (prepended f.params (nals ++ nals')).length + (nals ++ nals').length =
        (prepended f.params nals).length + nals.length + ((prepended g.params nals').length + nals'.length) := by
      rw [prepended_append, hfg.params, List.length_append, List.length_append]
      omega
    rw [hn]
    exact hfg.counts.trans hgh.counts
  · rw [hgh.params, hfg.params, cacheAfter_append]

def listed (pack : StreamPack) : List MiVencPackInfo := pack.packetInfo.toList.take pack.packNum

/-- A unit is there, and its header has the type the SDK gives. -/
def Typed (slice : List UInt8) (nalu : UInt32) : Prop :=
  h26xUtilStripStartCode slice ≠ [] ∧ (h26xUtilHevcNaluType (h26xUtilStripStartCode slice)).toUInt32 = nalu

def WellTyped (pack : StreamPack) : Prop :=
  ∃ data, pack.data = some data ∧
    if 0 < pack.packNum then
      ∀ info ∈ listed pack, ∃ slice, infoSlice data info = some slice ∧ Typed slice info.h265Nalu
    else Typed (data.drop pack.offset) pack.naluType

structure EncoderStream where
  packs : List StreamPack
  wellTyped : ∀ pack ∈ packs, WellTyped pack

/-- Over the first packs of the frame, as many as it takes, total_nals rises by
more than their units. -/
def Prepends (writer : RtpPacketizerWriteFn σ) (sender : Sender σ) (frameTicks : UInt32) (maxPayload : Nat)
    (stats : Star6eHevcRtpStats) (packs : List StreamPack) (params : Option H26xParamSets) : Prop :=
  ∃ n, (star6eHevcRtpSendFrame writer ((packs.take n).map (·.toMiVencPack)) sender frameTicks params maxPayload
    stats).tx.stats.totalNals ≠ stats.totalNals + UInt32.ofNat (streamNals (packs.take n)).length

/-- The scene detector, the recorder and the sender agree. -/
structure Agree (writer : RtpPacketizerWriteFn σ) (sender : Sender σ) (frameTicks : UInt32) (maxPayload : Nat)
    (stats : Star6eHevcRtpStats) (stream : EncoderStream) (params : Option H26xParamSets) : Prop where
  scene_recorder : sceneFrameType stream.packs .h265 = encFrameIdr ↔
    ∃ r, star6eTsRecorderWriteStream stream.packs = some r ∧ r.isIdr = true
  scene_sender : sceneFrameType stream.packs .h265 = encFrameIdr ↔
    Prepends writer sender frameTicks maxPayload stats stream.packs params

/-- The entries the recorder gets to while its buffer has room, and the bytes
it has then. -/
def arrivals (copied : Nat) : List MiVencPackInfo → List MiVencPackInfo × Nat
  | [] => ([], copied)
  | info :: infos =>
    if sizeofNalBuf < copied + info.length then ([info], copied)
    else (info :: (arrivals (copied + info.length) infos).1, (arrivals (copied + info.length) infos).2)

def streamArrivals (copied : Nat) : List StreamPack → List MiVencPackInfo × Nat
  | [] => ([], copied)
  | pack :: packs =>
    if 0 < pack.packNum then
      let r := streamArrivals (arrivals copied (listed pack)).2 packs
      ((arrivals copied (listed pack)).1 ++ r.1, r.2)
    else
      let size := (pack.data.getD []).length - pack.offset
      if sizeofNalBuf < copied + size then ([], copied) else streamArrivals (copied + size) packs

/-- A listed key unit that the recorder gets to, and anything copied. -/
def RecordedKey (packs : List StreamPack) : Prop :=
  (∃ info ∈ (streamArrivals 0 packs).1, info.h265Nalu = 19 ∨ info.h265Nalu = 20) ∧ (streamArrivals 0 packs).2 ≠ 0

def ListedKey (packs : List StreamPack) : Prop :=
  ∃ pack ∈ packs, 0 < pack.packNum ∧ ∃ info ∈ listed pack, info.h265Nalu = 19 ∨ info.h265Nalu = 20

/-! The streams on which the three walks fall apart. -/

theorem Typed.entryNal {slice : List UInt8} {nalu : UInt32} (h : Typed slice nalu) {infoType : Option UInt8}
    (hinfo : infoType = none ∨ infoType = some nalu.toUInt8) :
    HevcRoundTrip.entryNal slice infoType = [(h26xUtilStripStartCode slice, nalu.toUInt8)] := by
  have ht : h26xUtilHevcNaluType (h26xUtilStripStartCode slice) = nalu.toUInt8 := by
    rw [← h.2, UInt8.toUInt8_toUInt32]
  have hn : HevcRoundTrip.entryNal slice infoType = [(h26xUtilStripStartCode slice,
      infoType.getD (h26xUtilHevcNaluType (h26xUtilStripStartCode slice)))] := if_neg h.1
  rcases hinfo with rfl | rfl
  · rw [hn, ht]
    rfl
  · exact hn

theorem infoSlice_length {data slice : List UInt8} {info : MiVencPackInfo} (h : infoSlice data info = some slice) :
    slice.length = info.length := by
  rw [infoSlice] at h
  split at h
  · cases h
  next hr =>
    cases h
    rw [List.length_take, List.length_drop]
    omega

theorem mem_arrivals {copied : Nat} {infos : List MiVencPackInfo} {info : MiVencPackInfo}
    (h : info ∈ (arrivals copied infos).1) : info ∈ infos := by
  induction infos generalizing copied with
  | nil => exact h
  | cons first infos ih =>
      rw [arrivals] at h
      split at h
      · rw [List.mem_singleton.1 h]
        exact List.mem_cons_self
      · rcases List.mem_cons.1 h with rfl | h
        · exact List.mem_cons_self
        · exact List.mem_cons_of_mem first (ih h)

theorem mem_streamArrivals {copied : Nat} {packs : List StreamPack} {info : MiVencPackInfo}
    (h : info ∈ (streamArrivals copied packs).1) : ∃ pack ∈ packs, 0 < pack.packNum ∧ info ∈ listed pack := by
  induction packs generalizing copied with
  | nil => cases h
  | cons pack packs ih =>
      have hlater : (∃ p ∈ packs, 0 < p.packNum ∧ info ∈ listed p) →
          ∃ p ∈ pack :: packs, 0 < p.packNum ∧ info ∈ listed p :=
        fun ⟨p, hp, hinfo⟩ => ⟨p, List.mem_cons_of_mem pack hp, hinfo⟩
      rw [streamArrivals] at h
      split at h
      next hnum =>
        rcases List.mem_append.1 h with h | h
        · exact ⟨pack, List.mem_cons_self, hnum, mem_arrivals h⟩
        · exact hlater (ih h)
      next =>
        dsimp only at h
        split at h
        · cases h
        · exact hlater (ih h)

theorem RecordedKey.listed {packs : List StreamPack} (h : RecordedKey packs) : ListedKey packs := by
  obtain ⟨⟨info, hmem, hkey⟩, -⟩ := h
  obtain ⟨pack, hpack, hnum, hinfo⟩ := mem_streamArrivals hmem
  exact ⟨pack, hpack, hnum, info, hinfo, hkey⟩

end WaybeamVenc.IdrAgreement
