import WaybeamVenc.H264Depay
import WaybeamVenc.MarukoTrials

namespace WaybeamVenc.MarukoRoundTrip

open H26x RtpPacketizer HevcRoundTrip SidecarTiling FrameUnits MarukoVideo PacketTrials MarukoTrials Reassembly

variable {σ : Type}

/-- RFC 7798 or RFC 6184, one payload at a time. -/
def receive : PayloadType → Receiver (Option (List UInt8)) (List UInt8) (List UInt8)
  | .h265 => HevcDepay.receive
  | .h264 => H264Depay.receive

def depacketize : PayloadType → List (List UInt8) → Option (List (List UInt8))
  | .h265 => HevcDepay.depacketize none
  | .h264 => H264Depay.depacketize

/-- A unit whose header type the payload formats do not use themselves; the
forbidden bit of an H.264 unit does not survive fragmentation. -/
def Sendable (codec : PayloadType) (nal : List UInt8) : Prop :=
  nal ≠ [] ∧
    match codec with
    | .h265 => h26xUtilHevcNaluType nal < 48
    | .h264 => h26xUtilH264NaluType nal < 24 ∧ (nal.headD 0).toNat.testBit 7 = false

/-- What a frame stands for: its units, each behind the sets that its key
pictures take from the cache. -/
def framedUnits (codec : PayloadType) : Option H26xParamSets → List NalUnit → List (List UInt8)
  | _, [] => []
  | params, u :: us =>
    (match updated codec params u with
      | none => []
      | some sets => if isKeyNal codec u.nalType then sets.cachedFor codec else []) ++
      [u.nal] ++ framedUnits codec (updated codec params u) us

theorem depacketize_of_feed {codec : PayloadType} {payloads nals : List (List UInt8)}
    (h : feed (receive codec) none payloads = some (none, nals)) : depacketize codec payloads = some nals := by
  cases codec with
  | h264 => exact reassemble_of_feed h
  | h265 =>
      have hfeed : ∀ (ps : List (List UInt8)) (got : Option (List UInt8)) (ns : List (List UInt8)),
          feed HevcDepay.receive got ps = some (none, ns) → HevcDepay.depacketize got ps = some ns := by
        intro ps
        induction ps with
        | nil =>
            intro got ns hnil
            cases hnil
            rfl
        | cons p ps ih =>
            intro got ns hcons
            obtain ⟨r, hr, hmap⟩ := Option.bind_eq_some_iff.1 hcons
            obtain ⟨⟨g, ns'⟩, hrest, hns⟩ := Option.map_eq_some_iff.1 hmap
            cases hns
            rw [HevcDepay.depacketize, hr, Option.bind_some, ih _ _ hrest, Option.map_some]
      exact hfeed payloads none nals h

/-! One H.265 unit. -/

def idle (got : Option (List UInt8)) : Prop := got = none

theorem hevc_builds (header0 header1 : UInt8) :
    Builds HevcDepay.receive (fun start last chunk => hevcFront header0 header1 start last ++ chunk)
      [header0, header1] idle where
  first got chunk hgot hne := by
    rw [show got = none from hgot]
    exact receive_fu header0 header1 false hne fun h => by cases h
  later unit chunk last hne := @receive_fu header0 header1 (some unit) chunk last hne fun _ h => by cases h

theorem fu_feed {receive : Receiver (Option (List UInt8)) (List UInt8) (List UInt8)} {front : Bool → Bool → List UInt8}
    {head payload : List UInt8} (hb : Builds receive (fun start last chunk => front start last ++ chunk) head idle)
    (isLast : Bool) {maxFragment : Nat} (hmax : 0 < maxFragment) (hlong : maxFragment < payload.length) :
    feed receive none ((fuPackets front isLast maxFragment payload.length payload true).map Packet.payload) =
      some (none, [head ++ payload]) := by
  rw [fuPackets_payload]
  exact hb.feed_all hmax hlong rfl

theorem hevc_feed {data : List UInt8} (isLast : Bool) {maxPayload : Nat} (hmax : 3 < maxPayload)
    (h : Sendable .h265 data) :
    feed (receive .h265) none ((hevcNalPackets data isLast maxPayload).map Packet.payload) = some (none, [data]) := by
  obtain ⟨hne, htype⟩ := h
  rcases hevcNalPackets_cases data isLast maxPayload with
    ⟨-, hnil | ⟨-, hsmall⟩⟩ | ⟨h, -, -⟩ | ⟨header0, header1, payload, maxFragment, rfl, -, hpos, hlong, h⟩
  · exact absurd hnil hne
  · exact absurd hmax (Nat.not_lt_of_le hsmall)
  · rw [h, List.map_singleton, Packet.payload, List.append_nil]
    apply feed_one
    obtain ⟨b0, bytes, rfl⟩ := List.exists_cons_of_ne_nil hne
    exact HevcDepay.receive_single htype
  · rw [h]
    exact fu_feed (hevc_builds header0 header1) isLast hpos hlong

/-! One H.264 unit. -/

theorem fuIndicatorH264_type (header : UInt8) : H264Depay.nalType (fuIndicatorH264 header) = 28 := by
  apply eq_of_bits
  intro i hi
  interval_cases i <;> simp [H264Depay.nalType, fuIndicatorH264]

theorem unitHeader_fuH264 {header : UInt8} (start last : Bool) (hforbidden : header.toNat.testBit 7 = false) :
    H264Depay.unitHeader (fuIndicatorH264 header) (fuFlagsH264 header start last) = header := by
  have hbit : header.toBitVec.getLsbD 7 = false := hforbidden
  apply eq_of_bits
  intro i hi
  interval_cases i <;> cases start <;> cases last <;>
    simp [H264Depay.unitHeader, fuIndicatorH264, fuFlagsH264] <;> simp_all

theorem fuFlagsH264_start (header : UInt8) (start last : Bool) :
    (fuFlagsH264 header start last).toNat.testBit 7 = start := by
  change (fuFlagsH264 header start last).toBitVec.getLsbD 7 = start
  cases start <;> cases last <;> simp [fuFlagsH264]

theorem fuFlagsH264_last (header : UInt8) (start last : Bool) :
    (fuFlagsH264 header start last).toNat.testBit 6 = last := by
  change (fuFlagsH264 header start last).toBitVec.getLsbD 6 = last
  cases start <;> cases last <;> simp [fuFlagsH264]

theorem h264_builds {header : UInt8} (hforbidden : header.toNat.testBit 7 = false) :
    Builds H264Depay.receive (fun start last chunk => h264Front header start last ++ chunk) [header] idle where
  first got chunk hgot hne := by
    have h := H264Depay.receive_start (fuIndicatorH264_type header) (fuFlagsH264_start header true false)
      (fuFlagsH264_last header true false) hne
    rw [unitHeader_fuH264 true false hforbidden] at h
    rw [show got = none from hgot]
    exact h
  later unit chunk last hne := by
    have h := H264Depay.receive_later unit (fuIndicatorH264_type header) (fuFlagsH264_start header false last) hne
    rw [fuFlagsH264_last] at h
    exact h

theorem h264_feed {data : List UInt8} (isLast : Bool) {maxPayload : Nat} (hmax : 3 < maxPayload)
    (h : Sendable .h264 data) :
    feed (receive .h264) none ((h264NalPackets data isLast maxPayload).map Packet.payload) = some (none, [data]) := by
  obtain ⟨hne, htype, hforbidden⟩ := h
  rcases h264NalPackets_cases data isLast maxPayload with
    ⟨-, hnil | ⟨-, hsmall⟩⟩ | ⟨h, -, -⟩ | ⟨header, payload, maxFragment, rfl, -, hpos, hlong, h⟩
  · exact absurd hnil hne
  · omega
  · rw [h, List.map_singleton, Packet.payload, List.append_nil]
    apply feed_one
    obtain ⟨b0, bytes, rfl⟩ := List.exists_cons_of_ne_nil hne
    exact H264Depay.receive_single htype
  · rw [h]
    exact fu_feed (h264_builds hforbidden) isLast hpos hlong

theorem nal_feed {codec : PayloadType} {data : List UInt8} (isLast : Bool) {maxPayload : Nat} (hmax : 3 < maxPayload)
    (h : Sendable codec data) :
    feed (receive codec) none ((nalPackets codec data isLast maxPayload).map Packet.payload) = some (none, [data]) := by
  cases codec with
  | h264 => exact h264_feed isLast hmax h
  | h265 => exact hevc_feed isLast hmax h

/-! A frame. -/

def SendableSets (codec : PayloadType) (params : Option H26xParamSets) : Prop :=
  ∀ sets, params = some sets → ∀ set ∈ sets.cachedFor codec, Sendable codec set

theorem SendableSets.updated {codec : PayloadType} {params : Option H26xParamSets} {u : NalUnit}
    (h : SendableSets codec params) (hu : Sendable codec u.nal) : SendableSets codec (updated codec params u) := by
  intro sets heq set hset
  obtain ⟨sets', hparams, rfl⟩ := Option.map_eq_some_iff.1 heq
  rcases update_cachedFor hset with hold | rfl
  · exact h sets' hparams set hold
  · exact hu

theorem sets_feed {codec : PayloadType} {maxPayload : Nat} (hmax : 3 < maxPayload) {refs : List (List UInt8)}
    (h : ∀ ref ∈ refs, Sendable codec ref) :
    feed (receive codec) none ((refs.map (nalPackets codec · false maxPayload)).flatten.map Packet.payload) =
      some (none, refs) := by
  induction refs with
  | nil => rfl
  | cons ref refs ih =>
      rw [List.map_cons, List.flatten_cons, List.map_append]
      exact feed_append (nal_feed false hmax (h ref List.mem_cons_self))
        (ih fun r hr => h r (List.mem_cons_of_mem ref hr))

theorem setsBefore_eq (codec : PayloadType) (params : Option H26xParamSets) (u : NalUnit) :
    setsBefore codec params u = match updated codec params u with
      | none => []
      | some sets => if isKeyNal codec u.nalType then sets.cachedFor codec else [] := by
  rw [setsBefore]
  cases updated codec params u with
  | none => rfl
  | some sets => exact getPrepend_cachedFor sets codec u.nalType

theorem frame_feed {codec : PayloadType} {maxPayload : Nat} (hmax : 3 < maxPayload) {params : Option H26xParamSets}
    {us : List NalUnit} (hsets : SendableSets codec params) (hus : ∀ u ∈ us, Sendable codec u.nal) :
    feed (receive codec) none ((frameGroups codec maxPayload params us).flatten.map Packet.payload) =
      some (none, framedUnits codec params us) := by
  induction us generalizing params with
  | nil => rfl
  | cons u us ih =>
      have hu := hus u List.mem_cons_self
      have hcache := hsets.updated hu
      have hbefore : ∀ ref ∈ setsBefore codec params u, Sendable codec ref := by
        intro ref href
        rw [setsBefore_eq] at href
        split at href
        · cases href
        next sets heq =>
          split at href
          · exact hcache sets heq ref href
          · cases href
      rw [frameGroups, framedUnits, ← setsBefore_eq, List.flatten_append, List.flatten_append, List.flatten_singleton,
        List.map_append, List.map_append]
      refine feed_append (feed_append (sets_feed hmax hbefore) (nal_feed u.last hmax hu)) ?_
      exact ih hcache fun u' hu' => hus u' (List.mem_cons_of_mem u hu')

/-- When every write succeeds, a receiver gets the units of the frame with the
cached sets before each key picture; the packets are numbered one after the
other, and carry one timestamp, which then moves on once. -/
theorem maruko_round_trip (writer : RtpPacketizerWriteFn σ) (out : σ) (rtp : MarukoRtpState) (output : MarukoOutput)
    (packs : List I6cVencPack) (params : Option H26xParamSets) (codec : PayloadType) (maxPayload : Nat)
    (hmax : 3 < maxPayload) (hopen : 0 ≤ output.socketHandle ∨ output.ring = true)
    (hunits : ∀ u ∈ marukoUnits codec packs, Sendable codec u.nal) (hsets : SendableSets codec params) :
    let f := marukoSendFrameRtp (logged writer) output packs ⟨rtp, (out, [])⟩ params codec maxPayload
    let log := f.sender.out.2
    succeeded log →
      depacketize codec (payloads log) = some (framedUnits codec params (marukoUnits codec packs)) ∧
        log.map (SidecarTiling.sequence ·.1) = numbers rtp.seq log.length ∧ (∀ e ∈ log, timestamp e.1 = rtp.timestamp) ∧
        f.sender.rtp.seq = rtp.seq + UInt16.ofNat log.length ∧
        f.sender.rtp.timestamp = rtp.timestamp + rtp.frameTicks := by
  intro f log hok
  obtain ⟨t, hemits, hsender⟩ := sendFrame_emits writer hopen packs ⟨rtp, (out, [])⟩ params codec maxPayload
  have hlog : log = t.out.2 := congrArg (·.out.2) hsender
  have hcount := hemits.packets _ (counting_kept writer (MarukoSender.packetizer ⟨rtp, (out, [])⟩).rtp)
    (counting_start _ out)
  have hdelivered : delivered t.packetizer.out.2 = log.map (·.1) := by
    rw [hlog] at hok ⊢
    exact delivered_of_succeeded hok
  obtain ⟨hseq, hsequences, hstamp, hstamps⟩ := hcount
  rw [hdelivered] at hseq hsequences hstamps
  rw [List.length_map] at hseq hsequences
  refine ⟨?_, ?_, ?_, ?_, ?_⟩
  · obtain ⟨tried, htried, hall⟩ := hemits.tries
    have heq : tried = log := by
      rw [hlog]
      exact htried.symm
    subst heq
    apply depacketize_of_feed
    have hpayloads : payloads log = (frameGroups codec maxPayload params (marukoUnits codec packs)).flatten.map
        Packet.payload := (hall.all hok).1
    rw [hpayloads]
    exact frame_feed hmax hsets hunits
  · rw [List.map_map] at hsequences
    exact hsequences
  · intro e he
    exact hstamps e.1 (List.mem_map_of_mem he)
  · change (marukoSendFrameRtp (logged writer) output packs _ params codec maxPayload).sender.rtp.seq = _
    rw [hsender]
    exact hseq
  · change (marukoSendFrameRtp (logged writer) output packs _ params codec maxPayload).sender.rtp.timestamp = _
    rw [hsender]
    change t.rtp.timestamp + t.rtp.frameTicks = _
    rw [hemits.ticks, show t.rtp.timestamp = rtp.timestamp from hstamp]

/-- An H.264 key picture in two fragments behind its two sets. -/
def h264KeyPacks : List I6cVencPack :=
  [⟨some [0, 0, 0, 1, 0x67, 1, 2], 0, 0, Vector.replicate 8 ⟨0, 0, 0⟩⟩,
    ⟨some [0, 0, 1, 0x68, 3, 9, 0, 0, 1, 0x65, 5, 6, 7, 8], 0, 2,
      Vector.mk #[⟨8, 0, 5⟩, ⟨5, 6, 8⟩, ⟨0, 0, 0⟩, ⟨0, 0, 0⟩, ⟨0, 0, 0⟩, ⟨0, 0, 0⟩, ⟨0, 0, 0⟩, ⟨0, 0, 0⟩] rfl⟩]

theorem maruko_round_trip_h264 :
    let f := marukoSendFrameRtp (logged fun (_ : Unit) _ => (true, ())) ⟨3, false⟩ h264KeyPacks
      ⟨⟨65535, 0, 1, 96, 3000⟩, ((), [])⟩ (some ⟨[], [], []⟩) .h264 4
    depacketize .h264 (payloads f.sender.out.2) =
        some [[0x67, 1, 2], [0x68, 3], [0x67, 1, 2], [0x68, 3], [0x65, 5, 6, 7, 8]] ∧
      f.sender.rtp.timestamp = 3000 := by
  intro f
  have h := maruko_round_trip (fun (_ : Unit) _ => (true, ())) () ⟨65535, 0, 1, 96, 3000⟩ ⟨3, false⟩ h264KeyPacks
    (some ⟨[], [], []⟩) .h264 4 (by decide) (.inl (by decide)) (by unfold Sendable; decide +kernel)
    (fun sets heq set hset => by cases heq; cases hset) (by unfold succeeded; decide +kernel)
  exact ⟨h.1.trans (by decide +kernel), h.2.2.2.2⟩

end WaybeamVenc.MarukoRoundTrip
