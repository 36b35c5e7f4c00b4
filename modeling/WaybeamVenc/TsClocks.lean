import WaybeamVenc.TsRecorder
import WaybeamVenc.TsRoundTrip

namespace WaybeamVenc.TsClocks

open TsMux TsDemux TsPackets TsRecorder TsRoundTrip

/-- A CLOCK_MONOTONIC time. -/
structure MonotonicTime where
  sec : UInt32
  nsec : UInt32
  below : nsec.toNat < 1000000000

instance : LE MonotonicTime where
  le a b := a.sec < b.sec ∨ a.sec = b.sec ∧ a.nsec ≤ b.nsec

/-- A frame on its way to ts_mux_write_video, with the room in its buffer. -/
structure VideoFrame where
  time : MonotonicTime
  data : List UInt8
  isIdr : Bool
  bufSize : Nat

def VideoFrame.pts (f : VideoFrame) : UInt64 := tsMuxTimespecToPts f.time.sec f.time.nsec

/-- The packets of all the frames. -/
def writeFrames : TsMuxState → List VideoFrame → List (List UInt8)
  | _, [] => []
  | s, f :: fs =>
    let r := tsMuxWriteVideo s f.bufSize f.data f.pts f.isIdr
    r.2 ++ writeFrames r.1 fs

/-! What a receiver reads off the packets. -/

structure Clock where
  pts : Nat
  pcr : Nat
deriving DecidableEq

/-- The PCR base in the adaptation field of a packet. -/
def readPcr : List UInt8 → Option Nat
  | _ :: _ :: _ :: b3 :: len :: flags :: p0 :: p1 :: p2 :: p3 :: p4 :: _ =>
    if b3.toNat.testBit 5 ∧ 7 ≤ len.toNat ∧ flags.toNat.testBit 4 then
      some (p0.toNat * 2 ^ 25 + p1.toNat * 2 ^ 17 + p2.toNat * 2 ^ 9 + p3.toNat * 2 + p4.toNat / 128)
    else none
  | _ => none

/-- The clocks of a frame are in the packet that it starts in. -/
def readClock (bytes : List UInt8) : Option Clock :=
  (parsePacket bytes).bind fun p =>
    if p.pid = 0x100 ∧ p.unitStart then
      (parsePes ⟨p.randomAccess, p.payload⟩).bind fun u => u.pts.bind fun pts => (readPcr bytes).map fun pcr => ⟨pts, pcr⟩
    else none

structure Monotone (offset : Nat) (clocks : List Clock) : Prop where
  pts : clocks.Pairwise fun a b => a.pts ≤ b.pts
  pcr : clocks.Pairwise fun a b => a.pcr ≤ b.pcr
  leads : ∀ c ∈ clocks, c.pcr ≤ c.pts
  delay : ∀ c ∈ clocks, offset ≤ c.pts → c.pcr = c.pts - offset

/-! When the clocks are so. -/

/-- The times of the frames of which at least one packet is written. -/
def startedPts : TsMuxState → List VideoFrame → List Nat
  | _, [] => []
  | s, f :: fs =>
    let tables := if tsPatPmtInterval ≤ s.videoFrames ∧ 2 * tsPacketSize ≤ f.bufSize then 2 * tsPacketSize else 0
    (if f.data ≠ [] ∧ tsPacketSize ≤ f.bufSize - tables then [f.pts.toNat] else []) ++
      startedPts (tsMuxWriteVideo s f.bufSize f.data f.pts f.isIdr).1 fs

/-- No frame is at the offset itself, and a frame behind the offset is at least
the offset behind every frame that is not. -/
structure SwitchesOver (offset : Nat) (ps : List Nat) : Prop where
  never : offset ∈ ps → offset = 0
  gap : ps.Pairwise fun p q => p ≤ offset → offset < q → p + offset ≤ q

/-! The clocks of one frame. -/

/-- The PCR leads the PTS by the offset, once the PTS is behind it. -/
def clockOf (offset pts : Nat) : Clock := ⟨pts, if offset < pts then pts - offset else pts⟩

theorem pcr_flag : ∀ rai disc : Bool,
    ((if rai then 0x40 else 0 : UInt8) ||| 0x10 ||| (if disc then 0x80 else 0)).toNat.testBit 4 = true := by decide

theorem read_writePcr (pcr : UInt64) :
    (pcr >>> 25).toUInt8.toNat * 2 ^ 25 + (pcr >>> 17).toUInt8.toNat * 2 ^ 17 + (pcr >>> 9).toUInt8.toNat * 2 ^ 9 +
      (pcr >>> 1).toUInt8.toNat * 2 + (((pcr &&& 1) <<< 7) ||| 0x7E).toUInt8.toNat / 128 = pcr.toNat % 2 ^ 33 := by
  have hlast : (((pcr &&& 1) <<< 7) ||| 0x7E).toUInt8.toNat / 128 = pcr.toNat % 2 := by
    have hor (a b : Nat) : (a ||| b) / 128 = a / 128 ||| b / 128 := Nat.or_div_two_pow (n := 7)
    simp [hor, Nat.shiftLeft_eq]
    omega
  rw [hlast]
  simp [Nat.shiftRight_eq_div_pow]
  omega

theorem readPcr_first (s : TsMuxState) (pid : UInt16) (cc : UInt8) (pts : UInt64) (rai : Bool) (rest : List UInt8) :
    readPcr (padded (firstHeader s pid cc pts true rai ++ rest)) =
      some ((if s.pcrOffset.toUInt64 < pts then pts - s.pcrOffset.toUInt64 else pts).toNat % 2 ^ 33) := by
  have hadapt : ((48 : UInt8) ||| (cc &&& 15)).toNat.testBit 5 = true := header_adapt cc true
  have hflag := pcr_flag rai s.discontinuity
  have hhead : firstHeader s pid cc pts true rai = startTsPacket pid cc true true ++ adaptationField s pts true rai := rfl
  rw [padded_append, hhead, ← read_writePcr]
  simp only [startTsPacket, adaptationField, writePcr, List.cons_append, List.nil_append, readPcr, if_true, hflag]
  rw [if_pos ⟨hadapt, by decide, trivial⟩]

/-- Packets in which no video frame starts have no clock. -/
theorem no_clocks {raw : List (List UInt8)} {ps : List TsPacket} (hparse : raw.mapM parsePacket = some ps)
    (hnone : ∀ p ∈ ps, ¬ (p.pid = 0x100 ∧ p.unitStart = true)) : raw.filterMap readClock = [] := by
  induction raw generalizing ps with
  | nil => rfl
  | cons bytes raw ih =>
      simp only [List.mapM_cons, Option.bind_eq_bind, Option.bind_eq_some_iff] at hparse
      obtain ⟨p, hp, qs, hqs, heq⟩ := hparse
      cases heq
      have hclock : readClock bytes = none := by
        rw [readClock, hp, Option.bind_some, if_neg (hnone p List.mem_cons_self)]
      rw [List.filterMap_cons_none hclock, ih hqs fun q hq => hnone q (List.mem_cons_of_mem p hq)]

theorem parsePes_pts (streamId : UInt8) (n : Nat) (pts : UInt64) (rai : Bool) (rest : List UInt8) :
    (parsePes ⟨rai, pesHeader streamId n pts ++ rest⟩).bind (fun u => u.pts) = some (pts.toNat % 2 ^ 33) := by
  have htake : (writePts 2 pts ++ rest).take 5 = writePts 2 pts := rfl
  have hread := readPts_writePts pts []
  rw [List.append_nil] at hread
  rw [pesHeader, List.append_assoc, parsePes_header, htake, hread]
  rfl

theorem readClock_first (s : TsMuxState) (cc : UInt8) (pts : UInt64) (rai : Bool) (n : Nat) {data : List UInt8}
    (hdata : data.length ≤ 162) (hpts : pts.toNat < 2 ^ 33) :
    readClock (padded (firstHeader s tsPidVideo cc pts true rai ++ (pesHeader 0xE0 n pts ++ data))) =
      some (clockOf s.pcrOffset.toNat pts.toNat) := by
  have hhead : (firstHeader s tsPidVideo cc pts true rai).length = 12 := firstHeader_length s tsPidVideo cc pts true rai
  have hparse := firstPacket_parses s tsPidVideo cc pts true rai (pesHeader 0xE0 n pts ++ data) (by decide)
    (by rw [hhead, List.length_append, pesHeader_length]; omega)
  rw [readClock, hparse, Option.bind_some, if_pos ⟨rfl, rfl⟩, readPcr_first, List.append_assoc]
  obtain ⟨u, hunit, hread⟩ := Option.bind_eq_some_iff.1 (parsePes_pts 0xE0 n pts rai (data ++ List.replicate
    (188 - (firstHeader s tsPidVideo cc pts true rai).length - (pesHeader 0xE0 n pts ++ data).length) 0xFF))
  rw [hunit, Option.bind_some, hread, Option.bind_some, Option.map_some, Nat.mod_eq_of_lt hpts]
  have hpcr : (if s.pcrOffset.toUInt64 < pts then pts - s.pcrOffset.toUInt64 else pts).toNat =
      if s.pcrOffset.toNat < pts.toNat then pts.toNat - s.pcrOffset.toNat else pts.toNat := by
    by_cases hlt : s.pcrOffset.toUInt64 < pts
    · have hnat : s.pcrOffset.toNat < pts.toNat := UInt64.lt_iff_toNat_lt.1 hlt
      rw [if_pos hlt, if_pos hnat, UInt64.toNat_sub_of_le _ _ (UInt64.le_of_lt hlt)]
      rfl
    · have hnat : ¬ s.pcrOffset.toUInt64.toNat < pts.toNat := fun h => hlt (UInt64.lt_iff_toNat_lt.2 h)
      rw [if_neg hlt]
      exact (if_neg hnat).symm
  rw [hpcr, Nat.mod_eq_of_lt, clockOf]
  split <;> omega

/-- The tables have no clock, and take the size of two packets if they fit. -/
theorem periodicTables_clocks (s : TsMuxState) (bufSize : Nat) :
    (periodicTables s bufSize).2.filterMap readClock = [] ∧ (periodicTables s bufSize).1.pcrOffset = s.pcrOffset ∧
      tsPacketSize * (periodicTables s bufSize).2.length =
        if tsPatPmtInterval ≤ s.videoFrames ∧ 2 * tsPacketSize ≤ bufSize then 2 * tsPacketSize else 0 := by
  by_cases hdue : tsPatPmtInterval ≤ s.videoFrames
  · simp only [periodicTables, if_pos hdue]
    by_cases hroom : 2 * tsPacketSize ≤ bufSize
    · have hclocks := no_clocks (tsMuxWritePatPmt_parses (s := s) hroom) (by
        intro p hp
        simp only [List.mem_cons, List.not_mem_nil, or_false] at hp
        rcases hp with rfl | rfl
        · exact fun h => absurd h.1 (show tsPidPat.toNat ≠ 0x100 by decide)
        · exact fun h => absurd h.1 (show tsPidPmt.toNat ≠ 0x100 by decide))
      refine ⟨hclocks, ?_, ?_⟩
      · rw [tsMuxWritePatPmt, if_neg (Nat.not_lt.2 hroom)]
      · rw [tsMuxWritePatPmt, if_neg (Nat.not_lt.2 hroom), if_pos ⟨hdue, hroom⟩]
        rfl
    · rw [tsMuxWritePatPmt, if_pos (Nat.not_le.1 hroom), if_neg fun h => hroom h.2]
      exact ⟨rfl, rfl, rfl⟩
  · simp only [periodicTables, if_neg hdue]
    exact ⟨rfl, trivial, (if_neg fun h => hdue h.1).symm⟩

/-- A unit has the clock of its first packet, if there is room for that. -/
theorem writePes_clocks (s : TsMuxState) (bufSize : Nat) (cc : UInt8) (data : List UInt8) {pts : UInt64} (rai : Bool)
    (hpts : pts.toNat < 2 ^ 33) :
    (writePesPackets s bufSize tsPidVideo cc 0xE0 data pts true rai).2.1.filterMap readClock =
      (if tsPacketSize ≤ bufSize then [pts.toNat] else []).map (clockOf s.pcrOffset.toNat) := by
  cases hbuf : bufSize / 188 with
  | zero =>
      have hroom : bufSize / tsPacketSize = 0 := hbuf
      have hsmall : ¬ tsPacketSize ≤ bufSize := by
        change ¬ 188 ≤ bufSize
        omega
      rw [writePesPackets, hroom, if_neg hsmall]
      rfl
  | succ room =>
      have hlarge : tsPacketSize ≤ bufSize := by
        change 188 ≤ bufSize
        omega
      have hhead : (firstHeader s tsPidVideo cc pts true rai).length = 12 := firstHeader_length s tsPidVideo cc pts true rai
      have hshort : (data.take 162).length ≤ 162 := List.length_take_le 162 data
      have hfirst := readClock_first s cc pts rai data.length hshort hpts
      obtain ⟨ps, hparse, hcont, _⟩ :=
        continuationPackets_spec room (nextCc cc) (data.drop 162) (show tsPidVideo.toNat < 8192 by decide)
      have hnone := no_clocks hparse fun p hp h => Bool.false_ne_true ((hcont p hp).2.symm.trans h.2)
      rw [writePesPackets_eq s hbuf, hhead, if_pos hlarge, List.filterMap_cons_some hfirst, hnone]
      rfl

theorem writeVideo_clocks (s : TsMuxState) (f : VideoFrame) (hpts : f.pts.toNat < 2 ^ 33) :
    let tables := if tsPatPmtInterval ≤ s.videoFrames ∧ 2 * tsPacketSize ≤ f.bufSize then 2 * tsPacketSize else 0
    (tsMuxWriteVideo s f.bufSize f.data f.pts f.isIdr).2.filterMap readClock =
      (if f.data ≠ [] ∧ tsPacketSize ≤ f.bufSize - tables then [f.pts.toNat] else []).map (clockOf s.pcrOffset.toNat) ∧
      (tsMuxWriteVideo s f.bufSize f.data f.pts f.isIdr).1.pcrOffset = s.pcrOffset := by
  intro tables
  by_cases hdata : f.data = []
  · rw [tsMuxWriteVideo, if_pos hdata, if_neg fun h => h.1 hdata]
    exact ⟨rfl, rfl⟩
  · obtain ⟨htables, hoffset, hsize⟩ := periodicTables_clocks s f.bufSize
    rw [tsMuxWriteVideo, if_neg hdata]
    dsimp only
    refine ⟨?_, hoffset⟩
    rw [List.filterMap_append, htables, List.nil_append, hsize, writePes_clocks _ _ _ _ _ hpts]
    simp only [hoffset, ne_eq, hdata, not_false_eq_true, true_and]
    rfl

theorem writeFrames_clocks (s : TsMuxState) (fs : List VideoFrame) (hpts : ∀ f ∈ fs, f.pts.toNat < 2 ^ 33) :
    (writeFrames s fs).filterMap readClock = (startedPts s fs).map (clockOf s.pcrOffset.toNat) := by
  induction fs generalizing s with
  | nil => rfl
  | cons f fs ih =>
      obtain ⟨hclocks, hoffset⟩ := writeVideo_clocks s f (hpts f List.mem_cons_self)
      rw [writeFrames, List.filterMap_append, hclocks, ih _ fun g hg => hpts g (List.mem_cons_of_mem f hg), hoffset,
        startedPts, List.map_append]

/-! Clocks that lead by an offset. -/

theorem timespecToPts_toNat (sec nsec : UInt32) :
    (tsMuxTimespecToPts sec nsec).toNat = sec.toNat * 90000 + nsec.toNat / 11111 := by
  have hs := sec.toNat_lt
  have hn := nsec.toNat_lt
  rw [tsMuxTimespecToPts]
  simp
  omega

/-- The divisor keeps every nanosecond of a second below the next one. -/
theorem pts_mono {f g : VideoFrame} (h : f.time ≤ g.time) : f.pts.toNat ≤ g.pts.toNat := by
  have hf := f.time.below
  rw [VideoFrame.pts, VideoFrame.pts, timespecToPts_toNat, timespecToPts_toNat]
  rcases h with hsec | ⟨hsec, hnsec⟩
  · have hlt := UInt32.lt_iff_toNat_lt.1 hsec
    omega
  · have hle := UInt32.le_iff_toNat_le.1 hnsec
    rw [hsec]
    omega

theorem startedPts_sublist (s : TsMuxState) (fs : List VideoFrame) :
    (startedPts s fs).Sublist (fs.map fun f => f.pts.toNat) := by
  induction fs generalizing s with
  | nil => exact .slnil
  | cons f fs ih =>
      have hhead : ∀ (p : Prop) [Decidable p], (if p then [f.pts.toNat] else []).Sublist [f.pts.toNat] := by
        intro p _
        split
        · exact List.Sublist.refl _
        · exact List.nil_sublist _
      exact (hhead _).append (ih _)

theorem startedPts_sorted {s : TsMuxState} {fs : List VideoFrame} (h : fs.Pairwise fun f g => f.time ≤ g.time) :
    (startedPts s fs).Pairwise (· ≤ ·) :=
  (List.pairwise_map.2 (h.imp pts_mono)).sublist (startedPts_sublist s fs)

/-- Of times in order: the clocks are in order exactly when the switch-over
leaves room for the offset. -/
theorem clocks_monotone_iff {offset : Nat} {ps : List Nat} (hsorted : ps.Pairwise (· ≤ ·)) :
    Monotone offset (ps.map (clockOf offset)) ↔ SwitchesOver offset ps := by
  constructor
  · intro h
    constructor
    · intro hmem
      have hdelay := h.delay (clockOf offset offset) (List.mem_map_of_mem hmem) le_rfl
      rw [clockOf, if_neg (Nat.lt_irrefl offset), Nat.sub_self] at hdelay
      exact hdelay
    · refine (List.pairwise_map.1 h.pcr).imp ?_
      intro p q hle hp hq
      rw [clockOf, clockOf, if_neg (Nat.not_lt.2 hp), if_pos hq] at hle
      dsimp only at hle
      omega
  · intro h
    constructor
    · exact List.pairwise_map.2 hsorted
    · refine List.pairwise_map.2 ((hsorted.and h.gap).imp ?_)
      intro p q hpq
      obtain ⟨hle, hgap⟩ := hpq
      simp only [clockOf]
      split <;> split <;> omega
    · intro c hc
      obtain ⟨p, _, rfl⟩ := List.mem_map.1 hc
      simp only [clockOf]
      split <;> omega
    · intro c hc hle
      obtain ⟨p, hp, rfl⟩ := List.mem_map.1 hc
      have hle' : offset ≤ p := hle
      rcases Nat.eq_or_lt_of_le hle' with rfl | hlt
      · rw [h.never hp]
        rfl
      · exact if_pos hlt

/-- The clocks of a recording are right exactly when its times are clear of the
offset and of a switch-over that is too short. -/
theorem recording_clocks_iff (s : TsMuxState) (fs : List VideoFrame) (htimes : fs.Pairwise fun f g => f.time ≤ g.time)
    (hpts : ∀ f ∈ fs, f.pts.toNat < 2 ^ 33) :
    Monotone s.pcrOffset.toNat ((writeFrames s fs).filterMap readClock) ↔
      SwitchesOver s.pcrOffset.toNat (startedPts s fs) := by
  rw [writeFrames_clocks s fs hpts]
  exact clocks_monotone_iff (startedPts_sorted htimes)

def frameAt (sec nsec : UInt32) (h : nsec.toNat < 1000000000) : VideoFrame := ⟨⟨sec, nsec, h⟩, [2, 1, 9], false, 1000⟩

theorem recording_clocks_iff_minute :
    Monotone 3000 ((writeFrames (tsMuxInit 0 0) [frameAt 59 999999999 (by decide), frameAt 60 0 (by decide)]).filterMap
      readClock) := by
  have htimes : [frameAt 59 999999999 (by decide), frameAt 60 0 (by decide)].Pairwise fun f g => f.time ≤ g.time :=
    List.pairwise_pair.2 (.inl (by decide))
  have hpts : ∀ f ∈ [frameAt 59 999999999 (by decide), frameAt 60 0 (by decide)], f.pts.toNat < 2 ^ 33 := by
    intro f hf
    simp only [List.mem_cons, List.not_mem_nil, or_false] at hf
    rcases hf with rfl | rfl <;> decide
  have hstarted : startedPts (tsMuxInit 0 0) [frameAt 59 999999999 (by decide), frameAt 60 0 (by decide)] =
      [5400000, 5400000] := by
    decide +kernel
  refine (recording_clocks_iff (tsMuxInit 0 0) _ htimes hpts).2 ?_
  rw [hstarted]
  exact ⟨by decide, List.pairwise_pair.2 (by decide)⟩

/-- A frame at the offset itself has a PCR of the offset. -/
theorem pcr_at_offset :
    ¬ ∀ (s : TsMuxState) (fs : List VideoFrame), (fs.Pairwise fun f g => f.time ≤ g.time) →
      (∀ f ∈ fs, f.pts.toNat < 2 ^ 33) → Monotone s.pcrOffset.toNat ((writeFrames s fs).filterMap readClock) := by
  intro h
  have hclocks : (writeFrames (tsMuxInit 0 0) [frameAt 0 33333000 (by decide)]).filterMap readClock = [⟨3000, 3000⟩] := by
    decide +kernel
  have hmonotone := h (tsMuxInit 0 0) [frameAt 0 33333000 (by decide)] (List.pairwise_singleton _ _) (by
    intro f hf
    rw [List.mem_singleton.1 hf]
    decide)
  rw [hclocks] at hmonotone
  exact absurd (hmonotone.delay ⟨3000, 3000⟩ (List.mem_singleton_self _) (by decide)) (by decide)

end WaybeamVenc.TsClocks
