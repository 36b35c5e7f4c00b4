import WaybeamVenc.TsRecorder
import WaybeamVenc.TsRoundTrip

namespace WaybeamVenc.TsSegments

open Fallible TsMux TsDemux TsPackets TsRoundTrip TsRecorder

/-- The discontinuity_indicator in the adaptation field of a packet. -/
def discontinuityIndicator : List UInt8 → Bool
  | _ :: _ :: _ :: b3 :: len :: flags :: _ => b3.toNat.testBit 5 && decide (0 < len.toNat) && flags.toNat.testBit 7
  | _ => false

/-- Every PAT packet has the section of the PAT and a PMT packet right behind
it, and no sixteenth video unit starts before the next; n units started since
the last tables before these packets, m since the last at their end. -/
def Spaced (pmt : List UInt8) : Nat → List TsPacket → Nat → Prop
  | n, [], m => n = m
  | n, p :: ps, m =>
    if p.pid = tsPidPat.toNat then
      (∃ cc, p = sectionSent tsPidPat cc patSection) ∧ (∃ cc, ps.head? = some (sectionSent tsPidPmt cc pmt)) ∧
        Spaced pmt 0 ps m
    else if p.pid = tsPidVideo.toNat ∧ p.unitStart = true then n < 15 ∧ Spaced pmt (n + 1) ps m
    else Spaced pmt n ps m

theorem Spaced.append {pmt : List UInt8} {n m k : Nat} {ps qs : List TsPacket} (h : Spaced pmt n ps m)
    (h' : Spaced pmt m qs k) : Spaced pmt n (ps ++ qs) k := by
  induction ps generalizing n with
  | nil =>
      cases h
      exact h'
  | cons p ps ih =>
      rw [Spaced] at h
      rw [List.cons_append, Spaced]
      split_ifs at h ⊢ with hpat hvideo
      · obtain ⟨hsent, ⟨cc, hpmt⟩, hrest⟩ := h
        exact ⟨hsent, ⟨cc, by rw [List.head?_append, hpmt, Option.some_or]⟩, ih hrest⟩
      · exact ⟨h.1, ih h.2⟩
      · exact ih h

theorem Spaced.bound {pmt : List UInt8} {n m : Nat} {ps : List TsPacket} (h : Spaced pmt n ps m) (hn : n ≤ 15) :
    m ≤ 15 := by
  induction ps generalizing n with
  | nil =>
      cases h
      exact hn
  | cons p ps ih =>
      rw [Spaced] at h
      split_ifs at h with hpat hvideo
      · exact ih h.2.2 (Nat.zero_le _)
      · exact ih h.2 h.1
      · exact ih h hn

theorem Spaced.others {pmt : List UInt8} {n : Nat} {ps : List TsPacket}
    (h : ∀ p ∈ ps, p.pid ≠ tsPidPat.toNat ∧ ¬ (p.pid = tsPidVideo.toNat ∧ p.unitStart = true)) :
    Spaced pmt n ps n := by
  induction ps with
  | nil => rfl
  | cons p ps ih =>
      obtain ⟨hpat, hvideo⟩ := h p (List.mem_cons_self ..)
      rw [Spaced, if_neg hpat, if_neg hvideo]
      exact ih (fun q hq => h q (List.mem_cons_of_mem _ hq))

theorem Spaced.tables (pmt : List UInt8) (n : Nat) (ccPat ccPmt : UInt8) :
    Spaced pmt n [sectionSent tsPidPat ccPat patSection, sectionSent tsPidPmt ccPmt pmt] 0 := by
  have hpid : (sectionSent tsPidPat ccPat patSection).pid = tsPidPat.toNat := rfl
  rw [Spaced, if_pos hpid]
  refine ⟨⟨ccPat, rfl⟩, ⟨ccPmt, rfl⟩, ?_⟩
  apply Spaced.others
  intro p hp
  rw [List.mem_singleton.mp hp]
  have hpat : ¬ tsPidPmt.toNat = tsPidPat.toNat := by decide
  have hvideo : ¬ tsPidPmt.toNat = tsPidVideo.toNat := by decide
  exact ⟨hpat, fun h => hvideo h.1⟩

theorem Spaced.video {pmt : List UInt8} {n : Nat} {ps : List TsPacket} {rai : Bool} {u : PesUnit} (hn : n < 15)
    (hpids : ∀ p ∈ ps, p.pid = tsPidVideo.toNat) (h : OneUnit parsePes ps rai u) : Spaced pmt n ps (n + 1) := by
  obtain ⟨p, qs, rfl, hstart, -, hcont, -⟩ := h
  have hpid := hpids p (List.mem_cons_self ..)
  have hpat : ¬ p.pid = tsPidPat.toNat := by
    rw [hpid]
    decide
  rw [Spaced, if_neg hpat, if_pos ⟨hpid, hstart⟩]
  refine ⟨hn, Spaced.others (fun q hq => ⟨?_, fun h => ?_⟩)⟩
  · rw [hpids q (List.mem_cons_of_mem _ hq)]
    decide
  · rw [hcont q hq] at h
    exact absurd h.2 (by decide)

/-- What a stretch of packets does from one muxer state to another: it counts,
keeps the tables spaced and continues no video unit of the packets before. -/
structure Extends (s : TsMuxState) (ps : List TsPacket) (s' : TsMuxState) : Prop where
  counted : Counted s ps s'
  spaced : Spaced (pmtSection s) s.videoFrames.toNat ps s'.videoFrames.toNat
  whole : (reassemble (ofPid tsPidVideo.toNat ps)).1 = []
  pmt : pmtSection s' = pmtSection s

theorem Extends.refl (s : TsMuxState) : Extends s [] s := ⟨fun _ => rfl, rfl, rfl, rfl⟩

theorem reassemble_whole {ps qs : List TsPacket} (hps : (reassemble ps).1 = []) (hqs : (reassemble qs).1 = []) :
    (reassemble (ps ++ qs)).1 = [] := by
  rw [reassemble_append hqs]
  exact hps

theorem Extends.append {s t u : TsMuxState} {ps qs : List TsPacket} (h : Extends s ps t) (k : Extends t qs u) :
    Extends s (ps ++ qs) u where
  counted := h.counted.append k.counted
  spaced := h.spaced.append (h.pmt ▸ k.spaced)
  whole := by
    rw [ofPid_append]
    exact reassemble_whole h.whole k.whole
  pmt := k.pmt.trans h.pmt

/-- What the packets are does not depend on how they were shown to parse. -/
theorem parsed_unique {raw : List (List UInt8)} {ps qs : List TsPacket} (h : raw.mapM parsePacket = some ps)
    (k : raw.mapM parsePacket = some qs) : ps = qs := Option.some.inj (h.symm.trans k)

theorem call_pmt (s : TsMuxState) (c : Call) : pmtSection (call s c).1 = pmtSection s := by
  obtain ⟨hrate, hchannels, -⟩ := call_frame s c
  exact pmtSection_congr hrate hchannels

theorem tsMuxWriteAudio_extends (s : TsMuxState) (bufSize : Nat) (data : List UInt8) (pts : UInt64) :
    ∃ ps, (tsMuxWriteAudio s bufSize data pts).2.mapM parsePacket = some ps ∧
      Extends s ps (tsMuxWriteAudio s bufSize data pts).1 := by
  obtain ⟨ps, hparse, hcounted, -⟩ := tsMuxWriteAudio_spec s bufSize data pts
  have hpmt : pmtSection (tsMuxWriteAudio s bufSize data pts).1 = pmtSection s := call_pmt s (.audio bufSize data pts)
  by_cases hdata : data = []
  · rw [tsMuxWriteAudio, if_pos hdata] at hparse hcounted ⊢
    exact ⟨[], rfl, .refl s⟩
  · rw [tsMuxWriteAudio, if_neg hdata] at hparse hcounted hpmt ⊢
    obtain ⟨qs, hqs, hpids, -⟩ := writePesPackets_unit s bufSize tsPidAudio s.ccAudio 0xBD data pts false false (by decide)
    have hsame := parsed_unique hqs hparse
    subst hsame
    have hother : ∀ pid, tsPidAudio.toNat ≠ pid → ofPid pid qs = [] := fun pid hpid => ofPid_other hpids hpid
    refine ⟨qs, hqs, hcounted, Spaced.others (fun p hp => ?_), ?_, hpmt⟩
    · rw [hpids p hp]
      exact ⟨by decide, fun h => absurd h.1 (by decide)⟩
    · rw [hother _ (by decide)]
      rfl

theorem periodicTables_extends {s : TsMuxState} {bufSize : Nat} (hroom : 2 * tsPacketSize ≤ bufSize) :
    ∃ ps, (periodicTables s bufSize).2.mapM parsePacket = some ps ∧ Extends s ps (periodicTables s bufSize).1 ∧
      (periodicTables s bufSize).2.length ≤ 2 ∧ (periodicTables s bufSize).1.videoFrames.toNat < 15 := by
  obtain ⟨ps, hparse, hcounted, -⟩ := periodicTables_spec s bufSize
  by_cases hdue : tsPatPmtInterval ≤ s.videoFrames
  · rw [periodicTables, if_pos hdue] at hparse hcounted ⊢
    have hsame := parsed_unique (tsMuxWritePatPmt_parses hroom) hparse
    obtain ⟨hrate, hchannels, -⟩ := tsMuxWritePatPmt_frame s bufSize
    have hlength := mapM_length hparse
    subst hsame
    refine ⟨_, hparse, ⟨hcounted, Spaced.tables (pmtSection s) _ _ _, rfl, pmtSection_congr hrate hchannels⟩, ?_, ?_⟩
    · exact Nat.le_of_eq hlength
    · exact Nat.zero_lt_succ 14
  · rw [periodicTables, if_neg hdue] at hparse hcounted ⊢
    refine ⟨[], rfl, .refl s, Nat.zero_le _, ?_⟩
    exact Nat.lt_of_not_le (fun h => hdue (UInt32.le_iff_toNat_le.mpr h))

/-- A stretch that starts with the video of a frame: a random access point
behind a discontinuity, with the frame's timestamp. -/
structure OpensWith (frame : Frame) (video : List UInt8) (bytes : List UInt8) (ps : List TsPacket) : Prop where
  first : ∃ p qs, ps = p :: qs ∧ p.pid = tsPidVideo.toNat ∧ p.unitStart = true ∧ p.randomAccess = true
  discontinuity : discontinuityIndicator bytes = true
  unit : ((reassemble (ofPid tsPidVideo.toNat ps)).2.head?.bind parsePes) =
    some ⟨0xE0, some (frame.pts.toNat % 2 ^ 33), true, video⟩

/-- The video bytes that the buffer holds when a unit of video starts it. -/
def frameRoom : Nat := 162 + 184 * 2999

def fitting (frame : Frame) : List UInt8 := frame.data.take frameRoom

theorem OpensWith.unique {frame : Frame} {video video' bytes bytes' : List UInt8} {ps : List TsPacket}
    (h : OpensWith frame video bytes ps) (k : OpensWith frame video' bytes' ps) : video = video' := by
  have hunit := h.unit.symm.trans k.unit
  simp only [Option.some.injEq, PesUnit.mk.injEq, true_and] at hunit
  exact hunit

theorem discontinuityIndicator_append {bytes : List UInt8} (more : List UInt8) (h : discontinuityIndicator bytes = true) :
    discontinuityIndicator (bytes ++ more) = true := by
  unfold discontinuityIndicator at h
  split at h
  · exact h
  · cases h

theorem OpensWith.append {frame : Frame} {video bytes more : List UInt8} {ps qs : List TsPacket}
    (h : OpensWith frame video bytes ps) (hqs : (reassemble (ofPid tsPidVideo.toNat qs)).1 = []) :
    OpensWith frame video (bytes ++ more) (ps ++ qs) where
  first := by
    obtain ⟨p, rest, hps, hp⟩ := h.first
    exact ⟨p, rest ++ qs, by rw [hps, List.cons_append], hp⟩
  discontinuity := discontinuityIndicator_append more h.discontinuity
  unit := by
    obtain ⟨payload, hhead, hunit⟩ := Option.bind_eq_some_iff.mp h.unit
    rw [ofPid_append, reassemble_append hqs, List.head?_append, hhead]
    exact hunit

theorem adaptation_discontinuity : ∀ usePcr rai disc : Bool,
    ((if rai then 0x40 else 0 : UInt8) ||| (if usePcr then 0x10 else 0) ||| (if disc then 0x80 else 0)).toNat.testBit 7 =
      disc := by decide

/-- A first packet with a PCR shows the pending discontinuity. -/
theorem firstHeader_discontinuity (s : TsMuxState) (pid : UInt16) (cc : UInt8) (pts : UInt64) (rai : Bool)
    (rest : List UInt8) : discontinuityIndicator (firstHeader s pid cc pts true rai ++ rest) = s.discontinuity := by
  have hadapt := header_adapt cc true
  have hflags := adaptation_discontinuity true rai s.discontinuity
  rw [firstHeader, if_pos (by rw [Bool.true_or, Bool.true_or])]
  simp only [startTsPacket, adaptationField, writePcr, if_true, List.cons_append, List.nil_append,
    discontinuityIndicator] at hadapt hflags ⊢
  rw [hadapt, hflags]
  rfl

/-- The packets of a video unit show the discontinuity that was pending. -/
theorem writePesPackets_discontinuity {s : TsMuxState} {bufSize : Nat} (pid : UInt16) (cc streamId : UInt8)
    (data : List UInt8) (pts : UInt64) (rai : Bool) (hroom : 188 ≤ bufSize) :
    discontinuityIndicator (writePesPackets s bufSize pid cc streamId data pts true rai).2.1.flatten =
      s.discontinuity := by
  rw [writePesPackets]
  cases hpackets : bufSize / tsPacketSize with
  | zero =>
      have hnone : bufSize / 188 = 0 := hpackets
      omega
  | succ room =>
      simp only [List.flatten_cons, padded, List.append_assoc]
      exact firstHeader_discontinuity s pid cc pts rai _

/-- One frame's video in a whole buffer. Where no tables are due, its unit is
the first thing written. -/
theorem tsMuxWriteVideo_extends {s : TsMuxState} {frame : Frame} (hdata : frame.data ≠ []) :
    ∃ ps, (tsMuxWriteVideo s tsBufSize frame.data frame.pts frame.isIdr).2.mapM parsePacket = some ps ∧
      Extends s ps (tsMuxWriteVideo s tsBufSize frame.data frame.pts frame.isIdr).1 ∧ ps ≠ [] ∧
      (s.videoFrames < tsPatPmtInterval → s.discontinuity = true → frame.isIdr = true → OpensWith frame (fitting frame)
        (tsMuxWriteVideo s tsBufSize frame.data frame.pts frame.isIdr).2.flatten ps) := by
  obtain ⟨all, hparse, hcounted, -⟩ := tsMuxWriteVideo_spec s tsBufSize frame.data frame.pts frame.isIdr
  have hpmt := call_pmt s (.video tsBufSize frame.data frame.pts frame.isIdr)
  have hnotables : s.videoFrames < tsPatPmtInterval → periodicTables s tsBufSize = (s, []) := by
    intro hless
    rw [periodicTables, if_neg (UInt32.not_le.mpr hless)]
  rw [call] at hpmt
  rw [tsMuxWriteVideo, if_neg hdata] at hparse hcounted hpmt ⊢
  have hbuf : 2 * tsPacketSize ≤ tsBufSize := by decide
  obtain ⟨tables, htables, hext, htwo, hless⟩ := periodicTables_extends hbuf
  generalize hperiodic : periodicTables s tsBufSize = r at hparse hcounted hpmt htables hext htwo hless hnotables ⊢
  obtain ⟨t, raw⟩ := r
  have hroom : 188 ≤ tsBufSize - tsPacketSize * raw.length := by
    have htwo : raw.length ≤ 2 := htwo
    simp only [tsBufSize, tsPacketSize]
    omega
  obtain ⟨ps, hps, hpids, -, hunit, -⟩ := writePesPackets_unit { t with videoFrames := t.videoFrames + 1 }
    (tsBufSize - tsPacketSize * raw.length) tsPidVideo t.ccVideo 0xE0 frame.data frame.pts true frame.isIdr (by decide)
  have hsame := parsed_unique (mapM_append_some htables hps) hparse
  subst hsame
  have hone := hunit hroom
  obtain ⟨hwhole, hread⟩ := hone.read
  have hsmall : t.videoFrames.toNat < 15 := hless
  have hframes : (t.videoFrames + 1).toNat = t.videoFrames.toNat + 1 := by
    rw [UInt32.toNat_add]
    exact Nat.mod_eq_of_lt (by change t.videoFrames.toNat + 1 < 2 ^ 32; omega)
  refine ⟨tables ++ ps, hparse, ⟨hcounted, ?_, ?_, hpmt⟩, ?_, ?_⟩
  · apply hext.spaced.append
    change Spaced _ _ ps (t.videoFrames + 1).toNat
    rw [hframes]
    exact Spaced.video hless hpids hone
  · rw [ofPid_append]
    apply reassemble_whole hext.whole
    rw [ofPid_same hpids]
    exact hwhole
  · obtain ⟨p, qs, rfl, -⟩ := hone
    simp
  · intro hnone hdisc hidr
    obtain ⟨rfl, rfl⟩ := Prod.mk.injEq .. ▸ hnotables hnone
    have hempty : tables = [] := parsed_unique htables rfl
    subst hempty
    refine ⟨?_, ?_, ?_⟩
    · obtain ⟨p, qs, rfl, hstart, hrai, -⟩ := hone
      exact ⟨p, qs, rfl, hpids p (List.mem_cons_self ..), hstart, hrai.trans hidr⟩
    · exact (writePesPackets_discontinuity _ _ _ _ _ _ hroom).trans hdisc
    · rw [List.nil_append, ofPid_same hpids, hread, firstHeader_length]
      have hcapacity : unitRoom 12 tsBufSize = frameRoom := by decide
      simp only [if_true, List.length_nil, Nat.mul_zero, Nat.sub_zero, hcapacity, hidr, fitting]

theorem drainAudio_extends (s : TsMuxState) (tsLen : Nat) (ring : List AudioRingEntry) :
    ∃ ps, (drainAudio s tsLen ring).2.mapM parsePacket = some ps ∧ Extends s ps (drainAudio s tsLen ring).1 := by
  induction ring generalizing s tsLen with
  | nil => exact ⟨[], rfl, .refl s⟩
  | cons ae ring ih =>
      rw [drainAudio]
      by_cases hroom : 8 * tsPacketSize ≤ tsBufSize - tsLen
      · rw [if_pos hroom]
        obtain ⟨ps, hparse, hext⟩ := tsMuxWriteAudio_extends s (tsBufSize - tsLen) ae.pcm (audioPts ae)
        obtain ⟨qs, hrest, hmore⟩ := ih (tsMuxWriteAudio s (tsBufSize - tsLen) ae.pcm (audioPts ae)).1
          (tsLen + tsPacketSize * (tsMuxWriteAudio s (tsBufSize - tsLen) ae.pcm (audioPts ae)).2.length)
        exact ⟨ps ++ qs, mapM_append_some hparse hrest, hext.append hmore⟩
      · rw [if_neg hroom]
        exact ⟨[], rfl, .refl s⟩

/-- What one call puts behind the file: whole packets that extend it, and in a
new segment the frame first. -/
theorem framePackets_extends (state : Star6eTsRecorderState) {frame : Frame} (audio : List AudioRingEntry)
    (hdata : frame.data ≠ []) :
    ∃ ps, (framePackets state frame audio).2.mapM parsePacket = some ps ∧
      Extends state.mux ps (framePackets state frame audio).1 ∧ ps ≠ [] ∧
      (state.mux.videoFrames < tsPatPmtInterval → state.mux.discontinuity = true → frame.isIdr = true →
        OpensWith frame (fitting frame) (framePackets state frame audio).2.flatten ps) := by
  obtain ⟨ps, hparse, hext, hsome, hopens⟩ := tsMuxWriteVideo_extends hdata
  generalize hvideo : tsMuxWriteVideo state.mux tsBufSize frame.data frame.pts frame.isIdr = r at hparse hext hopens
  obtain ⟨mux, video⟩ := r
  by_cases hring : state.audioRing = true
  · obtain ⟨qs, haudio, hmore⟩ := drainAudio_extends mux (tsPacketSize * video.length) audio
    simp only [framePackets, hvideo, hring, if_true]
    refine ⟨ps ++ qs, mapM_append_some hparse haudio, hext.append hmore, ?_, ?_⟩
    · exact fun h => hsome (List.append_eq_nil_iff.mp h).1
    · intro hless hdisc hidr
      rw [List.flatten_append]
      exact (hopens hless hdisc hidr).append hmore.whole
  · simp only [framePackets, hvideo, hring, Bool.false_eq_true, if_false, List.append_nil]
    exact ⟨ps, hparse, hext, hsome, hopens⟩

end WaybeamVenc.TsSegments
