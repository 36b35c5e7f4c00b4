import WaybeamVenc.TsSegments

namespace WaybeamVenc.AudioDrain

open Fallible TsMux TsDemux TsRoundTrip TsRecorder TsSegments

/-- The entries that the drain loop takes from the ring, and those it leaves. -/
def drainRing (mux : TsMuxState) (tsLen : Nat) : List AudioRingEntry → List AudioRingEntry × List AudioRingEntry
  | [] => ([], [])
  | ae :: ring =>
    if 8 * tsPacketSize ≤ tsBufSize - tsLen then
      let (mux, packets) := tsMuxWriteAudio mux (tsBufSize - tsLen) ae.pcm (audioPts ae)
      let (popped, kept) := drainRing mux (tsLen + tsPacketSize * packets.length) ring
      (ae :: popped, kept)
    else ([], ae :: ring)

/-- The same for one frame, behind its video. -/
def frameDrain (state : Star6eTsRecorderState) (frame : Frame) (audio : List AudioRingEntry) :
    List AudioRingEntry × List AudioRingEntry :=
  let (mux, video) := tsMuxWriteVideo state.mux tsBufSize frame.data frame.pts frame.isIdr
  if state.audioRing then drainRing mux (tsPacketSize * video.length) audio else ([], audio)

def unitOf (ae : AudioRingEntry) : PesUnit := ⟨0xBD, some ((audioPts ae).toNat % 2 ^ 33), false, ae.pcm⟩

/-- Every entry taken is in the packets with all of its bytes (none, where it
has none), and the others are still in the ring. -/
structure AudioWhole (state : Star6eTsRecorderState) (frame : Frame) (audio : List AudioRingEntry) : Prop where
  kept : (frameDrain state frame audio).1 ++ (frameDrain state frame audio).2 = audio
  units : ∃ ps, parseStream (framePackets state frame audio).2.flatten = some ps ∧
    pesUnits 0x101 ps = some (((frameDrain state frame audio).1.filter fun ae => ae.pcm ≠ []).map unitOf)

/-- The packets of a whole audio unit. -/
def audioPackets (length : Nat) : Nat := if length = 0 then 0 else unitPackets 4 length

/-- The packets of a video frame, with the tables that are due. -/
def videoPackets (mux : TsMuxState) (length : Nat) : Nat :=
  (if tsPatPmtInterval ≤ mux.videoFrames then 2 else 0) + unitPackets 12 length

/-- With that many packets left, every entry that the loop comes to fits. -/
def LeavesRoom : Nat → List Nat → Prop
  | _, [] => True
  | left, length :: lengths =>
    8 ≤ left → audioPackets length ≤ left ∧ LeavesRoom (left - audioPackets length) lengths

instance : ∀ left lengths, Decidable (LeavesRoom left lengths)
  | _, [] => isTrue trivial
  | left, length :: lengths =>
    have : Decidable (LeavesRoom (left - audioPackets length) lengths) := instDecidableLeavesRoom _ lengths
    inferInstanceAs (Decidable (8 ≤ left → audioPackets length ≤ left ∧ LeavesRoom (left - audioPackets length) lengths))

/-- The loop in packets. -/
def taken (left : Nat) : List AudioRingEntry → List AudioRingEntry × List AudioRingEntry
  | [] => ([], [])
  | ae :: ring =>
    if 8 ≤ left then
      let (popped, kept) := taken (left - audioPackets ae.pcm.length) ring
      (ae :: popped, kept)
    else ([], ae :: ring)

/-- The units that it writes, cut where the buffer ends. -/
def writtenUnits (left : Nat) : List AudioRingEntry → List PesUnit
  | [] => []
  | ae :: ring =>
    if 8 ≤ left then
      (if ae.pcm = [] then [] else [{ unitOf ae with data := ae.pcm.take (170 + 184 * (left - 1)) }]) ++
        writtenUnits (left - audioPackets ae.pcm.length) ring
    else []

theorem continuationPackets_length (pid : UInt16) (room : Nat) (cc : UInt8) (data : List UInt8) :
    (continuationPackets pid room cc data).2.length = min room ((data.length + 183) / 184) := by
  induction room generalizing cc data with
  | zero => rw [Nat.zero_min]; rfl
  | succ room ih =>
      cases data with
      | nil => rfl
      | cons b data =>
          have hrest := ih (nextCc cc) ((b :: data).drop 184)
          rw [List.length_drop] at hrest
          change (continuationPackets pid room (nextCc cc) ((b :: data).drop 184)).2.length + 1 = _
          rw [hrest, List.length_cons]
          omega

/-- A unit takes its packets, or all that are left, and clears the flag. -/
theorem writePesPackets_shape {s : TsMuxState} {left : Nat} (hleft : 0 < left) (pid : UInt16) (cc streamId : UInt8)
    (data : List UInt8) (pts : UInt64) (usePcr rai : Bool) :
    (writePesPackets s (tsPacketSize * left) pid cc streamId data pts usePcr rai).2.1.length =
        min left (unitPackets (firstHeader s pid cc pts usePcr rai).length data.length) ∧
      (writePesPackets s (tsPacketSize * left) pid cc streamId data pts usePcr rai).2.2 = false := by
  obtain ⟨room, rfl⟩ := Nat.exists_eq_succ_of_ne_zero (Nat.ne_of_gt hleft)
  have hbuf : tsPacketSize * (room + 1) / 188 = room + 1 := Nat.mul_div_cancel_left (room + 1) (by decide)
  rw [writePesPackets_eq s hbuf]
  refine ⟨?_, rfl⟩
  rw [List.length_cons, continuationPackets_length, List.length_drop, unitPackets]
  omega

theorem writeAudio_unit {s : TsMuxState} (hdisc : s.discontinuity = false) {left : Nat} (hleft : 0 < left)
    {data : List UInt8} (hdata : data ≠ []) (pts : UInt64) :
    ∃ ps, (tsMuxWriteAudio s (tsPacketSize * left) data pts).2.mapM parsePacket = some ps ∧
      Delivers ps [] [] [] [⟨0xBD, some (pts.toNat % 2 ^ 33), false, data.take (170 + 184 * (left - 1))⟩] ∧
      (tsMuxWriteAudio s (tsPacketSize * left) data pts).2.length = min left (unitPackets 4 data.length) ∧
      (tsMuxWriteAudio s (tsPacketSize * left) data pts).1.discontinuity = false := by
  have hhead : (firstHeader s tsPidAudio s.ccAudio pts false false).length = 4 := by
    rw [TsPackets.firstHeader_length, hdisc]
    rfl
  obtain ⟨ps, hparse, hpids, -, hunit, -⟩ := writePesPackets_unit s (tsPacketSize * left) tsPidAudio s.ccAudio 0xBD data
    pts false false (by decide)
  obtain ⟨hlength, hclear⟩ := @writePesPackets_shape s left hleft tsPidAudio s.ccAudio 0xBD data pts false false
  have hwhole : 188 ≤ tsPacketSize * left := Nat.le_mul_of_pos_right 188 hleft
  have hcarries := (hunit hwhole).carries
  have hroom : tsPacketSize * left / 188 = left := Nat.mul_div_cancel_left left (by decide)
  rw [hhead, unitRoom, hroom] at hcarries
  rw [hhead] at hlength
  rw [tsMuxWriteAudio, if_neg hdata]
  exact ⟨ps, hparse, Delivers.ofAudio hpids hcarries, hlength, hclear⟩

theorem writeAudio_empty {s : TsMuxState} {bufSize : Nat} {data : List UInt8} (hdata : data = []) (pts : UInt64) :
    tsMuxWriteAudio s bufSize data pts = (s, []) := by
  rw [tsMuxWriteAudio, if_pos hdata]

/-- The loop in bytes is the loop in packets, and its packets are the units. -/
theorem drain_spec {s : TsMuxState} (hdisc : s.discontinuity = false) {tsLen left : Nat}
    (hleft : tsLen + tsPacketSize * left = tsBufSize) (ring : List AudioRingEntry) :
    drainRing s tsLen ring = taken left ring ∧
      ∃ ps, (drainAudio s tsLen ring).2.mapM parsePacket = some ps ∧ Delivers ps [] [] [] (writtenUnits left ring) := by
  induction ring generalizing s tsLen left with
  | nil => exact ⟨rfl, [], rfl, .nil⟩
  | cons ae ring ih =>
      have hroom : tsBufSize - tsLen = tsPacketSize * left := by omega
      have hfull : 8 * tsPacketSize ≤ tsPacketSize * left ↔ 8 ≤ left := by
        change 8 * 188 ≤ 188 * left ↔ _
        omega
      rw [drainRing, drainAudio, taken, writtenUnits, hroom]
      by_cases height : 8 ≤ left
      · simp only [hfull, if_pos height]
        by_cases hdata : ae.pcm = []
        · have hnone := @writeAudio_empty s (tsPacketSize * left) ae.pcm hdata (audioPts ae)
          have hzero : audioPackets ae.pcm.length = 0 := if_pos (List.length_eq_zero_iff.mpr hdata)
          obtain ⟨htaken, ps, hparse, hdelivers⟩ := ih hdisc hleft
          rw [hnone, hzero, if_pos hdata]
          simp only [List.length_nil, Nat.mul_zero, Nat.add_zero, Nat.sub_zero, List.nil_append, htaken]
          exact ⟨trivial, ps, hparse, hdelivers⟩
        · obtain ⟨ps, hparse, hdelivers, hlength, hclear⟩ :=
            writeAudio_unit hdisc (show 0 < left by omega) hdata (audioPts ae)
          have hpackets : audioPackets ae.pcm.length = unitPackets 4 ae.pcm.length :=
            if_neg (fun h => hdata (List.length_eq_zero_iff.mp h))
          obtain ⟨htaken, qs, hrest, hmore⟩ := @ih _ hclear
            (tsLen + tsPacketSize * (tsMuxWriteAudio s (tsPacketSize * left) ae.pcm (audioPts ae)).2.length)
            (left - audioPackets ae.pcm.length) (by
              rw [hlength, hpackets]
              change tsLen + 188 * _ + 188 * _ = _
              change tsLen + 188 * left = _ at hleft
              omega)
          rw [if_neg hdata, htaken]
          exact ⟨rfl, ps ++ qs, mapM_append_some hparse hrest, hdelivers.append hmore⟩
      · simp only [hfull, if_neg height]
        exact ⟨trivial, [], rfl, .nil⟩

theorem taken_append (left : Nat) (ring : List AudioRingEntry) : (taken left ring).1 ++ (taken left ring).2 = ring := by
  induction ring generalizing left with
  | nil => rfl
  | cons ae ring ih =>
      rw [taken]
      split_ifs
      · exact congrArg (List.cons ae) (ih _)
      · rfl

/-- A unit is whole exactly when its packets are left. -/
theorem unit_whole_iff {ae : AudioRingEntry} {left : Nat} (hleft : 0 < left) (hdata : ae.pcm ≠ []) :
    { unitOf ae with data := ae.pcm.take (170 + 184 * (left - 1)) } = unitOf ae ↔ audioPackets ae.pcm.length ≤ left := by
  have hpos : 0 < ae.pcm.length := List.length_pos_iff.mpr hdata
  have htake : ae.pcm.take (170 + 184 * (left - 1)) = ae.pcm ↔ ae.pcm.length ≤ 170 + 184 * (left - 1) :=
    List.take_eq_self_iff ae.pcm
  rw [unitOf]
  simp only [PesUnit.mk.injEq, true_and]
  rw [htake, audioPackets, if_neg (Nat.ne_of_gt hpos), unitPackets]
  omega

theorem units_whole_iff (left : Nat) (ring : List AudioRingEntry) :
    writtenUnits left ring = ((taken left ring).1.filter fun ae => ae.pcm ≠ []).map unitOf ↔
      LeavesRoom left (ring.map fun ae => ae.pcm.length) := by
  induction ring generalizing left with
  | nil => exact iff_of_true rfl trivial
  | cons ae ring ih =>
      rw [writtenUnits, taken, List.map_cons, LeavesRoom]
      by_cases height : 8 ≤ left
      · rw [if_pos height, if_pos height, imp_iff_right height, ← ih]
        by_cases hdata : ae.pcm = []
        · have hzero : audioPackets ae.pcm.length = 0 := if_pos (List.length_eq_zero_iff.mpr hdata)
          rw [if_pos hdata, hzero, and_iff_right (Nat.zero_le left)]
          dsimp only
          rw [List.filter_cons_of_neg (by simp [hdata])]
          rfl
        · rw [if_neg hdata, ← unit_whole_iff (show 0 < left by omega) hdata]
          dsimp only
          rw [List.filter_cons_of_pos (by simp [hdata]), List.map_cons, List.singleton_append, List.cons.injEq]
      · rw [if_neg height, if_neg height]
        exact iff_of_true rfl fun h => absurd h height

theorem periodicTables_length (s : TsMuxState) (bufSize : Nat) : (periodicTables s bufSize).2.length ≤ 2 := by
  rw [periodicTables]
  split_ifs
  · rw [tsMuxWritePatPmt]
    split_ifs
    · exact Nat.zero_le 2
    · exact le_refl 2
  · exact Nat.zero_le 2

theorem writeVideo_discontinuity (s : TsMuxState) {data : List UInt8} (hdata : data ≠ []) (pts : UInt64) (isIdr : Bool) :
    (tsMuxWriteVideo s tsBufSize data pts isIdr).1.discontinuity = false := by
  have htables := periodicTables_length s tsBufSize
  rw [tsMuxWriteVideo, if_neg hdata]
  generalize periodicTables s tsBufSize = tables at htables ⊢
  have hleft : tsBufSize - tsPacketSize * tables.2.length = tsPacketSize * (3000 - tables.2.length) := by
    rw [tsBufSize]
    change 3000 * 188 - 188 * _ = 188 * _
    omega
  dsimp only
  rw [hleft]
  exact (@writePesPackets_shape { tables.1 with videoFrames := tables.1.videoFrames + 1 } (3000 - tables.2.length)
    (by omega) tsPidVideo tables.1.ccVideo 0xE0 data pts true isIdr).2

theorem video_fits {mux : TsMuxState} {frame : Frame} (hdata : frame.data ≠ []) (hsize : frame.data.length ≤ 512 * 1024) :
    fits mux (.video tsBufSize frame.data frame.pts frame.isIdr) ∧
      outputSize mux (.video tsBufSize frame.data frame.pts frame.isIdr) =
        tsPacketSize * videoPackets mux frame.data.length ∧
      videoPackets mux frame.data.length ≤ 2852 := by
  have hpackets : unitPackets 12 frame.data.length ≤ 2850 := by
    rw [unitPackets]
    omega
  have hout : outputSize mux (.video tsBufSize frame.data frame.pts frame.isIdr) =
      tsPacketSize * videoPackets mux frame.data.length := by
    rw [outputSize, videoPackets, Nat.mul_add]
    split_ifs <;> rfl
  have hbound : videoPackets mux frame.data.length ≤ 2852 := by
    rw [videoPackets]
    split_ifs <;> omega
  refine ⟨⟨hdata, ?_⟩, hout, hbound⟩
  rw [hout, tsBufSize]
  change 188 * _ ≤ 3000 * 188
  omega

/-- What one frame puts out with the ring attached: its video, then the units
of the drain. -/
theorem frame_units {state : Star6eTsRecorderState} (hring : state.audioRing = true) {frame : Frame}
    (hdata : frame.data ≠ []) (hsize : frame.data.length ≤ 512 * 1024) (audio : List AudioRingEntry) :
    frameDrain state frame audio = taken (3000 - videoPackets state.mux frame.data.length) audio ∧
      ∃ ps, parseStream (framePackets state frame audio).2.flatten = some ps ∧
        pesUnits 0x101 ps = some (writtenUnits (3000 - videoPackets state.mux frame.data.length) audio) := by
  obtain ⟨hfits, hout, hbound⟩ := @video_fits state.mux frame hdata hsize
  obtain ⟨ps, hparse, -, hvideo⟩ := tsMuxWriteVideo_spec state.mux tsBufSize frame.data frame.pts frame.isIdr
  obtain ⟨hdelivers, hlength⟩ := hvideo hfits
  have hclear := writeVideo_discontinuity state.mux hdata frame.pts frame.isIdr
  rw [hout] at hlength
  rw [frameDrain, framePackets]
  generalize tsMuxWriteVideo state.mux tsBufSize frame.data frame.pts frame.isIdr = r at hparse hlength hclear ⊢
  obtain ⟨mux, video⟩ := r
  have hleft : tsPacketSize * video.length + tsPacketSize * (3000 - videoPackets state.mux frame.data.length) =
      tsBufSize := by
    rw [hlength, tsBufSize]
    change 188 * _ + 188 * _ = 3000 * 188
    omega
  obtain ⟨htaken, qs, hrest, hmore⟩ := drain_spec hclear hleft audio
  simp only [hring, if_true]
  refine ⟨htaken, ps ++ qs, parseStream_flatten (mapM_append_some hparse hrest), ?_⟩
  exact (hdelivers.append hmore).audio.read

theorem frameDrain_append (state : Star6eTsRecorderState) {frame : Frame} (hdata : frame.data ≠ [])
    (hsize : frame.data.length ≤ 512 * 1024) (audio : List AudioRingEntry) :
    (frameDrain state frame audio).1 ++ (frameDrain state frame audio).2 = audio := by
  cases hring : state.audioRing with
  | true =>
      rw [(frame_units hring hdata hsize audio).1]
      exact taken_append _ audio
  | false =>
      simp only [frameDrain, hring, Bool.false_eq_true, if_false]
      rfl

theorem AudioWhole.leavesRoom {state : Star6eTsRecorderState} {frame : Frame} {audio : List AudioRingEntry}
    (h : AudioWhole state frame audio) (hring : state.audioRing = true) (hdata : frame.data ≠ [])
    (hsize : frame.data.length ≤ 512 * 1024) :
    LeavesRoom (3000 - videoPackets state.mux frame.data.length) (audio.map fun ae => ae.pcm.length) := by
  obtain ⟨hdrain, ps, hparse, hunits⟩ := frame_units hring hdata hsize audio
  obtain ⟨qs, hparse', hwhole⟩ := h.units
  rw [hparse] at hparse'
  cases hparse'
  rw [hunits, hdrain, Option.some.injEq] at hwhole
  exact (units_whole_iff _ audio).mp hwhole

/-- No entry is cut exactly when, each time eight packets are left, the next
entry needs no more than are left. -/
theorem audio_whole_iff (state : Star6eTsRecorderState) (frame : Frame) (audio : List AudioRingEntry)
    (hdata : frame.data ≠ []) (hsize : frame.data.length ≤ 512 * 1024) :
    AudioWhole state frame audio ↔ (state.audioRing = true →
      LeavesRoom (3000 - videoPackets state.mux frame.data.length) (audio.map fun ae => ae.pcm.length)) := by
  constructor
  · intro h hring
    exact h.leavesRoom hring hdata hsize
  · intro h
    refine ⟨frameDrain_append state hdata hsize audio, ?_⟩
    cases hring : state.audioRing with
    | true =>
        obtain ⟨hdrain, ps, hparse, hunits⟩ := frame_units hring hdata hsize audio
        refine ⟨ps, hparse, ?_⟩
        rw [hunits, hdrain, (units_whole_iff _ audio).mpr (h hring)]
    | false =>
        obtain ⟨ps, hparse, -, hvideo⟩ := tsMuxWriteVideo_spec state.mux tsBufSize frame.data frame.pts frame.isIdr
        obtain ⟨hdelivers, -⟩ := hvideo (video_fits hdata hsize).1
        simp only [framePackets, frameDrain, hring, Bool.false_eq_true, if_false, List.append_nil]
        exact ⟨ps, parseStream_flatten hparse, hdelivers.audio.read⟩

def attached : Star6eTsRecorderState := { star6eTsRecorderInit 48000 2 with audioRing := true }

theorem audio_whole_iff_small :
    AudioWhole attached ⟨[1], 0, false⟩ [⟨[2, 3], 0⟩] := by
  refine (audio_whole_iff attached ⟨[1], 0, false⟩ [⟨[2, 3], 0⟩] (by decide) (by decide)).mpr fun _ => ?_
  exact fun _ => ⟨by decide, trivial⟩

/-- Twenty milliseconds of 48 kHz stereo. -/
def pcmEntry : AudioRingEntry := ⟨List.replicate 3840 1, 0⟩

def largeFrame : Frame := ⟨List.replicate 523090 1, 0, true⟩

theorem eight_taken {ae : AudioRingEntry} (h : ae.pcm.length = 3840) : (taken 155 (List.replicate 8 ae)).2 = [] := by
  have hpackets : audioPackets ae.pcm.length = 21 := by rw [h]; rfl
  simp only [List.replicate, taken, hpackets, Nat.reduceLeDiff, Nat.reduceSub, if_true]

/-- The frame takes 2845 of 3000 packets; seven entries leave eight, and the
eighth is taken for them and cut. -/
theorem eighth_entry_cut :
    (frameDrain attached largeFrame (List.replicate 8 pcmEntry)).2 = [] ∧
      ¬ AudioWhole attached largeFrame (List.replicate 8 pcmEntry) := by
  have hlarge : largeFrame.data.length = 523090 := List.length_replicate
  have hentry : pcmEntry.pcm.length = 3840 := List.length_replicate
  have hdata : largeFrame.data ≠ [] := by
    rw [← List.length_pos_iff, hlarge]
    decide
  have hsize : largeFrame.data.length ≤ 512 * 1024 := by
    rw [hlarge]
    decide
  have hleft : 3000 - videoPackets attached.mux largeFrame.data.length = 155 := by
    rw [hlarge]
    decide
  constructor
  · rw [(frame_units rfl hdata hsize _).1, hleft]
    exact eight_taken hentry
  · intro h
    have hroom := h.leavesRoom rfl hdata hsize
    rw [hleft, List.map_replicate, hentry] at hroom
    exact absurd hroom (by decide)

end WaybeamVenc.AudioDrain
