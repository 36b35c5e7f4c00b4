import WaybeamVenc.RecorderFiles
import WaybeamVenc.TsSegments

namespace WaybeamVenc.RecorderSegments

open Fallible TsMux TsDemux TsPackets TsRoundTrip TsRecorder TsSegments RecorderFiles

/-- What a player finds in a file by itself. A segment that a frame opened
starts with the video of that frame, unless the recording has stopped before it
was written. -/
structure Segment (video : Frame → List UInt8) (pmt : List UInt8) (recording : Prop) (f : File)
    (ps rest : List TsPacket) : Prop where
  parsed : parseStream f.bytes = some ps
  tables : ps = sectionSent tsPidPat 0 patSection :: sectionSent tsPidPmt 0 pmt :: rest
  counted : ∀ pid, ∃ n, Counts 0 ((ofPid pid ps).map (·.cc)) n
  spaced : ∃ n, Spaced pmt 0 ps n
  opened : ∀ frame, f.opener = some frame → frame.isIdr = true ∧
    (OpensWith frame (video frame) (f.bytes.drop (2 * tsPacketSize)) rest ∨ rest = [] ∧ ¬ recording)

def SelfContained (video : Frame → List UInt8) (pmt : List UInt8) (recording : Prop) (f : File) : Prop :=
  ∃ ps rest, Segment video pmt recording f ps rest

theorem SelfContained.mono {video : Frame → List UInt8} {pmt : List UInt8} {recording recording' : Prop} {f : File}
    (himp : recording' → recording) (h : SelfContained video pmt recording f) :
    SelfContained video pmt recording' f := by
  obtain ⟨ps, rest, h⟩ := h
  refine ⟨ps, rest, h.parsed, h.tables, h.counted, h.spaced, fun frame hframe => ?_⟩
  obtain ⟨hidr, hopens | ⟨hrest, hstopped⟩⟩ := h.opened frame hframe
  · exact ⟨hidr, .inl hopens⟩
  · exact ⟨hidr, .inr ⟨hrest, fun h => hstopped (himp h)⟩⟩

theorem Segment.length {video : Frame → List UInt8} {pmt : List UInt8} {recording : Prop} {f : File}
    {ps rest : List TsPacket} (h : Segment video pmt recording f ps rest) :
    f.bytes.length = 2 * tsPacketSize + 188 * rest.length := by
  have hlength := parseStream_length h.parsed
  rw [h.tables, List.length_cons, List.length_cons] at hlength
  rw [hlength]
  change 188 * (rest.length + 1 + 1) = 2 * 188 + 188 * rest.length
  omega

theorem SelfContained.nonempty {video : Frame → List UInt8} {pmt : List UInt8} {recording : Prop} {f : File}
    (h : SelfContained video pmt recording f) : f.bytes ≠ [] := by
  obtain ⟨ps, rest, h⟩ := h
  intro hempty
  have hlength := h.length
  rw [hempty, List.length_nil] at hlength
  have hsize : 2 * tsPacketSize = 376 := rfl
  omega

/-- A file whose first frame was written, but did not fit the buffer. -/
def Cut (f : File) : Prop :=
  2 * tsPacketSize < f.bytes.length ∧ ∃ frame, f.opener = some frame ∧ frameRoom < frame.data.length

/-- A segment has the whole of its first frame unless the buffer cut it. -/
theorem SelfContained.whole_iff {pmt : List UInt8} {recording : Prop} {f : File}
    (h : SelfContained fitting pmt recording f) : SelfContained Frame.data pmt recording f ↔ ¬ Cut f := by
  obtain ⟨ps, rest, h⟩ := h
  have hlength := h.length
  constructor
  · rintro ⟨qs, rest', k⟩ ⟨hlong, frame, hframe, hbig⟩
    have hsame : ps = qs := Option.some.inj (h.parsed.symm.trans k.parsed)
    subst hsame
    have htail := h.tables.symm.trans k.tables
    simp only [List.cons.injEq, true_and] at htail
    subst htail
    have hrest : rest ≠ [] := by
      rintro rfl
      rw [List.length_nil] at hlength
      omega
    obtain ⟨-, hopens | ⟨hnone, -⟩⟩ := h.opened frame hframe
    · obtain ⟨-, hwhole | ⟨hnone, -⟩⟩ := k.opened frame hframe
      · have hcut := congrArg List.length (hopens.unique hwhole)
        rw [fitting, List.length_take] at hcut
        omega
      · exact hrest hnone
    · exact hrest hnone
  · intro hfits
    refine ⟨ps, rest, h.parsed, h.tables, h.counted, h.spaced, fun frame hframe => ?_⟩
    obtain ⟨hidr, hopens | hstopped⟩ := h.opened frame hframe
    · refine ⟨hidr, .inl ?_⟩
      obtain ⟨p, qs, hrest, -⟩ := hopens.first
      have hlong : 2 * tsPacketSize < f.bytes.length := by
        rw [hlength, hrest, List.length_cons]
        omega
      have hroom : frame.data.length ≤ frameRoom := Nat.le_of_not_lt fun hbig => hfits ⟨hlong, frame, hframe, hbig⟩
      have hall : fitting frame = frame.data := List.take_of_length_le hroom
      rwa [hall] at hopens
    · exact ⟨hidr, .inr hstopped⟩

/-- A file as the muxer left it: packets that brought every counter from zero
to where it is. -/
structure Written (mux : TsMuxState) (f : File) (raw : List (List UInt8)) (ps rest : List TsPacket) : Prop where
  bytes : f.bytes = raw.flatten
  parsed : raw.mapM parsePacket = some ps
  tables : ps = sectionSent tsPidPat 0 patSection :: sectionSent tsPidPmt 0 (pmtSection mux) :: rest
  counted : ∀ pid, Counts 0 ((ofPid pid ps).map (·.cc)) (counter mux pid)
  spaced : Spaced (pmtSection mux) 0 ps mux.videoFrames.toNat

theorem Written.append {mux mux' : TsMuxState} {f : File} {raw more : List (List UInt8)} {ps qs rest : List TsPacket}
    (h : Written mux f raw ps rest) (hmore : more.mapM parsePacket = some qs) (hext : Extends mux qs mux') :
    Written mux' { f with bytes := f.bytes ++ more.flatten } (raw ++ more) (ps ++ qs) (rest ++ qs) where
  bytes := by rw [List.flatten_append, ← h.bytes]
  parsed := mapM_append_some h.parsed hmore
  tables := by rw [h.tables, hext.pmt, List.cons_append, List.cons_append]
  counted := by
    intro pid
    rw [ofPid_append, List.map_append]
    exact (h.counted pid).append (hext.counted pid)
  spaced := by
    rw [hext.pmt]
    exact h.spaced.append hext.spaced

theorem Written.tables_length {mux : TsMuxState} {f : File} {raw : List (List UInt8)} {ps rest : List TsPacket}
    (h : Written mux f raw ps rest) : f.bytes.length = 2 * tsPacketSize + 188 * rest.length := by
  have hpackets : ∀ bytes ∈ raw, bytes.length = 188 := by
    intro bytes hmem
    obtain ⟨p, -, hp⟩ := mem_of_mapM h.parsed hmem
    exact parsePacket_length hp
  have hcount := mapM_length h.parsed
  rw [h.tables, List.length_cons, List.length_cons] at hcount
  rw [h.bytes, flatten_length hpackets, hcount]
  change (rest.length + 1 + 1) * 188 = 2 * 188 + 188 * rest.length
  omega

theorem Written.selfContained {mux : TsMuxState} {f : File} {raw : List (List UInt8)} {ps rest : List TsPacket}
    {recording : Prop} (h : Written mux f raw ps rest)
    (hopened : ∀ frame, f.opener = some frame → frame.isIdr = true ∧
      (OpensWith frame (fitting frame) (f.bytes.drop (2 * tsPacketSize)) rest ∨ rest = [] ∧ ¬ recording)) :
    SelfContained fitting (pmtSection mux) recording f :=
  ⟨ps, rest, h.bytes ▸ parseStream_flatten h.parsed, h.tables, fun pid => ⟨_, h.counted pid⟩, ⟨_, h.spaced⟩, hopened⟩

/-- The file being written. Its first frame is there, or is the one that pending
admits. -/
def Growing (mux : TsMuxState) (pending : Frame → Prop) (f : File) : Prop :=
  ∃ raw ps rest, Written mux f raw ps rest ∧ ∀ frame, f.opener = some frame → frame.isIdr = true ∧
    (OpensWith frame (fitting frame) (f.bytes.drop (2 * tsPacketSize)) rest ∨
      rest = [] ∧ mux.videoFrames < tsPatPmtInterval ∧ mux.discontinuity = true ∧ pending frame)

theorem Growing.selfContained {mux : TsMuxState} {pending : Frame → Prop} {recording : Prop} {f : File}
    (h : Growing mux pending f) (hstopped : ∀ frame, pending frame → ¬ recording) :
    SelfContained fitting (pmtSection mux) recording f := by
  obtain ⟨raw, ps, rest, hwritten, hopened⟩ := h
  apply hwritten.selfContained
  intro frame hframe
  obtain ⟨hidr, hopens | ⟨hrest, -, -, hpending⟩⟩ := hopened frame hframe
  · exact ⟨hidr, .inl hopens⟩
  · exact ⟨hidr, .inr ⟨hrest, hstopped frame hpending⟩⟩

theorem Growing.append {state : Star6eTsRecorderState} {f : File} {frame : Frame} (audio : List AudioRingEntry)
    (hdata : frame.data ≠ []) (h : Growing state.mux (· = frame) f) :
    Growing (framePackets state frame audio).1 (fun _ => False)
      { f with bytes := f.bytes ++ (framePackets state frame audio).2.flatten } := by
  obtain ⟨raw, ps, rest, hwritten, hopened⟩ := h
  obtain ⟨qs, hparse, hext, -, hopens⟩ := framePackets_extends state audio hdata
  refine ⟨_, _, _, hwritten.append hparse hext, fun g hg => ?_⟩
  have hlength := hwritten.tables_length
  have hdrop (more : List UInt8) : (f.bytes ++ more).drop (2 * tsPacketSize) = f.bytes.drop (2 * tsPacketSize) ++ more :=
    List.drop_append_of_le_length (by omega)
  obtain ⟨hidr, hbefore | ⟨hrest, hless, hdisc, rfl⟩⟩ := hopened g hg
  · rw [hdrop]
    exact ⟨hidr, .inl (hbefore.append hext.whole)⟩
  · subst hrest
    have hempty : f.bytes.drop (2 * tsPacketSize) = [] :=
      List.drop_eq_nil_of_le (by rw [hlength, List.length_nil]; omega)
    rw [hdrop, hempty]
    exact ⟨hidr, .inl (hopens hless hdisc hidr)⟩

/-- The recorder and its files, with d bytes lost to paths used twice. -/
structure Inv (pending : Frame → Prop) (d : Nat) (r : Recording) : Prop where
  paths : (r.disk.map File.path).Nodup
  closed : ∀ f ∈ r.disk, r.state.fd ≠ some f.path → SelfContained fitting (pmtSection r.state.mux) (r.state.fd ≠ none) f
  current : ∀ path, r.state.fd = some path → ∃ f ∈ r.disk, f.path = path ∧ r.state.segmentBytes = f.bytes.length ∧
    Growing r.state.mux pending f
  ledger : total r.disk + d = r.state.bytesWritten

/-- A new segment whose tables could not be written has ended the recording. -/
def Spoilt (r : Recording) : Prop := r.state.fd = none ∧ ∃ f ∈ r.disk, f.bytes = []

variable {pending pending' : Frame → Prop} {d : Nat} {r r' : Recording}

theorem Inv.same (h : Inv pending d r) (hdisk : r'.disk = r.disk) (hmux : r'.state.mux = r.state.mux)
    (hbytes : r'.state.bytesWritten = r.state.bytesWritten) (hfd : r'.state.fd = r.state.fd)
    (hsegment : r'.state.segmentBytes = r.state.segmentBytes) : Inv pending d r' := by
  constructor
  · rw [hdisk]
    exact h.paths
  · rw [hdisk, hmux, hfd]
    exact h.closed
  · rw [hdisk, hmux, hfd, hsegment]
    exact h.current
  · rw [hdisk, hbytes]
    exact h.ledger

/-- Every file reads by itself, the one being written too. -/
theorem Inv.files {recording : Prop} (h : Inv pending d r) (hclosed : recording → r.state.fd ≠ none)
    (hpending : ∀ frame, pending frame → ¬ recording) :
    ∀ f ∈ r.disk, SelfContained fitting (pmtSection r.state.mux) recording f := by
  intro f hf
  by_cases hcurrent : r.state.fd = some f.path
  · obtain ⟨g, hg, hpath, -, hgrowing⟩ := h.current f.path hcurrent
    have hsame : g = f := List.inj_on_of_nodup_map h.paths hg hf hpath
    exact hsame ▸ hgrowing.selfContained hpending
  · exact (h.closed f hf hcurrent).mono hclosed

theorem Inv.halt (h : Inv pending d r) (hdisk : r'.disk = r.disk)
    (hpmt : pmtSection r'.state.mux = pmtSection r.state.mux)
    (hbytes : r'.state.bytesWritten = r.state.bytesWritten) (hfd : r'.state.fd = none) : Inv pending' d r' := by
  constructor
  · rw [hdisk]
    exact h.paths
  · intro f hf _
    rw [hdisk] at hf
    rw [hpmt]
    exact h.files (fun hsome => absurd hfd hsome) (fun _ _ hsome => hsome hfd) f hf
  · intro path hpath
    rw [hfd] at hpath
    cases hpath
  · rw [hdisk, hbytes]
    exact h.ledger

theorem counter_segmentMux (mux : TsMuxState) (pid : Nat) : counter (segmentMux mux) pid = 0 := by
  rw [counter]
  split_ifs <;> rfl

def segmentTables (mux : TsMuxState) : TsMuxState × List (List UInt8) :=
  tsMuxWritePatPmt (segmentMux mux) (2 * tsPacketSize)

theorem segmentTables_pmt (mux : TsMuxState) : pmtSection (segmentTables mux).1 = pmtSection mux := by
  obtain ⟨hrate, hchannels, -⟩ := tsMuxWritePatPmt_frame (segmentMux mux) (2 * tsPacketSize)
  exact pmtSection_congr hrate hchannels

theorem segmentTables_flags (mux : TsMuxState) :
    (segmentTables mux).1.videoFrames = 0 ∧ (segmentTables mux).1.discontinuity = true := by
  rw [segmentTables, tsMuxWritePatPmt, if_neg (Nat.lt_irrefl _)]
  exact ⟨rfl, rfl⟩

/-- The tables alone are a file that reads by itself. -/
theorem segmentTables_written (mux : TsMuxState) (path : CNumber.CString) (opener : Option Frame) : ∃ ps,
    Written (segmentTables mux).1 ⟨path, opener, (segmentTables mux).2.flatten⟩ (segmentTables mux).2 ps [] := by
  obtain ⟨ps, hparse, hcounted, -⟩ := tsMuxWritePatPmt_spec (segmentMux mux) (2 * tsPacketSize)
  have hsame := parsed_unique hparse (tsMuxWritePatPmt_parses (Nat.le_refl _))
  have hpmt := segmentTables_pmt mux
  have hframes : (segmentTables mux).1.videoFrames.toNat = 0 := by
    rw [(segmentTables_flags mux).1]
    rfl
  subst hsame
  refine ⟨_, rfl, hparse, ?_, fun pid => ?_, ?_⟩
  · rw [hpmt]
    rfl
  · have hcounts := hcounted pid
    rwa [counter_segmentMux] at hcounts
  · rw [hframes, hpmt]
    exact Spaced.tables _ 0 _ _

theorem segmentTables_length (mux : TsMuxState) : (segmentTables mux).2.flatten.length = 2 * tsPacketSize := by
  obtain ⟨ps, hwritten⟩ := segmentTables_written mux [] none
  exact hwritten.tables_length

theorem segmentTables_nonempty (mux : TsMuxState) : (segmentTables mux).2.flatten ≠ [] := by
  intro h
  have hlength := segmentTables_length mux
  rw [h] at hlength
  exact absurd hlength (by decide)

/-! Opening a segment. -/

theorem openNewSegment_opened {opener : Option Frame} {env : OpenEnv} (hopens : env.opens = true)
    (hwhole : WholeWrites env.rets) (hok : ¬ Fails env.rets) :
    openNewSegment r opener env = (⟨{ r.state with
      fd := some (buildTsPath r.state.dir env.pathTime)
      path := buildTsPath r.state.dir env.pathTime
      mux := (segmentTables r.state.mux).1
      bytesWritten := r.state.bytesWritten + 2 * tsPacketSize
      segmentBytes := 2 * tsPacketSize
      segmentStartTime := env.startTime
      segments := r.state.segments + 1 },
      openedDisk r.disk (buildTsPath r.state.dir env.pathTime) opener (segmentTables r.state.mux).2.flatten⟩, true) := by
  have hwrite := writeAll_completes (segmentTables r.state.mux).2.flatten hwhole hok
  rw [segmentTables_length] at hwrite
  rw [segmentTables] at hwrite ⊢
  simp only [openNewSegment, hopens, if_true, hwrite, append_createFile]

theorem openNewSegment_fails {opener : Option Frame} {env : OpenEnv} (hopens : env.opens = true)
    (hwhole : WholeWrites env.rets) (hfails : Fails env.rets) :
    (openNewSegment r opener env).2 = false ∧ Spoilt (openNewSegment r opener env).1 := by
  obtain ⟨e, hwrite⟩ := writeAll_fails hwhole hfails (segmentTables_nonempty r.state.mux)
  rw [segmentTables] at hwrite
  simp only [openNewSegment, hopens, if_true, hwrite, append_createFile]
  refine ⟨trivial, rfl, _, List.mem_append_right _ (List.mem_singleton_self _), rfl⟩

theorem openNewSegment_closed {opener : Option Frame} {env : OpenEnv} (hopens : env.opens = false) :
    openNewSegment r opener env =
      (⟨{ r.state with fd := none, path := buildTsPath r.state.dir env.pathTime }, r.disk⟩, false) := by
  simp only [openNewSegment, hopens, Bool.false_eq_true, if_false]

/-- A segment opened over files that all read by themselves; what its path held
before is lost. -/
theorem openNewSegment_inv {opener : Option Frame} {env : OpenEnv} (hpaths : (r.disk.map File.path).Nodup)
    (hfiles : ∀ f ∈ r.disk, SelfContained fitting (pmtSection r.state.mux) True f)
    (hledger : total r.disk + d = r.state.bytesWritten) (hopens : env.opens = true) (hwhole : WholeWrites env.rets)
    (hok : ¬ Fails env.rets) (hopener : ∀ frame, opener = some frame → frame.isIdr = true ∧ pending frame) :
    Inv pending (d + overwritten r.disk (buildTsPath r.state.dir env.pathTime)) (openNewSegment r opener env).1 := by
  rw [openNewSegment_opened hopens hwhole hok]
  generalize buildTsPath r.state.dir env.pathTime = path
  have hpmt := segmentTables_pmt r.state.mux
  constructor
  · exact openedDisk_nodup path opener _ hpaths
  · intro f hf hother
    have hold : f ∈ r.disk := by
      rcases List.mem_append.mp hf with hf | hf
      · exact (List.mem_filter.mp hf).1
      · rw [List.mem_singleton.mp hf] at hother
        exact absurd rfl hother
    rw [hpmt]
    exact (hfiles f hold).mono (fun _ => trivial)
  · intro p hp
    cases hp
    refine ⟨_, List.mem_append_right _ (List.mem_singleton_self _), rfl, (segmentTables_length _).symm, ?_⟩
    obtain ⟨ps, hwritten⟩ := segmentTables_written r.state.mux path opener
    obtain ⟨hframes, hdisc⟩ := segmentTables_flags r.state.mux
    refine ⟨_, ps, [], hwritten, fun frame hframe => ?_⟩
    obtain ⟨hidr, hpending⟩ := hopener frame hframe
    exact ⟨hidr, .inr ⟨rfl, by rw [hframes]; decide, hdisc, hpending⟩⟩
  · have htotal := openedDisk_total r.disk path opener (segmentTables r.state.mux).2.flatten
    rw [segmentTables_length] at htotal
    change total (openedDisk r.disk path opener (segmentTables r.state.mux).2.flatten) + _ = r.state.bytesWritten + _
    omega

/-! One call of star6e_ts_recorder_write_video. -/

theorem stopWithReason_fd (state : Star6eTsRecorderState) (reason : StopReason) :
    (stopWithReason state reason).fd = none := by
  rw [stopWithReason]
  split_ifs with hfd
  · exact hfd
  · rfl

theorem stopWithReason_frame (state : Star6eTsRecorderState) (reason : StopReason) :
    (stopWithReason state reason).mux = state.mux ∧ (stopWithReason state reason).bytesWritten = state.bytesWritten := by
  rw [stopWithReason]
  split_ifs <;> exact ⟨rfl, rfl⟩

theorem checkDiskSpace_false {state : Star6eTsRecorderState} {freeSpace : Nat}
    (h : (checkDiskSpace state freeSpace).2 = false) :
    (checkDiskSpace state freeSpace).1.fd = none ∧ (checkDiskSpace state freeSpace).1.mux = state.mux ∧
      (checkDiskSpace state freeSpace).1.bytesWritten = state.bytesWritten := by
  rw [checkDiskSpace] at h ⊢
  split_ifs at h ⊢ with hcount hlow
  exact ⟨stopWithReason_fd _ _, stopWithReason_frame _ _⟩

theorem framePackets_nonempty (state : Star6eTsRecorderState) {frame : Frame} (audio : List AudioRingEntry)
    (hdata : frame.data ≠ []) : (framePackets state frame audio).2.flatten ≠ [] := by
  obtain ⟨qs, hparse, -, hsome, -⟩ := framePackets_extends state audio hdata
  intro hempty
  have hparsed := parseStream_flatten hparse
  rw [hempty] at hparsed
  exact hsome (Option.some.inj hparsed).symm

/-- The frame goes behind the current file, or the write fails and the
recording stops as it was. -/
theorem writeFrame_inv {path : CNumber.CString} {frame : Frame} {env : CallEnv} (h : Inv (· = frame) d r)
    (hfd : r.state.fd = some path) (hdata : frame.data ≠ []) (hwhole : WholeWrites env.rets) :
    Inv (fun _ => False) d (writeFrame r path frame env).1 := by
  obtain ⟨qs, -, hext, -⟩ := framePackets_extends r.state env.audio hdata
  obtain ⟨f, hf, hpath, hsegment, hgrowing⟩ := h.current path hfd
  have hgrown := hgrowing.append env.audio hdata
  have hflat := framePackets_nonempty r.state env.audio hdata
  generalize hpackets : framePackets r.state frame env.audio = made at hext hgrown hflat
  obtain ⟨mux, packets⟩ := made
  by_cases hfails : Fails env.rets
  · obtain ⟨e, hwrite⟩ := writeAll_fails hwhole hfails hflat
    simp only [writeFrame, hpackets, hwrite, appendFile_nil]
    obtain ⟨hmux, hbytes⟩ := stopWithReason_frame { r.state with mux := mux } (if e then .diskFull else .writeError)
    exact h.halt rfl ((congrArg pmtSection hmux).trans hext.pmt) hbytes (stopWithReason_fd _ _)
  · have hwrite := writeAll_completes packets.flatten hwhole hfails
    simp only [writeFrame, hpackets, hwrite]
    constructor
    · simp only [appendFile_paths]
      exact h.paths
    · intro g hg hother
      rcases mem_appendFile hg with ⟨hold, -⟩ | ⟨g', -, hg', rfl⟩
      · have hclosed := h.closed g hold hother
        rw [← hext.pmt] at hclosed
        exact hclosed
      · exact absurd (hfd.trans (congrArg some hg'.symm)) hother
    · intro p hp
      have hsame : path = p := Option.some.inj (hfd.symm.trans hp)
      subst hsame
      refine ⟨_, appended_mem packets.flatten hf hpath, hpath, ?_, hgrown⟩
      rw [List.length_append, ← hsegment]
    · have hmem : hasPath r.disk path := List.mem_map.mpr ⟨f, hf, hpath⟩
      have hledger := h.ledger
      have htotal := appendFile_total packets.flatten h.paths hmem
      change total (appendFile r.disk path packets.flatten) + d = r.state.bytesWritten + packets.flatten.length
      omega

theorem writeFrame_disk (path : CNumber.CString) {frame : Frame} {env : CallEnv} (hdata : frame.data ≠ [])
    (hwhole : WholeWrites env.rets) :
    ∃ bytes, (writeFrame r path frame env).1.disk = appendFile r.disk path bytes ∧ (bytes ≠ [] ↔ ¬ Fails env.rets) := by
  have hflat := framePackets_nonempty r.state env.audio hdata
  generalize hpackets : framePackets r.state frame env.audio = made at hflat
  obtain ⟨mux, packets⟩ := made
  by_cases hfails : Fails env.rets
  · obtain ⟨e, hwrite⟩ := writeAll_fails hwhole hfails hflat
    refine ⟨[], ?_, iff_of_false (fun h => h rfl) (fun h => h hfails)⟩
    simp only [writeFrame, hpackets, hwrite]
  · have hwrite := writeAll_completes packets.flatten hwhole hfails
    refine ⟨packets.flatten, ?_, iff_of_true hflat hfails⟩
    simp only [writeFrame, hpackets, hwrite]

/-! The files whose first frame was cut. -/

def CutFiles (disk : List File) : Prop := ∃ f ∈ disk, Cut f

/-- The file being written has its first frame already, so that more bytes cut
nothing. -/
theorem Inv.append_cut {path : CNumber.CString} (h : Inv (fun _ => False) d r) (hfd : r.state.fd = some path)
    (bytes : List UInt8) : CutFiles (appendFile r.disk path bytes) ↔ CutFiles r.disk := by
  constructor
  · rintro ⟨g, hg, hcut⟩
    rcases mem_appendFile hg with ⟨hold, -⟩ | ⟨f, hf, hpath, rfl⟩
    · exact ⟨g, hold, hcut⟩
    · obtain ⟨f', hf', hpath', -, raw, ps, rest, hwritten, hopened⟩ := h.current path hfd
      have hsame : f' = f := List.inj_on_of_nodup_map h.paths hf' hf (hpath'.trans hpath.symm)
      subst hsame
      obtain ⟨-, frame, hframe, hbig⟩ := hcut
      refine ⟨f', hf, ?_, frame, hframe, hbig⟩
      obtain ⟨-, hopens | ⟨-, -, -, hfalse⟩⟩ := hopened frame hframe
      · obtain ⟨p, qs, hrest, -⟩ := hopens.first
        rw [hwritten.tables_length, hrest, List.length_cons]
        omega
      · exact hfalse.elim
  · rintro ⟨f, hf, hlong, hcut⟩
    by_cases hpath : f.path = path
    · refine ⟨_, appended_mem bytes hf hpath, ?_, hcut⟩
      rw [List.length_append]
      omega
    · exact ⟨f, other_mem bytes hf hpath, hlong, hcut⟩

/-- The first frame of a new segment is cut when it is written and does not fit. -/
theorem opened_cut {disk : List File} {path : CNumber.CString} {tables bytes : List UInt8} (frame : Frame)
    (hfresh : ¬ hasPath disk path) (htables : tables.length = 2 * tsPacketSize) :
    CutFiles (appendFile (openedDisk disk path (some frame) tables) path bytes) ↔
      CutFiles disk ∨ frameRoom < frame.data.length ∧ bytes ≠ [] := by
  rw [append_openedDisk (some frame) tables bytes hfresh]
  have hnew : Cut ⟨path, some frame, tables ++ bytes⟩ ↔ frameRoom < frame.data.length ∧ bytes ≠ [] := by
    rw [Cut, List.length_append, htables, ← List.length_pos_iff_ne_nil]
    constructor
    · rintro ⟨hlong, g, hg, hbig⟩
      cases hg
      exact ⟨hbig, by omega⟩
    · rintro ⟨hbig, hpos⟩
      exact ⟨by omega, frame, rfl, hbig⟩
  rw [← hnew]
  constructor
  · rintro ⟨f, hf, hcut⟩
    rcases List.mem_append.mp hf with hf | hf
    · exact .inl ⟨f, hf, hcut⟩
    · rw [List.mem_singleton.mp hf] at hcut
      exact .inr hcut
  · rintro (⟨f, hf, hcut⟩ | hcut)
    · exact ⟨f, List.mem_append_left _ hf, hcut⟩
    · exact ⟨_, List.mem_append_right _ (List.mem_singleton_self _), hcut⟩

def opensSegment (r : Recording) (frame : Frame) (env : CallEnv) : Prop :=
  r.state.fd ≠ none ∧ frame.data ≠ [] ∧ (checkDiskSpace r.state env.freeSpace).2 = true ∧ frame.isIdr = true ∧
    shouldRotate r.state env.now = true ∧ env.segment.opens = true

/-- A segment that a call opens takes a path of its own, its tables reach the
file, and its first frame, if it does, fits the buffer. -/
def CleanOpen (r : Recording) (frame : Frame) (env : CallEnv) : Prop :=
  opensSegment r frame env →
    ¬ hasPath r.disk (buildTsPath r.state.dir env.segment.pathTime) ∧ ¬ Fails env.segment.rets ∧
      (frame.data.length ≤ frameRoom ∨ Fails env.rets)

def CleanOpens : Recording → List (Frame × CallEnv) → Prop
  | _, [] => True
  | r, c :: calls => CleanOpen r c.1 c.2 ∧ CleanOpens (star6eTsRecorderWriteVideo r c.1 c.2).1 calls

def WholeCall (env : CallEnv) : Prop := WholeWrites env.segment.rets ∧ WholeWrites env.rets

theorem Inv.weaken {pending pending' : Frame → Prop} (h : Inv pending d r) (himp : ∀ frame, pending frame → pending' frame) :
    Inv pending' d r where
  paths := h.paths
  closed := h.closed
  current := by
    intro path hpath
    obtain ⟨f, hf, hp, hsegment, raw, ps, rest, hwritten, hopened⟩ := h.current path hpath
    refine ⟨f, hf, hp, hsegment, raw, ps, rest, hwritten, fun frame hframe => ?_⟩
    obtain ⟨hidr, hopens | ⟨hrest, hless, hdisc, hpending⟩⟩ := hopened frame hframe
    · exact ⟨hidr, .inl hopens⟩
    · exact ⟨hidr, .inr ⟨hrest, hless, hdisc, himp frame hpending⟩⟩
  ledger := h.ledger

theorem writeVideo_settled {q : Recording} {state : Star6eTsRecorderState} {path : CNumber.CString} {frame : Frame}
    {env : CallEnv} (hidle : ¬ (r.state.fd = none ∨ frame.data = []))
    (hspace : checkDiskSpace r.state env.freeSpace = (state, true))
    (hrotation : checkRotation { r with state := state } frame env.now env.segment = (q, true))
    (hfd : q.state.fd = some path) : star6eTsRecorderWriteVideo r frame env = writeFrame q path frame env := by
  simp only [star6eTsRecorderWriteVideo, if_neg hidle, hspace, hrotation, hfd, if_true]

theorem writeVideo_unsettled {q : Recording} {state : Star6eTsRecorderState} {frame : Frame} {env : CallEnv}
    (hidle : ¬ (r.state.fd = none ∨ frame.data = [])) (hspace : checkDiskSpace r.state env.freeSpace = (state, true))
    (hrotation : checkRotation { r with state := state } frame env.now env.segment = (q, false)) :
    star6eTsRecorderWriteVideo r frame env = (q, -1) := by
  simp only [star6eTsRecorderWriteVideo, if_neg hidle, hspace, hrotation, if_true]

/-- The recording with its file closed, as a rotation opens the next. -/
def rotating (r : Recording) : Recording := { r with state := { r.state with fd := none, segmentBytes := 0 } }

theorem checkRotation_due {frame : Frame} {now : Timespec} {env : OpenEnv} (hidr : frame.isIdr = true)
    (hdue : shouldRotate r.state now = true) :
    checkRotation r frame now env =
      if (openNewSegment (rotating r) (some frame) env).2 then ((openNewSegment (rotating r) (some frame) env).1, true)
      else ({ (openNewSegment (rotating r) (some frame) env).1 with
        state := { (openNewSegment (rotating r) (some frame) env).1.state with lastStopReason := .writeError } }, false) := by
  rw [checkRotation, hidr, hdue]
  rfl

theorem checkRotation_early {frame : Frame} {now : Timespec} {env : OpenEnv}
    (h : ¬ (frame.isIdr = true ∧ shouldRotate r.state now = true)) : checkRotation r frame now env = (r, true) := by
  rw [checkRotation, if_neg (by rwa [Bool.and_eq_true])]

/-- A rotation opens its segment over files that all read by themselves. -/
theorem rotation_inv {frame : Frame} {env : OpenEnv} (h : Inv (fun _ => False) d r) (hfd : r.state.fd ≠ none)
    (hidr : frame.isIdr = true) (hopens : env.opens = true) (hwhole : WholeWrites env.rets) (hok : ¬ Fails env.rets) :
    Inv (· = frame) (d + overwritten r.disk (buildTsPath r.state.dir env.pathTime))
      (openNewSegment (rotating r) (some frame) env).1 := by
  have hfiles : ∀ f ∈ r.disk, SelfContained fitting (pmtSection r.state.mux) True f :=
    h.files (fun _ => hfd) (fun _ hfalse => hfalse.elim)
  refine openNewSegment_inv (r := rotating r) h.paths hfiles h.ledger hopens hwhole hok ?_
  intro g hg
  cases hg
  exact ⟨hidr, rfl⟩

/-- With space left the check only counts down. -/
theorem checkDiskSpace_true {freeSpace : Nat} (h : Inv pending d r)
    (hleft : (checkDiskSpace r.state freeSpace).2 = true) : ∃ state, checkDiskSpace r.state freeSpace = (state, true) ∧
      Inv pending d { r with state := state } ∧ state.fd = r.state.fd ∧ state.dir = r.state.dir ∧
      shouldRotate state = shouldRotate r.state := by
  rw [checkDiskSpace] at hleft ⊢
  split_ifs at hleft ⊢ with hcount hlow
  · exact ⟨_, rfl, h.same rfl rfl rfl rfl rfl, rfl, rfl, rfl⟩
  · exact ⟨_, rfl, h.same rfl rfl rfl rfl rfl, rfl, rfl, rfl⟩

section Settled

variable {state : Star6eTsRecorderState} {frame : Frame} {env : CallEnv}

theorem kept_step (hidle : ¬ (r.state.fd = none ∨ frame.data = []))
    (hspace : checkDiskSpace r.state env.freeSpace = (state, true)) (h : Inv (fun _ => False) d { r with state := state })
    (hfd : state.fd = r.state.fd) (hearly : ¬ (frame.isIdr = true ∧ shouldRotate state env.now = true))
    (hwhole : WholeCall env) : Inv (fun _ => False) d (star6eTsRecorderWriteVideo r frame env).1 ∧
      (CutFiles (star6eTsRecorderWriteVideo r frame env).1.disk ↔ CutFiles r.disk) := by
  obtain ⟨hopen, hdata⟩ := not_or.mp hidle
  obtain ⟨path, hpath⟩ := Option.ne_none_iff_exists'.mp hopen
  have hcurrent : state.fd = some path := hfd.trans hpath
  have hrotation : checkRotation { r with state := state } frame env.now env.segment = _ := checkRotation_early hearly
  rw [writeVideo_settled hidle hspace hrotation hcurrent]
  refine ⟨writeFrame_inv (h.weaken (fun _ hfalse => hfalse.elim)) hcurrent hdata hwhole.2, ?_⟩
  obtain ⟨bytes, hdisk, -⟩ := writeFrame_disk (r := { r with state := state }) path hdata hwhole.2
  rw [hdisk]
  exact h.append_cut hcurrent bytes

theorem refused_step (hidle : ¬ (r.state.fd = none ∨ frame.data = []))
    (hspace : checkDiskSpace r.state env.freeSpace = (state, true)) (h : Inv (fun _ => False) d { r with state := state })
    (hidr : frame.isIdr = true) (hdue : shouldRotate state env.now = true) (hopens : env.segment.opens = false) :
    Inv (fun _ => False) d (star6eTsRecorderWriteVideo r frame env).1 ∧
      (star6eTsRecorderWriteVideo r frame env).1.disk = r.disk := by
  have hrotation : checkRotation { r with state := state } frame env.now env.segment = _ := checkRotation_due hidr hdue
  rw [openNewSegment_closed hopens] at hrotation
  rw [writeVideo_unsettled hidle hspace hrotation]
  exact ⟨h.halt rfl rfl rfl rfl, rfl⟩

theorem spoilt_step (hidle : ¬ (r.state.fd = none ∨ frame.data = []))
    (hspace : checkDiskSpace r.state env.freeSpace = (state, true)) (hidr : frame.isIdr = true)
    (hdue : shouldRotate state env.now = true) (hopens : env.segment.opens = true) (hwhole : WholeCall env)
    (hfails : Fails env.segment.rets) : Spoilt (star6eTsRecorderWriteVideo r frame env).1 := by
  have hrotation : checkRotation { r with state := state } frame env.now env.segment = _ := checkRotation_due hidr hdue
  obtain ⟨hresult, hspoilt⟩ := openNewSegment_fails hopens hwhole.1 hfails
  rw [if_neg (by rw [hresult]; decide)] at hrotation
  rw [writeVideo_unsettled hidle hspace hrotation]
  exact hspoilt

theorem rotated_step (hidle : ¬ (r.state.fd = none ∨ frame.data = []))
    (hspace : checkDiskSpace r.state env.freeSpace = (state, true)) (h : Inv (fun _ => False) d { r with state := state })
    (hfd : state.fd = r.state.fd) (hdir : state.dir = r.state.dir) (hidr : frame.isIdr = true)
    (hdue : shouldRotate state env.now = true) (hopens : env.segment.opens = true) (hwhole : WholeCall env)
    (hok : ¬ Fails env.segment.rets) :
    Inv (fun _ => False) (d + overwritten r.disk (buildTsPath r.state.dir env.segment.pathTime))
        (star6eTsRecorderWriteVideo r frame env).1 ∧
      (¬ hasPath r.disk (buildTsPath r.state.dir env.segment.pathTime) →
        (CutFiles (star6eTsRecorderWriteVideo r frame env).1.disk ↔
          CutFiles r.disk ∨ frameRoom < frame.data.length ∧ ¬ Fails env.rets)) := by
  obtain ⟨hopen, hdata⟩ := not_or.mp hidle
  have hrotation : checkRotation { r with state := state } frame env.now env.segment = _ := checkRotation_due hidr hdue
  have hopened := rotation_inv h (by rwa [hfd]) hidr hopens hwhole.1 hok
  obtain ⟨q, hq, hpath, hdisk⟩ : ∃ q, openNewSegment (rotating { r with state := state }) (some frame) env.segment = (q, true) ∧
      q.state.fd = some (buildTsPath state.dir env.segment.pathTime) ∧
      q.disk = openedDisk r.disk (buildTsPath state.dir env.segment.pathTime) (some frame)
        (segmentTables state.mux).2.flatten :=
    ⟨_, openNewSegment_opened hopens hwhole.1 hok, rfl, rfl⟩
  rw [hq, if_pos rfl] at hrotation
  rw [hdir] at hpath hdisk hopened
  rw [hq] at hopened
  rw [writeVideo_settled hidle hspace hrotation hpath]
  refine ⟨writeFrame_inv hopened hpath hdata hwhole.2, fun hfresh => ?_⟩
  obtain ⟨bytes, hwritten, hbytes⟩ := writeFrame_disk (buildTsPath r.state.dir env.segment.pathTime) hdata hwhole.2
  rw [hwritten, hdisk, ← hbytes]
  exact opened_cut frame hfresh (segmentTables_length state.mux)

end Settled

/-- What a call makes of the recording: it goes on or stops, with what the path
of a new segment held lost and its first frame perhaps cut, or the tables of a
new segment fail. -/
theorem writeVideo_step {frame : Frame} {env : CallEnv} (h : Inv (fun _ => False) d r) (hwhole : WholeCall env) :
    ¬ opensSegment r frame env ∧ Inv (fun _ => False) d (star6eTsRecorderWriteVideo r frame env).1 ∧
        (CutFiles (star6eTsRecorderWriteVideo r frame env).1.disk ↔ CutFiles r.disk) ∨
    opensSegment r frame env ∧ Fails env.segment.rets ∧ Spoilt (star6eTsRecorderWriteVideo r frame env).1 ∨
    opensSegment r frame env ∧ ¬ Fails env.segment.rets ∧
      Inv (fun _ => False) (d + overwritten r.disk (buildTsPath r.state.dir env.segment.pathTime))
        (star6eTsRecorderWriteVideo r frame env).1 ∧
      (¬ hasPath r.disk (buildTsPath r.state.dir env.segment.pathTime) →
        (CutFiles (star6eTsRecorderWriteVideo r frame env).1.disk ↔
          CutFiles r.disk ∨ frameRoom < frame.data.length ∧ ¬ Fails env.rets)) := by
  by_cases hidle : r.state.fd = none ∨ frame.data = []
  · left
    refine ⟨fun hopens => hidle.elim hopens.1 hopens.2.1, ?_⟩
    rw [star6eTsRecorderWriteVideo, if_pos hidle]
    exact ⟨h, Iff.rfl⟩
  cases hleft : (checkDiskSpace r.state env.freeSpace).2 with
  | false =>
      left
      obtain ⟨hstop, hmux, hbytes⟩ := checkDiskSpace_false hleft
      refine ⟨fun hopens => absurd hopens.2.2.1 (by rw [hleft]; decide), ?_⟩
      simp only [star6eTsRecorderWriteVideo, if_neg hidle, hleft, Bool.false_eq_true, if_false]
      exact ⟨h.halt rfl (congrArg pmtSection hmux) hbytes hstop, trivial⟩
  | true =>
      obtain ⟨state, hspace, hq, hfd, hdir, hrotate⟩ := checkDiskSpace_true h hleft
      by_cases hdue : frame.isIdr = true ∧ shouldRotate state env.now = true
      · obtain ⟨hidr, hnow⟩ := hdue
        cases hopens : env.segment.opens with
        | false =>
            left
            obtain ⟨hinv, hdisk⟩ := refused_step hidle hspace hq hidr hnow hopens
            exact ⟨fun h => absurd h.2.2.2.2.2 (by rw [hopens]; decide), hinv, by rw [hdisk]⟩
        | true =>
            right
            obtain ⟨hopen, hdata⟩ := not_or.mp hidle
            have hreaches : opensSegment r frame env := ⟨hopen, hdata, hleft, hidr, by rwa [← hrotate], hopens⟩
            by_cases hfails : Fails env.segment.rets
            · exact .inl ⟨hreaches, hfails, spoilt_step hidle hspace hidr hnow hopens hwhole hfails⟩
            · exact .inr ⟨hreaches, hfails, rotated_step hidle hspace hq hfd hdir hidr hnow hopens hwhole hfails⟩
      · left
        refine ⟨fun h => hdue ⟨h.2.2.2.1, ?_⟩, kept_step hidle hspace hq hfd hdue hwhole⟩
        rw [hrotate]
        exact h.2.2.2.2.1

/-! Whole runs. -/

/-- The files read by themselves, and the counts are their sizes. -/
structure Holds (r : Recording) : Prop where
  files : ∀ f ∈ r.disk, SelfContained Frame.data (pmtSection r.state.mux) (r.state.fd ≠ none) f
  bytes : r.state.bytesWritten = total r.disk
  segment : ∀ path, r.state.fd = some path → ∃ f ∈ r.disk, f.path = path ∧ r.state.segmentBytes = f.bytes.length

theorem Inv.holds_iff (h : Inv (fun _ => False) d r) : Holds r ↔ d = 0 ∧ ¬ CutFiles r.disk := by
  have hledger := h.ledger
  have hfiles : ∀ f ∈ r.disk, SelfContained fitting (pmtSection r.state.mux) (r.state.fd ≠ none) f :=
    h.files id (fun _ hfalse => hfalse.elim)
  constructor
  · intro hholds
    have hbytes := hholds.bytes
    refine ⟨by omega, ?_⟩
    rintro ⟨f, hf, hcut⟩
    exact (hfiles f hf).whole_iff.mp (hholds.files f hf) hcut
  · rintro ⟨hzero, hwhole⟩
    refine ⟨fun f hf => (hfiles f hf).whole_iff.mpr (fun hcut => hwhole ⟨f, hf, hcut⟩), by omega, fun path hpath => ?_⟩
    obtain ⟨f, hf, hp, hsegment, -⟩ := h.current path hpath
    exact ⟨f, hf, hp, hsegment⟩

theorem Spoilt.not_holds (h : Spoilt r) : ¬ Holds r := by
  obtain ⟨-, f, hf, hempty⟩ := h
  exact fun hholds => (hholds.files f hf).nonempty hempty

theorem Spoilt.stays (h : Spoilt r) (calls : List (Frame × CallEnv)) : writeVideos r calls = r := by
  induction calls with
  | nil => rfl
  | cons c calls ih =>
      have hidle : (star6eTsRecorderWriteVideo r c.1 c.2).1 = r := by rw [star6eTsRecorderWriteVideo, if_pos (.inl h.1)]
      rw [writeVideos, List.foldl_cons, hidle]
      exact ih

/-- The empty file of a failed opening aside, a file is never empty. -/
theorem Inv.nonempty (h : Inv (fun _ => False) d r) : ∀ f ∈ r.disk, f.bytes ≠ [] := by
  intro f hf
  have hfile : SelfContained fitting (pmtSection r.state.mux) False f :=
    h.files False.elim (fun _ hfalse => hfalse.elim) f hf
  exact hfile.nonempty

theorem lost_not_holds {calls : List (Frame × CallEnv)} (h : Inv (fun _ => False) d r) (hlost : 0 < d)
    (hwhole : ∀ c ∈ calls, WholeCall c.2) : ¬ Holds (writeVideos r calls) := by
  induction calls generalizing d r with
  | nil =>
      intro hholds
      have hzero := (h.holds_iff.mp hholds).1
      omega
  | cons c calls ih =>
      have hrest := fun c hc => hwhole c (List.mem_cons_of_mem _ hc)
      rw [writeVideos, List.foldl_cons]
      rcases writeVideo_step h (hwhole c (List.mem_cons_self ..)) with
        ⟨-, hinv, -⟩ | ⟨-, -, hspoilt⟩ | ⟨-, -, hinv, -⟩
      · exact ih hinv hlost hrest
      · have hstays := hspoilt.stays calls
        rw [writeVideos] at hstays
        rw [hstays]
        exact hspoilt.not_holds
      · exact ih hinv (by omega) hrest

/-- From any point of a recording on: the property holds at the end when no file
is cut yet and the segments to come open cleanly. -/
theorem holds_iff_clean {calls : List (Frame × CallEnv)} (h : Inv (fun _ => False) 0 r)
    (hwhole : ∀ c ∈ calls, WholeCall c.2) :
    Holds (writeVideos r calls) ↔ ¬ CutFiles r.disk ∧ CleanOpens r calls := by
  induction calls generalizing r with
  | nil =>
      have hholds : Holds (writeVideos r []) ↔ _ := h.holds_iff
      rw [hholds, CleanOpens, and_true]
      exact and_iff_right rfl
  | cons c calls ih =>
      have hrest := fun c hc => hwhole c (List.mem_cons_of_mem _ hc)
      rw [writeVideos, List.foldl_cons, CleanOpens]
      rcases writeVideo_step h (hwhole c (List.mem_cons_self ..)) with
        ⟨hnone, hinv, hcut⟩ | ⟨hreaches, hfails, hspoilt⟩ | ⟨hreaches, hok, hinv, hcut⟩
      · have hclean : CleanOpen r c.1 c.2 := fun hopens => absurd hopens hnone
        rw [and_iff_right hclean, ← hcut]
        exact ih hinv hrest
      · have hstays := hspoilt.stays calls
        rw [writeVideos] at hstays
        rw [hstays]
        exact iff_of_false hspoilt.not_holds (fun hclean => (hclean.2.1 hreaches).2.1 hfails)
      · rw [Nat.zero_add] at hinv
        by_cases hused : hasPath r.disk (buildTsPath r.state.dir c.2.segment.pathTime)
        · have hlost := overwritten_pos hused h.nonempty
          exact iff_of_false (lost_not_holds hinv hlost hrest) (fun hclean => (hclean.2.1 hreaches).1 hused)
        · rw [overwritten_absent hused] at hinv
          have hrun := ih hinv hrest
          rw [hcut hused] at hrun
          have hclean : CleanOpen r c.1 c.2 ↔ ¬ (frameRoom < c.1.data.length ∧ ¬ Fails c.2.rets) := by
            rw [not_and_or, not_not, Nat.not_lt]
            exact ⟨fun hopen => (hopen hreaches).2.2, fun hfits _ => ⟨hused, hok, hfits⟩⟩
          rw [hclean, ← and_assoc, ← not_or]
          exact hrun

theorem first_segment_inv {env : OpenEnv} (hdisk : r.disk = []) (hbytes : r.state.bytesWritten = 0)
    (hopened : (openNewSegment r none env).2 = true) (hwhole : WholeWrites env.rets) :
    Inv (fun _ => False) 0 (openNewSegment r none env).1 ∧ ¬ CutFiles (openNewSegment r none env).1.disk := by
  have hopens : env.opens = true := by
    by_contra hclosed
    rw [openNewSegment_closed (Bool.not_eq_true _ ▸ hclosed)] at hopened
    cases hopened
  have hok : ¬ Fails env.rets := by
    intro hfails
    rw [(openNewSegment_fails hopens hwhole hfails).1] at hopened
    cases hopened
  have hpaths : (r.disk.map File.path).Nodup := by
    rw [hdisk]
    exact List.nodup_nil
  have hfiles : ∀ f ∈ r.disk, SelfContained fitting (pmtSection r.state.mux) True f := by
    rw [hdisk]
    exact List.forall_mem_nil _
  have hledger : total r.disk + 0 = r.state.bytesWritten := by
    rw [hdisk, hbytes]
    rfl
  have hopener : ∀ frame, (none : Option Frame) = some frame → frame.isIdr = true ∧ False := by
    intro frame hnone
    cases hnone
  have hinv := openNewSegment_inv hpaths hfiles hledger hopens hwhole hok hopener
  have hnothing : overwritten r.disk (buildTsPath r.state.dir env.pathTime) = 0 := by
    rw [hdisk]
    rfl
  rw [hnothing] at hinv
  refine ⟨hinv, ?_⟩
  rw [openNewSegment_opened hopens hwhole hok, hdisk]
  rintro ⟨f, hf, -, frame, hframe, -⟩
  rw [List.mem_singleton.mp hf] at hframe
  cases hframe

theorem start_inv {state : Star6eTsRecorderState} {dir : CNumber.CString} {audioRing : Bool} {env : StartEnv}
    (hstart : (star6eTsRecorderStart state dir audioRing env).2 = 0) (hwhole : WholeWrites env.segment.rets) :
    Inv (fun _ => False) 0 (star6eTsRecorderStart state dir audioRing env).1 ∧
      ¬ CutFiles (star6eTsRecorderStart state dir audioRing env).1.disk := by
  rw [star6eTsRecorderStart] at hstart ⊢
  split_ifs at hstart ⊢ with hdir hspace
  · cases hstart
  · cases hstart
  · apply first_segment_inv rfl rfl _ hwhole
    by_contra hopened
    have hfailed : (if _ then (0 : Int) else -1) = 0 := hstart
    rw [if_neg hopened] at hfailed
    cases hfailed

/-- Every run of a recording that has started, with writes that are complete or
fail: the files read by themselves and the counts are their sizes exactly as
long as each new segment takes a path of its own and gets its tables and the
whole of its first frame. -/
theorem segments_self_contained_iff (state : Star6eTsRecorderState) (dir : CNumber.CString) (audioRing : Bool)
    (env : StartEnv) (calls : List (Frame × CallEnv)) (hstart : (star6eTsRecorderStart state dir audioRing env).2 = 0)
    (hfirst : WholeWrites env.segment.rets) (hwhole : ∀ c ∈ calls, WholeCall c.2) :
    Holds (writeVideos (star6eTsRecorderStart state dir audioRing env).1 calls) ↔
      CleanOpens (star6eTsRecorderStart state dir audioRing env).1 calls := by
  obtain ⟨hinv, hcut⟩ := start_inv hstart hfirst
  rw [holds_iff_clean hinv hwhole]
  exact and_iff_right hcut

/-- A recording with the default limits, started at ten seconds. -/
def defaultStart (dir : CNumber.CString) : Recording × Int :=
  star6eTsRecorderStart (star6eTsRecorderInit 0 0) dir false ⟨0, ⟨10, 0⟩, ⟨⟨10, 0⟩, true, [], ⟨10, 0⟩⟩⟩

/-- A call at some second whose writes are all complete. -/
def callAt (sec : Nat) : CallEnv := ⟨0, ⟨sec, 0⟩, ⟨⟨sec, 0⟩, true, [], ⟨sec, 0⟩⟩, [], []⟩

def twoFrames : List (Frame × CallEnv) := [(⟨[1, 2, 3], 0, true⟩, callAt 20), (⟨[4, 5], 90000, true⟩, callAt 310)]

theorem wholeWrites_nil : WholeWrites [] := fun _ => List.not_mem_nil

theorem twoFrames_whole : ∀ c ∈ twoFrames, WholeCall c.2 := by
  intro c hc
  rcases List.mem_cons.mp hc with rfl | hc
  · exact ⟨wholeWrites_nil, wholeWrites_nil⟩
  · rw [List.mem_singleton.mp hc]
    exact ⟨wholeWrites_nil, wholeWrites_nil⟩

theorem segments_self_contained_iff_mnt : Holds (writeVideos (defaultStart ['/', 'm', 'n', 't']).1 twoFrames) := by
  have hearly : ¬ opensSegment (defaultStart ['/', 'm', 'n', 't']).1 ⟨[1, 2, 3], 0, true⟩ (callAt 20) := by
    rw [opensSegment]
    decide +kernel
  have hfresh : ¬ hasPath
      (star6eTsRecorderWriteVideo (defaultStart ['/', 'm', 'n', 't']).1 ⟨[1, 2, 3], 0, true⟩ (callAt 20)).1.disk
      (buildTsPath
        (star6eTsRecorderWriteVideo (defaultStart ['/', 'm', 'n', 't']).1 ⟨[1, 2, 3], 0, true⟩ (callAt 20)).1.state.dir
        (callAt 310).segment.pathTime) := by
    rw [hasPath]
    decide +kernel
  have hnofailure : ¬ Fails (callAt 310).segment.rets := fun ⟨_, h⟩ => List.not_mem_nil h
  have hclean : CleanOpens (defaultStart ['/', 'm', 'n', 't']).1 twoFrames := by
    simp only [twoFrames, CleanOpens, and_true]
    exact ⟨fun hopens => absurd hopens hearly, fun _ => ⟨hfresh, hnofailure, .inl (by decide)⟩⟩
  exact (segments_self_contained_iff (star6eTsRecorderInit 0 0) ['/', 'm', 'n', 't'] false
    ⟨0, ⟨10, 0⟩, ⟨⟨10, 0⟩, true, [], ⟨10, 0⟩⟩⟩ twoFrames (by decide +kernel) wholeWrites_nil twoFrames_whole).mpr hclean

/-- With a directory of 250 bytes the path is cut behind "rec_": the second
segment empties the file of the first. -/
theorem long_directory_overwrites :
    (defaultStart ('/' :: List.replicate 249 'a')).2 = 0 ∧
      (writeVideos (defaultStart ('/' :: List.replicate 249 'a')).1 twoFrames).state.segments = 2 ∧
      (writeVideos (defaultStart ('/' :: List.replicate 249 'a')).1 twoFrames).state.bytesWritten = 1128 ∧
      total (writeVideos (defaultStart ('/' :: List.replicate 249 'a')).1 twoFrames).disk = 564 ∧
      ¬ Holds (writeVideos (defaultStart ('/' :: List.replicate 249 'a')).1 twoFrames) := by
  have hbytes : (writeVideos (defaultStart ('/' :: List.replicate 249 'a')).1 twoFrames).state.bytesWritten = 1128 := by
    decide +kernel
  have htotal : total (writeVideos (defaultStart ('/' :: List.replicate 249 'a')).1 twoFrames).disk = 564 := by
    decide +kernel
  refine ⟨by decide +kernel, by decide +kernel, hbytes, htotal, fun hholds => ?_⟩
  have hsame := hholds.bytes
  rw [hbytes, htotal] at hsame
  exact absurd hsame (by decide)

end WaybeamVenc.RecorderSegments
