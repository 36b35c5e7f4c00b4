import Mathlib.Algebra.Order.Ring.Int
import WaybeamVenc.MotionRing

namespace WaybeamVenc.ImuFifo

open MotionRing (Timespec)

def fifoHdrAcc : UInt8 := 0x84

def fifoHdrGyr : UInt8 := 0x88

def fifoHdrAccGyr : UInt8 := 0x8C

def fifoHdrSensTime : UInt8 := 0x44

def fifoHdrSkip : UInt8 := 0x40

def fifoHdrInputCfg : UInt8 := 0x48

variable {G A : Type}

/-- The floating-point part of parse_fifo_combined and parse_fifo_gyro_only:
scale, bias and rotation of a raw reading. -/
structure Convert (G A : Type) where
  gyro : Int16 → Int16 → Int16 → G
  accel : Int16 → Int16 → Int16 → A
  noAccel : A

structure ImuSample (G A : Type) where
  ts : Timespec
  gyro : G
  accel : A

/-- The reading at an index, low byte first. -/
def raw (buf : Nat → UInt8) (i : Nat) : Int16 := (((buf (i + 1)).toUInt16 <<< 8) ||| (buf i).toUInt16).toInt16

def parseFifoCombined (c : Convert G A) (buf : Nat → UInt8) (data : Nat) (ts : Timespec) : ImuSample G A :=
  ⟨ts, c.gyro (raw buf data) (raw buf (data + 2)) (raw buf (data + 4)),
    c.accel (raw buf (data + 6)) (raw buf (data + 8)) (raw buf (data + 10))⟩

def parseFifoGyroOnly (c : Convert G A) (buf : Nat → UInt8) (data : Nat) (ts : Timespec) : ImuSample G A :=
  ⟨ts, c.gyro (raw buf data) (raw buf (data + 2)) (raw buf (data + 4)), c.noAccel⟩

def fifoInterpolateTs (now : Timespec) (samplePeriodNs i nTotal : Int) : Timespec :=
  let offsetNs := (nTotal - 1 - i) * samplePeriodNs
  let sec := now.sec - offsetNs.tdiv 1000000000
  let nsec := now.nsec - offsetNs.tmod 1000000000
  if nsec < 0 then ⟨sec - 1, nsec + 1000000000⟩ else ⟨sec, nsec⟩

/-- The indices of the buffer that a pass has read, and the frames it has
recognised, with their places. -/
structure Trace where
  reads : List Nat
  frames : List (UInt16 × UInt8)

def Trace.read (t : Trace) (i n : Nat) : Trace := { t with reads := t.reads ++ List.range' i n }

def Trace.frame (t : Trace) (pos : UInt16) (hdr : UInt8) : Trace := { t with frames := t.frames ++ [(pos, hdr)] }

theorem advance {pos len k : UInt16} (h : pos.toNat + k.toNat ≤ len.toNat) : (pos + k).toNat = pos.toNat + k.toNat := by
  have hlen := len.toNat_lt
  rw [UInt16.toNat_add]
  exact Nat.mod_eq_of_lt (by omega)

/-- A frame that fits does not wrap the position. -/
theorem shrinks {pos len k : UInt16} (hk : 0 < k.toNat) (hlt : pos < len) (h : pos.toNat + k.toNat ≤ len.toNat) :
    len.toNat - (pos + k).toNat < len.toNat - pos.toNat := by
  have hpos := UInt16.lt_iff_toNat_lt.1 hlt
  rw [advance h]
  omega

/-- The loop of fifo_count_gyro_frames. -/
def countLoop (buf : Nat → UInt8) (len pos : UInt16) (count : Nat) (t : Trace) : Nat × Trace :=
  if pos < len then
    let hdr := buf pos.toNat
    let t := t.read pos.toNat 1
    if hdr = fifoHdrAccGyr ∧ pos.toNat + 13 ≤ len.toNat then countLoop buf len (pos + 13) (count + 1) (t.frame pos hdr)
    else if hdr = fifoHdrGyr ∧ pos.toNat + 7 ≤ len.toNat then countLoop buf len (pos + 7) (count + 1) (t.frame pos hdr)
    else if hdr = fifoHdrAcc ∧ pos.toNat + 7 ≤ len.toNat then countLoop buf len (pos + 7) count (t.frame pos hdr)
    else if hdr = fifoHdrInputCfg ∧ pos.toNat + 5 ≤ len.toNat then countLoop buf len (pos + 5) count (t.frame pos hdr)
    else if hdr = fifoHdrSensTime ∧ pos.toNat + 4 ≤ len.toNat then countLoop buf len (pos + 4) count (t.frame pos hdr)
    else if hdr = fifoHdrSkip ∧ pos.toNat + 2 ≤ len.toNat then countLoop buf len (pos + 2) count (t.frame pos hdr)
    else (count, t)
  else (count, t)
termination_by len.toNat - pos.toNat
decreasing_by
  all_goals
    rename_i hframe
    exact shrinks (by decide) ‹pos < len› hframe.2

def fifoCountGyroFrames (buf : Nat → UInt8) (len : UInt16) : Nat × Trace := countLoop buf len 0 0 ⟨[], []⟩

/-- frame_idx, and what push_fn was called with. -/
structure Pushes (G A : Type) where
  frameIdx : Nat
  pushed : List (ImuSample G A)
  trace : Trace

def Pushes.push (s : Pushes G A) (sample : ImuSample G A) (t : Trace) : Pushes G A :=
  ⟨s.frameIdx + 1, s.pushed ++ [sample], t⟩

/-- The loop of fifo_parse_and_push. -/
def parseLoop (c : Convert G A) (buf : Nat → UInt8) (len : UInt16) (now : Timespec) (nGyroFrames samplePeriodNs : Int)
    (pos : UInt16) (s : Pushes G A) : Pushes G A :=
  if pos < len then
    let hdr := buf pos.toNat
    let t := s.trace.read pos.toNat 1
    let ts := fifoInterpolateTs now samplePeriodNs s.frameIdx nGyroFrames
    if hdr = fifoHdrAccGyr ∧ pos.toNat + 13 ≤ len.toNat then
      parseLoop c buf len now nGyroFrames samplePeriodNs (pos + 13)
        (s.push (parseFifoCombined c buf (pos.toNat + 1) ts) ((t.read (pos.toNat + 1) 12).frame pos hdr))
    else if hdr = fifoHdrGyr ∧ pos.toNat + 7 ≤ len.toNat then
      parseLoop c buf len now nGyroFrames samplePeriodNs (pos + 7)
        (s.push (parseFifoGyroOnly c buf (pos.toNat + 1) ts) ((t.read (pos.toNat + 1) 6).frame pos hdr))
    else if hdr = fifoHdrAcc ∧ pos.toNat + 7 ≤ len.toNat then
      parseLoop c buf len now nGyroFrames samplePeriodNs (pos + 7) { s with trace := t.frame pos hdr }
    else if hdr = fifoHdrInputCfg ∧ pos.toNat + 5 ≤ len.toNat then
      parseLoop c buf len now nGyroFrames samplePeriodNs (pos + 5) { s with trace := t.frame pos hdr }
    else if hdr = fifoHdrSensTime ∧ pos.toNat + 4 ≤ len.toNat then
      parseLoop c buf len now nGyroFrames samplePeriodNs (pos + 4) { s with trace := t.frame pos hdr }
    else if hdr = fifoHdrSkip ∧ pos.toNat + 2 ≤ len.toNat then
      parseLoop c buf len now nGyroFrames samplePeriodNs (pos + 2) { s with trace := t.frame pos hdr }
    else { s with trace := t }
  else s
termination_by len.toNat - pos.toNat
decreasing_by
  all_goals
    rename_i hframe
    exact shrinks (by decide) ‹pos < len› hframe.2

structure ImuStats (G : Type) where
  samplesRead : UInt64
  readErrors : UInt64
  lastGyro : G

/-- The pushes, with frame_idx as the result, and the updated statistics. -/
def fifoParseAndPush (c : Convert G A) (stats : ImuStats G) (buf : Nat → UInt8) (len : UInt16) (now : Timespec)
    (nGyroFrames samplePeriodNs : Int) : Pushes G A × ImuStats G :=
  let s := parseLoop c buf len now nGyroFrames samplePeriodNs 0 ⟨0, [], ⟨[], []⟩⟩
  match s.pushed.getLast? with
  | some sample =>
    (s, { stats with samplesRead := stats.samplesRead + UInt64.ofNat s.frameIdx, lastGyro := sample.gyro })
  | none => (s, stats)

def fifoMaxBytes : UInt16 := 1024

/-- The samples pushed, the result and the statistics of fifo_drain_internal;
lenBuf and fifoBuf are what the two I2C reads return, none when one fails. -/
def fifoDrainInternal (c : Convert G A) (stats : ImuStats G) (lenBuf : Option (UInt8 × UInt8))
    (fifoBuf : Option (Nat → UInt8)) (now : Timespec) (sampleRateHz : Int) : List (ImuSample G A) × Nat × ImuStats G :=
  match lenBuf with
  | none => ([], 0, { stats with readErrors := stats.readErrors + 1 })
  | some (low, high) =>
    let fifoBytes := ((high &&& 0x3F).toUInt16 <<< 8) ||| low.toUInt16
    if fifoBytes < 7 then ([], 0, stats)
    else
      let fifoBytes := if fifoMaxBytes < fifoBytes then fifoMaxBytes else fifoBytes
      match fifoBuf with
      | none => ([], 0, { stats with readErrors := stats.readErrors + 1 })
      | some buf =>
        let nGyro := (fifoCountGyroFrames buf fifoBytes).1
        if nGyro = 0 then ([], 0, stats)
        else
          let (s, stats) := fifoParseAndPush c stats buf fifoBytes now nGyro ((1000000000 : Int).tdiv sampleRateHz)
          (s.pushed, s.frameIdx, stats)

/-! The two passes. -/

def InBounds (len : UInt16) (t : Trace) : Prop := ∀ i ∈ t.reads, i < len.toNat

/-- The second pass is where the first one is. -/
structure Agrees (len : UInt16) (now : Timespec) (n period : Int) (count : Nat) (t : Trace) (s : Pushes G A) : Prop where
  index : s.frameIdx = count
  frames : s.trace.frames = t.frames
  stamps : s.pushed.map (·.ts) = (List.range count).map fun (i : Nat) => fifoInterpolateTs now period i n
  counted : InBounds len t
  parsed : InBounds len s.trace

theorem InBounds.read {len : UInt16} {t : Trace} (h : InBounds len t) {i n : Nat} (hle : i + n ≤ len.toNat) :
    InBounds len (t.read i n) := by
  intro k hk
  rcases List.mem_append.1 hk with hk | hk
  · exact h k hk
  · obtain ⟨j, hj, rfl⟩ := List.mem_range'.1 hk
    omega

variable {len : UInt16} {now : Timespec} {n period : Int} {count : Nat} {t t' : Trace} {s : Pushes G A}

/-- Both passes take a frame without a gyro reading. -/
theorem Agrees.frame (h : Agrees len now n period count t s) (pos : UInt16) (hdr : UInt8) {i : Nat}
    (hi : i < len.toNat) :
    Agrees len now n period count ((t.read i 1).frame pos hdr) { s with trace := (s.trace.read i 1).frame pos hdr } where
  index := h.index
  frames := congrArg (· ++ [(pos, hdr)]) h.frames
  stamps := h.stamps
  counted := h.counted.read hi
  parsed := h.parsed.read hi

/-- Both take one with a gyro reading, which the second pass pushes. -/
theorem Agrees.push (h : Agrees len now n period count t s) (pos : UInt16) (hdr : UInt8) {i k : Nat} (hi : i < len.toNat)
    (hk : i + 1 + k ≤ len.toNat) {sample : ImuSample G A} (hts : sample.ts = fifoInterpolateTs now period s.frameIdx n) :
    Agrees len now n period (count + 1) ((t.read i 1).frame pos hdr)
      (s.push sample (((s.trace.read i 1).read (i + 1) k).frame pos hdr)) where
  index := congrArg (· + 1) h.index
  frames := congrArg (· ++ [(pos, hdr)]) h.frames
  stamps := by
    rw [Pushes.push, List.map_append, h.stamps, List.range_succ, List.map_append, List.map_singleton, List.map_singleton,
      hts, h.index]
  counted := h.counted.read hi
  parsed := (h.parsed.read hi).read hk

theorem loops_agree (c : Convert G A) (buf : Nat → UInt8) (pos : UInt16) (h : Agrees len now n period count t s) :
    Agrees len now n period (countLoop buf len pos count t).1 (countLoop buf len pos count t).2
      (parseLoop c buf len now n period pos s) := by
  fun_induction countLoop buf len pos count t generalizing s
  case case1 pos count t hlt hdr t' hframe ih =>
    have hpos := UInt16.lt_iff_toNat_lt.1 hlt
    rw [parseLoop, if_pos hlt]
    change Agrees len now n period _ _ (ite _ _ _)
    rw [if_pos hframe]
    exact ih (h.push pos hdr hpos hframe.2 rfl)
  case case2 pos count t hlt hdr t' h1 hframe ih =>
    have hpos := UInt16.lt_iff_toNat_lt.1 hlt
    rw [parseLoop, if_pos hlt]
    change Agrees len now n period _ _ (ite _ _ _)
    rw [if_neg h1, if_pos hframe]
    exact ih (h.push pos hdr hpos hframe.2 rfl)
  case case3 pos count t hlt hdr t' h1 h2 hframe ih =>
    have hpos := UInt16.lt_iff_toNat_lt.1 hlt
    rw [parseLoop, if_pos hlt]
    change Agrees len now n period _ _ (ite _ _ _)
    rw [if_neg h1, if_neg h2, if_pos hframe]
    exact ih (h.frame pos hdr hpos)
  case case4 pos count t hlt hdr t' h1 h2 h3 hframe ih =>
    have hpos := UInt16.lt_iff_toNat_lt.1 hlt
    rw [parseLoop, if_pos hlt]
    change Agrees len now n period _ _ (ite _ _ _)
    rw [if_neg h1, if_neg h2, if_neg h3, if_pos hframe]
    exact ih (h.frame pos hdr hpos)
  case case5 pos count t hlt hdr t' h1 h2 h3 h4 hframe ih =>
    have hpos := UInt16.lt_iff_toNat_lt.1 hlt
    rw [parseLoop, if_pos hlt]
    change Agrees len now n period _ _ (ite _ _ _)
    rw [if_neg h1, if_neg h2, if_neg h3, if_neg h4, if_pos hframe]
    exact ih (h.frame pos hdr hpos)
  case case6 pos count t hlt hdr t' h1 h2 h3 h4 h5 hframe ih =>
    have hpos := UInt16.lt_iff_toNat_lt.1 hlt
    rw [parseLoop, if_pos hlt]
    change Agrees len now n period _ _ (ite _ _ _)
    rw [if_neg h1, if_neg h2, if_neg h3, if_neg h4, if_neg h5, if_pos hframe]
    exact ih (h.frame pos hdr hpos)
  case case7 pos count t hlt hdr t' h1 h2 h3 h4 h5 h6 =>
    have hpos := UInt16.lt_iff_toNat_lt.1 hlt
    rw [parseLoop, if_pos hlt]
    change Agrees len now n period _ _ (ite _ _ _)
    rw [if_neg h1, if_neg h2, if_neg h3, if_neg h4, if_neg h5, if_neg h6]
    exact ⟨h.index, h.frames, h.stamps, h.counted.read hpos, h.parsed.read hpos⟩
  case case8 pos count t hge =>
    rw [parseLoop, if_neg hge]
    exact h

/-! The timestamps. -/

def Normalized (ts : Timespec) : Prop := 0 ≤ ts.nsec ∧ ts.nsec < 1000000000

def nanoseconds (ts : Timespec) : Int := ts.sec * 1000000000 + ts.nsec

theorem interpolate_ns (now : Timespec) (period i n : Int) :
    nanoseconds (fifoInterpolateTs now period i n) = nanoseconds now - (n - 1 - i) * period := by
  have hsplit := Int.mul_tdiv_add_tmod ((n - 1 - i) * period) 1000000000
  rw [fifoInterpolateTs]
  generalize (n - 1 - i) * period = offset at hsplit ⊢
  split
  · simp only [nanoseconds]
    omega
  · simp only [nanoseconds]
    omega

theorem interpolate_normalized {now : Timespec} (hnow : Normalized now) {period i n : Int} (hperiod : 0 ≤ period)
    (hi : i < n) : Normalized (fifoInterpolateTs now period i n) := by
  have hoffset : 0 ≤ (n - 1 - i) * period := Int.mul_nonneg (by omega) hperiod
  have hlow := Int.tmod_nonneg 1000000000 hoffset
  have hhigh := Int.tmod_lt_of_pos ((n - 1 - i) * period) (show (0 : Int) < 1000000000 by decide)
  obtain ⟨hzero, hbillion⟩ := hnow
  rw [fifoInterpolateTs]
  generalize ((n - 1 - i) * period).tmod 1000000000 = part at hlow hhigh ⊢
  split
  · exact ⟨by simp only; omega, by simp only; omega⟩
  · exact ⟨by simp only; omega, by simp only; omega⟩

theorem interpolate_last {now : Timespec} (hnow : Normalized now) (period n : Int) :
    fifoInterpolateTs now period (n - 1) n = now := by
  have hzero : (n - 1 - (n - 1)) * period = 0 := by rw [Int.sub_self, Int.zero_mul]
  rw [fifoInterpolateTs]
  simp only [hzero, Int.zero_tdiv, Int.zero_tmod, Int.sub_zero]
  rw [if_neg (Int.not_lt.2 hnow.1)]

theorem interpolate_next (now : Timespec) (period i n : Int) :
    nanoseconds (fifoInterpolateTs now period (i + 1) n) = nanoseconds (fifoInterpolateTs now period i n) + period := by
  have hstep : (n - 1 - i) * period = (n - 1 - (i + 1)) * period + period := by
    rw [show n - 1 - i = n - 1 - (i + 1) + 1 by omega, Int.add_mul, Int.one_mul]
  rw [interpolate_ns, interpolate_ns, hstep]
  omega

/-- A gyro reading takes seven bytes at least. -/
theorem count_le (buf : Nat → UInt8) (len pos : UInt16) (count : Nat) (t : Trace) :
    7 * (countLoop buf len pos count t).1 ≤ 7 * count + (len.toNat - pos.toNat) := by
  have hadvance {pos k : UInt16} (h : pos.toNat + k.toNat ≤ len.toNat) :
      len.toNat - (pos + k).toNat + k.toNat = len.toNat - pos.toNat := by
    rw [advance h]
    omega
  fun_induction countLoop buf len pos count t
  case case1 pos count t hlt hdr t' hframe ih =>
    have hroom := @hadvance pos 13 hframe.2
    simp only [UInt16.reduceToNat] at hroom
    omega
  case case2 pos count t hlt hdr t' h1 hframe ih =>
    have hroom := @hadvance pos 7 hframe.2
    simp only [UInt16.reduceToNat] at hroom
    omega
  case case3 pos count t hlt hdr t' h1 h2 hframe ih =>
    have hroom := @hadvance pos 7 hframe.2
    omega
  case case4 pos count t hlt hdr t' h1 h2 h3 hframe ih =>
    have hroom := @hadvance pos 5 hframe.2
    omega
  case case5 pos count t hlt hdr t' h1 h2 h3 h4 hframe ih =>
    have hroom := @hadvance pos 4 hframe.2
    omega
  case case6 pos count t hlt hdr t' h1 h2 h3 h4 h5 hframe ih =>
    have hroom := @hadvance pos 2 hframe.2
    omega
  case case7 => omega
  case case8 => omega

/-- A period that a rate of one per second or more has keeps the offsets
within a long long. -/
theorem offset_fits {count period : Nat} (hcount : count < 2 ^ 16) (hperiod : period ≤ 1000000000) (i : Nat) :
    (count - 1 - i) * period < 2 ^ 63 :=
  calc (count - 1 - i) * period ≤ 2 ^ 16 * 1000000000 := Nat.mul_le_mul (by omega) hperiod
    _ < 2 ^ 63 := by decide

theorem parse_fst (c : Convert G A) (stats : ImuStats G) (buf : Nat → UInt8) (len : UInt16) (now : Timespec) (n period : Int) :
    (fifoParseAndPush c stats buf len now n period).1 = parseLoop c buf len now n period 0 ⟨0, [], ⟨[], []⟩⟩ := by
  rw [fifoParseAndPush]
  split
  · rfl
  · rfl

theorem passes_agree (c : Convert G A) (stats : ImuStats G) (buf : Nat → UInt8) (len : UInt16) (now : Timespec) (n period : Int) :
    Agrees len now n period (fifoCountGyroFrames buf len).1 (fifoCountGyroFrames buf len).2
      (fifoParseAndPush c stats buf len now n period).1 := by
  have hnone : InBounds len ⟨[], []⟩ := fun i hi => absurd hi List.not_mem_nil
  rw [parse_fst]
  exact loops_agree c buf 0 ⟨rfl, rfl, rfl, hnone, hnone⟩

theorem Agrees.length (h : Agrees len now n period count t s) : s.pushed.length = count := by
  rw [← List.length_map (fun x : ImuSample G A => x.ts), h.stamps, List.length_map, List.length_range]

/-- A drain returns how many samples it has pushed. -/
theorem drain_result (c : Convert G A) (stats : ImuStats G) (lenBuf : Option (UInt8 × UInt8))
    (fifoBuf : Option (Nat → UInt8)) (now : Timespec) (sampleRateHz : Int) :
    (fifoDrainInternal c stats lenBuf fifoBuf now sampleRateHz).2.1 =
      (fifoDrainInternal c stats lenBuf fifoBuf now sampleRateHz).1.length := by
  cases lenBuf with
  | none => rfl
  | some bytes =>
      simp only [fifoDrainInternal]
      split
      · rfl
      · cases fifoBuf with
        | none => rfl
        | some buf =>
            simp only
            generalize (if fifoMaxBytes < _ then fifoMaxBytes else _) = len
            split
            · rfl
            · have h := passes_agree c stats buf len now (fifoCountGyroFrames buf len).1 ((1000000000 : Int).tdiv sampleRateHz)
              exact h.index.trans h.length.symm

theorem Agrees.stamp (h : Agrees len now n period count t s) {i : Nat} (hi : i < s.pushed.length) :
    s.pushed[i].ts = fifoInterpolateTs now period i n := by
  have hlen := h.length
  have hmap : (s.pushed.map (·.ts))[i]? = some s.pushed[i].ts := by
    rw [List.getElem?_map, List.getElem?_eq_getElem hi, Option.map_some]
  rw [h.stamps, List.getElem?_map, List.getElem?_range (by omega), Option.map_some] at hmap
  exact (Option.some.inj hmap).symm

/-- For every buffer both passes end, stay within its length and recognise the
same frames; each frame with a gyro reading is pushed, the last one with the
current time and the others one period apart. -/
theorem fifo_two_pass (c : Convert G A) (stats : ImuStats G) (buf : Nat → UInt8) (len : UInt16)
    (now : { ts : Timespec // Normalized ts }) (period : Nat) :
    let first := fifoCountGyroFrames buf len
    let second := (fifoParseAndPush c stats buf len now.1 first.1 period).1
    (InBounds len first.2 ∧ InBounds len second.trace) ∧ second.trace.frames = first.2.frames ∧
      (second.pushed.length = first.1 ∧ second.frameIdx = first.1) ∧
      (∀ sample ∈ second.pushed, Normalized sample.ts) ∧
      (∀ sample, second.pushed.getLast? = some sample → sample.ts = now.1) ∧
      (∀ i (h : i + 1 < second.pushed.length),
        nanoseconds second.pushed[i + 1].ts = nanoseconds second.pushed[i].ts + period) ∧
      (period ≤ 1000000000 → ∀ i, (first.1 - 1 - i) * period < 2 ^ 63) := by
  intro first second
  have h : Agrees len now.1 first.1 period first.1 first.2 second := passes_agree c stats buf len now.1 first.1 period
  have hlen : second.pushed.length = first.1 := h.length
  have hcount : first.1 < 2 ^ 16 := by
    have hle : 7 * first.1 ≤ 7 * 0 + (len.toNat - 0) := count_le buf len 0 0 ⟨[], []⟩
    have hbytes := len.toNat_lt
    omega
  refine ⟨⟨h.counted, h.parsed⟩, h.frames, ⟨hlen, h.index⟩, fun sample hmem => ?_, fun sample hlast => ?_,
    fun i hi => ?_, fun hperiod i => offset_fits hcount hperiod i⟩
  · obtain ⟨i, hi, rfl⟩ := List.getElem_of_mem hmem
    rw [h.stamp hi]
    exact interpolate_normalized now.2 (Int.natCast_nonneg period) (by omega)
  · rw [List.getLast?_eq_getElem?] at hlast
    obtain ⟨hi, rfl⟩ := List.getElem?_eq_some_iff.1 hlast
    rw [h.stamp hi, hlen, Int.natCast_sub (by omega)]
    exact interpolate_last now.2 period first.1
  · rw [h.stamp hi, h.stamp (Nat.lt_of_succ_lt hi)]
    exact interpolate_next now.1 period i first.1

end WaybeamVenc.ImuFifo
