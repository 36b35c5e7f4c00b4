import Mathlib.Algebra.Ring.Int.Defs
import WaybeamVenc.MotionRing
import WaybeamVenc.Runs

namespace WaybeamVenc.GyroBatches

open MotionRing Runs

variable {F : Type}

/-- What eis_ring_read_range returned for the window of one frame. -/
structure Batch (F : Type) where
  start : Timespec
  upTo : Timespec
  samples : List (EisMotionSample F)

/-- The part of a stabilizer that the samples go through, with all samples that
were pushed, the times of all calls and all batches. -/
structure State (F : Type) where
  ring : MotionRing.Ring (EisMotionSample F)
  tPrev : Timespec
  imuActive : Bool
  testMode : Bool
  pushed : List (EisMotionSample F)
  frames : List Timespec
  batches : List (Batch F)

def gglBatchMax : Nat := 64

def pushSample (s : State F) (x : EisMotionSample F) : State F :=
  { s with ring := eisRingPush s.ring x, pushed := s.pushed ++ [x] }

/-- short is whether frame_dt is below 0.0001, sim what sim_generate_samples
pushes. -/
def gyroglideUpdate (short : Timespec → Timespec → Bool) (s : State F) (now : Timespec)
    (sim : List (EisMotionSample F)) : State F :=
  let s := { s with frames := s.frames ++ [now] }
  if short s.tPrev now then s
  else
    let s := if s.imuActive then s else sim.foldl pushSample s
    if s.testMode then { s with tPrev := now }
    else
      let batch := (eisRingReadRange s.ring s.tPrev now gglBatchMax).2
      { s with batches := s.batches ++ [⟨s.tPrev, now, batch⟩], tPrev := now }

def eisGyroglideCreate [Zero F] (startTs : Timespec) (testMode : Bool) : State F where
  ring := eisRingInit
  tPrev := startTs
  imuActive := false
  testMode := testMode
  pushed := []
  frames := []
  batches := []

inductive Act (F : Type)
  | push (x : EisMotionSample F)
  | setImuActive (active : Bool)
  | update (now : Timespec) (sim : List (EisMotionSample F))

def step (short : Timespec → Timespec → Bool) (s : State F) : Act F → Option (State F)
  | .push x => some (pushSample s x)
  | .setImuActive active => some { s with imuActive := active }
  | .update now sim => some (gyroglideUpdate short s now sim)

/-- Samples come in the order of their times, and each before the first frame at
or after its own. -/
def InTime (s : State F) (xs : List (EisMotionSample F)) : Prop :=
  (s.pushed ++ xs).Pairwise (fun x y => x.ts ≤ y.ts) ∧ ∀ x ∈ xs, ∀ f ∈ s.frames, f < x.ts

/-- No more than a batch holds lies between a frame and the one before, and no
more than the ring holds was pushed from that one on. -/
def Holdable (pushed : List (EisMotionSample F)) (tPrev now : Timespec) : Prop :=
  (pushed.filter fun x => tPrev ≤ x.ts ∧ x.ts ≤ now).length ≤ gglBatchMax ∧
    (pushed.filter fun x => tPrev ≤ x.ts).length ≤ motionRingCapacity

def Admits (short : Timespec → Timespec → Bool) (s : State F) : Act F → Prop
  | .push x => InTime s [x]
  | .setImuActive _ => True
  | .update now sim => s.tPrev ≤ now ∧ (∀ f ∈ s.frames, f ≤ now) ∧
      (short s.tPrev now = false →
        let xs := if s.imuActive then [] else sim
        InTime s xs ∧ Holdable (s.pushed ++ xs) s.tPrev now)

/-! Windows that follow one another. -/

def Consecutive : Timespec → List (Batch F) → Timespec → Prop
  | first, [], last => first = last
  | first, b :: bs, last => b.start = first ∧ b.start < b.upTo ∧ Consecutive b.upTo bs last

theorem Consecutive.snoc {first last : Timespec} {bs : List (Batch F)} (h : Consecutive first bs last) (b : Batch F)
    (hstart : b.start = last) (hlt : b.start < b.upTo) : Consecutive first (bs ++ [b]) b.upTo := by
  induction bs generalizing first with
  | nil =>
      obtain rfl : first = last := h
      exact ⟨hstart, hlt, rfl⟩
  | cons c bs ih => exact ⟨h.1, h.2.1, ih h.2.2⟩

theorem Consecutive.starts {first last : Timespec} {bs : List (Batch F)} (h : Consecutive first bs last) :
    ∀ b ∈ bs, first ≤ b.start := by
  induction bs generalizing first with
  | nil => simp
  | cons c bs ih =>
      intro b hb
      rcases List.mem_cons.mp hb with rfl | hb
      · exact le_of_eq h.1.symm
      · calc first = c.start := h.1.symm
          _ ≤ c.upTo := le_of_lt h.2.1
          _ ≤ b.start := ih h.2.2 b hb

/-- A time behind the first window's start lies in one window, its end included. -/
theorem Consecutive.window {first last t : Timespec} {bs : List (Batch F)} (h : Consecutive first bs last)
    (hfirst : first < t) (hlast : t ≤ last) :
    ∃ before b after, bs = before ++ b :: after ∧ (∀ c ∈ before, c.upTo < t) ∧ b.start < t ∧ t ≤ b.upTo ∧
      Consecutive b.upTo after last := by
  induction bs generalizing first with
  | nil =>
      obtain rfl : first = last := h
      exact absurd hlast (not_le.mpr hfirst)
  | cons c bs ih =>
      obtain ⟨hstart, hlt, hrest⟩ := h
      rcases lt_or_ge c.upTo t with hafter | hwithin
      · obtain ⟨before, b, after, rfl, hbefore, hb⟩ := ih hrest hafter
        refine ⟨c :: before, b, after, rfl, ?_, hb⟩
        intro d hd
        rcases List.mem_cons.mp hd with rfl | hd
        · exact hafter
        · exact hbefore d hd
      · exact ⟨[], c, bs, rfl, by simp, hstart ▸ hfirst, hwithin, hrest⟩

/-! What a frame finds in the ring. -/

/-- Samples that were overwritten are older than the window. -/
theorem newest_window {pushed : List (EisMotionSample F)} {tPrev now : Timespec}
    (hsorted : pushed.Pairwise fun x y => x.ts ≤ y.ts)
    (hroom : (pushed.filter fun x => tPrev ≤ x.ts).length ≤ motionRingCapacity) :
    ((newest pushed).filter fun x => tPrev ≤ x.ts ∧ x.ts ≤ now) =
      pushed.filter fun x => tPrev ≤ x.ts ∧ x.ts ≤ now := by
  obtain ⟨k, hk⟩ : ∃ k, k = pushed.length - motionRingCapacity := ⟨_, rfl⟩
  have hsplit := List.take_append_drop k pushed
  have hold : ∀ x ∈ pushed.take k, ¬tPrev ≤ x.ts := by
    intro x hx hge
    have hall : ∀ y ∈ pushed.drop k, tPrev ≤ y.ts := by
      intro y hy
      rw [← hsplit, List.pairwise_append] at hsorted
      exact le_trans hge (hsorted.2.2 x hx y hy)
    have hkept : ((pushed.drop k).filter fun y => tPrev ≤ y.ts) = pushed.drop k :=
      List.filter_eq_self.mpr fun y hy => decide_eq_true (hall y hy)
    have hone : 0 < ((pushed.take k).filter fun y => tPrev ≤ y.ts).length :=
      List.length_pos_of_mem (List.mem_filter.mpr ⟨hx, decide_eq_true hge⟩)
    have hpos : 0 < k := by
      rcases Nat.eq_zero_or_pos k with rfl | hpos
      · simp at hx
      · exact hpos
    rw [← hsplit, List.filter_append, List.length_append, hkept, List.length_drop] at hroom
    omega
  have hnone : ((pushed.take k).filter fun x => tPrev ≤ x.ts ∧ x.ts ≤ now) = [] := by
    rw [List.filter_eq_nil_iff]
    intro x hx
    simp [hold x hx]
  conv_rhs => rw [← hsplit, List.filter_append, hnone, List.nil_append]
  rw [newest, hk]

theorem batch_eq {s : State F} (hring : Holds s.ring s.pushed) {now : Timespec}
    (hsorted : s.pushed.Pairwise fun x y => x.ts ≤ y.ts) (hroom : Holdable s.pushed s.tPrev now) :
    (eisRingReadRange s.ring s.tPrev now gglBatchMax).2 =
      s.pushed.filter fun x => s.tPrev ≤ x.ts ∧ x.ts ≤ now := by
  rw [eisRingReadRange, readRange_eq hring EisMotionSample.ts, newest_window hsorted hroom.2]
  exact List.take_of_length_le hroom.1

/-! The invariant of a run. -/

structure Inv (startTs : Timespec) (s : State F) : Prop where
  ring : Holds s.ring s.pushed
  sorted : s.pushed.Pairwise fun x y => x.ts ≤ y.ts
  live : s.testMode = false
  windows : Consecutive startTs s.batches s.tPrev
  framed : ∀ b ∈ s.batches, b.upTo ∈ s.frames
  whole : ∀ b ∈ s.batches, b.samples = s.pushed.filter fun x => b.start ≤ x.ts ∧ x.ts ≤ b.upTo

theorem pushSamples_eq (s : State F) (xs : List (EisMotionSample F)) :
    xs.foldl pushSample s = { s with ring := xs.foldl eisRingPush s.ring, pushed := s.pushed ++ xs } := by
  induction xs generalizing s with
  | nil => simp
  | cons x xs ih => simp [ih, pushSample]

/-- Samples that come in time change no batch. -/
theorem pushSamples_inv {startTs : Timespec} {s : State F} (h : Inv startTs s) {xs : List (EisMotionSample F)}
    (hxs : InTime s xs) : Inv startTs (xs.foldl pushSample s) := by
  rw [pushSamples_eq]
  refine ⟨pushes_hold h.ring xs, hxs.1, h.live, h.windows, h.framed, ?_⟩
  intro b hb
  have hnone : (xs.filter fun x => b.start ≤ x.ts ∧ x.ts ≤ b.upTo) = [] := by
    rw [List.filter_eq_nil_iff]
    intro x hx
    simp [not_le.mpr (hxs.2 x hx b.upTo (h.framed b hb))]
  rw [List.filter_append, hnone, List.append_nil]
  exact h.whole b hb

theorem update_inv {short : Timespec → Timespec → Bool} (hsame : ∀ t, short t t = true) {startTs : Timespec}
    {s : State F} (h : Inv startTs s) {now : Timespec} {sim : List (EisMotionSample F)}
    (hok : Admits short s (.update now sim)) : Inv startTs (gyroglideUpdate short s now sim) := by
  obtain ⟨hnow, hframes, hread⟩ := hok
  have hframed : ∀ b ∈ s.batches, b.upTo ∈ s.frames ++ [now] :=
    fun b hb => List.mem_append_left _ (h.framed b hb)
  rw [gyroglideUpdate]
  cases hshort : short s.tPrev now with
  | true =>
      dsimp only
      rw [if_pos rfl]
      exact ⟨h.ring, h.sorted, h.live, h.windows, hframed, h.whole⟩
  | false =>
      obtain ⟨hin, hroom⟩ := hread hshort
      have hlt : s.tPrev < now := by
        rcases lt_or_eq_of_le hnow with hlt | rfl
        · exact hlt
        · rw [hsame] at hshort
          cases hshort
      have hpushed := pushSamples_inv h hin
      rw [pushSamples_eq] at hpushed
      dsimp only
      rw [if_neg Bool.false_ne_true]
      have hsim : (if s.imuActive = true then { s with frames := s.frames ++ [now] }
          else sim.foldl pushSample { s with frames := s.frames ++ [now] }) =
          { s with
            ring := (if s.imuActive then [] else sim).foldl eisRingPush s.ring
            pushed := s.pushed ++ (if s.imuActive then [] else sim)
            frames := s.frames ++ [now] } := by
        split
        · simp
        · rw [pushSamples_eq]
      rw [hsim]
      dsimp only
      rw [h.live, if_neg Bool.false_ne_true]
      refine ⟨hpushed.ring, hpushed.sorted, rfl, ?_, ?_, ?_⟩
      · exact h.windows.snoc ⟨s.tPrev, now, _⟩ rfl hlt
      · intro b hb
        rcases List.mem_append.mp hb with hb | hb
        · exact hframed b hb
        · rw [List.mem_singleton.mp hb]
          exact List.mem_append_right _ (List.mem_singleton_self now)
      · intro b hb
        rcases List.mem_append.mp hb with hb | hb
        · exact hpushed.whole b hb
        · rw [List.mem_singleton.mp hb]
          exact batch_eq hpushed.ring hpushed.sorted hroom

theorem step_inv {short : Timespec → Timespec → Bool} (hsame : ∀ t, short t t = true) {startTs : Timespec}
    {s t : State F} (h : Inv startTs s) (a : Act F) (hok : Admits short s a) (hs : step short s a = some t) :
    Inv startTs t := by
  cases a with
  | push x =>
      obtain rfl := Option.some.inj hs
      exact @pushSamples_inv F startTs s h [x] hok
  | setImuActive active =>
      obtain rfl := Option.some.inj hs
      exact ⟨h.ring, h.sorted, h.live, h.windows, h.framed, h.whole⟩
  | update now sim =>
      obtain rfl := Option.some.inj hs
      exact update_inv hsame h hok

theorem create_inv [Zero F] (startTs : Timespec) : Inv startTs (eisGyroglideCreate startTs false : State F) where
  ring := init_holds _
  sorted := .nil
  live := rfl
  windows := rfl
  framed := by simp [eisGyroglideCreate]
  whole := by simp [eisGyroglideCreate]

/-- In test mode a frame only moves the crop, whatever is pushed. -/
theorem step_testMode {short : Timespec → Timespec → Bool} {s t : State F} (h : s.testMode = true ∧ s.batches = [])
    (a : Act F) (hs : step short s a = some t) : t.testMode = true ∧ t.batches = [] := by
  obtain ⟨htest, hnone⟩ := h
  cases a with
  | push x =>
      obtain rfl := Option.some.inj hs
      exact ⟨htest, hnone⟩
  | setImuActive active =>
      obtain rfl := Option.some.inj hs
      exact ⟨htest, hnone⟩
  | update now sim =>
      obtain rfl := Option.some.inj hs
      have hpushed : (if s.imuActive then { s with frames := s.frames ++ [now] }
          else sim.foldl pushSample { s with frames := s.frames ++ [now] }).testMode = true ∧
          (if s.imuActive then { s with frames := s.frames ++ [now] }
            else sim.foldl pushSample { s with frames := s.frames ++ [now] }).batches = [] := by
        rw [pushSamples_eq]
        split <;> exact ⟨htest, hnone⟩
      rw [gyroglideUpdate]
      dsimp only at hpushed ⊢
      cases short s.tPrev now with
      | true => exact ⟨htest, hnone⟩
      | false =>
          rw [if_neg Bool.false_ne_true, if_pos hpushed.1]
          exact hpushed

/-- Every sample behind the start is in the batch of one frame, and a second
time in the next one's exactly if it was taken at the very time of the frame:
there it stands at the start of the window. In test mode there are no batches. -/
theorem sample_batches [Zero F] {short : Timespec → Timespec → Bool} (hsame : ∀ t, short t t = true)
    (startTs : Timespec) :
    (∀ s : State F, Path (step short) (Admits short) (eisGyroglideCreate startTs false) s →
      (∀ b ∈ s.batches, b.samples = s.pushed.filter fun x => b.start ≤ x.ts ∧ x.ts ≤ b.upTo) ∧
      ∀ x ∈ s.pushed, startTs < x.ts → x.ts ≤ s.tPrev →
        ∃ before b after, s.batches = before ++ b :: after ∧ (∀ c ∈ before, x ∉ c.samples) ∧ x ∈ b.samples ∧
          (∀ c ∈ after.head?, c.start = b.upTo ∧ (x ∈ c.samples ↔ x.ts = b.upTo)) ∧ ∀ c ∈ after.tail, x ∉ c.samples) ∧
    ∀ s : State F, Reaches (step short) (eisGyroglideCreate startTs true) s → s.batches = [] := by
  refine ⟨?_, ?_⟩
  swap
  · intro s h
    exact (h.invariant (fun t => t.testMode = true ∧ t.batches = []) ⟨rfl, rfl⟩
      fun t a u ht _ hs => step_testMode ht a hs).2
  intro s h
  have hinv : Inv startTs s :=
    h.invariant (Inv startTs) (create_inv startTs) fun t a u ht hok hs => step_inv hsame ht a hok hs
  refine ⟨hinv.whole, ?_⟩
  intro x hx hfirst hlast
  obtain ⟨before, b, after, hbatches, hbefore, hlow, hhigh, hafter⟩ := hinv.windows.window hfirst hlast
  have hmem : ∀ c ∈ s.batches, (x ∈ c.samples ↔ c.start ≤ x.ts ∧ x.ts ≤ c.upTo) := by
    intro c hc
    rw [hinv.whole c hc, List.mem_filter, decide_eq_true_eq, and_iff_right hx]
  refine ⟨before, b, after, hbatches, ?_, ?_, ?_, ?_⟩
  · intro c hc hin
    have hc' : c ∈ s.batches := hbatches ▸ List.mem_append_left _ hc
    exact absurd ((hmem c hc').mp hin).2 (not_le.mpr (hbefore c hc))
  · exact (hmem b (by simp [hbatches])).mpr ⟨le_of_lt hlow, hhigh⟩
  · intro c hc
    cases after with
    | nil => cases hc
    | cons d after =>
        obtain rfl := Option.some.inj hc
        refine ⟨hafter.1, ?_⟩
        rw [hmem d (by simp [hbatches]), hafter.1]
        constructor
        · rintro ⟨hge, -⟩
          exact le_antisymm hhigh hge
        · intro heq
          have hd := hafter.2.1
          rw [hafter.1, ← heq] at hd
          exact ⟨le_of_eq heq.symm, le_of_lt hd⟩
  · intro c hc hin
    cases after with
    | nil => cases hc
    | cons d after =>
        have hstart := hafter.2.2.starts c hc
        have hlate : x.ts < c.start := by
          calc x.ts ≤ b.upTo := hhigh
            _ = d.start := hafter.1.symm
            _ < d.upTo := hafter.2.1
            _ ≤ c.start := hstart
        have hc' : c ∈ s.batches := by
          rw [hbatches]
          exact List.mem_append_right _ (List.mem_cons_of_mem _ (List.mem_cons_of_mem _ hc))
        exact absurd ((hmem c hc').mp hin).1 (not_le.mpr hlate)

/-- frame_dt below 0.0001 without the rounding of the floats. -/
def exactShort (a b : Timespec) : Bool := decide ((b.sec - a.sec) * 1000000000 + (b.nsec - a.nsec) < 100000)

theorem exactShort_same (t : Timespec) : exactShort t t = true := by simp [exactShort]

def milliseconds (n : Int) : Timespec := ⟨0, n * 1000000⟩

def still (n : Int) : EisMotionSample Int := ⟨milliseconds n, 0, 0, 0⟩

/-- A sample of the time 10 ms, then frames at 10 ms and 20 ms. -/
def borderRun (testMode : Bool) : State Int :=
  let s := pushSample (eisGyroglideCreate (milliseconds 0) testMode) (still 10)
  gyroglideUpdate exactShort (gyroglideUpdate exactShort { s with imuActive := true } (milliseconds 10) [])
    (milliseconds 20) []

theorem borderRun_path (testMode : Bool) : Path (step exactShort) (Admits exactShort)
    (eisGyroglideCreate (milliseconds 0) testMode) (borderRun testMode) := by
  have hpush : InTime (eisGyroglideCreate (milliseconds 0) testMode) [still 10] :=
    ⟨List.pairwise_singleton _ _, by simp [eisGyroglideCreate]⟩
  have hnone : ∀ s : State Int, s.pushed = [still 10] → InTime s [] := by
    intro s hs
    rw [InTime, hs]
    exact ⟨List.pairwise_singleton _ _, by simp⟩
  have hroom : ∀ tPrev now, Holdable [still 10] tPrev now := by
    intro tPrev now
    exact ⟨le_trans (List.length_filter_le _ _) (by decide), le_trans (List.length_filter_le _ _) (by decide)⟩
  refine .next (.update (milliseconds 20) []) (.next (.update (milliseconds 10) []) (.next (.setImuActive true)
    (.next (.push (still 10)) .refl hpush rfl) trivial rfl) ?_ rfl) ?_ rfl
  · have hzero : milliseconds 0 ≤ milliseconds 10 := by decide
    exact ⟨hzero, by simp [pushSample, eisGyroglideCreate], fun _ => ⟨hnone _ rfl, hroom _ _⟩⟩
  · cases testMode
    · exact ⟨by decide, by decide, fun _ => ⟨hnone _ rfl, hroom _ _⟩⟩
    · exact ⟨by decide, by decide, fun _ => ⟨hnone _ rfl, hroom _ _⟩⟩

theorem sample_batches_border : (∃ before b after, (borderRun false).batches = before ++ b :: after ∧
    (∀ c ∈ before, still 10 ∉ c.samples) ∧ still 10 ∈ b.samples ∧
    (∀ c ∈ after.head?, c.start = b.upTo ∧ (still 10 ∈ c.samples ↔ (still 10).ts = b.upTo)) ∧
    ∀ c ∈ after.tail, still 10 ∉ c.samples) ∧ (borderRun true).batches = [] := by
  obtain ⟨hlive, htest⟩ := @sample_batches Int _ exactShort exactShort_same (milliseconds 0)
  exact ⟨(hlive _ (borderRun_path false)).2 (still 10) (by decide) (by decide) (by decide),
    htest _ ((borderRun_path true).mono fun _ _ _ => trivial)⟩

/-- The sample is in the batches of both frames; in test mode it is in none. -/
theorem border_sample_twice :
    (Path (step exactShort) (Admits exactShort) (eisGyroglideCreate (milliseconds 0) false) (borderRun false) ∧
      still 10 ∈ (borderRun false).pushed ∧ milliseconds 0 < (still 10).ts ∧
      ∃ b c, (borderRun false).batches = [b, c] ∧ still 10 ∈ b.samples ∧ still 10 ∈ c.samples) ∧
    Path (step exactShort) (Admits exactShort) (eisGyroglideCreate (milliseconds 0) true) (borderRun true) ∧
      still 10 ∈ (borderRun true).pushed ∧ (borderRun true).batches = [] := by
  have hinv : Inv (milliseconds 0) (borderRun false) :=
    (borderRun_path false).invariant (Inv (milliseconds 0)) (create_inv _)
      fun t a u ht hok hs => step_inv exactShort_same ht a hok hs
  obtain ⟨b, c, hbatches, hb, hc⟩ : ∃ b c, (borderRun false).batches = [b, c] ∧
      (b.start = milliseconds 0 ∧ b.upTo = milliseconds 10) ∧ c.start = milliseconds 10 ∧ c.upTo = milliseconds 20 :=
    ⟨_, _, rfl, ⟨rfl, rfl⟩, rfl, rfl⟩
  refine ⟨⟨borderRun_path false, by decide, by decide, b, c, hbatches, ?_, ?_⟩, borderRun_path true, by decide, rfl⟩
  · rw [hinv.whole b (by simp [hbatches]), hb.1, hb.2]
    decide
  · rw [hinv.whole c (by simp [hbatches]), hc.1, hc.2]
    decide

end WaybeamVenc.GyroBatches
