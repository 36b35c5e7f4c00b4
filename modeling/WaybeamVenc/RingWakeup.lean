import WaybeamVenc.RingSafety

namespace WaybeamVenc.RingWakeup

open Runs RingGeometry RingModel RingSlots BoundedFifo RingRefinement RingSafety

variable (g : Geometry)

def finish (s : State) (_ : Unit) : Option State := writerStep g s

def Asleep (s : State) : Prop := ∃ t n, s.consumer = .blocked t n

/-- Some step left in the producer's current call wakes the consumer. -/
def Wakes (s : State) : Prop := ∃ t, Reaches (finish g) s t ∧ ¬ Asleep t

def LostWakeup (s : State) : Prop := Asleep s ∧ unread s ≠ 0 ∧ ¬ Wakes g s

/-- The producer's current call has its fetch_add of futex_seq still to do. -/
def WillBump (s : State) : Prop :=
  match s.producer with
  | .storeLength _ _ | .storeData _ _ _ | .storeWriteIdx _ _ | .bumpSeq _ => True
  | .loadWriteIdx _ => ¬ g.slotCount.toUInt64 ≤ s.writeIdx - s.readIdx
  | .loadReadIdx _ w => ¬ g.slotCount.toUInt64 ≤ w - s.readIdx
  | .idle | .loadWaiting _ | .wake _ => False

/-- The snapshot of futex_seq is taken while the ring is still empty, or while
a fetch_add that makes it stale is on its way. -/
def SnapshotInTime (s : State) : Act → Prop
  | .consumer => ∀ t n, s.consumer = .loadSeq t n → unread s = 0 ∨ WillBump g s
  | _ => True

def PastBump : WritePc → Prop
  | .loadWaiting _ | .wake _ => True
  | _ => False

def bumps (s : State) : Nat :=
  s.written.length + match s.producer with
    | .loadWaiting _ | .wake _ => 1
    | _ => 0

/-- A snapshot taken after b increments becomes stale before an unread packet
can be missed. -/
structure Recent (s : State) (b : Nat) : Prop where
  le : b ≤ bumps s
  taken : s.received.length ≤ b + 1
  stale : unread s ≠ 0 → b < bumps s ∨ WillBump g s

def Listening (s : State) : ReadPc → Prop
  | .setWaiting _ _ seq => ∃ b, seq = UInt32.ofNat b ∧ Recent g s b
  | .futexWait _ _ seq => s.consumerWaiting = true ∧ ∃ b, seq = UInt32.ofNat b ∧ Recent g s b
  | .blocked _ _ => s.consumerWaiting = true ∧ (unread s ≠ 0 → WillBump g s ∨ PastBump s.producer)
  | _ => True

structure WakeInv (s : State) : Prop where
  seq : s.futexSeq = UInt32.ofNat (bumps s)
  listening : Listening g s s.consumer

theorem bumps_le (s : State) : bumps s ≤ (published s).length ∧ (published s).length ≤ bumps s + 1 := by
  cases hp : s.producer <;> simp [bumps, published, inFlight, hp]

theorem ofNat_seq_inj {b n : Nat} (h : UInt32.ofNat n = UInt32.ofNat b) (hle : b ≤ n)
    (hlt : n - b < 2 ^ 32) : n = b := by
  have hmod := congrArg UInt32.toNat h
  rw [UInt32.toNat_ofNat', UInt32.toNat_ofNat'] at hmod
  have hn := Nat.div_add_mod n (2 ^ 32)
  have hb := Nat.div_add_mod b (2 ^ 32)
  omega

theorem willBump_afterStores {s : State} {p : Packet} {w : UInt64} {k : Nat}
    (h : s.producer = afterStores p w k) : WillBump g s := by
  rw [WillBump, h, afterStores]
  split_ifs <;> trivial

theorem bumps_afterStores {s : State} {p : Packet} {w : UInt64} {k : Nat}
    (h : s.producer = afterStores p w k) : bumps s = s.written.length := by
  rw [bumps, h, afterStores]
  split_ifs <;> rfl

/-- What one step of the producer means to a consumer that is about to sleep. -/
structure Progress (s t : State) : Prop where
  received : t.received = s.received
  waiting : t.consumerWaiting = s.consumerWaiting
  mono : bumps s ≤ bumps t
  unread : RingRefinement.unread t ≠ 0 → RingRefinement.unread s ≠ 0 ∨ WillBump g t
  bump : WillBump g s → WillBump g t ∨ bumps s < bumps t ∧ PastBump t.producer

theorem Progress.quiet {s t : State} (hr : t.received = s.received)
    (hc : t.consumerWaiting = s.consumerWaiting) (hb : bumps t = bumps s)
    (hw : t.writeIdx = s.writeIdx) (hrd : t.readIdx = s.readIdx) (hbump : WillBump g s → WillBump g t) :
    Progress g s t :=
  ⟨hr, hc, le_of_eq hb.symm, fun h => .inl (by rwa [RingRefinement.unread, hw, hrd] at h),
    fun h => .inl (hbump h)⟩

theorem writer_progress {s t : State} (h : writerStep g s = some t) : Progress g s t := by
  rw [writerStep] at h
  split at h <;> rename_i hp
  case h_1 => cases h
  case h_2 p =>
      cases h
      exact .quiet g rfl rfl (by simp [bumps, hp]) rfl rfl (by simp [WillBump, hp])
  case h_3 p w =>
      split at h
      · next hfull =>
        cases h
        exact .quiet g rfl rfl (by simp [bumps, hp]) rfl rfl (by simp [WillBump, hp, hfull])
      · cases h
        exact .quiet g rfl rfl (by simp [bumps, hp]) rfl rfl (by simp [WillBump])
  case h_4 p w =>
      cases h
      exact .quiet g rfl rfl (by rw [bumps_afterStores rfl]; simp [bumps, hp]) rfl rfl
        (fun _ => willBump_afterStores g rfl)
  case h_5 p w k =>
      cases h
      exact .quiet g rfl rfl (by rw [bumps_afterStores rfl]; simp [bumps, hp]) rfl rfl
        (fun _ => willBump_afterStores g rfl)
  case h_6 p w =>
      cases h
      exact ⟨rfl, rfl, by simp [bumps, hp], fun _ => .inr trivial, fun _ => .inl trivial⟩
  case h_7 p =>
      cases h
      exact ⟨rfl, rfl, by simp [bumps, hp], fun hu => .inl hu, fun _ => .inr ⟨by simp [bumps, hp], trivial⟩⟩
  case h_8 p =>
      split at h
      · cases h
        exact .quiet g rfl rfl (by simp [bumps, hp]) rfl rfl (by simp [WillBump, hp])
      · cases h
        exact .quiet g rfl rfl (by simp [bumps, hp]) rfl rfl (by simp [WillBump, hp])
  case h_9 p =>
      cases h
      exact .quiet g rfl rfl (by simp [bumps, hp]) rfl rfl (by simp [WillBump, hp])

theorem Recent.progress {s t : State} {b : Nat} (h : Recent g s b) (hp : Progress g s t) : Recent g t b := by
  refine ⟨h.le.trans hp.mono, by rw [hp.received]; exact h.taken, fun hu => ?_⟩
  rcases hp.unread hu with hs | hb
  · rcases h.stale hs with hlt | hb
    · exact .inl (lt_of_lt_of_le hlt hp.mono)
    · rcases hp.bump hb with hb | ⟨hlt, _⟩
      · exact .inr hb
      · exact .inl (lt_of_le_of_lt h.le hlt)
  · exact .inr hb

theorem writer_seq {s t : State} (hseq : s.futexSeq = UInt32.ofNat (bumps s))
    (h : writerStep g s = some t) : t.futexSeq = UInt32.ofNat (bumps t) := by
  rw [writerStep] at h
  split at h <;> rename_i hp
  case h_1 => cases h
  case h_7 p =>
      cases h
      simp only [bumps, hp, Nat.add_zero] at hseq
      change s.futexSeq + 1 = UInt32.ofNat (s.written.length + 1)
      rw [hseq, UInt32.ofNat_add]; rfl
  case h_4 p w =>
      cases h
      rw [bumps_afterStores rfl]
      simpa only [bumps, hp, Nat.add_zero] using hseq
  case h_5 p w k =>
      cases h
      rw [bumps_afterStores rfl]
      simpa only [bumps, hp, Nat.add_zero] using hseq
  case h_3 p w | h_8 p =>
      split at h <;> cases h <;> simpa [bumps, hp] using hseq
  case h_2 p | h_6 p w | h_9 p => cases h; simpa [bumps, hp] using hseq

/-- A producer past its fetch_add keeps its promise to a consumer that is asleep. -/
theorem pastBump_step {s t : State} (hwait : s.consumerWaiting = true) (hpast : PastBump s.producer)
    (h : writerStep g s = some t) : PastBump t.producer ∨ t.consumer = woken s.consumer := by
  rw [writerStep] at h
  split at h <;> rename_i hp <;> rw [hp] at hpast
  case h_8 p =>
      rw [hwait] at h
      cases h
      exact .inl trivial
  case h_9 p => cases h; exact .inr rfl
  all_goals exact hpast.elim

theorem writer_consumer {s t : State} (h : writerStep g s = some t) :
    t.consumer = s.consumer ∨ t.consumer = woken s.consumer := by
  rw [writerStep] at h
  split at h
  case h_1 => cases h
  case h_9 => cases h; exact .inr rfl
  case h_3 | h_8 => split at h <;> cases h <;> exact .inl rfl
  all_goals cases h; exact .inl rfl

theorem woken_not_blocked (pc : ReadPc) : ∀ t n, woken pc ≠ .blocked t n := by
  intro t n
  cases pc <;> simp [woken]

theorem Listening.progress {s t : State} (hp : Progress g s t) (hl : Listening g s s.consumer)
    (hkept : t.consumer = s.consumer ∨ t.consumer = woken s.consumer)
    (hpast : s.consumerWaiting = true → PastBump s.producer →
      PastBump t.producer ∨ t.consumer = woken s.consumer) : Listening g t t.consumer := by
  have same : t.consumer = s.consumer → Listening g t t.consumer := by
    intro hc
    rw [hc]
    cases hpc : s.consumer with
    | setWaiting m n seq =>
        rw [hpc] at hl
        obtain ⟨b, hb, hr⟩ := hl
        exact ⟨b, hb, hr.progress g hp⟩
    | futexWait m n seq =>
        rw [hpc] at hl
        obtain ⟨hw, b, hb, hr⟩ := hl
        exact ⟨hp.waiting.trans hw, b, hb, hr.progress g hp⟩
    | blocked m n =>
        rw [hpc] at hl
        obtain ⟨hw, hwake⟩ := hl
        refine ⟨hp.waiting.trans hw, fun hu => ?_⟩
        rcases hp.unread hu with hs | hb
        · rcases hwake hs with hb | hb
          · exact (hp.bump hb).imp_right And.right
          · rcases hpast hw hb with hb | hwoken
            · exact .inr hb
            · rw [hc, hpc] at hwoken
              exact absurd hwoken.symm (woken_not_blocked _ m n)
        · exact .inl hb
    | idle | loadReadIdx | loadWriteIdx | loadLength | loadData | storeReadIdx | loadSeq | clearWaiting =>
        trivial
  rcases hkept with hc | hc
  · exact same hc
  · cases hpc : s.consumer with
    | blocked m n => rw [hc, hpc]; trivial
    | idle | loadReadIdx | loadWriteIdx | loadLength | loadData | storeReadIdx | loadSeq | setWaiting
    | futexWait | clearWaiting => exact same (by rw [hc, hpc]; rfl)

theorem listening_afterRead (s : State) (c : Caller) (n : UInt16) (ok : Bool) :
    Listening g s (afterRead c n ok) := by
  cases c with
  | plain => trivial
  | first t => cases ok <;> trivial
  | recheck t => rw [afterRead]; split_ifs <;> trivial

theorem listening_afterLoads (s : State) (c : Caller) (n : UInt16) (rd : UInt64) (len : UInt16)
    (buf : List UInt8) : Listening g s (afterLoads c n rd len buf) := by
  rw [afterLoads]; split_ifs <;> trivial

theorem reader_listening {s t : State} (hi : Inv g (fun _ => True) s)
    (hcap : (published s).length ≤ s.received.length + g.slotCount.toNat)
    (hseq : s.futexSeq = UInt32.ofNat (bumps s)) (hl : Listening g s s.consumer)
    (hok : SnapshotInTime g s .consumer) (h : readerStep g s = some t) : Listening g t t.consumer := by
  have hbumps := bumps_le s
  have htaken := hi.taken_le
  have hsmall := g.count_small
  rw [readerStep] at h
  split at h <;> rename_i hp <;> rw [hp] at hl
  case h_1 | h_11 => cases h
  case h_2 => cases h; trivial
  case h_3 c n rd =>
      cases h
      change Listening g _ (if _ then _ else _)
      split_ifs
      · exact listening_afterRead g _ c n false
      · trivial
  case h_4 c n rd =>
      dsimp only at h
      by_cases hbad : g.slotDataSize < (loadU16 s.mem (slotAt g rd)).toUInt32
      · rw [if_pos hbad] at h; cases h; trivial
      · rw [if_neg hbad] at h; cases h; exact listening_afterLoads g _ c n rd _ _
  case h_5 c n rd len buf => cases h; exact listening_afterLoads g _ c n rd len _
  case h_6 c n rd => cases h; exact listening_afterRead g _ c n false
  case h_7 c n rd buf => cases h; exact listening_afterRead g _ c n true
  case h_8 m n =>
      cases h
      refine ⟨bumps s, hseq, ⟨le_refl _, by change s.received.length ≤ _; omega, fun hu => .inr ?_⟩⟩
      exact (hok m n hp).resolve_left hu
  case h_9 m n seq =>
      cases h
      obtain ⟨b, hb, hr⟩ := hl
      exact ⟨rfl, b, hb, ⟨hr.le, hr.taken, hr.stale⟩⟩
  case h_10 m n seq =>
      obtain ⟨hw, b, hb, hr⟩ := hl
      cases h
      change Listening g _ (if _ then _ else _)
      split_ifs with heq
      · refine ⟨hw, fun hu => .inl ?_⟩
        have hle := hr.le
        have hcount := hr.taken
        have hnow : bumps s = b := ofNat_seq_inj (by rw [← hseq, heq, hb]) hle (by omega)
        exact (hr.stale hu).resolve_left (by omega)
      · trivial
  case h_12 m n => cases h; trivial

theorem step_wakeInv {s t : State} (a : Act) (hi : Inv g (fun _ => True) s)
    (hcap : (published s).length ≤ s.received.length + g.slotCount.toNat) (h : WakeInv g s)
    (hok : SnapshotInTime g s a) (hs : step g s a = some t) : WakeInv g t := by
  cases a with
  | producer =>
      exact ⟨writer_seq g h.seq hs, h.listening.progress g (writer_progress g hs) (writer_consumer g hs)
        (fun hw hpast => pastBump_step g hw hpast hs)⟩
  | consumer =>
      refine ⟨?_, reader_listening g hi hcap h.seq h.listening hok hs⟩
      have hframe : t.futexSeq = s.futexSeq ∧ t.written = s.written ∧ t.producer = s.producer := by
        change readerStep g s = some t at hs
        rw [readerStep] at hs
        split at hs
        case h_1 | h_11 => cases hs
        case h_4 => dsimp only at hs; split_ifs at hs <;> cases hs <;> exact ⟨rfl, rfl, rfl⟩
        all_goals cases hs; exact ⟨rfl, rfl, rfl⟩
      rw [bumps, hframe.1, hframe.2.1, hframe.2.2]
      exact h.seq
  | write p =>
      simp only [step] at hs
      split at hs
      · next hp =>
        split at hs
        · cases hs
          have hprog : Progress g s { s with producerStats :=
              { s.producerStats with oversizeDrops := s.producerStats.oversizeDrops + 1 } } :=
            .quiet g rfl rfl rfl rfl rfl id
          exact ⟨h.seq, h.listening.progress g hprog (.inl rfl) (fun _ hpast => .inl hpast)⟩
        · cases hs
          have hb : bumps { s with producer := .loadWriteIdx p } = bumps s := by simp [bumps, hp]
          have hprog : Progress g s { s with producer := .loadWriteIdx p } :=
            .quiet g rfl rfl hb rfl rfl (by simp [WillBump, hp])
          exact ⟨h.seq.trans (by rw [hb]), h.listening.progress g hprog (.inl rfl) (by simp [PastBump, hp])⟩
      · cases hs
  | read n | readWait n m =>
      simp only [step] at hs
      split at hs
      · cases hs; exact ⟨h.seq, trivial⟩
      · cases hs
  | timeout =>
      simp only [step] at hs
      split at hs
      · split at hs
        · cases hs; exact ⟨h.seq, trivial⟩
        · cases hs
      · cases hs

theorem fresh_wakeInv : WakeInv g fresh := ⟨rfl, trivial⟩

theorem reaches_wakeInv {s : State} (h : Path (step g) (SnapshotInTime g) fresh s) : WakeInv g s := by
  have hfifo (t : State) (k : Path (step g) (SnapshotInTime g) fresh t) :=
    ring_refines_fifo g (fun _ => True) (k.mono (fun _ a _ => by cases a <;> trivial))
  induction h with
  | refl => exact fresh_wakeInv g
  | next a hpath hok hstep ih =>
      obtain ⟨hinv, hreach⟩ := hfifo _ hpath
      exact step_wakeInv g a hinv (fifo_bound g hinv.taken_le (reaches_ordered hreach)) ih hok hstep

theorem Wakes.of_step {s t : State} (hs : writerStep g s = some t) (h : Wakes g t) : Wakes g s := by
  obtain ⟨u, hreach, hawake⟩ := h
  exact ⟨u, .head () trivial hs hreach, hawake⟩

theorem wakes_of_pastBump {s : State} (hwait : s.consumerWaiting = true) (hpast : PastBump s.producer) :
    Wakes g s := by
  have last (u : State) (p : Packet) (hu : u.producer = .wake p) : Wakes g u := by
    have hstep : writerStep g u = some { u with
        consumer := woken u.consumer, producer := .idle, written := u.written ++ [p.bytes] } := by
      simp only [writerStep, hu]
    refine .of_step g hstep ⟨_, .refl, ?_⟩
    rintro ⟨m, n, hb⟩
    exact woken_not_blocked _ m n hb
  cases hp : s.producer with
  | wake p => exact last s p hp
  | loadWaiting p =>
      have hstep : writerStep g s = some { s with producer := .wake p } := by
        simp only [writerStep, hp, hwait, if_true]
      exact .of_step g hstep (last _ p rfl)
  | idle | loadWriteIdx | loadReadIdx | storeLength | storeData | storeWriteIdx | bumpSeq =>
      rw [hp] at hpast; exact hpast.elim

theorem wakes_of_storeWriteIdx {s : State} {p : Packet} {w : UInt64} (hwait : s.consumerWaiting = true)
    (hp : s.producer = .storeWriteIdx p w) : Wakes g s := by
  have hstep : writerStep g s = some { s with
      writeIdx := w + 1
      producerStats := { s.producerStats with writes := s.producerStats.writes + 1 }
      producer := .bumpSeq p } := by
    simp only [writerStep, hp]
  exact .of_step g hstep (.of_step g rfl (wakes_of_pastBump g hwait trivial))

theorem wakes_of_afterStores (p : Packet) (w : UInt64) (k : Nat) {s : State}
    (hwait : s.consumerWaiting = true) (hp : s.producer = afterStores p w k) : Wakes g s := by
  induction hd : p.bytes.length - k generalizing k s with
  | zero =>
      rw [afterStores, if_neg (by omega)] at hp
      exact wakes_of_storeWriteIdx g hwait hp
  | succ d ih =>
      rw [afterStores, if_pos (by omega)] at hp
      have hstep : writerStep g s = some { s with
          mem := poke s.mem (slotAt g w + 2 + k) (p.bytes.getD k 0)
          producer := afterStores p w (k + 1) } := by
        simp only [writerStep, hp]
      exact .of_step g hstep (ih (k + 1) hwait rfl (by omega))

theorem wakes_of_storeLength {s : State} {p : Packet} {w : UInt64} (hwait : s.consumerWaiting = true)
    (hp : s.producer = .storeLength p w) : Wakes g s := by
  have hstep : writerStep g s = some { s with
      mem := storeU16 s.mem (slotAt g w) p.total.toUInt16
      producer := afterStores p w 0 } := by
    simp only [writerStep, hp]
  exact .of_step g hstep (wakes_of_afterStores g p w 0 hwait rfl)

theorem wakes_of_loadReadIdx {s : State} {p : Packet} {w : UInt64} (hwait : s.consumerWaiting = true)
    (hp : s.producer = .loadReadIdx p w) (hfree : ¬ g.slotCount.toUInt64 ≤ w - s.readIdx) : Wakes g s := by
  have hstep : writerStep g s = some { s with producer := .storeLength p w } := by
    simp only [writerStep, hp, hfree, if_false]
  exact .of_step g hstep (wakes_of_storeLength g hwait rfl)

/-- A call with its fetch_add still to do finds the flag up and wakes. -/
theorem wakes_of_willBump {s : State} (hwait : s.consumerWaiting = true) (hb : WillBump g s) : Wakes g s := by
  cases hp : s.producer with
  | loadWriteIdx p =>
      simp only [WillBump, hp] at hb
      have hstep : writerStep g s = some { s with producer := .loadReadIdx p s.writeIdx } := by
        simp only [writerStep, hp]
      exact .of_step g hstep (wakes_of_loadReadIdx g hwait rfl hb)
  | loadReadIdx p w =>
      simp only [WillBump, hp] at hb
      exact wakes_of_loadReadIdx g hwait hp hb
  | storeLength p w => exact wakes_of_storeLength g hwait hp
  | storeData p w k =>
      have hstep : writerStep g s = some { s with
          mem := poke s.mem (slotAt g w + 2 + k) (p.bytes.getD k 0)
          producer := afterStores p w (k + 1) } := by
        simp only [writerStep, hp]
      exact .of_step g hstep (wakes_of_afterStores g p w (k + 1) hwait rfl)
  | storeWriteIdx p w => exact wakes_of_storeWriteIdx g hwait hp
  | bumpSeq p =>
      have hstep : writerStep g s = some { s with futexSeq := s.futexSeq + 1, producer := .loadWaiting p } := by
        simp only [writerStep, hp]
      exact .of_step g hstep (wakes_of_pastBump g hwait trivial)
  | idle | loadWaiting | wake => simp only [WillBump, hp] at hb

theorem timely_snapshots_wake {s : State} (h : Path (step g) (SnapshotInTime g) fresh s) :
    ¬ LostWakeup g s := by
  rintro ⟨⟨m, n, hb⟩, hu, hlost⟩
  have hl := (reaches_wakeInv g h).listening
  rw [hb] at hl
  obtain ⟨hwait, hwake⟩ := hl
  rcases hwake hu with hbump | hpast
  · exact hlost (wakes_of_willBump g hwait hbump)
  · exact hlost (wakes_of_pastBump g hwait hpast)

theorem idle_not_wakes {s : State} (hp : s.producer = .idle) (hs : Asleep s) : ¬ Wakes g s := by
  rintro ⟨u, hreach, hawake⟩
  have hstay : u = s := by
    refine hreach.invariant (fun v => v = s) rfl ?_
    rintro v a w rfl _ hstep
    simp [finish, writerStep, hp] at hstep
  exact hawake (hstay ▸ hs)

/-- What is left of a call that will not increment futex_seq any more runs to
its end without touching the ring or a consumer that is not asleep. -/
theorem finishes {s : State} {m : Int} {n : UInt16} (hc : s.consumer = .loadSeq m n) (hb : ¬ WillBump g s) :
    ∃ t, Reaches (step g) s t ∧ t.producer = .idle ∧ t.consumer = .loadSeq m n ∧ unread t = unread s := by
  have last (u : State) (p : Packet) (hp : u.producer = .wake p) (hu : u.consumer = .loadSeq m n) :
      ∃ t, Reaches (step g) u t ∧ t.producer = .idle ∧ t.consumer = .loadSeq m n ∧ unread t = unread u := by
    have hstep : step g u .producer = some { u with
        consumer := woken u.consumer, producer := .idle, written := u.written ++ [p.bytes] } := by
      simp only [step, writerStep, hp]
    exact ⟨_, .next _ .refl trivial hstep, rfl, by simp only [hu, woken], rfl⟩
  have full (u : State) (p : Packet) (w : UInt64) (hp : u.producer = .loadReadIdx p w)
      (hu : u.consumer = .loadSeq m n) (hfull : g.slotCount.toUInt64 ≤ w - u.readIdx) :
      ∃ t, Reaches (step g) u t ∧ t.producer = .idle ∧ t.consumer = .loadSeq m n ∧ unread t = unread u := by
    have hstep : step g u .producer = some { u with
        producer := .idle
        producerStats := { u.producerStats with fullDrops := u.producerStats.fullDrops + 1 } } := by
      simp only [step, writerStep, hp, hfull, if_true]
    exact ⟨_, .next _ .refl trivial hstep, rfl, hu, rfl⟩
  cases hp : s.producer with
  | idle => exact ⟨s, .refl, hp, hc, rfl⟩
  | wake p => exact last s p hp hc
  | loadWaiting p =>
      cases hw : s.consumerWaiting with
      | false =>
          have hstep : step g s .producer = some { s with producer := .idle, written := s.written ++ [p.bytes] } := by
            simp [step, writerStep, hp, hw]
          exact ⟨_, .next _ .refl trivial hstep, rfl, hc, rfl⟩
      | true =>
          have hstep : step g s .producer = some { s with producer := .wake p } := by
            simp only [step, writerStep, hp, hw, if_true]
          obtain ⟨t, hreach, ht⟩ := last { s with producer := .wake p } p rfl hc
          exact ⟨t, .head .producer trivial hstep hreach, ht⟩
  | loadReadIdx p w =>
      simp only [WillBump, hp, not_not] at hb
      exact full s p w hp hc hb
  | loadWriteIdx p =>
      simp only [WillBump, hp, not_not] at hb
      have hstep : step g s .producer = some { s with producer := .loadReadIdx p s.writeIdx } := by
        simp only [step, writerStep, hp]
      obtain ⟨t, hreach, ht⟩ := full { s with producer := .loadReadIdx p s.writeIdx } p s.writeIdx rfl hc hb
      exact ⟨t, .head .producer trivial hstep hreach, ht⟩
  | storeLength | storeData | storeWriteIdx | bumpSeq => simp only [WillBump, hp, not_true] at hb

theorem late_snapshot_sleeps {s : State} (h : ¬ SnapshotInTime g s .consumer) :
    ∃ t, Reaches (step g) s t ∧ LostWakeup g t := by
  simp only [SnapshotInTime, not_forall, not_or] at h
  obtain ⟨m, n, hc, hu, hb⟩ := h
  obtain ⟨t, hreach, hidle, hct, hut⟩ := finishes g hc hb
  have h1 : step g t .consumer = some { t with consumer := .setWaiting m n t.futexSeq } := by
    simp only [step, readerStep, hct]
  have h2 : run (step g) { t with consumer := .setWaiting m n t.futexSeq } [.consumer, .consumer] =
      some { t with consumerWaiting := true, consumer := .blocked m n } := by
    simp [run, step, readerStep]
  refine ⟨_, (Path.next _ hreach trivial h1).trans (reaches_of_run _ h2), ⟨m, n, rfl⟩, ?_, ?_⟩
  · rw [← hut] at hu
    exact hu
  · exact idle_not_wakes g hidle ⟨m, n, rfl⟩

/-- As long as every snapshot of futex_seq is taken in time, a consumer that
sleeps over an unread packet is going to be woken by the current write call;
from a snapshot taken too late the consumer can fall asleep for good. -/
theorem wakeup_lost_by_late_snapshot :
    (∀ s, Path (step g) (SnapshotInTime g) fresh s → ¬ LostWakeup g s) ∧
      ∀ s, Reaches (step g) fresh s → ¬ SnapshotInTime g s .consumer →
        ∃ t, Reaches (step g) s t ∧ LostWakeup g t :=
  ⟨fun _ h => timely_snapshots_wake g h, fun _ _ h => late_snapshot_sleeps g h⟩

def noted (s : State) : Act → Bool
  | .consumer => match s.consumer with
    | .loadSeq _ _ => unread s == 0
    | _ => true
  | _ => true

theorem noted_inTime (s : State) (a : Act) (h : noted s a = true) : SnapshotInTime g s a := by
  cases a with
  | consumer =>
      intro t n hc
      simp only [noted, hc, beq_iff_eq] at h
      exact .inl h
  | write | read | readWait | producer | timeout => trivial

/-- The packet is published while the consumer sleeps in the futex call. -/
def sleptThrough : List Act :=
  .readWait 3 0 :: List.replicate 5 .consumer ++ .write twoBytes :: List.replicate 6 .producer

/-- The packet is published between the emptiness check and the snapshot. -/
def missed : List Act :=
  .readWait 3 0 :: List.replicate 2 .consumer ++ .write twoBytes :: List.replicate 8 .producer

theorem sleptThrough_runs : (runIf (step twoSlots) noted fresh sleptThrough).isSome = true := by
  decide +kernel

theorem missed_runs : (run (step twoSlots) fresh missed).isSome = true := by decide +kernel

theorem missed_late : ∃ m n, ((run (step twoSlots) fresh missed).get missed_runs).consumer = .loadSeq m n :=
  ⟨0, 3, by rfl⟩

theorem wakeup_lost_by_late_snapshot_two_slots :
    (∃ s, runIf (step twoSlots) noted fresh sleptThrough = some s ∧ unread s = 1 ∧ ¬ LostWakeup twoSlots s) ∧
      ∃ s t, run (step twoSlots) fresh missed = some s ∧ Reaches (step twoSlots) s t ∧ LostWakeup twoSlots t := by
  have hslept := (Option.some_get sleptThrough_runs).symm
  have hmissed := (Option.some_get missed_runs).symm
  refine ⟨⟨_, hslept, by decide +kernel, ?_⟩, ?_⟩
  · exact (wakeup_lost_by_late_snapshot twoSlots).1 _
      (path_of_runIf sleptThrough (noted_inTime twoSlots) hslept)
  · have hlate : ¬ SnapshotInTime twoSlots ((run (step twoSlots) fresh missed).get missed_runs) .consumer := by
      obtain ⟨m, n, hc⟩ := missed_late
      intro htime
      rcases htime m n hc with hu | hb
      · revert hu; decide +kernel
      · have hidle : ((run (step twoSlots) fresh missed).get missed_runs).producer = .idle := by rfl
        simp only [WillBump, hidle] at hb
    obtain ⟨t, hreach, hlost⟩ := (wakeup_lost_by_late_snapshot twoSlots).2 _
      (reaches_of_run missed hmissed) hlate
    exact ⟨_, t, hmissed, hreach, hlost⟩

theorem lostSleep_runs :
    (run (step twoSlots) fresh (missed ++ List.replicate 3 .consumer)).isSome = true := by decide +kernel

/-- One write call runs between the two steps of the consumer: it sleeps with
the packet in the ring, and nobody is left to wake it. -/
theorem consumer_sleeps_over_packet : ∃ s,
    run (step twoSlots) fresh (missed ++ List.replicate 3 .consumer) = some s ∧ LostWakeup twoSlots s := by
  refine ⟨_, (Option.some_get lostSleep_runs).symm, ⟨0, 3, by rfl⟩, by decide +kernel, ?_⟩
  exact idle_not_wakes twoSlots (by rfl) ⟨0, 3, by rfl⟩

end WaybeamVenc.RingWakeup
