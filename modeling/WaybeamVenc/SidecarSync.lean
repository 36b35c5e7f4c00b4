import WaybeamVenc.SidecarLease

namespace WaybeamVenc.SidecarSync

open BigEndian VideoSender SidecarWire ClockOffset TimingProbe SidecarSystem Runs

variable {pClock vClock : Clock} {probeAddr : SockaddrIn} {s t : System} {a : Action}

/-- How far the clock of the encoder is ahead of the probe's at a moment. -/
def theta (pClock vClock : Clock) (moment : Nat) : Int := vClock.reading moment - pClock.reading moment

/-! What the messages of the encoder do to the probe. -/

theorem receive_frameBytes (p : Probe) {m : RtpSidecarFrameExt} (hflags : m.flags = frameFlags m.frame.encInfo) (recvTs : UInt64) :
    receive p (frameBytes m) recvTs =
      { p with cache := DirectMapped.store cacheIndex cacheKey p.cache (entryOf m recvTs) } := by
  have hlen : (frameBytes m).length ≤ maxPkt := by
    rw [length_frameBytes]
    split <;> decide
  have hroom : sizeofFrame ≤ (frameBytes m).length := by
    rw [length_frameBytes]
    split <;> decide
  simp only [receive, List.take_of_length_le hlen, msgType_frameBytes, true_and, if_pos hroom, cacheStoreFrame,
    readFrame_frameBytes hflags]

theorem completed_frameBytes (p : Probe) (m : RtpSidecarFrameExt) (recvTs : UInt64) :
    completed p (frameBytes m) recvTs = [] := by
  have hlen : (frameBytes m).length ≤ maxPkt := by
    rw [length_frameBytes]
    split <;> decide
  simp [completed, List.take_of_length_le hlen, msgType_frameBytes, rtpSidecarMsgFrame, rtpSidecarMsgSyncResp]

theorem length_syncResp {t1 : List UInt8} (h : t1.length = 8) (t2 t3 : UInt64) : (syncResp t1 t2 t3).length = 32 := by
  simp [syncResp, h]

theorem fields_syncResp {t1 : List UInt8} (h : t1.length = 8) (t2 t3 : UInt64) :
    field (syncResp t1 t2 t3) 8 8 = number t1 ∧ UInt64.ofNat (field (syncResp t1 t2 t3) 16 8) = t2 ∧
      UInt64.ofNat (field (syncResp t1 t2 t3) 24 8) = t3 := by
  refine ⟨?_, ?_, ?_⟩
  · simp [syncResp, field, h]
  · simp [syncResp, field_skip, field_front, h]
  · simp [syncResp, field_skip, field_head, h]

theorem entryFrom_frameBytes {m : RtpSidecarFrameExt} (hflags : m.flags = frameFlags m.frame.encInfo) (recvTs : UInt64) :
    entryFrom (frameBytes m) recvTs = [entryOf m recvTs] := by
  have hlen : (frameBytes m).length ≤ maxPkt := by
    rw [length_frameBytes]
    split <;> decide
  have hroom : sizeofFrame ≤ (frameBytes m).length := by
    rw [length_frameBytes]
    split <;> decide
  simp only [entryFrom, List.take_of_length_le hlen, msgType_frameBytes, true_and, if_pos hroom, readFrame_frameBytes hflags]

theorem entryFrom_syncResp {t1 : List UInt8} (h : t1.length = 8) (t2 t3 recvTs : UInt64) :
    entryFrom (syncResp t1 t2 t3) recvTs = [] := by
  have hlen : (syncResp t1 t2 t3).length ≤ maxPkt := by simp [length_syncResp h, maxPkt]
  simp [entryFrom, List.take_of_length_le hlen, msgType_syncResp, rtpSidecarMsgFrame, rtpSidecarMsgSyncResp]

/-- An answer is recorded when it echoes the request that is pending. -/
theorem receive_syncResp (p : Probe) {t1 : List UInt8} (h : t1.length = 8) (t2 t3 recvTs : UInt64) :
    receive p (syncResp t1 t2 t3) recvTs =
      if p.sync.pendingT1 ≠ 0 ∧ UInt64.ofNat (number t1) = p.sync.pendingT1 then
        { p with sync := { syncRecord p.sync (UInt64.ofNat (number t1)) t2 t3 recvTs with pendingT1 := 0 } }
      else p := by
  have hlen : (syncResp t1 t2 t3).length ≤ maxPkt := by simp [length_syncResp h, maxPkt]
  have hroom : sizeofSyncResp ≤ (syncResp t1 t2 t3).length := by simp [length_syncResp h, sizeofSyncResp]
  have hother : ¬(rtpSidecarMsgSyncResp = rtpSidecarMsgFrame ∧ sizeofFrame ≤ (syncResp t1 t2 t3).length) := by
    simp [rtpSidecarMsgSyncResp, rtpSidecarMsgFrame]
  obtain ⟨h1, h2, h3⟩ := fields_syncResp h t2 t3
  simp only [receive, List.take_of_length_le hlen, msgType_syncResp, if_neg hother, true_and, hroom, h1, h2, h3]
  by_cases hpending : p.sync.pendingT1 = 0
  · simp [hpending]
  · simp [hpending]

theorem completed_syncResp (p : Probe) {t1 : List UInt8} (h : t1.length = 8) (t2 t3 recvTs : UInt64) :
    completed p (syncResp t1 t2 t3) recvTs =
      if p.sync.pendingT1 ≠ 0 ∧ UInt64.ofNat (number t1) = p.sync.pendingT1 then
        [exchange (UInt64.ofNat (number t1)) t2 t3 recvTs]
      else [] := by
  have hlen : (syncResp t1 t2 t3).length ≤ maxPkt := by simp [length_syncResp h, maxPkt]
  have hroom : sizeofSyncResp ≤ (syncResp t1 t2 t3).length := by simp [length_syncResp h, sizeofSyncResp]
  obtain ⟨h1, h2, h3⟩ := fields_syncResp h t2 t3
  simp only [completed, List.take_of_length_le hlen, msgType_syncResp, hroom, h1, h2, h3, true_and]

/-! The invariant. -/

/-- What the probe has asked for. -/
def Asked (pClock : Clock) (now : Nat) (d : Datagram) : Prop := d = subscribe ∨ ∃ r ≤ now, d = syncReq (pClock.us r)

/-- What the encoder has answered: a frame that is on record, or the times of a
request, which for the probe is one of its own. -/
def Answered (pClock vClock : Clock) (probeAddr : SockaddrIn) (now : Nat) (events : List Event)
    (x : SockaddrIn × Datagram) : Prop :=
  (∃ time m, .frame time x.1 m ∈ events ∧ m.flags = frameFlags m.frame.encInfo ∧ x.2 = frameBytes m) ∨
    ∃ t1 r2 r3, t1.length = 8 ∧ r2 ≤ r3 ∧ r3 ≤ now ∧ x.2 = syncResp t1 (vClock.us r2) (vClock.us r3) ∧
      (x.1 = probeAddr → ∃ r1 ≤ r2, t1 = bytes 8 (pClock.us r1).toNat)

/-- The readings of an exchange were made in their order, by two clocks. -/
def Stamped (pClock vClock : Clock) (now : Nat) (e : Exchange) : Prop :=
  ∃ r1 r2 r3 r4, r1 ≤ r2 ∧ r2 ≤ r3 ∧ r3 ≤ r4 ∧ r4 ≤ now ∧
    e = ⟨pClock.reading r1, vClock.reading r2, vClock.reading r3, pClock.reading r4⟩

/-- An entry is that of a frame the encoder has sent to the probe. -/
def Genuine (probeAddr : SockaddrIn) (events : List Event) (e : CacheEntry) : Prop :=
  ∃ time m, .frame time probeAddr m ∈ events ∧ e = entryOf m e.metaRecvUs

structure Sound (pClock vClock : Clock) (probeAddr : SockaddrIn) (s : System) : Prop where
  requests : ∀ d ∈ s.requests, Asked pClock s.now d
  sent : ∀ x ∈ s.sent, Answered pClock vClock probeAddr s.now s.events x
  exchanges : ∀ e ∈ s.exchanges, Readings e ∧ Stamped pClock vClock s.now e
  sync : Holds s.probe.sync s.exchanges
  cache : s.probe.cache = s.stored.foldl (DirectMapped.store cacheIndex cacheKey) fun _ => none
  stored : ∀ e ∈ s.stored, Genuine probeAddr s.events e

theorem Asked.later {now now' : Nat} {d : Datagram} (h : Asked pClock now d) (hle : now ≤ now') : Asked pClock now' d :=
  h.imp_right fun ⟨r, hr, heq⟩ => ⟨r, hr.trans hle, heq⟩

theorem Answered.later {now now' : Nat} {events events' : List Event} {x : SockaddrIn × Datagram}
    (h : Answered pClock vClock probeAddr now events x) (hle : now ≤ now') (hsub : events ⊆ events') :
    Answered pClock vClock probeAddr now' events' x := by
  rcases h with ⟨time, m, hmem, hrest⟩ | ⟨t1, r2, r3, hlen, h23, h3, hrest⟩
  · exact .inl ⟨time, m, hsub hmem, hrest⟩
  · exact .inr ⟨t1, r2, r3, hlen, h23, h3.trans hle, hrest⟩

theorem Genuine.later {events events' : List Event} {e : CacheEntry} (h : Genuine probeAddr events e)
    (hsub : events ⊆ events') : Genuine probeAddr events' e := by
  obtain ⟨time, m, hmem, heq⟩ := h
  exact ⟨time, m, hsub hmem, heq⟩

theorem Stamped.later {now now' : Nat} {e : Exchange} (h : Stamped pClock vClock now e) (hle : now ≤ now') :
    Stamped pClock vClock now' e := by
  obtain ⟨r1, r2, r3, r4, h12, h23, h34, h4, heq⟩ := h
  exact ⟨r1, r2, r3, r4, h12, h23, h34, h4.trans hle, heq⟩

theorem exchange_stamped {r1 r2 r3 r4 : Nat} (h12 : r1 ≤ r2) (h23 : r2 ≤ r3) (h34 : r3 ≤ r4)
    (hp : pClock.reading r4 < 2 ^ 60) (hv : vClock.reading r4 < 2 ^ 60) :
    Readings (exchange (pClock.us r1) (vClock.us r2) (vClock.us r3) (pClock.us r4)) ∧
      Stamped pClock vClock r4 (exchange (pClock.us r1) (vClock.us r2) (vClock.us r3) (pClock.us r4)) := by
  have hp1 := pClock.forward ((h12.trans h23).trans h34)
  have hv2 := vClock.forward (h23.trans h34)
  have hv3 := vClock.forward h34
  have h1 := Clock.toNat_us (hp1.trans_lt hp)
  have h2 := Clock.toNat_us (hv2.trans_lt hv)
  have h3 := Clock.toNat_us (hv3.trans_lt hv)
  have h4 := Clock.toNat_us hp
  constructor
  · simp only [Readings, exchange, h1, h2, h3, h4]
    omega
  · exact ⟨r1, r2, r3, r4, h12, h23, h34, le_refl _, by simp only [exchange, h1, h2, h3, h4]⟩

theorem ofNat_number_bytes (x : UInt64) : UInt64.ofNat (number (bytes 8 x.toNat)) = x := by
  simp [number_bytes]

theorem Sound.stamped (h : Sound pClock vClock probeAddr s) {now' : Nat} (hle : s.now ≤ now') :
    ∀ e ∈ s.exchanges, Readings e ∧ Stamped pClock vClock now' e :=
  fun e he => ⟨(h.exchanges e he).1, (h.exchanges e he).2.later hle⟩

/-- A datagram that reaches the probe. -/
theorem Sound.deliver (h : Sound pClock vClock probeAddr s) {datagram : Datagram} (hmem : (probeAddr, datagram) ∈ s.sent)
    {d : Nat} (hrange : InRange pClock vClock (deliverStep pClock s datagram d)) :
    Sound pClock vClock probeAddr (deliverStep pClock s datagram d) := by
  obtain ⟨hp, hv⟩ := hrange
  simp only [deliverStep] at hp hv
  have hlater : s.now ≤ s.now + d := Nat.le_add_right _ _
  have hrequests : ∀ x ∈ s.requests, Asked pClock (s.now + d) x := fun x hx => (h.requests x hx).later hlater
  have hsent : ∀ x ∈ s.sent, Answered pClock vClock probeAddr (s.now + d) s.events x :=
    fun x hx => (h.sent x hx).later hlater (List.Subset.refl _)
  rcases h.sent _ hmem with ⟨time, m, hevent, hflags, heq⟩ | ⟨t1, r2, r3, hlen, h23, h3, heq, hown⟩
  · simp only at heq
    subst heq
    simp only [deliverStep, receive_frameBytes _ hflags, completed_frameBytes, entryFrom_frameBytes hflags, List.append_nil]
    refine ⟨hrequests, hsent, h.stamped hlater, h.sync, ?_, ?_⟩
    · simp only [List.foldl_append, List.foldl_cons, List.foldl_nil, h.cache]
    · intro e he
      rcases List.mem_append.mp he with he | he
      · exact h.stored e he
      · rw [List.mem_singleton.mp he]
        exact ⟨time, m, hevent, rfl⟩
  · simp only at heq
    subst heq
    obtain ⟨r1, h12, rfl⟩ := hown rfl
    simp only [deliverStep, receive_syncResp _ hlen, completed_syncResp _ hlen, entryFrom_syncResp hlen, ofNat_number_bytes,
      List.append_nil]
    split
    · obtain ⟨hreadings, hstamped⟩ := exchange_stamped h12 h23 (h3.trans hlater) hp hv
      refine ⟨hrequests, hsent, ?_, ?_, h.cache, h.stored⟩
      · intro e he
        rcases List.mem_append.mp he with he | he
        · exact h.stamped hlater e he
        · rw [List.mem_singleton.mp he]
          exact ⟨hreadings, hstamped⟩
      · exact (h.sync.record (fun e he => (h.exchanges e he).1) hreadings).pending 0
    · simp only [List.append_nil]
      exact ⟨hrequests, hsent, h.stamped hlater, h.sync, h.cache, h.stored⟩

/-- One turn of the probe's loop. -/
theorem Sound.turn (h : Sound pClock vClock probeAddr s) (d : Nat) :
    Sound pClock vClock probeAddr (turnStep pClock s d) := by
  have hlater : s.now ≤ s.now + d := Nat.le_add_right _ _
  have hfirst : (subscribeTurn s.probe (pClock.us s.now)).1.cache = s.probe.cache ∧
      (subscribeTurn s.probe (pClock.us s.now)).1.sync = s.probe.sync ∧
        ∀ x ∈ (subscribeTurn s.probe (pClock.us s.now)).2, Asked pClock (s.now + d) x := by
    unfold subscribeTurn
    split
    · exact ⟨rfl, rfl, by simp [Asked]⟩
    · exact ⟨rfl, rfl, by simp⟩
  have hsecond : ∀ p : Probe, (syncTurn p (pClock.us s.now) (pClock.us (s.now + d))).1.cache = p.cache ∧
      (∃ t1, (syncTurn p (pClock.us s.now) (pClock.us (s.now + d))).1.sync = { p.sync with pendingT1 := t1 }) ∧
        ∀ x ∈ (syncTurn p (pClock.us s.now) (pClock.us (s.now + d))).2, Asked pClock (s.now + d) x := by
    intro p
    simp only [syncTurn]
    generalize (if p.sync.count < syncBurstCount then syncBurstIntervalUs else syncCoastIntervalUs) = syncIvl
    split
    · refine ⟨rfl, ⟨_, rfl⟩, ?_⟩
      intro x hx
      exact .inr ⟨s.now + d, le_refl _, List.mem_singleton.mp hx⟩
    · exact ⟨rfl, ⟨_, rfl⟩, by simp⟩
  obtain ⟨hcache, hsync, hout⟩ := hfirst
  obtain ⟨hcache', ⟨t1, hsync'⟩, hout'⟩ := hsecond (subscribeTurn s.probe (pClock.us s.now)).1
  constructor
  · intro x hx
    rcases List.mem_append.mp hx with hx | hx
    · exact (h.requests x hx).later hlater
    · exact (List.mem_append.mp hx).elim (hout x) (hout' x)
  · exact fun x hx => (h.sent x hx).later hlater (List.Subset.refl _)
  · exact h.stamped hlater
  · simp only [turnStep, hsync', hsync]
    exact h.sync.pending t1
  · simp only [turnStep, hcache', hcache]
    exact h.cache
  · exact h.stored

/-- What the encoder answers to a datagram, which from the probe is one of its
requests. -/
theorem Sound.poll (h : Sound pClock vClock probeAddr s) {iter : Nat} {src : SockaddrIn} {datagram : Datagram}
    (hsrc : src = probeAddr → datagram ∈ s.requests) (d2 d3 d4 : Nat) :
    Sound pClock vClock probeAddr (pollStep vClock s iter src datagram d2 d3 d4) := by
  have hlater : s.now ≤ s.now + d2 + d3 + d4 := by omega
  have hevents : s.events ⊆ (pollStep vClock s iter src datagram d2 d3 d4).events := by
    simp only [pollStep]
    split <;> simp
  have hold : ∀ x ∈ s.sent, Answered pClock vClock probeAddr (s.now + d2 + d3 + d4)
      (pollStep vClock s iter src datagram d2 d3 d4).events x := fun x hx => (h.sent x hx).later hlater hevents
  constructor
  · exact fun x hx => (h.requests x hx).later hlater
  · intro x hx
    cases hreq : request datagram with
    | nothing =>
        simp only [pollStep, pollOnce, hreq, Option.toList_none, List.map_nil, List.append_nil] at hx
        exact hold x hx
    | subscribe =>
        simp only [pollStep, pollOnce, hreq, Option.toList_none, List.map_nil, List.append_nil] at hx
        exact hold x hx
    | sync t1 =>
        simp only [pollStep, pollOnce, hreq, Option.toList_some, List.map_cons, List.map_nil] at hx
        rcases List.mem_append.mp hx with hx | hx
        · exact hold x hx
        · rw [List.mem_singleton.mp hx]
          refine .inr ⟨t1, s.now + d2, s.now + d2 + d3, length_of_request_sync hreq, by omega, by simp [pollStep], rfl, ?_⟩
          intro hprobe
          rcases h.requests _ (hsrc hprobe) with rfl | ⟨r, hr, rfl⟩
          · rw [request_subscribe] at hreq
            cases hreq
          · rw [request_syncReq] at hreq
            cases hreq
            exact ⟨r, by omega, rfl⟩
  · exact h.stamped hlater
  · exact h.sync
  · exact h.cache
  · exact fun e he => (h.stored e he).later hevents

theorem Sound.frame (h : Sound pClock vClock probeAddr s) (frame : FrameRecord) (d1 d2 : Nat) :
    Sound pClock vClock probeAddr (frameStep vClock s frame d1 d2) := by
  have hlater : s.now ≤ s.now + d1 + d2 := by omega
  have hevents : s.events ⊆ (frameStep vClock s frame d1 d2).events := by simp [frameStep]
  constructor
  · exact fun x hx => (h.requests x hx).later hlater
  · intro x hx
    simp only [frameStep] at hx
    rcases List.mem_append.mp hx with hx | hx
    · exact (h.sent x hx).later hlater hevents
    · obtain ⟨m, hm, rfl⟩ := List.mem_map.mp hx
      have hm' := Option.mem_toList.mp hm
      refine .inl ⟨vClock.reading (s.now + d1), m, ?_, ?_, rfl⟩
      · simp [frameStep, Option.mem_def.mp hm']
      · simp only [sendFrame] at hm'
        split at hm'
        · cases hm'
        · split at hm'
          · cases hm'
            rfl
          · cases hm'
  · exact h.stamped hlater
  · exact h.sync
  · exact h.cache
  · exact fun e he => (h.stored e he).later hevents

theorem Sound.step (h : Sound pClock vClock probeAddr s) (hstep : SidecarSystem.step pClock vClock probeAddr s a = some t) :
    Sound pClock vClock probeAddr t := by
  obtain ⟨hmove, hrange⟩ := step_some hstep
  cases a with
  | tick d =>
      cases hmove
      have hlater : s.now ≤ s.now + d := Nat.le_add_right _ _
      exact ⟨fun x hx => (h.requests x hx).later hlater, fun x hx => (h.sent x hx).later hlater (List.Subset.refl _),
        h.stamped hlater, h.sync, h.cache, h.stored⟩
  | turn d =>
      cases hmove
      exact h.turn d
  | deliver datagram d =>
      obtain ⟨hmem, heq⟩ := Option.ite_none_right_eq_some.mp hmove
      cases heq
      exact h.deliver hmem hrange
  | pollBegin =>
      obtain ⟨-, heq⟩ := Option.ite_none_right_eq_some.mp hmove
      cases heq
      exact ⟨h.requests, h.sent, h.exchanges, h.sync, h.cache, h.stored⟩
  | pollTurn src datagram d2 d3 d4 =>
      simp only [move] at hmove
      split at hmove
      · cases hmove
      · obtain ⟨hguard, heq⟩ := Option.ite_none_right_eq_some.mp hmove
        cases heq
        exact h.poll hguard.2 d2 d3 d4
  | pollEnd =>
      obtain ⟨-, heq⟩ := Option.ite_none_left_eq_some.mp hmove
      cases heq
      exact ⟨h.requests, h.sent, h.exchanges, h.sync, h.cache, h.stored⟩
  | frame frame d1 d2 =>
      obtain ⟨-, heq⟩ := Option.ite_none_right_eq_some.mp hmove
      cases heq
      exact h.frame frame d1 d2

theorem sound_start (fd : Nat) : Sound pClock vClock probeAddr (start fd) where
  requests := by simp [start]
  sent := by simp [start]
  exchanges := by simp [start]
  sync := holds_empty
  cache := rfl
  stored := by simp [start]

/-- What emit_frame prints as the latency. -/
def latencyEst (recvLastUs frameReadyUs : UInt64) (bestOffsetUs : Int64) : Int64 :=
  recvLastUs.toInt64 - (frameReadyUs.toInt64 - bestOffsetUs)

theorem sound_of_reaches {fd : Nat} (h : Reaches (SidecarSystem.step pClock vClock probeAddr) (start fd) s) :
    Sound pClock vClock probeAddr s :=
  h.invariant (Sound pClock vClock probeAddr) (sound_start fd) fun _ _ _ hinv _ hstep => hinv.step hstep

/-- Since the first reading of any exchange in the window, the clocks are as far
apart as at a given moment, up to a drift. -/
def Steady (pClock vClock : Clock) (drift : Nat) (s : System) (moment : Nat) : Prop :=
  ∀ e ∈ window s.exchanges, ∀ m ≤ s.now, e.t1 ≤ pClock.reading m →
    |theta pClock vClock m - theta pClock vClock moment| ≤ drift

theorem Stamped.causal {now drift : Nat} {offset : Int} {e : Exchange} (h : Stamped pClock vClock now e)
    (hsteady : ∀ m ≤ now, e.t1 ≤ pClock.reading m → |theta pClock vClock m - offset| ≤ drift) : e.Causal offset drift := by
  obtain ⟨r1, r2, r3, r4, h12, h23, h34, h4, rfl⟩ := h
  have h14 := (h12.trans h23).trans h34
  have hp := pClock.forward h14
  have hrequest := vClock.forward h12
  have hanswered := vClock.forward h23
  have hreply := vClock.forward h34
  have hfirst := abs_le.mp (hsteady r1 (h14.trans h4) (le_refl _))
  have hlast := abs_le.mp (hsteady r4 h4 (by simpa using hp))
  simp only [theta] at hfirst hlast
  constructor <;> simp only <;> omega

/-- The estimate is that of one of the last eight exchanges, and is off by at
most half the round trip of each of them and the drift. -/
theorem best_offset_error {fd : Nat} (h : Reaches (SidecarSystem.step pClock vClock probeAddr) (start fd) s)
    (hvalid : s.probe.sync.valid = true) {drift moment : Nat} (hsteady : Steady pClock vClock drift s moment) :
    ∃ e ∈ window s.exchanges, s.probe.sync.bestOffsetUs.toInt = e.offset ∧ Readings e ∧
      ∀ e' ∈ window s.exchanges, 2 * |e.offset - theta pClock vClock moment| ≤ e'.roundTrip + 1 + 2 * drift := by
  have hsound := sound_of_reaches h
  have hne : s.exchanges ≠ [] := by
    intro hnil
    rw [hsound.sync.valid, hnil] at hvalid
    cases hvalid
  have hcausal : ∀ e ∈ window s.exchanges, e.Causal (theta pClock vClock moment) drift :=
    fun e he => (hsound.exchanges e (List.mem_of_mem_drop he)).2.causal (hsteady e he)
  obtain ⟨e, hquick, hbest⟩ := hsound.sync.best hne
  have hreadings := (hsound.exchanges e (List.mem_of_mem_drop hquick.mem)).1
  refine ⟨e, hquick.mem, ?_, hreadings, fun e' he' => hquick.offset_error hcausal he'⟩
  rw [hbest]
  exact toInt_offset hreadings

theorem toInt_latencyEst {received sent : Nat} {best : Int64} (hp : pClock.reading received < 2 ^ 60)
    (hv : vClock.reading sent < 2 ^ 60) (hlow : -2 ^ 61 ≤ best.toInt) (hhigh : best.toInt ≤ 2 ^ 61) :
    (latencyEst (pClock.us received) (vClock.us sent) best).toInt =
      (pClock.reading received - pClock.reading sent) + (best.toInt - theta pClock vClock sent) := by
  have heq : latencyEst (pClock.us received) (vClock.us sent) best =
      Int64.ofInt (pClock.reading received - (vClock.reading sent - best.toInt)) := by
    rw [latencyEst, toInt64_eq, toInt64_eq, Clock.toNat_us hp, Clock.toNat_us hv, Int64.ofInt_sub, Int64.ofInt_sub,
      Int64.ofInt_toInt]
  rw [heq, Int64.toInt_ofInt_of_le (by omega) (by omega)]
  simp only [theta]
  omega

/-- In every run, the latency that is printed for a frame differs from the true
one by at most half the round trip of each exchange in the window, and by how far
the clocks have drifted apart since. -/
theorem latency_error {fd : Nat} (h : Reaches (SidecarSystem.step pClock vClock probeAddr) (start fd) s)
    (hvalid : s.probe.sync.valid = true) {sent received drift : Nat} (hp : pClock.reading received < 2 ^ 60)
    (hv : vClock.reading sent < 2 ^ 60) (hsteady : Steady pClock vClock drift s sent) :
    window s.exchanges ≠ [] ∧ ∀ e ∈ window s.exchanges,
      2 * |(latencyEst (pClock.us received) (vClock.us sent) s.probe.sync.bestOffsetUs).toInt -
          (pClock.reading received - pClock.reading sent)| ≤ e.roundTrip + 1 + 2 * drift := by
  obtain ⟨e, hmem, hbest, hreadings, herror⟩ := best_offset_error h hvalid hsteady
  have hbounds : -2 ^ 61 ≤ e.offset ∧ e.offset ≤ 2 ^ 61 := by
    obtain ⟨h1, h2, h3, h4⟩ := hreadings
    obtain ⟨hlow, hhigh⟩ := Exchange.two_mul_tdiv_two ((e.t2 - e.t1) + (e.t3 - e.t4))
    unfold Exchange.offset
    omega
  refine ⟨List.ne_nil_of_mem hmem, fun e' he' => ?_⟩
  rw [toInt_latencyEst hp hv (hbest ▸ hbounds.1) (hbest ▸ hbounds.2), hbest, add_sub_cancel_left]
  exact herror e' he'

/-- A clock that gains a microsecond on the moments every twelve seconds. -/
def gaining : Clock :=
  ⟨fun moment => 50 + moment + moment / 12000100,
    fun _ _ h => Nat.add_le_add (Nat.add_le_add_left h 50) (Nat.div_le_div_right h)⟩

def sampleFrame : FrameRecord := ⟨7, 90, 0, 3, 0, 5, some ⟨900, 2, 30, 8, 0, 1, 0, 4⟩⟩

/-- A probe that subscribes, asks for the time once, and then hears of a frame. -/
def oneExchange : List Action :=
  [.tick 12000000, .turn 5, .pollBegin, .pollTurn ⟨1, 8⟩ subscribe 40 0 0, .pollTurn ⟨1, 8⟩ (syncReq 12000005) 10 20 1,
    .pollEnd, .frame sampleFrame 6 1, .deliver (syncResp (bytes 8 12000005) 12000105 12000125) 100,
    .deliver (frameBytes ⟨3, 0, sampleFrame, 12000133⟩) 20]

/-- The encoder's clock gains its microsecond while the answer is on the way. -/
theorem latency_error_once :
    ∃ s, run (SidecarSystem.step (.since 0) gaining ⟨1, 8⟩) (start 3) oneExchange = some s ∧
      window s.exchanges = [⟨12000005, 12000105, 12000125, 12000183⟩] ∧
        2 * |(latencyEst 12000203 12000133 s.probe.sync.bestOffsetUs).toInt - (12000203 - 12000083)| ≤ 161 := by
  have hrun : ((run (SidecarSystem.step (.since 0) gaining ⟨1, 8⟩) (start 3) oneExchange).map
      fun s => (s.now, s.probe.sync.valid, window s.exchanges)) =
        some (12000203, true, [⟨12000005, 12000105, 12000125, 12000183⟩]) := by
    decide
  obtain ⟨s, hs, heq⟩ := Option.map_eq_some_iff.mp hrun
  simp only [Prod.mk.injEq] at heq
  obtain ⟨hnow, hvalid, hwindow⟩ := heq
  have hsteady : Steady (.since 0) gaining 1 s 12000083 := by
    intro e _ m hm _
    rw [hnow] at hm
    simp only [theta, gaining, Clock.since, abs_le]
    omega
  have herror := (@latency_error (.since 0) gaining _ s 3 (reaches_of_run _ hs) hvalid 12000083 12000203 1 (by decide)
    (by decide) hsteady).2
  rw [hwindow] at herror
  exact ⟨s, hs, hwindow, by simpa [Exchange.roundTrip, Clock.us, Clock.since, gaining] using herror⟩

/-- What the probe finds for a frame is the last metadata that came to its place,
if that is for this frame, and it is what the encoder sent to it. -/
theorem lookup_genuine {fd : Nat} (h : Reaches (SidecarSystem.step pClock vClock probeAddr) (start fd) s) (ssrc rtpTs : UInt32) :
    cacheLookup s.probe.cache ssrc rtpTs =
        ((s.stored.filter fun e => cacheIndex (cacheKey e) = cacheIndex (ssrc, rtpTs)).getLast?).filter
          (fun e => cacheKey e = (ssrc, rtpTs)) ∧
      ∀ e ∈ cacheLookup s.probe.cache ssrc rtpTs, ∃ time m, .frame time probeAddr m ∈ s.events ∧
        m.frame.ssrc = ssrc ∧ m.frame.rtpTs = rtpTs ∧ e = entryOf m e.metaRecvUs := by
  have hsound := sound_of_reaches h
  have hlookup : cacheLookup s.probe.cache ssrc rtpTs =
      ((s.stored.filter fun e => cacheIndex (cacheKey e) = cacheIndex (ssrc, rtpTs)).getLast?).filter
        (fun e => cacheKey e = (ssrc, rtpTs)) := by
    rw [cacheLookup, hsound.cache]
    exact DirectMapped.lookup_foldl_store cacheIndex cacheKey s.stored (ssrc, rtpTs)
  refine ⟨hlookup, ?_⟩
  intro e he
  have hkey : cacheKey e = (ssrc, rtpTs) := DirectMapped.key_of_lookup cacheIndex cacheKey he
  rw [hlookup] at he
  have hlast := (Option.filter_eq_some_iff.mp he).1
  have hmem := (List.mem_filter.mp (List.mem_of_getLast? hlast)).1
  obtain ⟨time, m, hevent, heq⟩ := hsound.stored e hmem
  rw [heq] at hkey
  obtain ⟨hssrc, hts⟩ := Prod.mk.injEq .. ▸ hkey
  exact ⟨time, m, hevent, hssrc, hts, heq⟩

theorem lookup_genuine_once :
    ∃ s, run (SidecarSystem.step (.since 0) gaining ⟨1, 8⟩) (start 3) oneExchange = some s ∧
      (cacheLookup s.probe.cache 7 90).isSome ∧
        ∀ e ∈ cacheLookup s.probe.cache 7 90, ∃ time m, .frame time ⟨1, 8⟩ m ∈ s.events ∧
          m.frame.ssrc = 7 ∧ m.frame.rtpTs = 90 ∧ e = entryOf m e.metaRecvUs := by
  have hrun : ((run (SidecarSystem.step (.since 0) gaining ⟨1, 8⟩) (start 3) oneExchange).map
      fun s => (cacheLookup s.probe.cache 7 90).isSome) = some true := by
    decide
  obtain ⟨s, hs, hfound⟩ := Option.map_eq_some_iff.mp hrun
  exact ⟨s, hs, hfound, (lookup_genuine (reaches_of_run _ hs) 7 90).2⟩

end WaybeamVenc.SidecarSync
