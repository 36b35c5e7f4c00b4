import WaybeamVenc.SidecarSystem

namespace WaybeamVenc.SidecarLease

open VideoSender SidecarWire SidecarSystem Runs

variable {pClock vClock : Clock} {probeAddr : SockaddrIn} {s t : System} {a : Action}

/-! Events stand with the newest first. -/

def lastHeard : List Event → Option (Nat × SockaddrIn)
  | [] => none
  | .heard time src :: _ => some (time, src)
  | .frame _ _ _ :: earlier => lastHeard earlier
  | .silent _ :: earlier => lastHeard earlier

def framesIn : List Event → Nat
  | [] => 0
  | .heard _ _ :: earlier => framesIn earlier
  | .frame _ _ _ :: earlier => framesIn earlier + 1
  | .silent _ :: earlier => framesIn earlier

/-- Who asked last, while that is not five seconds ago. -/
def leaseholder (earlier : List Event) (time : Nat) : Option SockaddrIn :=
  match lastHeard earlier with
  | none => none
  | some (heard, src) => if time < heard + rtpSidecarSubTtlUs.toNat then some src else none

/-- A frame goes to the leaseholder, with the next number; there is none only
where no one holds the lease. -/
def Right (earlier : List Event) : Event → Prop
  | .heard _ _ => True
  | .frame time dest m => leaseholder earlier time = some dest ∧ m.frameId = UInt64.ofNat (framesIn earlier)
  | .silent time => leaseholder earlier time = none

def AllRight : List Event → Prop
  | [] => True
  | e :: earlier => Right earlier e ∧ AllRight earlier

theorem AllRight.at {later earlier : List Event} {e : Event} (h : AllRight (later ++ e :: earlier)) : Right earlier e := by
  induction later with
  | nil => exact h.1
  | cons _ later ih => exact ih h.2

theorem ttl_toNat : rtpSidecarSubTtlUs.toNat = 5000000 := rfl

/-- What the sender remembers of the last request. -/
def Remembers (l : Listener) (nowUs : Nat) : Option (Nat × SockaddrIn) → Prop
  | none => l.sender.subExpiresUs = 0
  | some (heard, src) =>
    l.sender.subExpiresUs = UInt64.ofNat heard + rtpSidecarSubTtlUs ∧ l.subscriber = src ∧ heard ≤ nowUs

structure Leased (vClock : Clock) (s : System) : Prop where
  fd : 0 ≤ s.venc.sender.fd
  last : Remembers s.venc (vClock.reading s.now) (lastHeard s.events)
  frameId : s.venc.sender.frameId = UInt64.ofNat (framesIn s.events)
  right : AllRight s.events

theorem Remembers.later {l : Listener} {now now' : Nat} {heard : Option (Nat × SockaddrIn)}
    (h : Remembers l (vClock.reading now) heard) (hle : now ≤ now') : Remembers l (vClock.reading now') heard := by
  cases heard with
  | none => exact h
  | some heard => exact ⟨h.1, h.2.1, h.2.2.trans (vClock.forward hle)⟩

theorem remembers_refresh (l : Listener) (moment : Nat) (src : SockaddrIn) :
    Remembers (subRefresh l (vClock.us moment) src) (vClock.reading moment) (some (vClock.reading moment, src)) := by
  simp [Remembers, subRefresh, Clock.us]

/-- The sender takes its subscription for active exactly when there is a
leaseholder, and then it is the subscriber. -/
theorem Remembers.leaseholder_eq {l : Listener} {now moment : Nat} {events : List Event}
    (h : Remembers l (vClock.reading now) (lastHeard events)) (hle : now ≤ moment) (hrange : vClock.reading moment < 2 ^ 60) :
    leaseholder events (vClock.reading moment) = if subActive l.sender (vClock.us moment) then some l.subscriber else none := by
  unfold leaseholder
  cases hlast : lastHeard events with
  | none =>
      rw [hlast] at h
      simp [subActive, show l.sender.subExpiresUs = 0 from h]
  | some heard =>
      rw [hlast] at h
      obtain ⟨hexpires, hsub, hheard⟩ := h
      have hearlier : heard.1 < 2 ^ 60 := (hheard.trans (vClock.forward hle)).trans_lt hrange
      have hsum : (UInt64.ofNat heard.1 + rtpSidecarSubTtlUs).toNat = heard.1 + 5000000 := by
        rw [UInt64.toNat_add, UInt64.toNat_ofNat', ttl_toNat]
        omega
      have hne : UInt64.ofNat heard.1 + rtpSidecarSubTtlUs ≠ 0 := by
        intro hzero
        rw [hzero] at hsum
        simp at hsum
      have hlt : (vClock.us moment < UInt64.ofNat heard.1 + rtpSidecarSubTtlUs) ↔
          vClock.reading moment < heard.1 + rtpSidecarSubTtlUs.toNat := by
        rw [UInt64.lt_iff_toNat_lt, hsum, Clock.toNat_us hrange, ttl_toNat]
      simp [subActive, hexpires, hne, hlt, hsub]

/-- A request that was heard, whatever else changes. -/
theorem Leased.renewed (h : Leased vClock s) {moment : Nat} {src : SockaddrIn}
    (hnow : t.now = moment) (hvenc : t.venc = subRefresh s.venc (vClock.us moment) src)
    (hevents : t.events = .heard (vClock.reading moment) src :: s.events) : Leased vClock t := by
  subst hnow
  constructor
  · simpa [hvenc, subRefresh] using h.fd
  · simpa [hvenc, hevents, lastHeard] using remembers_refresh s.venc t.now src
  · simpa [hvenc, hevents, framesIn, subRefresh] using h.frameId
  · simpa [hevents, AllRight, Right] using h.right

theorem Leased.poll {iter : Nat} (h : Leased vClock s) (src : SockaddrIn) (datagram : Datagram) (d2 d3 d4 : Nat) :
    Leased vClock (pollStep vClock s iter src datagram d2 d3 d4) := by
  have hlater : s.now ≤ s.now + d2 + d3 + d4 := by omega
  cases hreq : request datagram with
  | nothing =>
      simp only [pollStep, pollOnce, hreq, if_true]
      exact ⟨h.fd, h.last.later hlater, h.frameId, h.right⟩
  | subscribe =>
      have hvenc : (pollStep vClock s iter src datagram d2 d3 d4).venc =
          subRefresh s.venc (vClock.us (s.now + d2 + d3 + d4)) src := by simp [pollStep, pollOnce, hreq]
      exact h.renewed rfl hvenc (by simp [pollStep, hreq])
  | sync t1 =>
      have hvenc : (pollStep vClock s iter src datagram d2 d3 d4).venc =
          subRefresh s.venc (vClock.us (s.now + d2 + d3 + d4)) src := by simp [pollStep, pollOnce, hreq]
      exact h.renewed rfl hvenc (by simp [pollStep, hreq])

theorem Leased.frame (h : Leased vClock s) (frame : FrameRecord) (d1 d2 : Nat)
    (hrange : vClock.reading (s.now + d1) < 2 ^ 60) : Leased vClock (frameStep vClock s frame d1 d2) := by
  obtain ⟨hfd, hlast, hid, hright⟩ := h
  have hholder := hlast.leaseholder_eq (Nat.le_add_right s.now d1) hrange
  have hlater : s.now ≤ s.now + d1 + d2 := by omega
  cases hactive : subActive s.venc.sender (vClock.us (s.now + d1)) with
  | false =>
      simp only [frameStep, sendFrame, if_neg (not_lt.mpr hfd), hactive]
      rw [hactive] at hholder
      exact ⟨hfd, hlast.later hlater, hid, hholder, hright⟩
  | true =>
      simp only [frameStep, sendFrame, if_neg (not_lt.mpr hfd), hactive]
      rw [hactive] at hholder
      refine ⟨hfd, hlast.later hlater, ?_, ⟨hholder, hid⟩, hright⟩
      simp [framesIn, hid]

theorem Leased.step (h : Leased vClock s) (hstep : step pClock vClock probeAddr s a = some t) : Leased vClock t := by
  obtain ⟨hmove, hrange⟩ := step_some hstep
  cases a with
  | tick d =>
      cases hmove
      exact ⟨h.fd, h.last.later (Nat.le_add_right _ _), h.frameId, h.right⟩
  | turn d =>
      cases hmove
      exact ⟨h.fd, h.last.later (Nat.le_add_right _ _), h.frameId, h.right⟩
  | deliver datagram d =>
      obtain ⟨-, heq⟩ := Option.ite_none_right_eq_some.mp hmove
      cases heq
      exact ⟨h.fd, h.last.later (Nat.le_add_right _ _), h.frameId, h.right⟩
  | pollBegin =>
      obtain ⟨-, heq⟩ := Option.ite_none_right_eq_some.mp hmove
      cases heq
      exact ⟨h.fd, h.last, h.frameId, h.right⟩
  | pollTurn src datagram d2 d3 d4 =>
      simp only [move] at hmove
      split at hmove
      · cases hmove
      · obtain ⟨-, heq⟩ := Option.ite_none_right_eq_some.mp hmove
        cases heq
        exact h.poll src datagram d2 d3 d4
  | pollEnd =>
      obtain ⟨-, heq⟩ := Option.ite_none_left_eq_some.mp hmove
      cases heq
      exact ⟨h.fd, h.last, h.frameId, h.right⟩
  | frame frame d1 d2 =>
      obtain ⟨-, heq⟩ := Option.ite_none_right_eq_some.mp hmove
      cases heq
      refine h.frame frame d1 d2 ?_
      have hlast := hrange.2
      simp only [frameStep] at hlast
      exact (vClock.forward (Nat.le_add_right _ d2)).trans_lt hlast

theorem leased_start (fd : Nat) : Leased vClock (start fd) := ⟨Int.natCast_nonneg fd, rfl, rfl, trivial⟩

/-- Metadata goes to whoever asked last and for five seconds after that, frame
by frame and numbered in turn, whatever else arrives in between. -/
theorem metadata_follows_lease {fd : Nat} (h : Reaches (SidecarSystem.step pClock vClock probeAddr) (start fd) s)
    {later earlier : List Event} {e : Event} (hevents : s.events = later ++ e :: earlier) : Right earlier e := by
  have hleased := h.invariant (Leased vClock) (leased_start fd) fun _ _ _ hinv _ hstep => hinv.step hstep
  have hright := hleased.right
  rw [hevents] at hright
  exact hright.at

/-- A probe at one address, and a host at another one that takes the
subscription over. -/
theorem metadata_follows_lease_taken :
    Right [.heard 3000090 ⟨2, 9⟩, .frame 3000071 ⟨1, 8⟩ ⟨0, 0, ⟨7, 90, 0, 1, 0, 5, none⟩, 3000072⟩, .heard 3000065 ⟨1, 8⟩]
      (.frame 3000095 ⟨2, 9⟩ ⟨0, 1, ⟨7, 180, 1, 1, 0, 5, none⟩, 3000097⟩) := by
  have hrun : ((run (SidecarSystem.step (.since 0) (.since 50) ⟨1, 8⟩) (start 3)
      [.tick 3000000, .turn 5, .pollBegin, .pollTurn ⟨1, 8⟩ subscribe 5 0 5, .pollEnd, .frame ⟨7, 90, 0, 1, 0, 5, none⟩ 6 1,
        .pollBegin, .pollTurn ⟨2, 9⟩ subscribe 8 10 0, .pollEnd, .frame ⟨7, 180, 1, 1, 0, 5, none⟩ 5 2]).map (·.events)) =
      some [.frame 3000095 ⟨2, 9⟩ ⟨0, 1, ⟨7, 180, 1, 1, 0, 5, none⟩, 3000097⟩, .heard 3000090 ⟨2, 9⟩,
        .frame 3000071 ⟨1, 8⟩ ⟨0, 0, ⟨7, 90, 0, 1, 0, 5, none⟩, 3000072⟩, .heard 3000065 ⟨1, 8⟩] := by
    decide
  obtain ⟨s, hs, hevents⟩ := Option.map_eq_some_iff.mp hrun
  exact @metadata_follows_lease _ _ _ s 3 (reaches_of_run _ hs) [] _ _ hevents

end WaybeamVenc.SidecarLease
