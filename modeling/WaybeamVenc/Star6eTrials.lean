import WaybeamVenc.FrameUnits
import WaybeamVenc.MarukoTrials

namespace WaybeamVenc.Star6eTrials

open H26x RtpPacketizer HevcRtp HevcRoundTrip FrameUnits PacketTrials MarukoTrials

variable {σ : Type}

def onePacket (payload : List UInt8) (marker : Bool) : List Packet :=
  if payload.length = 0 then [] else [⟨payload, [], marker⟩]

def flushPackets (ap : HevcApBuilder) (marker : Bool) : List Packet :=
  if ap.nalCount = 0 then []
  else if ap.nalCount = 1 then onePacket (firstQueued ap.payload) marker
  else onePacket (apHeader ap ++ ap.payload) marker

def flushed (ap : HevcApBuilder) : HevcApBuilder := if ap.nalCount = 0 then ap else hevcApReset

/-- A unit that joins the queue, which goes out at once when it is the last. -/
def queueGroups (ap : HevcApBuilder) (data : List UInt8) (isLast : Bool) : List (List Packet) × HevcApBuilder :=
  if isLast then ([flushPackets (hevcApAdd ap data) true], flushed (hevcApAdd ap data)) else ([], hevcApAdd ap data)

def aloneGroups (ap : HevcApBuilder) (data : List UInt8) (isLast : Bool) (maxPayload : Nat) :
    List (List Packet) × HevcApBuilder :=
  ([flushPackets ap false, hevcNalPackets data isLast maxPayload], flushed ap)

/-- The packets that send_or_queue_nal_rtp_hevc tries, and the builder it
leaves: both are settled before the writer is asked. -/
def nalGroups (maxPayload : Nat) (ap : HevcApBuilder) (data : List UInt8) (isLast : Bool) :
    List (List Packet) × HevcApBuilder :=
  if maxPayload < data.length ∨ 65535 < data.length then aloneGroups ap data isLast maxPayload
  else if hevcApCanAdd ap data.length maxPayload then queueGroups ap data isLast
  else if hevcApCanAdd (flushed ap) data.length maxPayload then
    (flushPackets ap false :: (queueGroups (flushed ap) data isLast).1, (queueGroups (flushed ap) data isLast).2)
  else aloneGroups ap data isLast maxPayload

/-- The same for units one after the other, each with whether it is the last. -/
def allGroups (maxPayload : Nat) : HevcApBuilder → List (List UInt8 × Bool) → List (List Packet) × HevcApBuilder
  | ap, [] => ([], ap)
  | ap, h :: hs =>
    let r := nalGroups maxPayload ap h.1 h.2
    (r.1 ++ (allGroups maxPayload r.2 hs).1, (allGroups maxPayload r.2 hs).2)

/-- The units of a frame and the sets before them, in the order in which they are
handed to the packetizer. -/
def handed (codec : PayloadType) : Option H26xParamSets → List NalUnit → List (List UInt8 × Bool)
  | _, [] => []
  | params, u :: us =>
    (setsBefore codec params u).map (·, false) ++ [(u.nal, u.last)] ++ handed codec (updated codec params u) us

theorem allGroups_append (maxPayload : Nat) (ap : HevcApBuilder) (hs hs' : List (List UInt8 × Bool)) :
    allGroups maxPayload ap (hs ++ hs') =
      ((allGroups maxPayload ap hs).1 ++ (allGroups maxPayload (allGroups maxPayload ap hs).2 hs').1,
        (allGroups maxPayload (allGroups maxPayload ap hs).2 hs').2) := by
  induction hs generalizing ap with
  | nil => rfl
  | cons h hs ih =>
      rw [List.cons_append, allGroups, ih, allGroups]
      simp only [List.append_assoc]

/-! The packets of the code. -/

def handOver (writer : RtpPacketizerWriteFn σ) (maxPayload : Nat) (x : Tx σ) (h : List UInt8 × Bool) : Tx σ :=
  (sendOrQueueNalRtpHevc writer x h.1 h.2 maxPayload).2

theorem sendRefs_eq (writer : RtpPacketizerWriteFn σ) (maxPayload : Nat) (refs : List (List UInt8)) (x : Tx σ) :
    (sendRefs writer maxPayload refs x).2 = (refs.map (·, false)).foldl (handOver writer maxPayload) x := by
  induction refs generalizing x with
  | nil => rfl
  | cons ref refs ih => exact ih _

theorem sendUnit_tx (writer : RtpPacketizerWriteFn σ) (maxPayload : Nat) (f : Frame σ) (u : NalUnit) :
    (sendUnit writer maxPayload f u).tx =
      ((setsBefore .h265 f.params u).map (·, false) ++ [(u.nal, u.last)]).foldl (handOver writer maxPayload) f.tx := by
  obtain ⟨totalBytes, x, params⟩ := f
  rw [List.foldl_append]
  cases params with
  | none => rfl
  | some sets =>
      change (sendOrQueueNalRtpHevc writer (sendRefs writer maxPayload _ x).2 u.nal u.last maxPayload).2 = _
      rw [sendRefs_eq]
      rfl

theorem star6eUnits_tx (writer : RtpPacketizerWriteFn σ) (maxPayload : Nat) (us : List NalUnit) (f : Frame σ) :
    (us.foldl (sendUnit writer maxPayload) f).tx =
      (handed .h265 f.params us).foldl (handOver writer maxPayload) f.tx := by
  induction us generalizing f with
  | nil => rfl
  | cons u us ih =>
      rw [List.foldl_cons, ih, handed, List.foldl_append, sendUnit_tx]
      rfl

theorem star6eUnits_params (writer : RtpPacketizerWriteFn σ) (maxPayload : Nat) (us : List NalUnit) (f : Frame σ) :
    (us.foldl (sendUnit writer maxPayload) f).params = cacheAfterUnits .h265 f.params us := by
  induction us generalizing f with
  | nil => rfl
  | cons u us ih => exact ih _

/-- The packets tried on the way from one state to the next, and the builder
there. -/
def Plays (x x' : Tx (σ × Log)) (r : List (List Packet) × HevcApBuilder) : Prop :=
  Tries x.sender x'.sender r.1 ∧ x'.ap = r.2

variable (writer : RtpPacketizerWriteFn σ)

theorem onePacket_tries (t : Sender (σ × Log)) (payload : List UInt8) (marker : Bool) :
    Tries t (sendRtpPacket (logged writer) t payload marker).2 [onePacket payload marker] := by
  rw [sendRtpPacket, onePacket]
  by_cases hnil : payload.length = 0
  · rw [if_pos hnil, if_pos hnil]
    exact ⟨[], (List.append_nil _).symm, .one .done⟩
  · rw [if_neg hnil, if_neg hnil]
    exact sendPacket_tries writer t marker fun h => hnil (congrArg List.length h)

theorem flush_plays (x : Tx (σ × Log)) (marker : Bool) :
    Plays x (hevcApFlush (logged writer) x marker).2 ([flushPackets x.ap marker], flushed x.ap) := by
  rw [hevcApFlush, flushPackets, flushed]
  by_cases hzero : x.ap.nalCount = 0
  · rw [if_pos hzero, if_pos hzero, if_pos hzero]
    exact ⟨⟨[], (List.append_nil _).symm, .one .done⟩, rfl⟩
  · rw [if_neg hzero, if_neg hzero, if_neg hzero]
    by_cases hone : x.ap.nalCount = 1
    · rw [if_pos hone, if_pos hone]
      have htries := onePacket_tries writer x.sender (firstQueued x.ap.payload) marker
      dsimp only
      generalize sendRtpPacket (logged writer) x.sender _ marker = r at htries ⊢
      obtain ⟨ok, t⟩ := r
      cases ok <;> exact ⟨htries, rfl⟩
    · rw [if_neg hone, if_neg hone]
      have htries := onePacket_tries writer x.sender (apHeader x.ap ++ x.ap.payload) marker
      dsimp only
      generalize sendRtpPacket (logged writer) x.sender _ marker = r at htries ⊢
      obtain ⟨ok, t⟩ := r
      cases ok <;> exact ⟨htries, rfl⟩

theorem sendNal_plays (x : Tx (σ × Log)) {data : List UInt8} (isLast : Bool) (maxPayload : Nat)
    (hne : data.length ≠ 0) : Plays x (sendNalRtpHevc (logged writer) x data isLast maxPayload).2
      ([hevcNalPackets data isLast maxPayload], x.ap) := by
  rw [sendNalRtpHevc, if_neg hne]
  exact ⟨sendHevcNal_tries writer x.sender data isLast maxPayload, rfl⟩

theorem queue_plays (x : Tx (σ × Log)) (data : List UInt8) (isLast : Bool) (sent : Nat) :
    Plays x (if isLast then
        (sent + (hevcApFlush (logged writer) { x with ap := hevcApAdd x.ap data } true).1,
          (hevcApFlush (logged writer) { x with ap := hevcApAdd x.ap data } true).2)
      else (sent, { x with ap := hevcApAdd x.ap data })).2 (queueGroups x.ap data isLast) := by
  cases isLast with
  | false => exact ⟨Tries.refl x.sender, rfl⟩
  | true => exact flush_plays writer { x with ap := hevcApAdd x.ap data } true

theorem alone_plays (x : Tx (σ × Log)) {data : List UInt8} (isLast : Bool) (maxPayload : Nat) (hne : data.length ≠ 0) :
    Plays x (sendNalRtpHevc (logged writer) (hevcApFlush (logged writer) x false).2 data isLast maxPayload).2
      (aloneGroups x.ap data isLast maxPayload) := by
  obtain ⟨hflush, hap⟩ := flush_plays writer x false
  obtain ⟨hsend, hap'⟩ := sendNal_plays writer (hevcApFlush (logged writer) x false).2 isLast maxPayload hne
  exact ⟨hflush.trans hsend, hap'.trans hap⟩

theorem handOver_plays (maxPayload : Nat) (x : Tx (σ × Log)) (h : List UInt8 × Bool) (hne : h.1 ≠ []) :
    Plays x (handOver (logged writer) maxPayload x h) (nalGroups maxPayload x.ap h.1 h.2) := by
  obtain ⟨data, isLast⟩ := h
  have hlen : data.length ≠ 0 := fun h => hne (List.eq_nil_of_length_eq_zero h)
  rw [handOver, sendOrQueueNalRtpHevc, if_neg hlen, nalGroups]
  generalize hy : ({ x with stats := { x.stats with totalNals := x.stats.totalNals + 1 } } : Tx (σ × Log)) = y
  have hsame : ∀ z r, Plays y z r → Plays x z r := by
    intro z r h
    rw [← hy] at h
    exact h
  have hap : x.ap = y.ap := by rw [← hy]
  apply hsame
  rw [hap]
  dsimp only
  by_cases hbig : maxPayload < data.length ∨ 65535 < data.length
  · rw [if_pos hbig, if_pos hbig]
    exact alone_plays writer y isLast maxPayload hlen
  · rw [if_neg hbig, if_neg hbig]
    by_cases hroom : hevcApCanAdd y.ap data.length maxPayload = true
    · simp only [if_pos hroom]
      exact queue_plays writer y data isLast 0
    · simp only [if_neg hroom]
      obtain ⟨hflush, hflushed⟩ := flush_plays writer y false
      rw [hflushed]
      by_cases hroom' : hevcApCanAdd (flushed y.ap) data.length maxPayload = true
      · rw [if_pos hroom', if_pos hroom']
        have hqueue := queue_plays writer (hevcApFlush (logged writer) y false).2 data isLast
          (hevcApFlush (logged writer) y false).1
        rw [hflushed] at hqueue
        exact ⟨hflush.trans hqueue.1, hqueue.2⟩
      · rw [if_neg hroom', if_neg hroom']
        exact alone_plays writer y isLast maxPayload hlen

theorem handed_plays (maxPayload : Nat) (hs : List (List UInt8 × Bool)) (x : Tx (σ × Log)) (hne : ∀ h ∈ hs, h.1 ≠ []) :
    Plays x (hs.foldl (handOver (logged writer) maxPayload) x) (allGroups maxPayload x.ap hs) := by
  induction hs generalizing x with
  | nil => exact ⟨Tries.refl x.sender, rfl⟩
  | cons h hs ih =>
      obtain ⟨htries, hap⟩ := handOver_plays writer maxPayload x h (hne h List.mem_cons_self)
      have hrest := ih (handOver (logged writer) maxPayload x h) fun h' hh => hne h' (List.mem_cons_of_mem h hh)
      rw [hap] at hrest
      exact ⟨htries.trans hrest.1, hrest.2⟩

theorem setsBefore_ne_nil {codec : PayloadType} {params : Option H26xParamSets} {u : NalUnit} {set : List UInt8}
    (h : set ∈ setsBefore codec params u) : set ≠ [] := by
  rw [setsBefore] at h
  split at h
  · cases h
  next sets _ =>
    rw [getPrepend_cachedFor] at h
    split at h
    · exact mem_cachedFor h
    · cases h

theorem handed_ne_nil {codec : PayloadType} {params : Option H26xParamSets} {us : List NalUnit}
    (hus : ∀ u ∈ us, u.nal ≠ []) : ∀ h ∈ handed codec params us, h.1 ≠ [] := by
  induction us generalizing params with
  | nil =>
      intro h hh
      cases hh
  | cons u us ih =>
      intro h hh
      rw [handed, List.append_assoc] at hh
      rcases List.mem_append.1 hh with hh | hh
      · obtain ⟨set, hset, rfl⟩ := List.mem_map.1 hh
        exact setsBefore_ne_nil hset
      · rcases List.mem_cons.1 hh with rfl | hh
        · exact hus u List.mem_cons_self
        · exact ih (fun u' hu' => hus u' (List.mem_cons_of_mem u hu')) h hh

/-- The packets of a frame, the last of them by the flush behind the loop. -/
def star6eGroups (params : Option H26xParamSets) (packs : List MiVencPack) (maxPayload : Nat) : List (List Packet) :=
  let r := allGroups maxPayload hevcApReset (handed .h265 params (star6eUnits packs))
  r.1 ++ [flushPackets r.2 true]

/-- A frame, its timestamp apart, which moves on at its end. -/
theorem sendFrame_tries (packs : List MiVencPack) (sender : Sender (σ × Log)) (frameTicks : UInt32)
    (params : Option H26xParamSets) (maxPayload : Nat) (stats : Star6eHevcRtpStats) :
    Tries sender (star6eHevcRtpSendFrame (logged writer) packs sender frameTicks params maxPayload stats).tx.sender
      (star6eGroups params packs (min maxPayload rtpBufferMax)) := by
  rw [star6eHevcRtpSendFrame, min_rtpBufferMax, packLoop_eq]
  dsimp only
  rw [star6eUnits_tx]
  obtain ⟨htries, hap⟩ := handed_plays writer (min maxPayload rtpBufferMax) (handed .h265 params (star6eUnits packs))
    ⟨sender, hevcApReset, stats⟩ (handed_ne_nil fun u hu => frameUnits_nal_ne_nil hu)
  have hflush := flush_plays writer ((handed .h265 params (star6eUnits packs)).foldl
    (handOver (logged writer) (min maxPayload rtpBufferMax)) ⟨sender, hevcApReset, stats⟩) true
  rw [hap] at hflush
  exact htries.trans hflush.1

end WaybeamVenc.Star6eTrials
