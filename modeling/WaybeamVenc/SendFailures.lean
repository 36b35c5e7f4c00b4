import WaybeamVenc.LossyDepay

namespace WaybeamVenc.SendFailures

open H26x RtpPacketizer HevcRtp FrameInvariant HevcRoundTrip SidecarTiling VideoSender FrameUnits PacketTrials MarukoTrials
  Reassembly Star6eTrials LossyDepay

variable {σ : Type}

/-- A call of star6e_hevc_rtp_send_frame. -/
structure FrameCall where
  packs : List MiVencPack
  frameTicks : UInt32
  maxPayload : Nat

structure Stream (σ : Type) where
  sender : Sender σ
  params : Option H26xParamSets
  stats : Star6eHevcRtpStats

def sendFrame (writer : RtpPacketizerWriteFn σ) (s : Stream σ) (c : FrameCall) : Stream σ :=
  let f := star6eHevcRtpSendFrame writer c.packs s.sender c.frameTicks s.params c.maxPayload s.stats
  ⟨f.tx.sender, f.params, f.tx.stats⟩

def sendFrames (writer : RtpPacketizerWriteFn σ) (s : Stream σ) (calls : List FrameCall) : Stream σ :=
  calls.foldl (sendFrame writer) s

/-- The units handed to the packetizer in a run, the sets before them included. -/
def handedNals : Option H26xParamSets → List FrameCall → List (List UInt8)
  | _, [] => []
  | params, c :: cs =>
    (handed .h265 params (star6eUnits c.packs)).map (·.1) ++
      handedNals (cacheAfterUnits .h265 params (star6eUnits c.packs)) cs

/-! What the packets tried carry. -/

/-- From a builder that holds some units: what went out and what it holds in the
end are those units and the new ones. -/
def Moves (r : List (List Packet) × HevcApBuilder) (pending nals : List (List UInt8)) : Prop :=
  ∃ sent pending', Conveys r.1 sent ∧ Waiting r.2 pending' ∧ pending ++ nals = sent ++ pending'

theorem flushed_waiting {ap : HevcApBuilder} {pending : List (List UInt8)} (h : Waiting ap pending) :
    Waiting (flushed ap) [] := by
  rw [flushed]
  by_cases hzero : ap.nalCount = 0
  · have hnone : pending = [] := List.eq_nil_of_length_eq_zero (h.count.symm.trans hzero)
    rw [if_pos hzero, ← hnone]
    exact h
  · rw [if_neg hzero]
    exact Waiting.empty

theorem queueGroups_moves {ap : HevcApBuilder} {pending : List (List UInt8)} {data : List UInt8} (h : Waiting ap pending)
    (hne : data.length ≠ 0) (hshort : data.length < 65536) (isLast : Bool) :
    Moves (queueGroups ap data isLast) pending [data] := by
  have hadd := hevcApAdd_waiting h hne hshort
  cases isLast with
  | false => exact ⟨[], pending ++ [data], .nil, hadd, rfl⟩
  | true =>
      exact ⟨pending ++ [data], [], (flushPackets_carry hadd true).conveys, flushed_waiting hadd,
        (List.append_nil _).symm⟩

theorem aloneGroups_moves {ap : HevcApBuilder} {pending : List (List UInt8)} (h : Waiting ap pending)
    (data : List UInt8) (isLast : Bool) (maxPayload : Nat) :
    Moves (aloneGroups ap data isLast maxPayload) pending [data] :=
  ⟨pending ++ [data], [], (flushPackets_carry h false).cons (hevcNalPackets_carry isLast maxPayload).conveys,
    flushed_waiting h, (List.append_nil _).symm⟩

theorem nalGroups_moves {ap : HevcApBuilder} {pending : List (List UInt8)} {data : List UInt8} (h : Waiting ap pending)
    (hne : data.length ≠ 0) (maxPayload : Nat) (isLast : Bool) :
    Moves (nalGroups maxPayload ap data isLast) pending [data] := by
  rw [nalGroups]
  by_cases hbig : maxPayload < data.length ∨ 65535 < data.length
  · rw [if_pos hbig]
    exact aloneGroups_moves h data isLast maxPayload
  · rw [if_neg hbig]
    have hshort : data.length < 65536 := by omega
    split
    · exact queueGroups_moves h hne hshort isLast
    · split
      · obtain ⟨sent, pending', hconveys, hwaiting, hsplit⟩ := queueGroups_moves (flushed_waiting h) hne hshort isLast
        refine ⟨pending ++ sent, pending', (flushPackets_carry h false).cons hconveys, hwaiting, ?_⟩
        rw [List.append_assoc, ← hsplit, List.nil_append]
      · exact aloneGroups_moves h data isLast maxPayload

theorem allGroups_moves {ap : HevcApBuilder} {pending : List (List UInt8)} {hs : List (List UInt8 × Bool)}
    (h : Waiting ap pending) (hne : ∀ h ∈ hs, h.1 ≠ []) (maxPayload : Nat) :
    Moves (allGroups maxPayload ap hs) pending (hs.map (·.1)) := by
  induction hs generalizing ap pending with
  | nil => exact ⟨[], pending, .nil, h, List.append_nil pending⟩
  | cons x hs ih =>
      have hlen : x.1.length ≠ 0 := fun hx => hne x List.mem_cons_self (List.eq_nil_of_length_eq_zero hx)
      obtain ⟨sent, middle, hconveys, hmiddle, hsplit⟩ := nalGroups_moves h hlen maxPayload x.2
      obtain ⟨sent', pending', hconveys', hwaiting, hsplit'⟩ := ih hmiddle fun y hy => hne y (List.mem_cons_of_mem x hy)
      refine ⟨sent ++ sent', pending', hconveys.append hconveys', hwaiting, ?_⟩
      rw [List.map_cons, List.append_assoc, ← hsplit', ← List.append_assoc sent, ← hsplit, List.append_assoc]
      rfl

theorem frame_ne_nil (params : Option H26xParamSets) (packs : List MiVencPack) :
    ∀ h ∈ handed .h265 params (star6eUnits packs), h.1 ≠ [] :=
  handed_ne_nil fun _ hu => frameUnits_nal_ne_nil hu

theorem star6eGroups_convey (params : Option H26xParamSets) (packs : List MiVencPack) (maxPayload : Nat) :
    Conveys (star6eGroups params packs maxPayload) ((handed .h265 params (star6eUnits packs)).map (·.1)) := by
  obtain ⟨sent, pending, hconveys, hwaiting, hsplit⟩ :=
    allGroups_moves Waiting.empty (frame_ne_nil params packs) maxPayload
  have hall := hconveys.append (flushPackets_carry hwaiting true).conveys
  rw [← hsplit] at hall
  exact hall

/-! What is counted. -/

/-- The counters of the packets agree with what the writer took. -/
structure Tallied (x : Tx (σ × Log)) : Prop where
  taken : x.stats.rtpPackets = UInt32.ofNat (delivered x.sender.out.2).length
  shares : x.stats.rtpPackets = x.stats.singlePackets + x.stats.apPackets + x.stats.fuPackets

theorem Tallied.more {x x' : Tx (σ × Log)} (h : Tallied x) (n : Nat)
    (htaken : (delivered x'.sender.out.2).length = (delivered x.sender.out.2).length + n)
    (hrtp : x'.stats.rtpPackets = x.stats.rtpPackets + UInt32.ofNat n)
    (hshares : x'.stats.singlePackets + x'.stats.apPackets + x'.stats.fuPackets =
      x.stats.singlePackets + x.stats.apPackets + x.stats.fuPackets + UInt32.ofNat n) : Tallied x' := by
  constructor
  · rw [hrtp, htaken, UInt32.ofNat_add, h.taken]
  · rw [hrtp, hshares, h.shares]

variable (writer : RtpPacketizerWriteFn σ)

theorem sendPacket_taken (t : Sender (σ × Log)) (payload1 payload2 : List UInt8) (marker : Bool) :
    let r := rtpPacketizerSendPacket (logged writer) t payload1 payload2 marker
    (delivered r.2.out.2).length = (delivered t.out.2).length + (if r.1 then 1 else 0) := by
  intro r
  rcases sendPacket_delivered writer t payload1 payload2 marker with ⟨hok, _, h⟩ | ⟨hok, _, h⟩
  · rw [show r.1 = false from hok, show delivered r.2.out.2 = _ from h]
    rfl
  · rw [show r.1 = true from hok, show delivered r.2.out.2 = _ from h, List.length_append]
    rfl

theorem fuLoop_taken (header0 header1 : UInt8) (isLast : Bool) (maxFragment fuel : Nat) (t : Sender (σ × Log))
    (payload : List UInt8) (start : Bool) (total : Nat) (result : RtpPacketizerResult) :
    let r := fuLoop (logged writer) header0 header1 isLast maxFragment fuel t payload start total result
    ∃ n, (delivered r.sender.out.2).length = (delivered t.out.2).length + n ∧
      r.result.packetCount = result.packetCount + UInt32.ofNat n := by
  induction fuel generalizing t payload start total result with
  | zero => exact ⟨0, rfl, (UInt32.add_zero _).symm⟩
  | succ fuel ih =>
      rw [fuLoop]
      by_cases hnil : payload.length = 0
      · rw [if_pos hnil]
        exact ⟨0, rfl, (UInt32.add_zero _).symm⟩
      · rw [if_neg hnil]
        generalize (if maxFragment < payload.length then maxFragment else payload.length) = chunk
        have htaken := sendPacket_taken writer t
          [fuIndicator0 header0 header1, fuIndicator1 header0 header1,
            fuFlags header0 start (decide (payload.length = chunk))] (payload.take chunk)
          (decide (payload.length = chunk) && isLast)
        dsimp only at htaken ⊢
        generalize rtpPacketizerSendPacket (logged writer) t _ _ _ = r at htaken ⊢
        obtain ⟨ok, t'⟩ := r
        cases ok with
        | false => exact ⟨0, htaken, (UInt32.add_zero _).symm⟩
        | true =>
            obtain ⟨n, hn, hcount⟩ := ih t' (payload.drop chunk) false (total + chunk)
              ⟨result.packetCount + 1, result.payloadBytes + UInt32.ofNat (chunk + 3), true⟩
            refine ⟨1 + n, ?_, ?_⟩
            · have hone : (delivered t'.out.2).length = (delivered t.out.2).length + 1 := htaken
              dsimp only at hn ⊢
              rw [hn, hone, Nat.add_assoc]
            · dsimp only at hcount ⊢
              rw [hcount, UInt32.ofNat_add, UInt32.add_assoc]
              rfl

theorem sendHevcNal_taken (t : Sender (σ × Log)) (data : List UInt8) (isLast : Bool) (maxPayload : Nat) :
    let r := rtpPacketizerSendHevcNal (logged writer) t data isLast maxPayload
    ∃ n, (delivered r.2.2.out.2).length = (delivered t.out.2).length + n ∧ r.2.1.packetCount = UInt32.ofNat n := by
  rw [rtpPacketizerSendHevcNal]
  by_cases hnil : data.length = 0
  · rw [if_pos hnil]
    exact ⟨0, rfl, rfl⟩
  · rw [if_neg hnil]
    by_cases hfits : data.length ≤ maxPayload
    · rw [if_pos hfits]
      have htaken := sendPacket_taken writer t data [] isLast
      dsimp only at htaken
      generalize rtpPacketizerSendPacket (logged writer) t data [] isLast = r at htaken ⊢
      obtain ⟨ok, t'⟩ := r
      cases ok with
      | false => exact ⟨0, htaken, rfl⟩
      | true => exact ⟨1, htaken, rfl⟩
    · rw [if_neg hfits]
      cases data with
      | nil => exact ⟨0, rfl, rfl⟩
      | cons header0 rest =>
          cases rest with
          | nil => exact ⟨0, rfl, rfl⟩
          | cons header1 payload =>
              rw [rtpPacketizerSendHevcFu]
              split
              · exact ⟨0, rfl, rfl⟩
              · dsimp only
                generalize (if rtpBufferMax < maxPayload then rtpBufferMax else maxPayload) - 3 = maxFragment
                obtain ⟨n, hn, hcount⟩ := fuLoop_taken writer header0 header1 isLast maxFragment payload.length t
                  payload true 0 ⟨0, 0, false⟩
                exact ⟨n, hn, hcount.trans (UInt32.zero_add _)⟩

theorem sendNal_tallied {x : Tx (σ × Log)} (h : Tallied x) (data : List UInt8) (isLast : Bool) (maxPayload : Nat) :
    Tallied (sendNalRtpHevc (logged writer) x data isLast maxPayload).2 := by
  rw [sendNalRtpHevc]
  split
  · exact h
  · obtain ⟨n, htaken, hcount⟩ := sendHevcNal_taken writer x.sender data isLast maxPayload
    dsimp only at htaken hcount ⊢
    generalize rtpPacketizerSendHevcNal (logged writer) x.sender data isLast maxPayload = r at htaken hcount ⊢
    obtain ⟨total, result, t⟩ := r
    dsimp only at htaken hcount ⊢
    rw [applyStats]
    apply h.more n htaken
    · split
      next hzero =>
        rw [← hcount, hzero, UInt32.add_zero]
      next =>
        rw [← hcount]
    · split
      next hzero =>
        rw [← hcount, hzero, UInt32.add_zero]
      next =>
        rw [← hcount]
        dsimp only
        cases result.fragmented with
        | false =>
            simp only [Bool.false_eq_true, if_false]
            grind
        | true =>
            simp only [if_true]
            grind

theorem flush_tallied {x : Tx (σ × Log)} (h : Tallied x) {pending : List (List UInt8)} (hwaiting : Waiting x.ap pending)
    (marker : Bool) : Tallied (hevcApFlush (logged writer) x marker).2 := by
  have hone : ∀ payload : List UInt8, payload.length ≠ 0 →
      (delivered (sendRtpPacket (logged writer) x.sender payload marker).2.out.2).length =
        (delivered x.sender.out.2).length + (if (sendRtpPacket (logged writer) x.sender payload marker).1 then 1 else 0) := by
    intro payload hne
    rw [sendRtpPacket, if_neg hne]
    exact sendPacket_taken writer x.sender payload [] marker
  rw [hevcApFlush]
  cases pending with
  | nil =>
      have hzero : x.ap.nalCount = 0 := hwaiting.count
      rw [if_pos hzero]
      exact h
  | cons nal rest =>
      cases rest with
      | nil =>
          have hcount : x.ap.nalCount = 1 := hwaiting.count
          have hne : nal.length ≠ 0 := fun hnil =>
            hwaiting.held nal (List.mem_singleton_self nal) (List.eq_nil_of_length_eq_zero hnil)
          rw [if_neg (by omega), if_pos hcount, firstQueued_waiting hwaiting]
          have htaken := hone nal hne
          dsimp only
          generalize sendRtpPacket (logged writer) x.sender nal marker = r at htaken ⊢
          obtain ⟨ok, t⟩ := r
          cases ok with
          | false => exact h.more 0 htaken (UInt32.add_zero _).symm (UInt32.add_zero _).symm
          | true =>
              apply h.more 1 htaken rfl
              dsimp only
              grind
      | cons nal' rest =>
          have hcount : x.ap.nalCount = rest.length + 2 := hwaiting.count
          have hne : (apHeader x.ap ++ x.ap.payload).length ≠ 0 := by
            rw [apHeader, List.length_append]
            exact Nat.ne_of_gt (Nat.add_pos_left Nat.two_pos _)
          rw [if_neg (by omega), if_neg (by omega)]
          have htaken := hone (apHeader x.ap ++ x.ap.payload) hne
          dsimp only
          generalize sendRtpPacket (logged writer) x.sender (apHeader x.ap ++ x.ap.payload) marker = r at htaken ⊢
          obtain ⟨ok, t⟩ := r
          cases ok with
          | false => exact h.more 0 htaken (UInt32.add_zero _).symm (UInt32.add_zero _).symm
          | true =>
              apply h.more 1 htaken rfl
              dsimp only
              grind

theorem queueOrSend_tallied {y : Nat × Tx (σ × Log)} (h : Tallied y.2) {pending : List (List UInt8)}
    (hwaiting : Waiting y.2.ap pending) {data : List UInt8} (hne : data.length ≠ 0) (hshort : data.length < 65536)
    (isLast : Bool) (maxPayload : Nat) : Tallied (queueOrSend (logged writer) data isLast maxPayload y).2 := by
  have hqueued : Tallied ({ y.2 with ap := hevcApAdd y.2.ap data } : Tx (σ × Log)) := ⟨h.taken, h.shares⟩
  rw [queueOrSend]
  split
  · split
    · exact flush_tallied writer hqueued (hevcApAdd_waiting hwaiting hne hshort) true
    · exact hqueued
  · exact sendNal_tallied writer h data isLast maxPayload

theorem handOver_tallied {x : Tx (σ × Log)} (h : Tallied x) {pending : List (List UInt8)} (hwaiting : Waiting x.ap pending)
    {data : List UInt8 × Bool} (hne : data.1 ≠ []) (maxPayload : Nat) :
    Tallied (handOver (logged writer) maxPayload x data) := by
  obtain ⟨data, isLast⟩ := data
  have hlen : data.length ≠ 0 := fun hnil => hne (List.eq_nil_of_length_eq_zero hnil)
  have hnal : Tallied ({ x with stats := { x.stats with totalNals := x.stats.totalNals + 1 } } : Tx (σ × Log)) :=
    ⟨h.taken, h.shares⟩
  have hflush := flush_tallied writer hnal hwaiting false
  rw [handOver, sendOrQueueNalRtpHevc, if_neg hlen]
  dsimp only
  by_cases hbig : maxPayload < data.length ∨ 65535 < data.length
  · rw [if_pos hbig]
    exact sendNal_tallied writer hflush data isLast maxPayload
  · rw [if_neg hbig]
    have hshort : data.length < 65536 := by omega
    have hqueue : ∀ y : Nat × Tx (σ × Log), Tallied y.2 → (∃ pending, Waiting y.2.ap pending) →
        Tallied (queueOrSend (logged writer) data isLast maxPayload y).2 := by
      intro y hy hwaits
      obtain ⟨_, hheld⟩ := hwaits
      exact queueOrSend_tallied writer hy hheld hlen hshort isLast maxPayload
    apply hqueue
    · split
      · exact hnal
      · exact hflush
    · split
      · exact ⟨pending, hwaiting⟩
      · rw [(flush_plays writer _ false).2]
        exact ⟨[], flushed_waiting hwaiting⟩

theorem handed_tallied (maxPayload : Nat) {hs : List (List UInt8 × Bool)} {x : Tx (σ × Log)} (h : Tallied x)
    {pending : List (List UInt8)} (hwaiting : Waiting x.ap pending) (hne : ∀ h ∈ hs, h.1 ≠ []) :
    Tallied (hs.foldl (handOver (logged writer) maxPayload) x) := by
  induction hs generalizing x pending with
  | nil => exact h
  | cons data hs ih =>
      have hdata := hne data List.mem_cons_self
      have hlen : data.1.length ≠ 0 := fun hnil => hdata (List.eq_nil_of_length_eq_zero hnil)
      obtain ⟨_, pending', _, hmoved, _⟩ := nalGroups_moves hwaiting hlen maxPayload data.2
      rw [← (handOver_plays writer maxPayload x data hdata).2] at hmoved
      exact ih (handOver_tallied writer h hwaiting hdata maxPayload) hmoved fun y hy => hne y (List.mem_cons_of_mem data hy)

/-! Frames. -/

theorem sendFrame_tallied {s : Stream (σ × Log)} (h : Tallied ⟨s.sender, hevcApReset, s.stats⟩) (c : FrameCall) :
    Tallied ⟨(sendFrame (logged writer) s c).sender, hevcApReset, (sendFrame (logged writer) s c).stats⟩ := by
  have hne := frame_ne_nil s.params c.packs
  have hloop := handed_tallied writer (min c.maxPayload rtpBufferMax) h Waiting.empty hne
  obtain ⟨_, pending, _, hwaiting, _⟩ := allGroups_moves Waiting.empty hne (min c.maxPayload rtpBufferMax)
  rw [← (handed_plays writer _ _ ⟨s.sender, hevcApReset, s.stats⟩ hne).2] at hwaiting
  have hflush := flush_tallied writer hloop hwaiting true
  rw [sendFrame, star6eHevcRtpSendFrame, min_rtpBufferMax, packLoop_eq]
  dsimp only
  rw [star6eUnits_tx]
  exact ⟨hflush.taken, hflush.shares⟩

theorem sendFrame_numbered {s : Stream (σ × Log)} {seq : UInt16} (h : Numbered seq s.sender) (c : FrameCall) :
    Numbered seq (sendFrame (logged writer) s c).sender := by
  obtain ⟨t, ht, hsender⟩ := sendFrame_kept (numbered_kept writer seq) c.packs s.sender c.frameTicks s.params
    c.maxPayload s.stats h
  rw [sendFrame, hsender]
  exact ⟨ht.next, ht.sequences⟩

theorem sendFrame_params (s : Stream σ) (c : FrameCall) (writer : RtpPacketizerWriteFn σ) :
    (sendFrame writer s c).params = cacheAfterUnits .h265 s.params (star6eUnits c.packs) := by
  rw [sendFrame, star6eHevcRtpSendFrame, packLoop_eq]
  dsimp only
  rw [star6eUnits_params]

theorem sendFrames_convey (s : Stream (σ × Log)) (calls : List FrameCall) :
    ∃ gs, Tries s.sender (sendFrames (logged writer) s calls).sender gs ∧ Conveys gs (handedNals s.params calls) := by
  induction calls generalizing s with
  | nil => exact ⟨[], Tries.refl s.sender, .nil⟩
  | cons c calls ih =>
      obtain ⟨gs, htries, hconveys⟩ := ih (sendFrame (logged writer) s c)
      rw [sendFrame_params] at hconveys
      have hframe := sendFrame_tries writer c.packs s.sender c.frameTicks s.params c.maxPayload s.stats
      exact ⟨_, hframe.trans htries, (star6eGroups_convey s.params c.packs _).append hconveys⟩

theorem sendFrames_counted {s : Stream (σ × Log)} {seq : UInt16} (hnumbered : Numbered seq s.sender)
    (htallied : Tallied ⟨s.sender, hevcApReset, s.stats⟩) (calls : List FrameCall) :
    Numbered seq (sendFrames (logged writer) s calls).sender ∧
      Tallied ⟨(sendFrames (logged writer) s calls).sender, hevcApReset, (sendFrames (logged writer) s calls).stats⟩ := by
  induction calls generalizing s with
  | nil => exact ⟨hnumbered, htallied⟩
  | cons c calls ih => exact ih (sendFrame_numbered writer hnumbered c) (sendFrame_tallied writer htallied c)

/-- Whichever writes fail: the packets that were taken are numbered without a
gap and counted, and a receiver gets nothing but whole units of those handed
over, in their order, as long as each can travel as a packet of its own. -/
theorem failures_leave_units_whole (out : σ) (rtp : RtpPacketizerState) (params : Option H26xParamSets)
    (calls : List FrameCall) :
    let s := sendFrames (logged writer) ⟨⟨rtp, (out, [])⟩, params, noStats⟩ calls
    let packets := delivered s.sender.out.2
    packets.map SidecarTiling.sequence = numbers rtp.seq packets.length ∧
      s.sender.rtp.seq = rtp.seq + UInt16.ofNat packets.length ∧
      s.stats.rtpPackets = UInt32.ofNat packets.length ∧
      s.stats.rtpPackets = s.stats.singlePackets + s.stats.apPackets + s.stats.fuPackets ∧
      ((∀ nal ∈ handedNals params calls, Separable nal) →
        (reassembled (packets.map WriteCall.payload)).Sublist (handedNals params calls)) := by
  intro s packets
  have hstart : Numbered rtp.seq (⟨rtp, (out, [])⟩ : Sender (σ × Log)) := ⟨(UInt16.add_zero _).symm, rfl⟩
  obtain ⟨hnumbered, htallied⟩ := @sendFrames_counted σ writer ⟨⟨rtp, (out, [])⟩, params, noStats⟩ rtp.seq hstart
    ⟨rfl, rfl⟩ calls
  refine ⟨hnumbered.sequences, hnumbered.next, htallied.taken, htallied.shares, ?_⟩
  intro hseparable
  obtain ⟨gs, ⟨log, hlog, htried⟩, hconveys⟩ := sendFrames_convey writer ⟨⟨rtp, (out, [])⟩, params, noStats⟩ calls
  obtain ⟨got, nals, hfeed, hsublist⟩ := hconveys hseparable log htried none
  have hpackets : packets = delivered log := congrArg delivered hlog
  rw [reassembled, hpackets, hfeed]
  exact hsublist

def plainFrame (nal : List UInt8) (maxPayload : Nat) : FrameCall :=
  ⟨[⟨some ([0, 0, 0, 1] ++ nal), 0, 0, Vector.replicate 8 ⟨0, 0, 0⟩⟩], 3000, maxPayload⟩

/-- A unit torn between two of its fragments, and one behind it. -/
theorem failures_leave_units_whole_torn :
    let calls := [plainFrame [2, 1, 10, 11, 12, 13, 14, 15] 5, plainFrame [2, 1, 9] 5]
    let s := sendFrames (logged failsSecond) ⟨⟨⟨65535, 0, 1, 97⟩, (0, [])⟩, none, noStats⟩ calls
    let packets := delivered s.sender.out.2
    packets.map SidecarTiling.sequence = [65535, 0] ∧ (reassembled (packets.map WriteCall.payload)).Sublist (handedNals none calls) := by
  intro calls s packets
  have h := failures_leave_units_whole failsSecond 0 ⟨65535, 0, 1, 97⟩ none calls
  exact ⟨h.1.trans (by decide +kernel), h.2.2.2.2 (by unfold Separable; decide +kernel)⟩

/-- A unit whose header type is that of aggregation packets comes out in pieces,
without a failure. -/
theorem aggregate_typed_unit_misread :
    let calls := [plainFrame [0x60, 1, 0, 1, 5, 0, 1, 6] 100]
    let s := sendFrames (logged fun (_ : Unit) _ => (true, ())) ⟨⟨⟨0, 0, 1, 97⟩, ((), [])⟩, none, noStats⟩ calls
    reassembled ((delivered s.sender.out.2).map WriteCall.payload) = [[5], [6]] ∧
      ¬(reassembled ((delivered s.sender.out.2).map WriteCall.payload)).Sublist (handedNals none calls) := by
  decide +kernel

end WaybeamVenc.SendFailures
