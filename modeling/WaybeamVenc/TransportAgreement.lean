import WaybeamVenc.FrameAgreement
import WaybeamVenc.RingSafety
import WaybeamVenc.RingTransport

namespace WaybeamVenc.TransportAgreement

open Runs RingGeometry RingModel RingRefinement RingSafety RingTransport BoundedFifo
open H26x RtpPacketizer HevcRtp FrameInvariant FrameAgreement

/-- The ring that star6e_output_init creates. -/
def outputRing (maxFrameSize : UInt16) (h : createAccepts 512 (maxFrameSize.toUInt32 + 12) = true) : Geometry :=
  ⟨512, maxFrameSize.toUInt32 + 12, h⟩

/-- What a consumer has of the records, what it read being cut to its buffers,
and how many it has still to read. -/
structure ReadsInOrder (g : Geometry) (B : UInt16 → Prop) (records : List (List UInt8)) (u : State) : Prop where
  delivered : List.Forall₂ (Delivered B) u.received (records.take u.received.length)
  whole : (∀ n, B n → g.slotDataSize.toNat ≤ n.toNat) →
    u.received = (records.take u.received.length).map fun x => (x.length, x)
  rest : u.received.length + unread u = records.length

/-- The consumer goes on, the producer having nothing to write. -/
def Drains (B : UInt16 → Prop) (s : State) (a : Act) : Prop := ofConsumer a = true ∧ Brings B s a

variable {g : Geometry} {B : UInt16 → Prop}

theorem drained {s u : State} (h : Path (step g) (Drains B) s u) :
    Untouched s u ∧ Path (step g) (Brings B) s u := by
  induction h with
  | refl => exact ⟨⟨rfl, rfl, rfl⟩, .refl⟩
  | next a _ hok hstep ih =>
      obtain ⟨hsame, hpath⟩ := ih
      have hone := consumer_untouched g hok.1 hstep
      exact ⟨⟨hone.producer.trans hsame.producer, hone.stats.trans hsame.stats, hone.written.trans hsame.written⟩,
        .next a hpath hok.2 hstep⟩

theorem readsInOrder {u : State} (h : Path (step g) (Brings B) fresh u) (hidle : u.producer = .idle) :
    ReadsInOrder g B u.written u := by
  obtain ⟨hinv, hreach⟩ := ring_refines_fifo g B h
  have hpublished : published u = u.written := by
    rw [published, hidle]
    exact List.append_nil _
  have hcap := fifo_bound g hinv.taken_le (reaches_ordered hreach)
  have hrest := hinv.unread_eq g B hcap
  have hdelivered := hinv.delivered
  have hfits := hinv.fits
  rw [hpublished] at hrest hdelivered hfits
  refine ⟨hdelivered, fun hwhole => ?_, hrest⟩
  apply delivered_whole g (fun x hx => hfits x (List.mem_of_mem_take hx))
  apply hdelivered.imp
  rintro r x ⟨n, hn, heq⟩
  exact ⟨n, hwhole n hn, heq⟩

/-- A sender over a ring and one over a socket that takes everything, with the
same packets behind them since start. -/
structure Related (g : Geometry) (B : UInt16 → Prop) (start : State) (t : Sender RingOut) (u : Sender SocketOut) :
    Prop where
  rtp : t.rtp = u.rtp
  full : t.out.full = false
  refused : t.out.refused = 0
  oversize : t.out.ring.producerStats.oversizeDrops = start.producerStats.oversizeDrops
  answers : u.out.answers = []
  path : Path (step g) (Brings B) start t.out.ring
  idle : t.out.ring.producer = .idle
  turns : ∀ turn ∈ t.out.turns, TurnBrings B turn
  written : t.out.ring.written = start.written ++ u.out.sent

theorem full_kept : KeptByPackets (sendRtpPartsRing g) (fun t => t.out.full = true) := by
  intro t payload1 payload2 marker h
  have hwriter : ∀ c, (sendRtpPartsRing g t.out c).2.full = true := by
    intro c
    rw [sendRtpPartsRing]
    split
    · exact h
    · split
      · split
        · exact h
        · rw [vencRingWrite]
          split
          · exact h
          · dsimp only
            rw [h, Bool.true_or]
      · exact h
  rw [rtpPacketizerSendPacket]
  split
  · exact h
  · have hcall := hwriter ⟨rtpHeader t.rtp marker, payload1, payload2⟩
    split
    · next heq =>
      rw [heq] at hcall
      exact hcall
    · next heq =>
      rw [heq] at hcall
      exact hcall

/-- A call over the ring whose payload is in bounds, seen from the ring. -/
theorem sendRtpPartsRing_eq {out : RingOut} {c : WriteCall} (hheader : c.header.length = 12) (hne : c.payload1 ≠ [])
    (hpayload : c.payload.length ≤ rtpBufferMax) :
    ∃ p : Packet, p.bytes = c.header ++ c.payload ∧ sendRtpPartsRing g out c = vencRingWrite g out p := by
  have hfirst : ¬(c.header = [] ∨ c.payload1 = []) := by
    rintro (h | h)
    · rw [h] at hheader
      cases hheader
    · exact hne h
  have hsmall : c.header.length ≤ 65535 ∧ c.payload.length ≤ 65535 :=
    ⟨by omega, Nat.le_trans hpayload (by decide)⟩
  have hflat : ¬(c.payload2 ≠ [] ∧ rtpBufferMax < c.payload.length) := fun h => Nat.not_lt.2 hpayload h.2
  refine ⟨⟨c.header, c.payload, Nat.lt_succ_of_le hsmall.1, Nat.lt_succ_of_le hsmall.2⟩, rfl, ?_⟩
  rw [sendRtpPartsRing, if_neg hfirst, dif_pos hsmall, if_neg hflat]

theorem related_agreement (start : State) {limit : Nat} (hlimit : limit ≤ rtpBufferMax)
    (hslot : limit + 12 ≤ g.slotDataSize.toNat) :
    Agreement (sendRtpPartsRing g) sendRtpPartsSocket limit (fun t => t.out.full = true) (Related g B start) where
  bad_kept := full_kept
  packet := by
    intro t u payload1 payload2 marker h hsize
    rw [rtpPacketizerSendPacket, rtpPacketizerSendPacket, ← h.rtp]
    split
    · exact Or.inr ⟨rfl, h⟩
    · next hne =>
      have hpayload : (WriteCall.payload ⟨rtpHeader t.rtp marker, payload1, payload2⟩).length ≤ limit := by
        rw [WriteCall.payload, List.length_append]
        exact hsize
      obtain ⟨p, hbytes, hring⟩ : ∃ p : Packet, _ ∧ sendRtpPartsRing g t.out _ = vencRingWrite g t.out p :=
        sendRtpPartsRing_eq rfl hne (Nat.le_trans hpayload hlimit)
      have hfits : Fits g p := by
        rw [Fits, hbytes, List.length_append]
        exact Nat.le_trans (Nat.add_le_add_left hpayload 12) (by omega)
      obtain ⟨hpath, hidle, hturns, hrefused, hover, hcase⟩ := vencRingWrite_spec g h.idle hfits h.turns
      have hsocket : sendRtpPartsSocket u.out ⟨rtpHeader t.rtp marker, payload1, payload2⟩ =
          (true, ⟨u.out.sent ++ [p.bytes], u.out.sendErrors, []⟩) := by
        have hfirst : ¬(rtpHeader t.rtp marker = [] ∨ payload1 = []) := by
          rintro (hnil | hnil)
          · cases hnil
          · exact hne hnil
        rw [sendRtpPartsSocket, if_neg hfirst, h.answers, hbytes]
        rfl
      rw [hring, hsocket]
      rcases hr : vencRingWrite g t.out p with ⟨ok, out⟩
      rw [hr] at hpath hidle hturns hrefused hover hcase
      rcases hcase with hfull | ⟨hok, hfull, hwritten⟩
      · cases ok <;> exact Or.inl hfull
      · cases hok
        refine Or.inr ⟨rfl, ?_⟩
        exact ⟨rfl, hfull.trans h.full, hrefused.trans h.refused, hover.trans h.oversize, rfl,
          h.path.trans hpath, hidle, hturns, by rw [hwritten, h.written, List.append_assoc]⟩

/-- The ring and the socket carry the same frame: as long as no call finds the
ring full, no packet is refused or dropped for its size, the packetizer ends
alike, and a consumer reads the datagrams of the socket behind the records that
were in the ring before. -/
theorem ring_refines_socket (maxPayloadSize : UInt16)
    (hcreate : createAccepts 512 (maxPayloadSize.toUInt32 + 12) = true) (B : UInt16 → Prop) (start : State)
    (turns : List (List Act)) (packs : List MiVencPack) (rtp : RtpPacketizerState) (frameTicks : UInt32)
    (params : Option H26xParamSets) (stats : Star6eHevcRtpStats)
    (hstart : Path (step (outputRing maxPayloadSize hcreate)) (Brings B) fresh start)
    (hidle : start.producer = .idle) (hturns : ∀ turn ∈ turns, TurnBrings B turn)
    (hroom : (star6eHevcRtpSendFrame (sendRtpPartsRing (outputRing maxPayloadSize hcreate)) packs
      ⟨rtp, ⟨start, turns, 0, false⟩⟩ frameTicks params maxPayloadSize.toNat stats).tx.sender.out.full = false) :
    let g := outputRing maxPayloadSize hcreate
    let overRing := star6eHevcRtpSendFrame (sendRtpPartsRing g) packs ⟨rtp, ⟨start, turns, 0, false⟩⟩ frameTicks
      params maxPayloadSize.toNat stats
    let overSocket := star6eHevcRtpSendFrame sendRtpPartsSocket packs ⟨rtp, ⟨[], 0, []⟩⟩ frameTicks params
      maxPayloadSize.toNat stats
    let ring := overRing.tx.sender.out.ring
    overRing.tx.sender.out.refused = 0 ∧ ring.producerStats.oversizeDrops = start.producerStats.oversizeDrops ∧
      overRing.tx.sender.rtp = overSocket.tx.sender.rtp ∧ overRing.tx.stats = overSocket.tx.stats ∧
      overRing.totalBytes = overSocket.totalBytes ∧ overRing.params = overSocket.params ∧
      ∀ u, Path (step g) (Drains B) ring u →
        ReadsInOrder g B (start.written ++ overSocket.tx.sender.out.sent) u := by
  intro g overRing overSocket ring
  have hslot : min maxPayloadSize.toNat rtpBufferMax + 12 ≤ g.slotDataSize.toNat := by
    have hsum : g.slotDataSize.toNat = maxPayloadSize.toNat + 12 := by
      change (maxPayloadSize.toUInt32 + 12).toNat = _
      have hlt := maxPayloadSize.toNat_lt
      have hmod : (maxPayloadSize.toUInt32 + 12).toNat = (maxPayloadSize.toNat + 12) % 2 ^ 32 := rfl
      rw [hmod, Nat.mod_eq_of_lt (by omega)]
    rw [hsum]
    exact Nat.add_le_add_right (Nat.min_le_left _ _) 12
  have hrelated : Related g B start ⟨rtp, ⟨start, turns, 0, false⟩⟩ ⟨rtp, ⟨[], 0, []⟩⟩ :=
    ⟨rfl, rfl, rfl, rfl, rfl, .refl, hidle, hturns, (List.append_nil _).symm⟩
  obtain ⟨t, u, hring, hsocket, hcase⟩ := sendFrame_agrees
    (related_agreement start (Nat.min_le_right maxPayloadSize.toNat rtpBufferMax) hslot) packs frameTicks params stats
    hrelated
  change overRing.tx.sender = _ at hring
  change overSocket.tx.sender = _ at hsocket
  change overRing.tx.sender.out.full = false at hroom
  rcases hcase with hfull | ⟨hend, hbytes, hparams, hstats⟩
  · rw [hring] at hroom
    rw [hroom] at hfull
    cases hfull
  · have hringOut : ring = t.out.ring := by rw [← congrArg (fun s => s.out.ring) hring]
    have hsent : overSocket.tx.sender.out.sent = u.out.sent := congrArg (fun s => s.out.sent) hsocket
    refine ⟨?_, ?_, ?_, hstats, hbytes, hparams, ?_⟩
    · rw [hring]
      exact hend.refused
    · rw [hringOut]
      exact hend.oversize
    · rw [hring, hsocket, ← hend.rtp]
    · intro v hdrain
      rw [hringOut] at hdrain
      obtain ⟨hsame, hpath⟩ := drained hdrain
      have hreads := readsInOrder ((hstart.trans hend.path).trans hpath) (hsame.producer.trans hend.idle)
      rw [hsame.written, hend.written] at hreads
      rw [hsent]
      exact hreads

/-! A small ring. -/

theorem six_accepted : createAccepts 512 ((6 : UInt16).toUInt32 + 12) = true := by decide

def wholeRecords : UInt16 → Prop := wholeSlot (outputRing 6 six_accepted)

/-- A consumer that reads once before every step of the producer. -/
def eager : List (List Act) := List.replicate 80 ([.read 18] ++ List.replicate 24 .consumer)

theorem eager_brings : ∀ turn ∈ eager, TurnBrings wholeRecords turn := by
  intro turn hturn a ha s
  rw [List.eq_of_mem_replicate hturn] at ha
  rcases List.mem_append.1 ha with ha | ha
  · rw [List.mem_singleton.1 ha]
    exact Nat.le_refl 18
  · rw [List.eq_of_mem_replicate ha]
    trivial

def twoPacks : List MiVencPack :=
  [⟨some [0, 0, 0, 1, 2, 1, 9], 0, 0, Vector.replicate 8 ⟨0, 0, 0⟩⟩,
    ⟨some [0, 0, 1, 2, 1, 5, 6, 7, 8, 9], 0, 0, Vector.replicate 8 ⟨0, 0, 0⟩⟩]

/-- Three packets of at most six bytes each, two of them fragments. -/
theorem ring_refines_socket_small :
    let g := outputRing 6 six_accepted
    let overRing := star6eHevcRtpSendFrame (sendRtpPartsRing g) twoPacks
      ⟨⟨65535, 0, 1, 97⟩, ⟨fresh, eager, 0, false⟩⟩ 3000 none (6 : UInt16).toNat ⟨0, 0, 0, 0, 0, 0, 0⟩
    let overSocket := star6eHevcRtpSendFrame sendRtpPartsSocket twoPacks ⟨⟨65535, 0, 1, 97⟩, ⟨[], 0, []⟩⟩ 3000 none
      (6 : UInt16).toNat ⟨0, 0, 0, 0, 0, 0, 0⟩
    overSocket.tx.sender.out.sent.length = 3 ∧
      ∀ u, Path (step g) (Drains wholeRecords) overRing.tx.sender.out.ring u →
        ReadsInOrder g wholeRecords (fresh.written ++ overSocket.tx.sender.out.sent) u := by
  have h := ring_refines_socket 6 six_accepted wholeRecords fresh eager twoPacks ⟨65535, 0, 1, 97⟩ 3000 none
    ⟨0, 0, 0, 0, 0, 0, 0⟩ .refl rfl eager_brings (by decide +kernel)
  exact ⟨by decide +kernel, h.2.2.2.2.2.2⟩

end WaybeamVenc.TransportAgreement
