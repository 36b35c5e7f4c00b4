import WaybeamVenc.HevcRtp

namespace WaybeamVenc.FrameInvariant

open H26x RtpPacketizer HevcRtp

variable {σ : Type}

/-- No packet leads out of inv, whether its writer takes it or not. -/
def KeptByPackets (writer : RtpPacketizerWriteFn σ) (inv : Sender σ → Prop) : Prop :=
  ∀ t payload1 payload2 marker, inv t → inv (rtpPacketizerSendPacket writer t payload1 payload2 marker).2

variable {writer : RtpPacketizerWriteFn σ} {inv : Sender σ → Prop}

theorem fuLoop_kept (hk : KeptByPackets writer inv) (header0 header1 : UInt8) (isLast : Bool) (maxFragment fuel : Nat)
    (t : Sender σ) (payload : List UInt8) (start : Bool) (total : Nat) (result : RtpPacketizerResult) (h : inv t) :
    inv (fuLoop writer header0 header1 isLast maxFragment fuel t payload start total result).sender := by
  induction fuel generalizing t payload start total result with
  | zero => exact h
  | succ fuel ih =>
      rw [fuLoop]
      split
      · exact h
      · have hpacket := hk t [fuIndicator0 header0 header1, fuIndicator1 header0 header1, fuFlags header0 start
          (decide (payload.length = if maxFragment < payload.length then maxFragment else payload.length))]
          (payload.take (if maxFragment < payload.length then maxFragment else payload.length))
          (decide (payload.length = if maxFragment < payload.length then maxFragment else payload.length) && isLast) h
        dsimp only
        split
        · next heq =>
            rw [heq] at hpacket
            exact hpacket
        · next heq =>
            rw [heq] at hpacket
            apply ih
            exact hpacket

theorem sendHevcFu_kept (hk : KeptByPackets writer inv) (t : Sender σ) (data : List UInt8) (isLast : Bool)
    (maxPayload : Nat) (h : inv t) : inv (rtpPacketizerSendHevcFu writer t data isLast maxPayload).2.2 := by
  rw [rtpPacketizerSendHevcFu.eq_def]
  split
  · split
    · exact h
    · exact fuLoop_kept hk _ _ isLast _ _ t _ true 0 _ h
  · exact h

theorem sendHevcNal_kept (hk : KeptByPackets writer inv) (t : Sender σ) (data : List UInt8) (isLast : Bool)
    (maxPayload : Nat) (h : inv t) : inv (rtpPacketizerSendHevcNal writer t data isLast maxPayload).2.2 := by
  have hpacket := hk t data [] isLast h
  rw [rtpPacketizerSendHevcNal]
  split
  · exact h
  · split
    · split
      · next heq => exact congrArg Prod.snd heq ▸ hpacket
      · next heq => exact congrArg Prod.snd heq ▸ hpacket
    · exact sendHevcFu_kept hk t data isLast maxPayload h

theorem sendRtpPacket_kept (hk : KeptByPackets writer inv) (t : Sender σ) (payload : List UInt8) (marker : Bool)
    (h : inv t) : inv (sendRtpPacket writer t payload marker).2 := by
  rw [sendRtpPacket]
  split
  · exact h
  · exact hk t payload [] marker h

theorem hevcApFlush_kept (hk : KeptByPackets writer inv) (x : Tx σ) (marker : Bool) (h : inv x.sender) :
    inv (hevcApFlush writer x marker).2.sender := by
  rw [hevcApFlush]
  split
  · exact h
  · split
    · have hpacket := sendRtpPacket_kept hk x.sender (firstQueued x.ap.payload) marker h
      dsimp only
      split <;> next heq => rw [heq] at hpacket; exact hpacket
    · have hpacket := sendRtpPacket_kept hk x.sender (apHeader x.ap ++ x.ap.payload) marker h
      dsimp only
      split <;> next heq => rw [heq] at hpacket; exact hpacket

theorem sendNalRtpHevc_kept (hk : KeptByPackets writer inv) (x : Tx σ) (data : List UInt8) (isLast : Bool)
    (maxPayload : Nat) (h : inv x.sender) : inv (sendNalRtpHevc writer x data isLast maxPayload).2.sender := by
  rw [sendNalRtpHevc]
  split
  · exact h
  · exact sendHevcNal_kept hk x.sender data isLast maxPayload h

/-- The end of send_or_queue_nal_rtp_hevc, behind the flush that makes room. -/
def queueOrSend (writer : RtpPacketizerWriteFn σ) (data : List UInt8) (isLast : Bool) (maxPayload : Nat)
    (y : Nat × Tx σ) : Nat × Tx σ :=
  if hevcApCanAdd y.2.ap data.length maxPayload then
    if isLast then
      (y.1 + (hevcApFlush writer { y.2 with ap := hevcApAdd y.2.ap data } true).1,
        (hevcApFlush writer { y.2 with ap := hevcApAdd y.2.ap data } true).2)
    else (y.1, { y.2 with ap := hevcApAdd y.2.ap data })
  else (y.1 + (sendNalRtpHevc writer y.2 data isLast maxPayload).1,
    (sendNalRtpHevc writer y.2 data isLast maxPayload).2)

theorem queueOrSend_kept (hk : KeptByPackets writer inv) (data : List UInt8) (isLast : Bool) (maxPayload : Nat)
    (y : Nat × Tx σ) (h : inv y.2.sender) : inv (queueOrSend writer data isLast maxPayload y).2.sender := by
  rw [queueOrSend]
  split
  · split
    · exact hevcApFlush_kept hk _ true h
    · exact h
  · exact sendNalRtpHevc_kept hk y.2 data isLast maxPayload h

theorem sendOrQueue_kept (hk : KeptByPackets writer inv) (x : Tx σ) (data : List UInt8) (isLast : Bool)
    (maxPayload : Nat) (h : inv x.sender) : inv (sendOrQueueNalRtpHevc writer x data isLast maxPayload).2.sender := by
  rw [sendOrQueueNalRtpHevc]
  split
  · exact h
  · dsimp only
    split
    · exact sendNalRtpHevc_kept hk _ data isLast maxPayload (hevcApFlush_kept hk _ false h)
    · apply queueOrSend_kept hk data isLast maxPayload
      split
      · exact h
      · exact hevcApFlush_kept hk _ false h

theorem sendRefs_kept (hk : KeptByPackets writer inv) (maxPayload : Nat) (refs : List (List UInt8)) (x : Tx σ)
    (h : inv x.sender) : inv (sendRefs writer maxPayload refs x).2.sender := by
  induction refs generalizing x with
  | nil => exact h
  | cons ref refs ih => exact ih _ (sendOrQueue_kept hk x ref false maxPayload h)

theorem sendSlice_kept (hk : KeptByPackets writer inv) (maxPayload : Nat) (f : Frame σ) (slice : List UInt8)
    (infoType : Option UInt8) (lastNal : Bool) (h : inv f.tx.sender) :
    inv (sendSlice writer maxPayload f slice infoType lastNal).tx.sender := by
  rw [sendSlice]
  split
  · exact h
  · dsimp only
    split
    · exact h
    · apply sendOrQueue_kept hk
      split
      · exact h
      · exact sendRefs_kept hk maxPayload _ f.tx h

theorem infoLoop_kept (hk : KeptByPackets writer inv) (maxPayload : Nat) (data : List UInt8) (lastPack : Bool)
    (infos : List MiVencPackInfo) (f : Frame σ) (h : inv f.tx.sender) :
    inv (infoLoop writer maxPayload data lastPack infos f).tx.sender := by
  induction infos generalizing f with
  | nil => exact h
  | cons info infos ih =>
      rw [infoLoop]
      apply ih
      split
      · exact h
      · exact sendSlice_kept hk maxPayload f _ _ _ h

theorem sendPack_kept (hk : KeptByPackets writer inv) (maxPayload : Nat) (pack : MiVencPack) (lastPack : Bool)
    (f : Frame σ) (h : inv f.tx.sender) : inv (sendPack writer maxPayload pack lastPack f).tx.sender := by
  rw [sendPack]
  split
  · exact h
  · split
    · exact infoLoop_kept hk maxPayload _ lastPack _ f h
    · split
      · exact h
      · exact sendSlice_kept hk maxPayload f _ none lastPack h

theorem packLoop_kept (hk : KeptByPackets writer inv) (maxPayload : Nat) (packs : List MiVencPack) (f : Frame σ)
    (h : inv f.tx.sender) : inv (packLoop writer maxPayload packs f).tx.sender := by
  induction packs generalizing f with
  | nil => exact h
  | cons pack packs ih => exact ih _ (sendPack_kept hk maxPayload pack _ f h)

/-- The sender after a frame, the timestamp apart, which moves on at its end. -/
theorem sendFrame_kept (hk : KeptByPackets writer inv) (packs : List MiVencPack) (sender : Sender σ)
    (frameTicks : UInt32) (params : Option H26xParamSets) (maxPayload : Nat) (stats : Star6eHevcRtpStats)
    (h : inv sender) :
    ∃ t, inv t ∧ (star6eHevcRtpSendFrame writer packs sender frameTicks params maxPayload stats).tx.sender =
      { t with rtp := { t.rtp with timestamp := t.rtp.timestamp + frameTicks } } :=
  ⟨_, hevcApFlush_kept hk _ true (packLoop_kept hk _ packs _ h), rfl⟩

end WaybeamVenc.FrameInvariant
