import WaybeamVenc.FrameInvariant

namespace WaybeamVenc.FrameAgreement

open H26x RtpPacketizer HevcRtp FrameInvariant

variable {σ τ : Type}

/-- Two writers that answer every packet of at most maxPayload bytes alike and
stay related, until the first one is in a bad state; it stays in one. -/
structure Agreement (writer : RtpPacketizerWriteFn σ) (writer' : RtpPacketizerWriteFn τ) (maxPayload : Nat)
    (bad : Sender σ → Prop) (rel : Sender σ → Sender τ → Prop) : Prop where
  bad_kept : KeptByPackets writer bad
  packet : ∀ t u payload1 payload2 marker, rel t u → payload1.length + payload2.length ≤ maxPayload →
    bad (rtpPacketizerSendPacket writer t payload1 payload2 marker).2 ∨
      ((rtpPacketizerSendPacket writer t payload1 payload2 marker).1 =
          (rtpPacketizerSendPacket writer' u payload1 payload2 marker).1 ∧
        rel (rtpPacketizerSendPacket writer t payload1 payload2 marker).2
          (rtpPacketizerSendPacket writer' u payload1 payload2 marker).2)

def Room (maxPayload : Nat) (ap : HevcApBuilder) : Prop := ap.nalCount ≠ 0 → 2 + ap.payload.length ≤ maxPayload

structure Alike (maxPayload : Nat) (rel : Sender σ → Sender τ → Prop) (x : Tx σ) (y : Tx τ) : Prop where
  ap : x.ap = y.ap
  stats : x.stats = y.stats
  room : Room maxPayload x.ap
  sender : rel x.sender y.sender

def Agrees (maxPayload : Nat) (bad : Sender σ → Prop) (rel : Sender σ → Sender τ → Prop) (a : Nat × Tx σ)
    (b : Nat × Tx τ) : Prop :=
  bad a.2.sender ∨ (a.1 = b.1 ∧ Alike maxPayload rel a.2 b.2)

def FramesAlike (maxPayload : Nat) (rel : Sender σ → Sender τ → Prop) (f : Frame σ) (g : Frame τ) : Prop :=
  f.totalBytes = g.totalBytes ∧ f.params = g.params ∧ Alike maxPayload rel f.tx g.tx

variable {writer : RtpPacketizerWriteFn σ} {writer' : RtpPacketizerWriteFn τ} {maxPayload : Nat}
  {bad : Sender σ → Prop} {rel : Sender σ → Sender τ → Prop}

theorem fuLoop_agrees (ha : Agreement writer writer' maxPayload bad rel) (header0 header1 : UInt8) (isLast : Bool)
    {maxFragment : Nat} (hmax : maxFragment + 3 ≤ maxPayload) (fuel : Nat) {t : Sender σ} {u : Sender τ}
    (payload : List UInt8) (start : Bool) (total : Nat) (result : RtpPacketizerResult) (h : rel t u) :
    let a := fuLoop writer header0 header1 isLast maxFragment fuel t payload start total result
    let b := fuLoop writer' header0 header1 isLast maxFragment fuel u payload start total result
    bad a.sender ∨ (a.finished = b.finished ∧ a.totalBytes = b.totalBytes ∧ a.result = b.result ∧
      rel a.sender b.sender) := by
  induction fuel generalizing t u payload start total result with
  | zero => exact Or.inr ⟨rfl, rfl, rfl, h⟩
  | succ fuel ih =>
      rw [fuLoop, fuLoop]
      split
      · exact Or.inr ⟨rfl, rfl, rfl, h⟩
      · dsimp only
        generalize hchunk : (if maxFragment < payload.length then maxFragment else payload.length) = chunk
        have hle : chunk ≤ maxFragment := by split at hchunk <;> omega
        have hsize : [fuIndicator0 header0 header1, fuIndicator1 header0 header1, fuFlags header0 start
            (decide (payload.length = chunk))].length + (payload.take chunk).length ≤ maxPayload := by
          rw [List.length_take]
          exact Nat.le_trans (by simp only [List.length_cons, List.length_nil]; omega) hmax
        have hpacket := ha.packet t u _ _ (decide (payload.length = chunk) && isLast) h hsize
        rcases hleft : rtpPacketizerSendPacket writer t [fuIndicator0 header0 header1, fuIndicator1 header0 header1,
          fuFlags header0 start (decide (payload.length = chunk))] (payload.take chunk)
          (decide (payload.length = chunk) && isLast) with ⟨ok, t'⟩
        rcases hright : rtpPacketizerSendPacket writer' u [fuIndicator0 header0 header1, fuIndicator1 header0 header1,
          fuFlags header0 start (decide (payload.length = chunk))] (payload.take chunk)
          (decide (payload.length = chunk) && isLast) with ⟨ok', u'⟩
        rw [hleft, hright] at hpacket
        rcases hpacket with hbad | ⟨hok, hrel⟩
        · cases ok with
          | false => exact Or.inl hbad
          | true => exact Or.inl (fuLoop_kept ha.bad_kept _ _ _ _ _ _ _ _ _ _ hbad)
        · cases hok
          cases ok with
          | false => exact Or.inr ⟨rfl, rfl, rfl, hrel⟩
          | true => exact ih _ false _ _ hrel

theorem sendHevcFu_agrees (ha : Agreement writer writer' maxPayload bad rel) (hcap : maxPayload ≤ rtpBufferMax)
    {t : Sender σ} {u : Sender τ} (data : List UInt8) (isLast : Bool) (h : rel t u) :
    let a := rtpPacketizerSendHevcFu writer t data isLast maxPayload
    let b := rtpPacketizerSendHevcFu writer' u data isLast maxPayload
    bad a.2.2 ∨ (a.1 = b.1 ∧ a.2.1 = b.2.1 ∧ rel a.2.2 b.2.2) := by
  match data with
  | [] | [_] => exact Or.inr ⟨rfl, rfl, h⟩
  | header0 :: header1 :: payload =>
      rw [rtpPacketizerSendHevcFu, rtpPacketizerSendHevcFu]
      split
      · exact Or.inr ⟨rfl, rfl, h⟩
      · next hguard =>
        have hthree : 3 < maxPayload := Nat.lt_of_not_le fun hle => hguard (Or.inr hle)
        dsimp only
        rw [if_neg (Nat.not_lt.2 hcap)]
        rcases fuLoop_agrees ha header0 header1 isLast (by omega : maxPayload - 3 + 3 ≤ maxPayload) payload.length
          payload true 0 ⟨0, 0, false⟩ h with hbad | ⟨hfinished, htotal, hresult, hrel⟩
        · exact Or.inl hbad
        · exact Or.inr ⟨by rw [hfinished, htotal], hresult, hrel⟩

theorem sendHevcNal_agrees (ha : Agreement writer writer' maxPayload bad rel) (hcap : maxPayload ≤ rtpBufferMax)
    {t : Sender σ} {u : Sender τ} (data : List UInt8) (isLast : Bool) (h : rel t u) :
    let a := rtpPacketizerSendHevcNal writer t data isLast maxPayload
    let b := rtpPacketizerSendHevcNal writer' u data isLast maxPayload
    bad a.2.2 ∨ (a.1 = b.1 ∧ a.2.1 = b.2.1 ∧ rel a.2.2 b.2.2) := by
  rw [rtpPacketizerSendHevcNal, rtpPacketizerSendHevcNal]
  split
  · exact Or.inr ⟨rfl, rfl, h⟩
  · split
    · next hfits =>
      have hpacket := ha.packet t u data [] isLast h hfits
      rcases hleft : rtpPacketizerSendPacket writer t data [] isLast with ⟨ok, t'⟩
      rcases hright : rtpPacketizerSendPacket writer' u data [] isLast with ⟨ok', u'⟩
      rw [hleft, hright] at hpacket
      rcases hpacket with hbad | ⟨hok, hrel⟩
      · cases ok <;> exact Or.inl hbad
      · cases hok
        cases ok <;> exact Or.inr ⟨rfl, rfl, hrel⟩
    · exact sendHevcFu_agrees ha hcap data isLast h

theorem sendNalRtpHevc_agrees (ha : Agreement writer writer' maxPayload bad rel) (hcap : maxPayload ≤ rtpBufferMax)
    {x : Tx σ} {y : Tx τ} (data : List UInt8) (isLast : Bool) (h : Alike maxPayload rel x y) :
    Agrees maxPayload bad rel (sendNalRtpHevc writer x data isLast maxPayload)
      (sendNalRtpHevc writer' y data isLast maxPayload) := by
  rw [sendNalRtpHevc, sendNalRtpHevc]
  split
  · exact Or.inr ⟨rfl, h⟩
  · rcases sendHevcNal_agrees ha hcap data isLast h.sender with hbad | ⟨hbytes, hresult, hrel⟩
    · exact Or.inl hbad
    · exact Or.inr ⟨hbytes, h.ap, by dsimp only; rw [hresult, h.stats], h.room, hrel⟩

theorem sendRtpPacket_agrees (ha : Agreement writer writer' maxPayload bad rel) {t : Sender σ} {u : Sender τ}
    {payload : List UInt8} (marker : Bool) (hfits : payload.length ≤ maxPayload) (h : rel t u) :
    bad (sendRtpPacket writer t payload marker).2 ∨
      ((sendRtpPacket writer t payload marker).1 = (sendRtpPacket writer' u payload marker).1 ∧
        rel (sendRtpPacket writer t payload marker).2 (sendRtpPacket writer' u payload marker).2) := by
  rw [sendRtpPacket, sendRtpPacket]
  split
  · exact Or.inr ⟨rfl, h⟩
  · exact ha.packet t u payload [] marker h hfits

theorem firstQueued_length (payload : List UInt8) : (firstQueued payload).length ≤ payload.length := by
  match payload with
  | [] | [_] => exact Nat.zero_le _
  | s1 :: s0 :: bytes =>
      rw [firstQueued, List.length_take]
      exact Nat.le_trans (Nat.min_le_right _ _) (by simp only [List.length_cons]; omega)

theorem room_reset : Room maxPayload hevcApReset := fun h => absurd rfl h

theorem hevcApFlush_agrees (ha : Agreement writer writer' maxPayload bad rel) {x : Tx σ} {y : Tx τ} (marker : Bool)
    (h : Alike maxPayload rel x y) :
    Agrees maxPayload bad rel (hevcApFlush writer x marker) (hevcApFlush writer' y marker) := by
  obtain ⟨hap, hstats, hroom, hsender⟩ := h
  rw [hevcApFlush, hevcApFlush, ← hap, ← hstats]
  split
  · exact Or.inr ⟨rfl, hap, hstats, hroom, hsender⟩
  · next hcount =>
    have hbound := hroom hcount
    dsimp only
    split
    · have hfits : (firstQueued x.ap.payload).length ≤ maxPayload :=
        Nat.le_trans (firstQueued_length _) (by omega)
      have hpacket := sendRtpPacket_agrees ha marker hfits hsender
      rcases hleft : sendRtpPacket writer x.sender (firstQueued x.ap.payload) marker with ⟨ok, t'⟩
      rcases hright : sendRtpPacket writer' y.sender (firstQueued x.ap.payload) marker with ⟨ok', u'⟩
      rw [hleft, hright] at hpacket
      rcases hpacket with hbad | ⟨hok, hrel⟩
      · cases ok <;> exact Or.inl hbad
      · cases hok
        cases ok <;> exact Or.inr ⟨rfl, rfl, rfl, room_reset, hrel⟩
    · have hfits : (apHeader x.ap ++ x.ap.payload).length ≤ maxPayload := by
        rw [List.length_append]
        exact hbound
      have hpacket := sendRtpPacket_agrees ha marker hfits hsender
      rcases hleft : sendRtpPacket writer x.sender (apHeader x.ap ++ x.ap.payload) marker with ⟨ok, t'⟩
      rcases hright : sendRtpPacket writer' y.sender (apHeader x.ap ++ x.ap.payload) marker with ⟨ok', u'⟩
      rw [hleft, hright] at hpacket
      rcases hpacket with hbad | ⟨hok, hrel⟩
      · cases ok <;> exact Or.inl hbad
      · cases hok
        cases ok <;> exact Or.inr ⟨rfl, rfl, rfl, room_reset, hrel⟩

theorem room_add {ap : HevcApBuilder} {nal : List UInt8} (hne : nal.length ≠ 0)
    (hadd : hevcApCanAdd ap nal.length maxPayload = true) : Room maxPayload (hevcApAdd ap nal) := by
  intro _
  rw [hevcApCanAdd] at hadd
  split at hadd
  · cases hadd
  · have hfits := of_decide_eq_true hadd
    rw [hevcApAdd, if_neg hne]
    dsimp only
    split
    · next hzero =>
      rw [if_pos hzero] at hfits
      simp only [List.length_append, List.length_cons, List.length_nil]
      omega
    · next hcount =>
      rw [if_neg hcount] at hfits
      simp only [List.length_append, List.length_cons, List.length_nil]
      omega

theorem queueOrSend_agrees (ha : Agreement writer writer' maxPayload bad rel) (hcap : maxPayload ≤ rtpBufferMax)
    {a : Nat × Tx σ} {b : Nat × Tx τ} {data : List UInt8} (isLast : Bool) (hne : data.length ≠ 0)
    (h : Agrees maxPayload bad rel a b) :
    Agrees maxPayload bad rel (queueOrSend writer data isLast maxPayload a)
      (queueOrSend writer' data isLast maxPayload b) := by
  rcases h with hbad | ⟨hbytes, halike⟩
  · exact Or.inl (queueOrSend_kept ha.bad_kept data isLast maxPayload a hbad)
  · rw [queueOrSend, queueOrSend, ← hbytes, ← halike.ap]
    split
    · next hadd =>
      have hqueued : Alike maxPayload rel { a.2 with ap := hevcApAdd a.2.ap data }
          { b.2 with ap := hevcApAdd a.2.ap data } := ⟨rfl, halike.stats, room_add hne hadd, halike.sender⟩
      split
      · rcases hevcApFlush_agrees ha true hqueued with hbad | ⟨hsent, hrest⟩
        · exact Or.inl hbad
        · exact Or.inr ⟨congrArg (a.1 + ·) hsent, hrest⟩
      · exact Or.inr ⟨rfl, hqueued⟩
    · rcases sendNalRtpHevc_agrees ha hcap data isLast halike with hbad | ⟨hsent, hrest⟩
      · exact Or.inl hbad
      · exact Or.inr ⟨congrArg (a.1 + ·) hsent, hrest⟩

theorem sendOrQueue_agrees (ha : Agreement writer writer' maxPayload bad rel) (hcap : maxPayload ≤ rtpBufferMax)
    {x : Tx σ} {y : Tx τ} (data : List UInt8) (isLast : Bool) (h : Alike maxPayload rel x y) :
    Agrees maxPayload bad rel (sendOrQueueNalRtpHevc writer x data isLast maxPayload)
      (sendOrQueueNalRtpHevc writer' y data isLast maxPayload) := by
  rw [sendOrQueueNalRtpHevc, sendOrQueueNalRtpHevc]
  split
  · exact Or.inr ⟨rfl, h⟩
  · next hne =>
    have hcounted : Alike maxPayload rel { x with stats := { x.stats with totalNals := x.stats.totalNals + 1 } }
        { y with stats := { y.stats with totalNals := y.stats.totalNals + 1 } } :=
      ⟨h.ap, by dsimp only; rw [h.stats], h.room, h.sender⟩
    have hflushed := hevcApFlush_agrees ha false hcounted
    dsimp only
    split
    · rcases hflushed with hbad | ⟨hbytes, halike⟩
      · exact Or.inl (sendNalRtpHevc_kept ha.bad_kept _ data isLast maxPayload hbad)
      · rcases sendNalRtpHevc_agrees ha hcap data isLast halike with hbad | ⟨hsent, hrest⟩
        · exact Or.inl hbad
        · exact Or.inr ⟨congrArg₂ (· + ·) hbytes hsent, hrest⟩
    · have hroom : hevcApCanAdd y.ap data.length maxPayload = hevcApCanAdd x.ap data.length maxPayload := by rw [h.ap]
      apply queueOrSend_agrees ha hcap isLast hne
      rw [hroom]
      split
      · exact Or.inr ⟨rfl, hcounted⟩
      · exact hflushed

theorem sendRefs_agrees (ha : Agreement writer writer' maxPayload bad rel) (hcap : maxPayload ≤ rtpBufferMax)
    (refs : List (List UInt8)) {x : Tx σ} {y : Tx τ} (h : Alike maxPayload rel x y) :
    Agrees maxPayload bad rel (sendRefs writer maxPayload refs x) (sendRefs writer' maxPayload refs y) := by
  induction refs generalizing x y with
  | nil => exact Or.inr ⟨rfl, h⟩
  | cons ref refs ih =>
      rw [sendRefs, sendRefs]
      rcases sendOrQueue_agrees ha hcap ref false h with hbad | ⟨hsent, hrest⟩
      · exact Or.inl (sendRefs_kept ha.bad_kept maxPayload refs _ hbad)
      · rcases ih hrest with hbad | ⟨hmore, hlast⟩
        · exact Or.inl hbad
        · exact Or.inr ⟨congrArg₂ (· + ·) hsent hmore, hlast⟩

theorem sendSlice_agrees (ha : Agreement writer writer' maxPayload bad rel) (hcap : maxPayload ≤ rtpBufferMax)
    {f : Frame σ} {g : Frame τ} (slice : List UInt8) (infoType : Option UInt8) (lastNal : Bool)
    (h : FramesAlike maxPayload rel f g) :
    bad (sendSlice writer maxPayload f slice infoType lastNal).tx.sender ∨
      FramesAlike maxPayload rel (sendSlice writer maxPayload f slice infoType lastNal)
        (sendSlice writer' maxPayload g slice infoType lastNal) := by
  obtain ⟨hbytes, hparams, halike⟩ := h
  rw [sendSlice, sendSlice, ← hparams]
  split
  · exact Or.inr ⟨hbytes, hparams, halike⟩
  · dsimp only
    split
    · exact Or.inr ⟨hbytes, hparams, halike⟩
    · generalize h26xUtilStripStartCode slice = nal
      generalize infoType.getD (h26xUtilHevcNaluType nal) = nalType
      generalize f.params.map (h26xParamSetsUpdate · .h265 nalType nal) = params
      cases params with
      | none =>
          rcases sendOrQueue_agrees ha hcap nal lastNal halike with hbad | ⟨hsent, hrest⟩
          · exact Or.inl hbad
          · exact Or.inr ⟨congrArg₂ (· + ·) (congrArg (· + 0) hbytes) hsent, rfl, hrest⟩
      | some params =>
          rcases sendRefs_agrees ha hcap (h26xParamSetsGetPrepend params .h265 nalType 3) halike with
            hbad | ⟨hprepended, hqueued⟩
          · exact Or.inl (sendOrQueue_kept ha.bad_kept _ nal lastNal maxPayload hbad)
          · rcases sendOrQueue_agrees ha hcap nal lastNal hqueued with hbad | ⟨hsent, hrest⟩
            · exact Or.inl hbad
            · exact Or.inr ⟨congrArg₂ (· + ·) (congrArg₂ (· + ·) hbytes hprepended) hsent, rfl, hrest⟩

theorem infoLoop_agrees (ha : Agreement writer writer' maxPayload bad rel) (hcap : maxPayload ≤ rtpBufferMax)
    (data : List UInt8) (lastPack : Bool) (infos : List MiVencPackInfo) {f : Frame σ} {g : Frame τ}
    (h : FramesAlike maxPayload rel f g) :
    bad (infoLoop writer maxPayload data lastPack infos f).tx.sender ∨
      FramesAlike maxPayload rel (infoLoop writer maxPayload data lastPack infos f)
        (infoLoop writer' maxPayload data lastPack infos g) := by
  induction infos generalizing f g with
  | nil => exact Or.inr h
  | cons info infos ih =>
      rw [infoLoop, infoLoop]
      cases infoSlice data info with
      | none => exact ih h
      | some slice =>
          rcases sendSlice_agrees ha hcap slice (some info.h265Nalu.toUInt8) (lastPack && infos.isEmpty) h with
            hbad | hrest
          · exact Or.inl (infoLoop_kept ha.bad_kept maxPayload data lastPack infos _ hbad)
          · exact ih hrest

theorem sendPack_agrees (ha : Agreement writer writer' maxPayload bad rel) (hcap : maxPayload ≤ rtpBufferMax)
    (pack : MiVencPack) (lastPack : Bool) {f : Frame σ} {g : Frame τ} (h : FramesAlike maxPayload rel f g) :
    bad (sendPack writer maxPayload pack lastPack f).tx.sender ∨
      FramesAlike maxPayload rel (sendPack writer maxPayload pack lastPack f)
        (sendPack writer' maxPayload pack lastPack g) := by
  rw [sendPack, sendPack]
  cases pack.data with
  | none => exact Or.inr h
  | some data =>
      dsimp only
      split
      · exact infoLoop_agrees ha hcap data lastPack _ h
      · split
        · exact Or.inr h
        · exact sendSlice_agrees ha hcap _ none lastPack h

theorem packLoop_agrees (ha : Agreement writer writer' maxPayload bad rel) (hcap : maxPayload ≤ rtpBufferMax)
    (packs : List MiVencPack) {f : Frame σ} {g : Frame τ} (h : FramesAlike maxPayload rel f g) :
    bad (packLoop writer maxPayload packs f).tx.sender ∨
      FramesAlike maxPayload rel (packLoop writer maxPayload packs f) (packLoop writer' maxPayload packs g) := by
  induction packs generalizing f g with
  | nil => exact Or.inr h
  | cons pack packs ih =>
      rcases sendPack_agrees ha hcap pack packs.isEmpty h with hbad | hrest
      · exact Or.inl (packLoop_kept ha.bad_kept maxPayload packs _ hbad)
      · exact ih hrest

/-- A frame over both writers, the step of the timestamp at its end apart. -/
theorem sendFrame_agrees {limit : Nat} (ha : Agreement writer writer' (min limit rtpBufferMax) bad rel)
    (packs : List MiVencPack) {t : Sender σ} {u : Sender τ} (frameTicks : UInt32) (params : Option H26xParamSets)
    (stats : Star6eHevcRtpStats) (h : rel t u) :
    let f := star6eHevcRtpSendFrame writer packs t frameTicks params limit stats
    let g := star6eHevcRtpSendFrame writer' packs u frameTicks params limit stats
    ∃ t' u', f.tx.sender = { t' with rtp := { t'.rtp with timestamp := t'.rtp.timestamp + frameTicks } } ∧
      g.tx.sender = { u' with rtp := { u'.rtp with timestamp := u'.rtp.timestamp + frameTicks } } ∧
      (bad t' ∨ (rel t' u' ∧ f.totalBytes = g.totalBytes ∧ f.params = g.params ∧ f.tx.stats = g.tx.stats)) := by
  have hmin : (if rtpBufferMax < limit then rtpBufferMax else limit) = min limit rtpBufferMax := by
    split <;> omega
  rw [star6eHevcRtpSendFrame, star6eHevcRtpSendFrame, hmin]
  refine ⟨_, _, rfl, rfl, ?_⟩
  have hstart : FramesAlike (min limit rtpBufferMax) rel ⟨0, ⟨t, hevcApReset, stats⟩, params⟩
      ⟨0, ⟨u, hevcApReset, stats⟩, params⟩ := ⟨rfl, rfl, rfl, rfl, room_reset, h⟩
  rcases packLoop_agrees ha (Nat.min_le_right _ _) packs hstart with hbad | ⟨hbytes, hparams, halike⟩
  · exact Or.inl (hevcApFlush_kept ha.bad_kept _ true hbad)
  · rcases hevcApFlush_agrees ha true halike with hbad | ⟨hsent, hrest⟩
    · exact Or.inl hbad
    · exact Or.inr ⟨hrest.sender, congrArg₂ (· + ·) hbytes hsent, hparams, hrest.stats⟩

end WaybeamVenc.FrameAgreement
