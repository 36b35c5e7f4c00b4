import Mathlib.Tactic.IntervalCases
import WaybeamVenc.HevcRtp
import WaybeamVenc.HevcDepay

namespace WaybeamVenc.HevcRoundTrip

open H26x RtpPacketizer HevcRtp HevcDepay

variable {σ : Type}

/-- The calls a writer was given and whether each returned zero. -/
abbrev Log := List (WriteCall × Bool)

def logged (writer : RtpPacketizerWriteFn σ) : RtpPacketizerWriteFn (σ × Log) := fun out c =>
  ((writer out.1 c).1, (writer out.1 c).2, out.2 ++ [(c, (writer out.1 c).1)])

def payloads (log : Log) : List (List UInt8) := log.map (·.1.payload)

def succeeded (log : Log) : Prop := ∀ e ∈ log, e.2 = true

/-- What happens to the writer between two states: payloads of at most
maxPayload bytes, from which the units come back if every call succeeded. -/
def Sends (maxPayload : Nat) (t t' : Sender (σ × Log)) (nals : List (List UInt8)) : Prop :=
  ∃ log, t'.out.2 = t.out.2 ++ log ∧ (∀ payload ∈ payloads log, payload.length ≤ maxPayload) ∧
    (succeeded log → depacketize none (payloads log) = some nals)

theorem Sends.refl (maxPayload : Nat) (t : Sender (σ × Log)) : Sends maxPayload t t [] :=
  ⟨[], (List.append_nil _).symm, List.forall_mem_nil _, fun _ => rfl⟩

theorem Sends.trans {maxPayload : Nat} {t u v : Sender (σ × Log)} {nals nals' : List (List UInt8)}
    (h : Sends maxPayload t u nals) (k : Sends maxPayload u v nals') : Sends maxPayload t v (nals ++ nals') := by
  obtain ⟨log, hlog, hsize, hnals⟩ := h
  obtain ⟨log', hlog', hsize', hnals'⟩ := k
  refine ⟨log ++ log', by rw [hlog', hlog, List.append_assoc], ?_, ?_⟩
  · intro payload hmem
    rw [payloads, List.map_append] at hmem
    rcases List.mem_append.mp hmem with h | h
    · exact hsize payload h
    · exact hsize' payload h
  · intro hok
    rw [payloads, List.map_append]
    exact depacketize_append (hnals (fun e he => hok e (List.mem_append_left _ he)))
      (hnals' (fun e he => hok e (List.mem_append_right _ he)))

theorem sendPacket_log (writer : RtpPacketizerWriteFn σ) (t : Sender (σ × Log)) (payload1 payload2 : List UInt8)
    (marker : Bool) (hne : payload1 ≠ []) :
    (rtpPacketizerSendPacket (logged writer) t payload1 payload2 marker).2.out.2 =
      t.out.2 ++ [(⟨rtpHeader t.rtp marker, payload1, payload2⟩,
        (rtpPacketizerSendPacket (logged writer) t payload1 payload2 marker).1)] := by
  rw [rtpPacketizerSendPacket, if_neg hne]
  simp only [logged]
  cases (writer t.out.1 ⟨rtpHeader t.rtp marker, payload1, payload2⟩).1 <;> rfl

theorem sendPacket_sends (writer : RtpPacketizerWriteFn σ) (t : Sender (σ × Log)) {payload : List UInt8}
    {nals : List (List UInt8)} {maxPayload : Nat} (marker : Bool) (hne : payload ≠ [])
    (hlen : payload.length ≤ maxPayload) (hnals : depacketize none [payload] = some nals) :
    Sends maxPayload t (rtpPacketizerSendPacket (logged writer) t payload [] marker).2 nals := by
  refine ⟨_, sendPacket_log writer t payload [] marker hne, ?_, ?_⟩
  · intro p hp
    rw [payloads, List.map_singleton, List.mem_singleton, WriteCall.payload, List.append_nil] at hp
    rw [hp]
    exact hlen
  · intro _
    rw [payloads, List.map_singleton, WriteCall.payload, List.append_nil]
    exact hnals

theorem eq_of_bits {a b : UInt8} (h : ∀ i, i < 8 → a.toBitVec.getLsbD i = b.toBitVec.getLsbD i) : a = b :=
  UInt8.eq_of_toBitVec_eq (BitVec.eq_of_getLsbD_eq h)

theorem fuIndicator0_type (header0 header1 : UInt8) : nalType (fuIndicator0 header0 header1) = 49 := by
  apply eq_of_bits
  intro i hi
  interval_cases i <;> simp [nalType, fuIndicator0, nuhLayerId]

theorem fuIndicator1_eq (header0 header1 : UInt8) : fuIndicator1 header0 header1 = header1 := by
  apply eq_of_bits
  intro i hi
  interval_cases i <;> simp [fuIndicator1, nuhLayerId]

theorem unitHeader_fu (header0 header1 : UInt8) (start last : Bool) :
    unitHeader (fuIndicator0 header0 header1) (fuFlags header0 start last) = header0 := by
  apply eq_of_bits
  intro i hi
  interval_cases i <;> cases start <;> cases last <;> simp [unitHeader, fuIndicator0, fuFlags, nuhLayerId]

theorem fuFlags_start (header0 : UInt8) (start last : Bool) :
    (fuFlags header0 start last).toNat.testBit 7 = start := by
  change (fuFlags header0 start last).toBitVec.getLsbD 7 = start
  cases start <;> cases last <;> simp [fuFlags]

theorem fuFlags_last (header0 : UInt8) (start last : Bool) :
    (fuFlags header0 start last).toNat.testBit 6 = last := by
  change (fuFlags header0 start last).toBitVec.getLsbD 6 = last
  cases start <;> cases last <;> simp [fuFlags]

theorem receive_fu (header0 header1 : UInt8) {got : Option (List UInt8)} {fragment : List UInt8} (last : Bool)
    (hne : fragment ≠ []) (hlast : last = true → got ≠ none) :
    receive got ([fuIndicator0 header0 header1, fuIndicator1 header0 header1, fuFlags header0 got.isNone last] ++ fragment) =
      some (if last then (none, [got.getD [header0, header1] ++ fragment])
        else (some (got.getD [header0, header1] ++ fragment), [])) := by
  have htype := fuIndicator0_type header0 header1
  cases got with
  | none =>
      cases last with
      | true => exact absurd rfl (hlast rfl)
      | false =>
          have h := receive_start (fuIndicator1 header0 header1) htype (fuFlags_start header0 true false)
            (fuFlags_last header0 true false) hne
          rw [unitHeader_fu, fuIndicator1_eq] at h
          rw [fuIndicator1_eq]
          exact h
  | some nal =>
      have h := receive_later (fuIndicator1 header0 header1) nal htype (fuFlags_start header0 false last) hne
      rw [fuFlags_last] at h
      exact h

theorem depacketize_last (header0 header1 : UInt8) {got : Option (List UInt8)} {payload : List UInt8} {call : WriteCall}
    (hne : payload ≠ []) (hgot : got ≠ none)
    (hcall : call.payload =
      [fuIndicator0 header0 header1, fuIndicator1 header0 header1, fuFlags header0 got.isNone true] ++ payload) :
    depacketize got (payloads [(call, true)]) = some [got.getD [header0, header1] ++ payload] := by
  rw [payloads, List.map_singleton, depacketize, hcall, receive_fu header0 header1 true hne fun _ => hgot]
  rfl

theorem depacketize_more (header0 header1 : UInt8) {got : Option (List UInt8)} {fragment : List UInt8}
    {call : WriteCall} {log : Log} {nals : List (List UInt8)} (hne : fragment ≠ [])
    (hcall : call.payload =
      [fuIndicator0 header0 header1, fuIndicator1 header0 header1, fuFlags header0 got.isNone false] ++ fragment)
    (hrest : depacketize (some (got.getD [header0, header1] ++ fragment)) (payloads log) = some nals) :
    depacketize got (payloads ((call, true) :: log)) = some nals := by
  have hreceive : receive got _ = _ := receive_fu header0 header1 false hne (fun h => by cases h)
  rw [payloads, List.map_cons, depacketize, hcall, hreceive]
  change (depacketize (some (got.getD [header0, header1] ++ fragment)) (payloads log)).map ([] ++ ·) = _
  rw [hrest]
  rfl

/-- A fragment of a payload: never empty, within the maximum, and the whole only
when that fits. -/
theorem chunk_bounds {maxFragment : Nat} {payload : List UInt8} (hmax : 0 < maxFragment) (hne : payload ≠ []) :
    ∃ chunk, (if maxFragment < payload.length then maxFragment else payload.length) = chunk ∧ chunk ≤ maxFragment ∧
      payload.take chunk ≠ [] ∧ (maxFragment < payload.length → payload.length ≠ chunk) := by
  have hpos : payload.length ≠ 0 := fun h => hne (List.eq_nil_of_length_eq_zero h)
  refine ⟨_, rfl, ?_⟩
  rw [Ne, List.take_eq_nil_iff]
  split
  next hlarge => exact ⟨Nat.le_refl _, fun h => h.elim (by omega) hne, fun _ => by omega⟩
  next hsmall => exact ⟨by omega, fun h => h.elim hpos hne, fun h => absurd h hsmall⟩

/-- The loop from any point of a unit on: got is what was sent of it, and the
first fragment is never the last. -/
theorem fuLoop_spec (writer : RtpPacketizerWriteFn σ) (header0 header1 : UInt8) (isLast : Bool) {maxFragment : Nat}
    (hmax : 0 < maxFragment) (fuel : Nat) (t : Sender (σ × Log)) (payload : List UInt8) (got : Option (List UInt8))
    (total : Nat) (result : RtpPacketizerResult) (hne : payload ≠ []) (hfuel : payload.length ≤ fuel)
    (hstart : got = none → maxFragment < payload.length) :
    ∃ log, (fuLoop (logged writer) header0 header1 isLast maxFragment fuel t payload got.isNone total
          result).sender.out.2 = t.out.2 ++ log ∧
      (∀ p ∈ payloads log, p.length ≤ maxFragment + 3) ∧
      (succeeded log → depacketize got (payloads log) = some [got.getD [header0, header1] ++ payload]) := by
  induction fuel generalizing t payload got total result with
  | zero => exact absurd (List.eq_nil_of_length_eq_zero (Nat.le_zero.mp hfuel)) hne
  | succ fuel ih =>
      have hpos : payload.length ≠ 0 := fun h => hne (List.eq_nil_of_length_eq_zero h)
      obtain ⟨chunk, hchunk, hchunkMax, hfragment, hsplit⟩ := chunk_bounds hmax hne
      have hlog := sendPacket_log writer t [fuIndicator0 header0 header1, fuIndicator1 header0 header1,
        fuFlags header0 got.isNone (decide (payload.length = chunk))] (payload.take chunk)
        (decide (payload.length = chunk) && isLast) (List.cons_ne_nil _ _)
      rw [fuLoop, if_neg hpos]
      simp only [hchunk]
      generalize hcall : WriteCall.mk _ [fuIndicator0 header0 header1, fuIndicator1 header0 header1,
        fuFlags header0 got.isNone (decide (payload.length = chunk))] (payload.take chunk) = call at hlog
      have hpayload : call.payload = [fuIndicator0 header0 header1, fuIndicator1 header0 header1,
          fuFlags header0 got.isNone (decide (payload.length = chunk))] ++ payload.take chunk := by
        rw [← hcall]
        rfl
      have hsize : call.payload.length ≤ maxFragment + 3 := by
        rw [hpayload, List.length_append, List.length_take]
        simp only [List.length_cons, List.length_nil]
        omega
      generalize rtpPacketizerSendPacket (logged writer) t _ _ _ = r at hlog ⊢
      obtain ⟨ok, t'⟩ := r
      cases ok with
      | false =>
          refine ⟨[(call, false)], hlog, List.forall_mem_singleton.mpr hsize, fun hok => ?_⟩
          exact absurd (hok _ (List.mem_singleton_self _)) Bool.false_ne_true
      | true =>
          by_cases hdone : payload.length = chunk
          · refine ⟨[(call, true)], ?_, List.forall_mem_singleton.mpr hsize, fun _ => ?_⟩
            · have hrest : payload.drop chunk = [] := List.drop_of_length_le (by omega)
              rw [hrest]
              cases fuel <;> exact hlog
            · have hwhole : payload.take chunk = payload := List.take_of_length_le (by omega)
              rw [decide_eq_true hdone, hwhole] at hpayload
              exact depacketize_last header0 header1 hne (fun h => hsplit (hstart h) hdone) hpayload
          · have hlen : (payload.take chunk).length ≠ 0 := fun h => hfragment (List.eq_nil_of_length_eq_zero h)
            rw [List.length_take] at hlen
            have hchunkLen : chunk ≤ payload.length := by
              rw [← hchunk]
              split <;> omega
            have hrest : payload.drop chunk ≠ [] := by
              intro h
              have hnone := List.drop_eq_nil_iff.mp h
              omega
            obtain ⟨log, hlogs, hsizes, hnals⟩ := ih t' (payload.drop chunk)
              (some (got.getD [header0, header1] ++ payload.take chunk)) (total + chunk)
              ⟨result.packetCount + 1, result.payloadBytes + UInt32.ofNat (chunk + 3), true⟩ hrest
              (by rw [List.length_drop]; omega) (fun h => by cases h)
            refine ⟨(call, true) :: log, ?_, ?_, fun hok => ?_⟩
            · have hout : t'.out.2 = t.out.2 ++ [(call, true)] := hlog
              rw [hout, List.append_assoc] at hlogs
              exact hlogs
            · exact List.forall_mem_cons.mpr ⟨hsize, hsizes⟩
            · have htail := hnals (fun e he => hok e (List.mem_cons_of_mem _ he))
              rw [Option.getD_some, List.append_assoc, List.take_append_drop] at htail
              rw [decide_eq_false hdone] at hpayload
              exact depacketize_more header0 header1 hfragment hpayload htail

/-- A unit that no receiver takes for an aggregation packet or a fragment. -/
def Plain (nal : List UInt8) : Prop := nal ≠ [] ∧ h26xUtilHevcNaluType nal < 48

theorem Plain.depacketizes {nal : List UInt8} (h : Plain nal) : depacketize none [nal] = some [nal] := by
  obtain ⟨b0, bytes, rfl⟩ := List.exists_cons_of_ne_nil h.1
  exact depacketize_single h.2

theorem sendHevcNal_sends (writer : RtpPacketizerWriteFn σ) (t : Sender (σ × Log)) {data : List UInt8} (isLast : Bool)
    {maxPayload : Nat} (hmax : 3 < maxPayload) (hbuffer : maxPayload ≤ rtpBufferMax) (hplain : Plain data) :
    Sends maxPayload t (rtpPacketizerSendHevcNal (logged writer) t data isLast maxPayload).2.2 [data] := by
  have hne : data.length ≠ 0 := fun h => hplain.1 (List.eq_nil_of_length_eq_zero h)
  rw [rtpPacketizerSendHevcNal, if_neg hne]
  by_cases hfits : data.length ≤ maxPayload
  · rw [if_pos hfits]
    have hsends := sendPacket_sends writer t isLast hplain.1 hfits hplain.depacketizes
    generalize rtpPacketizerSendPacket (logged writer) t data [] isLast = r at hsends ⊢
    obtain ⟨ok, t'⟩ := r
    cases ok <;> exact hsends
  · rw [if_neg hfits]
    match data, hfits with
    | [], hfits => exact absurd (Nat.zero_le _) hfits
    | [_], hfits => exact absurd (by change 1 ≤ maxPayload; omega) hfits
    | header0 :: header1 :: payload, hfits =>
      have hlong : maxPayload < payload.length + 2 := Nat.lt_of_not_le hfits
      have hguard : ¬ (payload.length = 0 ∨ maxPayload ≤ 3) := by omega
      have hcap : (if rtpBufferMax < maxPayload then rtpBufferMax else maxPayload) = maxPayload :=
        if_neg (Nat.not_lt.mpr hbuffer)
      have hpayload : payload ≠ [] := by
        rintro rfl
        exact hguard (Or.inl rfl)
      rw [rtpPacketizerSendHevcFu, if_neg hguard]
      simp only [hcap]
      obtain ⟨log, hlog, hsize, hnals⟩ := fuLoop_spec writer header0 header1 isLast (by omega) payload.length t payload
        none 0 ⟨0, 0, false⟩ hpayload (Nat.le_refl _) (fun _ => (by omega : maxPayload - 3 < payload.length))
      refine ⟨log, hlog, fun p hp => ?_, hnals⟩
      have hp := hsize p hp
      omega

structure Queued (maxPayload : Nat) (ap : HevcApBuilder) (pending : List (List UInt8)) : Prop where
  payload : ap.payload = pending.flatMap sized
  count : ap.nalCount = pending.length
  forbidden : ap.forbiddenZero = 0 ∨ ap.forbiddenZero = 0x80
  plain : ∀ nal ∈ pending, Plain nal
  short : ∀ nal ∈ pending, nal.length < 65536
  fits : pending ≠ [] → 2 + ap.payload.length ≤ maxPayload

theorem Queued.empty (maxPayload : Nat) : Queued maxPayload hevcApReset [] :=
  ⟨rfl, rfl, Or.inl rfl, List.forall_mem_nil _, List.forall_mem_nil _, fun h => absurd rfl h⟩

theorem sendRtpPacket_sends (writer : RtpPacketizerWriteFn σ) (t : Sender (σ × Log)) {payload : List UInt8}
    {nals : List (List UInt8)} {maxPayload : Nat} (marker : Bool) (hne : payload ≠ [])
    (hlen : payload.length ≤ maxPayload) (hnals : depacketize none [payload] = some nals) :
    Sends maxPayload t (sendRtpPacket (logged writer) t payload marker).2 nals := by
  have hpos : payload.length ≠ 0 := fun h => hne (List.eq_nil_of_length_eq_zero h)
  rw [sendRtpPacket, if_neg hpos]
  exact sendPacket_sends writer t marker hne hlen hnals

theorem sized_toNat {n : Nat} (hn : n < 65536) :
    ((UInt8.ofNat (n / 256)).toNat <<< 8) ||| (UInt8.ofNat (n % 256)).toNat = n := by
  rw [UInt8.toNat_ofNat_of_lt' (by change _ < 256; omega), UInt8.toNat_ofNat_of_lt' (by change _ < 256; omega),
    ← Nat.shiftLeft_add_eq_or_of_lt (by omega : n % 256 < 2 ^ 8), Nat.shiftLeft_eq]
  omega

theorem firstQueued_sized {nal : List UInt8} (hn : nal.length < 65536) : firstQueued (sized nal) = nal := by
  rw [sized, firstQueued, sized_toNat hn, List.take_length]

theorem apHeader_type {ap : HevcApBuilder} (h : ap.forbiddenZero = 0 ∨ ap.forbiddenZero = 0x80) :
    ∃ b0 b1, apHeader ap = [b0, b1] ∧ nalType b0 = 48 := by
  refine ⟨_, _, rfl, ?_⟩
  rcases h with h | h
  · rw [h]
    apply eq_of_bits
    intro i hi
    interval_cases i <;> simp [nalType]
  · rw [h]
    apply eq_of_bits
    intro i hi
    interval_cases i <;> simp [nalType]

theorem hevcApFlush_spec (writer : RtpPacketizerWriteFn σ) (x : Tx (σ × Log)) (marker : Bool) {maxPayload : Nat}
    {pending : List (List UInt8)} (h : Queued maxPayload x.ap pending) :
    Sends maxPayload x.sender (hevcApFlush (logged writer) x marker).2.sender pending ∧
      Queued maxPayload (hevcApFlush (logged writer) x marker).2.ap [] := by
  rw [hevcApFlush]
  match pending, h with
  | [], h =>
    have hzero : x.ap.nalCount = 0 := h.count
    rw [if_pos hzero]
    exact ⟨Sends.refl maxPayload x.sender, h⟩
  | [nal], h =>
    have hone : x.ap.nalCount = 1 := h.count
    have hpayload : x.ap.payload = sized nal := by
      rw [h.payload, List.flatMap_singleton]
    have hfits := h.fits (List.cons_ne_nil _ _)
    have hnal : firstQueued x.ap.payload = nal := by
      rw [hpayload]
      exact firstQueued_sized (h.short nal (List.mem_singleton_self nal))
    have hplain := h.plain nal (List.mem_singleton_self nal)
    have hlen : nal.length ≤ maxPayload := by
      rw [hpayload] at hfits
      simp only [sized, List.length_cons] at hfits
      omega
    have hsends := sendRtpPacket_sends writer x.sender marker hplain.1 hlen hplain.depacketizes
    rw [if_neg (by omega), if_pos hone]
    simp only [hnal]
    generalize sendRtpPacket (logged writer) x.sender nal marker = r at hsends ⊢
    obtain ⟨ok, sender⟩ := r
    cases ok <;> exact ⟨hsends, Queued.empty maxPayload⟩
  | nal :: nal' :: pending, h =>
    have hcount : x.ap.nalCount = pending.length + 2 := h.count
    obtain ⟨b0, b1, hheader, htype⟩ := apHeader_type h.forbidden
    have hfits := h.fits (List.cons_ne_nil _ _)
    have haggregate : depacketize none [apHeader x.ap ++ x.ap.payload] = some (nal :: nal' :: pending) := by
      rw [hheader, h.payload]
      apply depacketize_aggregate htype
      · intro n hn
        exact ⟨List.length_pos_iff.mpr (h.plain n hn).1, h.short n hn⟩
      · exact Nat.le_add_left 2 _
    have hne : apHeader x.ap ++ x.ap.payload ≠ [] := by
      rw [hheader]
      exact List.cons_ne_nil _ _
    have hlen : (apHeader x.ap ++ x.ap.payload).length ≤ maxPayload := by
      rw [hheader, List.length_append]
      exact hfits
    have hsends := sendRtpPacket_sends writer x.sender marker hne hlen haggregate
    rw [if_neg (by omega), if_neg (by omega)]
    simp only
    generalize sendRtpPacket (logged writer) x.sender (apHeader x.ap ++ x.ap.payload) marker = r at hsends ⊢
    obtain ⟨ok, sender⟩ := r
    cases ok <;> exact ⟨hsends, Queued.empty maxPayload⟩

theorem size_bytes {nal : List UInt8} (hn : nal.length < 65536) :
    [UInt8.ofNat (nal.length >>> 8 &&& 0xFF), UInt8.ofNat (nal.length &&& 0xFF)] ++ nal = sized nal := by
  have hbyte (n : Nat) : n &&& 0xFF = n % 256 := Nat.and_two_pow_sub_one_eq_mod n 8
  have hhigh : nal.length / 256 % 256 = nal.length / 256 := by omega
  rw [hbyte, hbyte, Nat.shiftRight_eq_div_pow, hhigh]
  rfl

theorem top_bit (b : UInt8) : b &&& 0x80 = 0 ∨ b &&& 0x80 = 0x80 := by
  cases hbit : b.toBitVec.getLsbD 7 with
  | false =>
      left
      apply eq_of_bits
      intro i hi
      interval_cases i <;> simp
      simpa using hbit
  | true =>
      right
      apply eq_of_bits
      intro i hi
      interval_cases i <;> simp
      simpa using hbit

theorem or_top_bit {a b : UInt8} (ha : a = 0 ∨ a = 0x80) (hb : b = 0 ∨ b = 0x80) : a ||| b = 0 ∨ a ||| b = 0x80 := by
  rcases ha with rfl | rfl <;> rcases hb with rfl | rfl <;> decide

theorem canAdd_room {ap : HevcApBuilder} {nalLen maxPayload : Nat} (h : hevcApCanAdd ap nalLen maxPayload = true) :
    nalLen ≠ 0 ∧ nalLen < 65536 ∧ (if ap.nalCount = 0 then 2 else 2 + ap.payload.length) + 2 + nalLen ≤ maxPayload := by
  rw [hevcApCanAdd] at h
  by_cases hlen : nalLen = 0 ∨ 65535 < nalLen
  · rw [if_pos hlen] at h
    cases h
  · rw [if_neg hlen] at h
    exact ⟨by omega, by omega, of_decide_eq_true h⟩

structure Waiting (ap : HevcApBuilder) (pending : List (List UInt8)) : Prop where
  payload : ap.payload = pending.flatMap sized
  count : ap.nalCount = pending.length
  forbidden : ap.forbiddenZero = 0 ∨ ap.forbiddenZero = 0x80
  held : ∀ nal ∈ pending, nal ≠ []
  short : ∀ nal ∈ pending, nal.length < 65536

theorem Waiting.empty : Waiting hevcApReset [] :=
  ⟨rfl, rfl, Or.inl rfl, List.forall_mem_nil _, List.forall_mem_nil _⟩

theorem hevcApAdd_waiting {ap : HevcApBuilder} {nal : List UInt8} {pending : List (List UInt8)} (h : Waiting ap pending)
    (hne : nal.length ≠ 0) (hshort : nal.length < 65536) : Waiting (hevcApAdd ap nal) (pending ++ [nal]) := by
  have hhelds : ∀ n ∈ pending ++ [nal], n ≠ [] := by
    intro n hn
    rcases List.mem_append.mp hn with hn | hn
    · exact h.held n hn
    · rw [List.mem_singleton.mp hn]
      exact fun hnil => hne (congrArg List.length hnil)
  have hshorts : ∀ n ∈ pending ++ [nal], n.length < 65536 := by
    intro n hn
    rcases List.mem_append.mp hn with hn | hn
    · exact h.short n hn
    · rw [List.mem_singleton.mp hn]
      exact hshort
  have hflat : (pending ++ [nal]).flatMap sized = pending.flatMap sized ++ sized nal := by
    rw [List.flatMap_append, List.flatMap_singleton]
  rw [hevcApAdd, if_neg hne]
  by_cases hempty : ap.nalCount = 0
  · have hnone : pending = [] := List.eq_nil_of_length_eq_zero (h.count.symm.trans hempty)
    subst hnone
    simp only [if_pos hempty, size_bytes hshort]
    exact ⟨hflat.symm, rfl, top_bit _, hhelds, hshorts⟩
  · simp only [if_neg hempty, size_bytes hshort]
    refine ⟨?_, ?_, or_top_bit h.forbidden (top_bit _), hhelds, hshorts⟩
    · change ap.payload ++ sized nal = _
      rw [hflat, h.payload]
    · change ap.nalCount + 1 = _
      rw [List.length_append, h.count]
      rfl

theorem Queued.waiting {maxPayload : Nat} {ap : HevcApBuilder} {pending : List (List UInt8)}
    (h : Queued maxPayload ap pending) : Waiting ap pending :=
  ⟨h.payload, h.count, h.forbidden, fun nal hnal => (h.plain nal hnal).1, h.short⟩

theorem hevcApAdd_spec {ap : HevcApBuilder} {nal : List UInt8} {maxPayload : Nat} {pending : List (List UInt8)}
    (h : Queued maxPayload ap pending) (hplain : Plain nal) (hroom : hevcApCanAdd ap nal.length maxPayload = true) :
    Queued maxPayload (hevcApAdd ap nal) (pending ++ [nal]) := by
  obtain ⟨hne, hshort, hfits⟩ := canAdd_room hroom
  have hwaiting := hevcApAdd_waiting h.waiting hne hshort
  refine ⟨hwaiting.payload, hwaiting.count, hwaiting.forbidden, ?_, hwaiting.short, fun _ => ?_⟩
  · intro n hn
    rcases List.mem_append.mp hn with hn | hn
    · exact h.plain n hn
    · rw [List.mem_singleton.mp hn]
      exact hplain
  · have hsize : (sized nal).length = nal.length + 2 := rfl
    rw [hwaiting.payload, List.flatMap_append, List.flatMap_singleton, ← h.payload, List.length_append]
    by_cases hempty : ap.nalCount = 0
    · have hnone : pending = [] := List.eq_nil_of_length_eq_zero (h.count.symm.trans hempty)
      have hpayload : ap.payload = [] := by rw [h.payload, hnone, List.flatMap_nil]
      rw [if_pos hempty] at hfits
      rw [hpayload, List.length_nil]
      omega
    · rw [if_neg hempty] at hfits
      omega

/-- A part of a frame: from any queue it sends a front part of what was queued
and its own units, and the rest is queued. -/
def Moves (maxPayload : Nat) (x x' : Tx (σ × Log)) (nals : List (List UInt8)) : Prop :=
  ∀ pending, Queued maxPayload x.ap pending → ∃ sent pending', Sends maxPayload x.sender x'.sender sent ∧
    Queued maxPayload x'.ap pending' ∧ pending ++ nals = sent ++ pending'

theorem Moves.refl (maxPayload : Nat) (x : Tx (σ × Log)) : Moves maxPayload x x [] := fun pending h =>
  ⟨[], pending, Sends.refl maxPayload x.sender, h, List.append_nil pending⟩

theorem Moves.trans {maxPayload : Nat} {x y z : Tx (σ × Log)} {nals nals' : List (List UInt8)}
    (h : Moves maxPayload x y nals) (k : Moves maxPayload y z nals') : Moves maxPayload x z (nals ++ nals') := by
  intro pending hqueued
  obtain ⟨sent, middle, hsends, hmiddle, hsplit⟩ := h pending hqueued
  obtain ⟨sent', pending', hsends', hqueued', hsplit'⟩ := k middle hmiddle
  refine ⟨sent ++ sent', pending', hsends.trans hsends', hqueued', ?_⟩
  rw [← List.append_assoc, hsplit, List.append_assoc, hsplit', List.append_assoc]

theorem hevcApFlush_moves (writer : RtpPacketizerWriteFn σ) (x : Tx (σ × Log)) (marker : Bool) (maxPayload : Nat) :
    Moves maxPayload x (hevcApFlush (logged writer) x marker).2 [] := by
  intro pending h
  obtain ⟨hsends, hqueued⟩ := hevcApFlush_spec writer x marker h
  exact ⟨pending, [], hsends, hqueued, rfl⟩

theorem flush_sendNal_moves (writer : RtpPacketizerWriteFn σ) (x : Tx (σ × Log)) {data : List UInt8} (isLast : Bool)
    {maxPayload : Nat} (hmax : 3 < maxPayload) (hbuffer : maxPayload ≤ rtpBufferMax) (hplain : Plain data) :
    Moves maxPayload x
      (sendNalRtpHevc (logged writer) (hevcApFlush (logged writer) x false).2 data isLast maxPayload).2 [data] := by
  intro pending h
  obtain ⟨hflushed, hempty⟩ := hevcApFlush_spec writer x false h
  have hne : data.length ≠ 0 := fun h => hplain.1 (List.eq_nil_of_length_eq_zero h)
  have hsends := sendHevcNal_sends writer (hevcApFlush (logged writer) x false).2.sender isLast hmax hbuffer hplain
  rw [sendNalRtpHevc, if_neg hne]
  exact ⟨pending ++ [data], [], hflushed.trans hsends, hempty, (List.append_nil _).symm⟩

theorem queue_moves (x : Tx (σ × Log)) {data : List UInt8} {maxPayload : Nat} (hplain : Plain data)
    (hroom : hevcApCanAdd x.ap data.length maxPayload = true) :
    Moves maxPayload x { x with ap := hevcApAdd x.ap data } [data] := fun pending h =>
  ⟨[], pending ++ [data], Sends.refl maxPayload x.sender, hevcApAdd_spec h hplain hroom, rfl⟩

/-- The three shapes of a unit: alone after a flush, queued, or queued after a
flush. -/
theorem sendOrQueue_moves (writer : RtpPacketizerWriteFn σ) (x : Tx (σ × Log)) {data : List UInt8} (isLast : Bool)
    {maxPayload : Nat} (hmax : 3 < maxPayload) (hbuffer : maxPayload ≤ rtpBufferMax) (hplain : Plain data) :
    Moves maxPayload x (sendOrQueueNalRtpHevc (logged writer) x data isLast maxPayload).2 [data] := by
  have hne : data.length ≠ 0 := fun h => hplain.1 (List.eq_nil_of_length_eq_zero h)
  have hqueue (y : Tx (σ × Log)) (hroom : hevcApCanAdd y.ap data.length maxPayload = true) (flushed : Nat) :
      Moves maxPayload y (if isLast then
          (flushed + (hevcApFlush (logged writer) { y with ap := hevcApAdd y.ap data } true).1,
            (hevcApFlush (logged writer) { y with ap := hevcApAdd y.ap data } true).2)
        else (flushed, { y with ap := hevcApAdd y.ap data })).2 [data] := by
    cases isLast with
    | false => exact queue_moves y hplain hroom
    | true => exact (queue_moves y hplain hroom).trans (hevcApFlush_moves writer _ true maxPayload)
  rw [sendOrQueueNalRtpHevc, if_neg hne]
  generalize hy : ({ x with stats := { x.stats with totalNals := x.stats.totalNals + 1 } } : Tx (σ × Log)) = y
  have hsame : ∀ z nals, Moves maxPayload y z nals → Moves maxPayload x z nals := by
    intro z nals h
    rw [← hy] at h
    exact h
  apply hsame
  simp only
  by_cases hbig : maxPayload < data.length ∨ 65535 < data.length
  · rw [if_pos hbig]
    exact flush_sendNal_moves writer y isLast hmax hbuffer hplain
  · rw [if_neg hbig]
    by_cases hroom : hevcApCanAdd y.ap data.length maxPayload = true
    · simp only [if_pos hroom]
      exact hqueue y hroom 0
    · simp only [if_neg hroom]
      by_cases hroom' : hevcApCanAdd (hevcApFlush (logged writer) y false).2.ap data.length maxPayload = true
      · rw [if_pos hroom']
        exact (hevcApFlush_moves writer y false maxPayload).trans (hqueue _ hroom' _)
      · rw [if_neg hroom']
        exact flush_sendNal_moves writer y isLast hmax hbuffer hplain

theorem sendRefs_moves (writer : RtpPacketizerWriteFn σ) {maxPayload : Nat} (hmax : 3 < maxPayload)
    (hbuffer : maxPayload ≤ rtpBufferMax) (refs : List (List UInt8)) (x : Tx (σ × Log))
    (hplain : ∀ ref ∈ refs, Plain ref) : Moves maxPayload x (sendRefs (logged writer) maxPayload refs x).2 refs := by
  induction refs generalizing x with
  | nil => exact Moves.refl maxPayload x
  | cons ref refs ih =>
      have hhead := sendOrQueue_moves writer x false hmax hbuffer (hplain ref (List.mem_cons_self ..))
      exact hhead.trans (ih _ (fun r hr => hplain r (List.mem_cons_of_mem _ hr)))

/-- A stripped unit of an entry and its type, nothing when nothing is left. -/
def entryNal (slice : List UInt8) (infoType : Option UInt8) : List (List UInt8 × UInt8) :=
  let nal := h26xUtilStripStartCode slice
  if nal = [] then [] else [(nal, infoType.getD (h26xUtilHevcNaluType nal))]

def infoNals (data : List UInt8) (info : MiVencPackInfo) : List (List UInt8 × UInt8) :=
  match infoSlice data info with
  | none => []
  | some slice => entryNal slice (some info.h265Nalu.toUInt8)

def packNals (pack : MiVencPack) : List (List UInt8 × UInt8) :=
  match pack.data with
  | none => []
  | some data =>
    if 0 < pack.packNum then (pack.packetInfo.toList.take pack.packNum).flatMap (infoNals data)
    else entryNal (data.drop pack.offset) none

/-- The cache after a unit, and what goes out for it: the cached sets before a
key picture, then the unit. -/
def withSets (params : Option H26xParamSets) (nal : List UInt8 × UInt8) : Option H26xParamSets × List (List UInt8) :=
  match params.map (h26xParamSetsUpdate · .h265 nal.2 nal.1) with
  | none => (none, [nal.1])
  | some params => (some params, (if nal.2 = 19 ∨ nal.2 = 20 then params.cached else []) ++ [nal.1])

def framed (params : Option H26xParamSets) : List (List UInt8 × UInt8) → List (List UInt8)
  | [] => []
  | nal :: nals => (withSets params nal).2 ++ framed (withSets params nal).1 nals

def cacheAfter (params : Option H26xParamSets) (nals : List (List UInt8 × UInt8)) : Option H26xParamSets :=
  nals.foldl (fun params nal => (withSets params nal).1) params

theorem framed_append (params : Option H26xParamSets) (xs ys : List (List UInt8 × UInt8)) :
    framed params (xs ++ ys) = framed params xs ++ framed (cacheAfter params xs) ys := by
  induction xs generalizing params with
  | nil => rfl
  | cons x xs ih =>
      rw [List.cons_append, framed, framed, ih, List.append_assoc]
      rfl

theorem cacheAfter_append (params : Option H26xParamSets) (xs ys : List (List UInt8 × UInt8)) :
    cacheAfter params (xs ++ ys) = cacheAfter (cacheAfter params xs) ys :=
  List.foldl_append

def PlainSets (params : Option H26xParamSets) : Prop := ∀ p, params = some p → ∀ set ∈ p.cached, Plain set

/-- A part of the frame loop: what it sends and queues, and the cache it
leaves. -/
def Frames (maxPayload : Nat) (f f' : Frame (σ × Log)) (nals : List (List UInt8 × UInt8)) : Prop :=
  Moves maxPayload f.tx f'.tx (framed f.params nals) ∧ f'.params = cacheAfter f.params nals ∧ PlainSets f'.params

theorem Frames.trans {maxPayload : Nat} {f g h : Frame (σ × Log)} {nals nals' : List (List UInt8 × UInt8)}
    (hfg : Frames maxPayload f g nals) (hgh : Frames maxPayload g h nals') : Frames maxPayload f h (nals ++ nals') := by
  obtain ⟨hmoves, hparams, -⟩ := hfg
  obtain ⟨hmoves', hparams', hplain⟩ := hgh
  rw [hparams] at hmoves' hparams'
  refine ⟨?_, ?_, hplain⟩
  · rw [framed_append]
    exact hmoves.trans hmoves'
  · rw [cacheAfter_append]
    exact hparams'

theorem Frames.refl (maxPayload : Nat) {f : Frame (σ × Log)} (hplain : PlainSets f.params) :
    Frames maxPayload f f [] := ⟨Moves.refl maxPayload f.tx, rfl, hplain⟩

theorem sendSlice_frames (writer : RtpPacketizerWriteFn σ) {maxPayload : Nat} (hmax : 3 < maxPayload)
    (hbuffer : maxPayload ≤ rtpBufferMax) (f : Frame (σ × Log)) (slice : List UInt8) (infoType : Option UInt8)
    (lastNal : Bool) (hsets : PlainSets f.params)
    (htypes : ∀ nal ∈ entryNal slice infoType, h26xUtilHevcNaluType nal.1 < 48) :
    Frames maxPayload f (sendSlice (logged writer) maxPayload f slice infoType lastNal) (entryNal slice infoType) := by
  rw [sendSlice]
  by_cases hslice : slice.length = 0
  · have hnone : slice = [] := List.eq_nil_of_length_eq_zero hslice
    rw [if_pos hslice, hnone]
    exact Frames.refl maxPayload hsets
  · rw [if_neg hslice]
    simp only [entryNal] at htypes ⊢
    generalize h26xUtilStripStartCode slice = nal at htypes ⊢
    by_cases hnal : nal = []
    · rw [hnal]
      exact Frames.refl maxPayload hsets
    · have hlen : nal.length ≠ 0 := fun h => hnal (List.eq_nil_of_length_eq_zero h)
      rw [if_neg hlen, if_neg hnal]
      rw [if_neg hnal] at htypes
      generalize infoType.getD (h26xUtilHevcNaluType nal) = nalType at htypes ⊢
      have hplain : Plain nal := ⟨hnal, htypes (nal, nalType) (List.mem_singleton_self _)⟩
      obtain ⟨totalBytes, x, params⟩ := f
      cases params with
      | none => exact ⟨sendOrQueue_moves writer x lastNal hmax hbuffer hplain, rfl, fun p hp => by cases hp⟩
      | some params =>
          have hplains : ∀ set ∈ (h26xParamSetsUpdate params .h265 nalType nal).cached, Plain set := by
            intro set hset
            rcases update_cached hset with h | h
            · exact hsets params rfl set h
            · rw [h]
              exact hplain
          have hrefs : ∀ ref ∈ h26xParamSetsGetPrepend (h26xParamSetsUpdate params .h265 nalType nal) .h265 nalType 3,
              Plain ref := by
            intro ref href
            rw [getPrepend_eq] at href
            split at href
            · exact hplains ref href
            · cases href
          have hmoves := (sendRefs_moves writer hmax hbuffer _ x hrefs).trans
            (sendOrQueue_moves writer _ lastNal hmax hbuffer hplain)
          have hout : framed (some params) [(nal, nalType)] =
              h26xParamSetsGetPrepend (h26xParamSetsUpdate params .h265 nalType nal) .h265 nalType 3 ++ [nal] := by
            rw [getPrepend_eq, framed, framed, List.append_nil]
            rfl
          refine ⟨?_, rfl, ?_⟩
          · rw [hout]
            exact hmoves
          · intro p hp
            cases hp
            exact hplains

theorem infoLoop_frames (writer : RtpPacketizerWriteFn σ) {maxPayload : Nat} (hmax : 3 < maxPayload)
    (hbuffer : maxPayload ≤ rtpBufferMax) (data : List UInt8) (lastPack : Bool) (infos : List MiVencPackInfo)
    (f : Frame (σ × Log)) (hsets : PlainSets f.params)
    (htypes : ∀ nal ∈ infos.flatMap (infoNals data), h26xUtilHevcNaluType nal.1 < 48) :
    Frames maxPayload f (infoLoop (logged writer) maxPayload data lastPack infos f)
      (infos.flatMap (infoNals data)) := by
  induction infos generalizing f with
  | nil => exact Frames.refl maxPayload hsets
  | cons info infos ih =>
      rw [List.flatMap_cons] at htypes ⊢
      have htail : ∀ g, Frames maxPayload f g (infoNals data info) →
          Frames maxPayload f (infoLoop (logged writer) maxPayload data lastPack infos g) _ := fun g hg =>
        hg.trans (ih g hg.2.2 (fun nal hnal => htypes nal (List.mem_append_right _ hnal)))
      have hhead := fun nal hnal => htypes nal (List.mem_append_left _ hnal)
      rw [infoLoop]
      apply htail
      rw [infoNals] at hhead ⊢
      cases hslice : infoSlice data info with
      | none => exact Frames.refl maxPayload hsets
      | some slice =>
          rw [hslice] at hhead
          exact sendSlice_frames writer hmax hbuffer f slice _ _ hsets hhead

theorem sendPack_frames (writer : RtpPacketizerWriteFn σ) {maxPayload : Nat} (hmax : 3 < maxPayload)
    (hbuffer : maxPayload ≤ rtpBufferMax) (pack : MiVencPack) (lastPack : Bool) (f : Frame (σ × Log))
    (hsets : PlainSets f.params) (htypes : ∀ nal ∈ packNals pack, h26xUtilHevcNaluType nal.1 < 48) :
    Frames maxPayload f (sendPack (logged writer) maxPayload pack lastPack f) (packNals pack) := by
  rw [packNals] at htypes ⊢
  rw [sendPack]
  cases hdata : pack.data with
  | none => exact Frames.refl maxPayload hsets
  | some data =>
      simp only [hdata] at htypes ⊢
      by_cases hnum : 0 < pack.packNum
      · rw [if_pos hnum] at htypes
        rw [if_pos hnum, if_pos hnum]
        exact infoLoop_frames writer hmax hbuffer data lastPack _ f hsets htypes
      · rw [if_neg hnum] at htypes
        rw [if_neg hnum, if_neg hnum]
        by_cases hoffset : data.length ≤ pack.offset
        · rw [if_pos hoffset, List.drop_of_length_le hoffset]
          exact Frames.refl maxPayload hsets
        · rw [if_neg hoffset]
          exact sendSlice_frames writer hmax hbuffer f _ none lastPack hsets htypes

theorem packLoop_frames (writer : RtpPacketizerWriteFn σ) {maxPayload : Nat} (hmax : 3 < maxPayload)
    (hbuffer : maxPayload ≤ rtpBufferMax) (packs : List MiVencPack) (f : Frame (σ × Log))
    (hsets : PlainSets f.params) (htypes : ∀ nal ∈ packs.flatMap packNals, h26xUtilHevcNaluType nal.1 < 48) :
    Frames maxPayload f (packLoop (logged writer) maxPayload packs f) (packs.flatMap packNals) := by
  induction packs generalizing f with
  | nil => exact Frames.refl maxPayload hsets
  | cons pack packs ih =>
      rw [List.flatMap_cons] at htypes ⊢
      have hhead := sendPack_frames writer hmax hbuffer pack packs.isEmpty f hsets
        (fun nal hnal => htypes nal (List.mem_append_left _ hnal))
      exact hhead.trans (ih _ hhead.2.2 (fun nal hnal => htypes nal (List.mem_append_right _ hnal)))

/-- Whatever the writer, every payload it is given fits, and when every call
succeeds a receiver gets back the units of the frame with the cached sets
before each key picture. -/
theorem frame_round_trip (writer : RtpPacketizerWriteFn σ) (out : σ) (rtp : RtpPacketizerState)
    (packs : List MiVencPack) (frameTicks : UInt32) (params : Option H26xParamSets) (maxPayload : Nat)
    (stats : Star6eHevcRtpStats) (hmax : 3 < maxPayload)
    (htypes : ∀ nal ∈ packs.flatMap packNals, h26xUtilHevcNaluType nal.1 < 48)
    (hsets : ∀ sets, params = some sets → ∀ set ∈ sets.cached, h26xUtilHevcNaluType set < 48) :
    let log := (star6eHevcRtpSendFrame (logged writer) packs ⟨rtp, (out, [])⟩ frameTicks params maxPayload
      stats).tx.sender.out.2
    (∀ payload ∈ payloads log, payload.length ≤ min maxPayload rtpBufferMax) ∧
      (succeeded log → depacketize none (payloads log) = some (framed params (packs.flatMap packNals))) := by
  intro log
  have hcap : (if rtpBufferMax < maxPayload then rtpBufferMax else maxPayload) = min maxPayload rtpBufferMax := by
    split <;> omega
  have hbuffer : 3 < rtpBufferMax := by decide
  have hplain : PlainSets params := by
    intro sets heq set hset
    exact ⟨(mem_cached.mp hset).2, hsets sets heq set hset⟩
  let f : Frame (σ × Log) := ⟨0, ⟨⟨rtp, (out, [])⟩, hevcApReset, stats⟩, params⟩
  have hframes := packLoop_frames writer (by omega : 3 < min maxPayload rtpBufferMax) (Nat.min_le_right _ _) packs f
    hplain htypes
  obtain ⟨sent, pending, hsends, hqueued, hsplit⟩ := hframes.1 [] (Queued.empty _)
  obtain ⟨hflushed, -⟩ := hevcApFlush_spec writer _ true hqueued
  obtain ⟨all, hall, hsize, hnals⟩ := hsends.trans hflushed
  have hlog : log = all := by
    rw [List.nil_append] at hall
    rw [← hall]
    simp only [log, star6eHevcRtpSendFrame, hcap]
    rfl
  rw [hlog]
  refine ⟨hsize, fun hok => ?_⟩
  rw [hnals hok, ← hsplit, List.nil_append]

theorem frame_round_trip_key_picture :
    let log := (star6eHevcRtpSendFrame (logged (fun (_ : Unit) _ => (true, ())))
      [⟨some [0, 0, 0, 1, 0x40, 1, 9], 0, 0, Vector.replicate 8 ⟨0, 0, 0⟩⟩,
        ⟨some [7, 0, 0, 1, 0x26, 1, 5, 6, 7, 8, 9], 0, 1, Vector.replicate 8 ⟨19, 1, 10⟩⟩]
      ⟨⟨65535, 0, 1, 97⟩, ((), [])⟩ 3000 (some ⟨[], [], []⟩) 6 ⟨0, 0, 0, 0, 0, 0, 0⟩).tx.sender.out.2
    depacketize none (payloads log) = some [[0x40, 1, 9], [0x40, 1, 9], [0x26, 1, 5, 6, 7, 8, 9]] := by
  intro log
  have h := frame_round_trip (fun (_ : Unit) _ => (true, ())) () ⟨65535, 0, 1, 97⟩
    [⟨some [0, 0, 0, 1, 0x40, 1, 9], 0, 0, Vector.replicate 8 ⟨0, 0, 0⟩⟩,
      ⟨some [7, 0, 0, 1, 0x26, 1, 5, 6, 7, 8, 9], 0, 1, Vector.replicate 8 ⟨19, 1, 10⟩⟩]
    3000 (some ⟨[], [], []⟩) 6 ⟨0, 0, 0, 0, 0, 0, 0⟩ (by decide) (by decide +kernel)
    (fun sets heq set hset => by cases heq; cases hset)
  exact h.2 (by unfold succeeded; decide +kernel)

end WaybeamVenc.HevcRoundTrip
