import WaybeamVenc.HevcRoundTrip
import WaybeamVenc.Reassembly
import WaybeamVenc.SidecarTiling

namespace WaybeamVenc.PacketTrials

open RtpPacketizer FrameInvariant HevcRoundTrip SidecarTiling Reassembly

variable {σ : Type}

/-- A packet but for the fields of its header that the sender's state fills in. -/
structure Packet where
  payload1 : List UInt8
  payload2 : List UInt8
  marker : Bool
deriving DecidableEq

def Packet.payload (p : Packet) : List UInt8 := p.payload1 ++ p.payload2

def Packet.Is (p : Packet) (call : WriteCall) : Prop :=
  ∃ rtp, call = ⟨rtpHeader rtp p.marker, p.payload1, p.payload2⟩

def markerOf (call : WriteCall) : Bool := (call.header.getD 1 0).toNat.testBit 7

/-- The packets of one unit tried one after the other, up to the first that the
writer refuses. -/
inductive Tried : List Packet → Log → Prop
  | done : Tried [] []
  | sent {p : Packet} {ps : List Packet} {call : WriteCall} {log : Log} (hcall : p.Is call) (h : Tried ps log) :
      Tried (p :: ps) ((call, true) :: log)
  | refused {p : Packet} {ps : List Packet} {call : WriteCall} (hcall : p.Is call) : Tried (p :: ps) [(call, false)]

/-- Several units tried one after the other, each whatever became of those before. -/
inductive TriedAll : List (List Packet) → Log → Prop
  | nil : TriedAll [] []
  | cons {g : List Packet} {gs : List (List Packet)} {log log' : Log} (h : Tried g log) (hs : TriedAll gs log') :
      TriedAll (g :: gs) (log ++ log')

theorem TriedAll.append {gs gs' : List (List Packet)} {log log' : Log} (h : TriedAll gs log) (k : TriedAll gs' log') :
    TriedAll (gs ++ gs') (log ++ log') := by
  induction h with
  | nil => exact k
  | cons hg _ ih =>
      rw [List.append_assoc, List.cons_append]
      exact .cons hg ih

theorem TriedAll.one {g : List Packet} {log : Log} (h : Tried g log) : TriedAll [g] log := by
  rw [← List.append_nil log]
  exact .cons h .nil

theorem TriedAll.split {gs gs' : List (List Packet)} {log : Log} (h : TriedAll (gs ++ gs') log) :
    ∃ front rest, log = front ++ rest ∧ TriedAll gs front ∧ TriedAll gs' rest := by
  induction gs generalizing log with
  | nil => exact ⟨[], log, rfl, .nil, h⟩
  | cons g gs ih =>
      cases h with
      | @cons _ _ head tail hg hgs =>
          obtain ⟨front, rest, rfl, hfront, hrest⟩ := ih hgs
          exact ⟨head ++ front, rest, (List.append_assoc head front rest).symm, .cons hg hfront, hrest⟩

theorem Packet.Is.payload {p : Packet} {call : WriteCall} (h : p.Is call) : call.payload = p.payload := by
  obtain ⟨rtp, rfl⟩ := h
  rfl

theorem Packet.Is.marker {p : Packet} {call : WriteCall} (h : p.Is call) : markerOf call = p.marker := by
  obtain ⟨rtp, rfl⟩ := h
  cases hp : p.marker with
  | false =>
      change ((0x00 : UInt8) ||| (rtp.payloadType &&& 0x7F)).toBitVec.getLsbD 7 = false
      simp
  | true =>
      change ((0x80 : UInt8) ||| (rtp.payloadType &&& 0x7F)).toBitVec.getLsbD 7 = true
      simp

/-- What the writer took is a front part of the packets, all of them when it
refused none. -/
theorem Tried.delivered {ps : List Packet} {log : Log} (h : Tried ps log) :
    ∃ n, (delivered log).map WriteCall.payload = (ps.take n).map Packet.payload ∧
      (delivered log).map markerOf = (ps.take n).map Packet.marker ∧ (succeeded log → ps.length ≤ n) := by
  induction h with
  | done => exact ⟨0, rfl, rfl, fun _ => Nat.le_refl 0⟩
  | @sent p ps call log hcall h ih =>
      obtain ⟨n, hpayload, hmarker, hall⟩ := ih
      refine ⟨n + 1, ?_, ?_, fun hok => Nat.succ_le_succ (hall fun e he => hok e (List.mem_cons_of_mem _ he))⟩
      · change call.payload :: (SidecarTiling.delivered log).map WriteCall.payload = _
        rw [hpayload, hcall.payload, List.take_succ_cons, List.map_cons]
      · change markerOf call :: (SidecarTiling.delivered log).map markerOf = _
        rw [hmarker, hcall.marker, List.take_succ_cons, List.map_cons]
  | @refused p ps call hcall =>
      refine ⟨0, rfl, rfl, fun hok => ?_⟩
      exact absurd (hok _ (List.mem_singleton_self _)) Bool.false_ne_true

theorem delivered_of_succeeded {log : Log} (h : succeeded log) : delivered log = log.map (·.1) := by
  rw [delivered, List.filter_eq_self.2 h]

/-- Without a refusal the log holds all the packets. -/
theorem Tried.all {ps : List Packet} {log : Log} (h : Tried ps log) (hok : succeeded log) :
    log.map (·.1.payload) = ps.map Packet.payload ∧ log.map (markerOf ·.1) = ps.map Packet.marker := by
  obtain ⟨n, hpayload, hmarker, hall⟩ := h.delivered
  rw [delivered_of_succeeded hok, List.map_map, List.take_of_length_le (hall hok)] at hpayload hmarker
  exact ⟨hpayload, hmarker⟩

theorem TriedAll.all {gs : List (List Packet)} {log : Log} (h : TriedAll gs log) (hok : succeeded log) :
    log.map (·.1.payload) = gs.flatten.map Packet.payload ∧ log.map (markerOf ·.1) = gs.flatten.map Packet.marker := by
  induction h with
  | nil => exact ⟨rfl, rfl⟩
  | @cons g gs log log' hg _ ih =>
      obtain ⟨hpayload, hmarker⟩ := hg.all fun e he => hok e (List.mem_append_left _ he)
      obtain ⟨hpayloads, hmarkers⟩ := ih fun e he => hok e (List.mem_append_right _ he)
      rw [List.flatten_cons, List.map_append, List.map_append, List.map_append, List.map_append]
      exact ⟨by rw [hpayload, hpayloads], by rw [hmarker, hmarkers]⟩

def ByPackets (writer : RtpPacketizerWriteFn σ) (t t' : Sender σ) : Prop :=
  ∀ inv, KeptByPackets writer inv → inv t → inv t'

theorem ByPackets.refl (writer : RtpPacketizerWriteFn σ) (t : Sender σ) : ByPackets writer t t := fun _ _ h => h

theorem ByPackets.trans {writer : RtpPacketizerWriteFn σ} {t u v : Sender σ} (h : ByPackets writer t u)
    (k : ByPackets writer u v) : ByPackets writer t v := fun inv hk hi => k inv hk (h inv hk hi)

def Tries (t t' : Sender (σ × Log)) (gs : List (List Packet)) : Prop :=
  ∃ log, t'.out.2 = t.out.2 ++ log ∧ TriedAll gs log

theorem Tries.refl (t : Sender (σ × Log)) : Tries t t [] := ⟨[], (List.append_nil _).symm, .nil⟩

theorem Tries.trans {t u v : Sender (σ × Log)} {gs gs' : List (List Packet)} (h : Tries t u gs) (k : Tries u v gs') :
    Tries t v (gs ++ gs') := by
  obtain ⟨log, hlog, htried⟩ := h
  obtain ⟨log', hlog', htried'⟩ := k
  exact ⟨log ++ log', by rw [hlog', hlog, List.append_assoc], htried.append htried'⟩

theorem sendPacket_tried (writer : RtpPacketizerWriteFn σ) (t : Sender (σ × Log)) {payload1 : List UInt8}
    (payload2 : List UInt8) (marker : Bool) (hne : payload1 ≠ []) :
    ∃ call, (⟨payload1, payload2, marker⟩ : Packet).Is call ∧
      (rtpPacketizerSendPacket (logged writer) t payload1 payload2 marker).2.out.2 = t.out.2 ++
        [(call, (rtpPacketizerSendPacket (logged writer) t payload1 payload2 marker).1)] :=
  ⟨_, ⟨t.rtp, rfl⟩, sendPacket_log writer t payload1 payload2 marker hne⟩

theorem sendPacket_tries (writer : RtpPacketizerWriteFn σ) (t : Sender (σ × Log)) {payload : List UInt8}
    (marker : Bool) (hne : payload ≠ []) :
    Tries t (rtpPacketizerSendPacket (logged writer) t payload [] marker).2 [[⟨payload, [], marker⟩]] := by
  obtain ⟨call, hcall, hlog⟩ := sendPacket_tried writer t [] marker hne
  refine ⟨_, hlog, .one ?_⟩
  cases (rtpPacketizerSendPacket (logged writer) t payload [] marker).1 with
  | false => exact .refused hcall
  | true => exact .sent hcall .done

/-- The packets of a fragmented unit, each fragment behind the bytes in front of it. -/
def fuPackets (front : Bool → Bool → List UInt8) (isLast : Bool) (maxFragment fuel : Nat) (payload : List UInt8)
    (start : Bool) : List Packet :=
  (fragments maxFragment fuel payload start).map fun f => ⟨front f.1 f.2.1, f.2.2, f.2.1 && isLast⟩

def hevcFront (header0 header1 : UInt8) (start last : Bool) : List UInt8 :=
  [fuIndicator0 header0 header1, fuIndicator1 header0 header1, fuFlags header0 start last]

theorem fuLoop_tried (writer : RtpPacketizerWriteFn σ) (header0 header1 : UInt8) (isLast : Bool) (maxFragment fuel : Nat)
    (t : Sender (σ × Log)) (payload : List UInt8) (start : Bool) (total : Nat) (result : RtpPacketizerResult) :
    ∃ log, (fuLoop (logged writer) header0 header1 isLast maxFragment fuel t payload start total
      result).sender.out.2 = t.out.2 ++ log ∧
        Tried (fuPackets (hevcFront header0 header1) isLast maxFragment fuel payload start) log := by
  induction fuel generalizing t payload start total result with
  | zero => exact ⟨[], (List.append_nil _).symm, .done⟩
  | succ fuel ih =>
      rw [fuLoop, fuPackets, fragments]
      by_cases hnil : payload.length = 0
      · rw [if_pos hnil, if_pos hnil]
        exact ⟨[], (List.append_nil _).symm, .done⟩
      · rw [if_neg hnil, if_neg hnil]
        generalize hchunk : (if maxFragment < payload.length then maxFragment else payload.length) = chunk
        simp only [List.map_cons]
        obtain ⟨call, hcall, hlog⟩ := sendPacket_tried writer t (payload.take chunk)
          (decide (payload.length = chunk) && isLast)
          (List.cons_ne_nil (fuIndicator0 header0 header1)
            [fuIndicator1 header0 header1, fuFlags header0 start (decide (payload.length = chunk))])
        generalize rtpPacketizerSendPacket (logged writer) t _ _ _ = r at hlog ⊢
        obtain ⟨ok, t'⟩ := r
        cases ok with
        | false => exact ⟨_, hlog, .refused hcall⟩
        | true =>
            obtain ⟨log, hrest, htried⟩ := ih t' (payload.drop chunk) false (total + chunk)
              ⟨result.packetCount + 1, result.payloadBytes + UInt32.ofNat (chunk + 3), true⟩
            have hout : t'.out.2 = t.out.2 ++ [(call, true)] := hlog
            rw [hout, List.append_assoc] at hrest
            exact ⟨(call, true) :: log, hrest, .sent hcall htried⟩

theorem fuPackets_payload (front : Bool → Bool → List UInt8) (isLast : Bool) (maxFragment fuel : Nat)
    (payload : List UInt8) (start : Bool) : (fuPackets front isLast maxFragment fuel payload start).map Packet.payload =
      (fragments maxFragment fuel payload start).map fun f => front f.1 f.2.1 ++ f.2.2 := by
  rw [fuPackets, List.map_map]
  rfl

def hevcNalPackets (data : List UInt8) (isLast : Bool) (maxPayload : Nat) : List Packet :=
  if data.length = 0 then []
  else if data.length ≤ maxPayload then [⟨data, [], isLast⟩]
  else
    match data with
    | header0 :: header1 :: payload =>
      if payload.length = 0 ∨ maxPayload ≤ 3 then []
      else fuPackets (hevcFront header0 header1) isLast (min maxPayload rtpBufferMax - 3) payload.length payload true
    | _ => []

/-- A unit goes out in no packet, whole or in fragments. -/
theorem hevcNalPackets_cases (data : List UInt8) (isLast : Bool) (maxPayload : Nat) :
    (hevcNalPackets data isLast maxPayload = [] ∧ (data = [] ∨ maxPayload < data.length ∧ maxPayload ≤ 3)) ∨
      (hevcNalPackets data isLast maxPayload = [⟨data, [], isLast⟩] ∧ data ≠ [] ∧ data.length ≤ maxPayload) ∨
      ∃ header0 header1 payload maxFragment, data = header0 :: header1 :: payload ∧ 3 < maxPayload ∧
        0 < maxFragment ∧ maxFragment < payload.length ∧ hevcNalPackets data isLast maxPayload =
          fuPackets (hevcFront header0 header1) isLast maxFragment payload.length payload true := by
  rw [hevcNalPackets.eq_def]
  by_cases hnil : data.length = 0
  · rw [if_pos hnil]
    exact Or.inl ⟨rfl, Or.inl (List.eq_nil_of_length_eq_zero hnil)⟩
  · rw [if_neg hnil]
    by_cases hfits : data.length ≤ maxPayload
    · rw [if_pos hfits]
      exact Or.inr (Or.inl ⟨rfl, fun h => hnil (congrArg List.length h), hfits⟩)
    · rw [if_neg hfits]
      have hlong : maxPayload < data.length := Nat.lt_of_not_le hfits
      cases data with
      | nil => exact absurd rfl hnil
      | cons header0 rest =>
          cases rest with
          | nil => exact Or.inl ⟨rfl, Or.inr ⟨hlong, Nat.le_trans (Nat.le_of_lt_succ hlong) (Nat.zero_le 3)⟩⟩
          | cons header1 payload =>
              have hbuffer : 3 < rtpBufferMax := by decide
              rw [List.length_cons, List.length_cons] at hlong
              dsimp only
              by_cases hguard : payload.length = 0 ∨ maxPayload ≤ 3
              · rw [if_pos hguard]
                exact Or.inl ⟨rfl, Or.inr ⟨hlong, by omega⟩⟩
              · rw [if_neg hguard]
                exact Or.inr (Or.inr ⟨header0, header1, payload, _, rfl, by omega, by omega, by omega, rfl⟩)

theorem min_rtpBufferMax (maxPayload : Nat) :
    (if rtpBufferMax < maxPayload then rtpBufferMax else maxPayload) = min maxPayload rtpBufferMax := by
  split <;> omega

theorem sendHevcNal_tries (writer : RtpPacketizerWriteFn σ) (t : Sender (σ × Log)) (data : List UInt8) (isLast : Bool)
    (maxPayload : Nat) : Tries t (rtpPacketizerSendHevcNal (logged writer) t data isLast maxPayload).2.2
      [hevcNalPackets data isLast maxPayload] := by
  have hnone : Tries t t [[]] := ⟨[], (List.append_nil _).symm, .one .done⟩
  rw [rtpPacketizerSendHevcNal, hevcNalPackets.eq_def]
  by_cases hnil : data.length = 0
  · rw [if_pos hnil, if_pos hnil]
    exact hnone
  · rw [if_neg hnil, if_neg hnil]
    by_cases hfits : data.length ≤ maxPayload
    · rw [if_pos hfits, if_pos hfits]
      have htries := sendPacket_tries writer t isLast (fun h => hnil (congrArg List.length h) : data ≠ [])
      generalize rtpPacketizerSendPacket (logged writer) t data [] isLast = r at htries ⊢
      obtain ⟨ok, t'⟩ := r
      cases ok <;> exact htries
    · rw [if_neg hfits, if_neg hfits]
      cases data with
      | nil => exact absurd rfl hnil
      | cons header0 rest =>
          cases rest with
          | nil => exact hnone
          | cons header1 payload =>
              rw [rtpPacketizerSendHevcFu]
              dsimp only
              by_cases hguard : payload.length = 0 ∨ maxPayload ≤ 3
              · rw [if_pos hguard, if_pos hguard]
                exact hnone
              · rw [if_neg hguard, if_neg hguard, min_rtpBufferMax]
                obtain ⟨log, hlog, htried⟩ := fuLoop_tried writer header0 header1 isLast
                  (min maxPayload rtpBufferMax - 3) payload.length t payload true 0 ⟨0, 0, false⟩
                exact ⟨log, hlog, .one htried⟩

end WaybeamVenc.PacketTrials
