import WaybeamVenc.MarukoVideo
import WaybeamVenc.PacketTrials

namespace WaybeamVenc.MarukoTrials

open H26x RtpPacketizer FrameInvariant HevcRoundTrip SidecarTiling FrameUnits MarukoVideo PacketTrials Reassembly

variable {σ : Type}

def h264Front (header : UInt8) (start last : Bool) : List UInt8 :=
  [fuIndicatorH264 header, fuFlagsH264 header start last]

def h264NalPackets (data : List UInt8) (isLast : Bool) (maxPayload : Nat) : List Packet :=
  if data.length = 0 then []
  else if data.length ≤ maxPayload then [⟨data, [], isLast⟩]
  else
    match data with
    | header :: payload =>
      if payload.length = 0 ∨ maxPayload ≤ 2 then []
      else fuPackets (h264Front header) isLast (min maxPayload rtpBufferMax - 2) payload.length payload true
    | [] => []

/-- A unit goes out in no packet, whole or in fragments. -/
theorem h264NalPackets_cases (data : List UInt8) (isLast : Bool) (maxPayload : Nat) :
    (h264NalPackets data isLast maxPayload = [] ∧ (data = [] ∨ maxPayload < data.length ∧ maxPayload ≤ 2)) ∨
      (h264NalPackets data isLast maxPayload = [⟨data, [], isLast⟩] ∧ data ≠ [] ∧ data.length ≤ maxPayload) ∨
      ∃ header payload maxFragment, data = header :: payload ∧ 2 < maxPayload ∧ 0 < maxFragment ∧
        maxFragment < payload.length ∧ h264NalPackets data isLast maxPayload =
          fuPackets (h264Front header) isLast maxFragment payload.length payload true := by
  rw [h264NalPackets.eq_def]
  by_cases hnil : data.length = 0
  · rw [if_pos hnil]
    exact Or.inl ⟨rfl, Or.inl (List.eq_nil_of_length_eq_zero hnil)⟩
  · rw [if_neg hnil]
    by_cases hfits : data.length ≤ maxPayload
    · rw [if_pos hfits]
      exact Or.inr (Or.inl ⟨rfl, fun h => hnil (congrArg List.length h), hfits⟩)
    · rw [if_neg hfits]
      have hlong : maxPayload < data.length := Nat.lt_of_not_le hfits
      cases data with
      | nil => exact absurd rfl hnil
      | cons header payload =>
          have hbuffer : 3 < rtpBufferMax := by decide
          rw [List.length_cons] at hlong
          dsimp only
          by_cases hguard : payload.length = 0 ∨ maxPayload ≤ 2
          · rw [if_pos hguard]
            exact Or.inl ⟨rfl, Or.inr ⟨hlong, by omega⟩⟩
          · rw [if_neg hguard]
            exact Or.inr (Or.inr ⟨header, payload, _, rfl, by omega, by omega, by omega, rfl⟩)

def nalPackets (codec : PayloadType) (data : List UInt8) (isLast : Bool) (maxPayload : Nat) : List Packet :=
  match codec with
  | .h265 => hevcNalPackets data isLast maxPayload
  | .h264 => h264NalPackets data isLast maxPayload

/-- The cache that a unit finds before itself. -/
def updated (codec : PayloadType) (params : Option H26xParamSets) (u : NalUnit) : Option H26xParamSets :=
  params.map (h26xParamSetsUpdate · codec u.nalType u.nal)

def setsBefore (codec : PayloadType) (params : Option H26xParamSets) (u : NalUnit) : List (List UInt8) :=
  match updated codec params u with
  | none => []
  | some sets => h26xParamSetsGetPrepend sets codec u.nalType 3

/-- The packets of a frame's units and of the sets before them, unit by unit. -/
def frameGroups (codec : PayloadType) (maxPayload : Nat) : Option H26xParamSets → List NalUnit → List (List Packet)
  | _, [] => []
  | params, u :: us =>
    (setsBefore codec params u).map (nalPackets codec · false maxPayload) ++
      [nalPackets codec u.nal u.last maxPayload] ++ frameGroups codec maxPayload (updated codec params u) us

def cacheAfterUnits (codec : PayloadType) (params : Option H26xParamSets) (us : List NalUnit) : Option H26xParamSets :=
  us.foldl (updated codec) params

/-- From one sender to another by packets, with the packets tried. -/
structure Emits (writer : RtpPacketizerWriteFn σ) (s s' : MarukoSender (σ × Log)) (gs : List (List Packet)) : Prop where
  tries : Tries s.packetizer s'.packetizer gs
  packets : ByPackets (logged writer) s.packetizer s'.packetizer
  ticks : s'.rtp.frameTicks = s.rtp.frameTicks

theorem Emits.refl (writer : RtpPacketizerWriteFn σ) (s : MarukoSender (σ × Log)) : Emits writer s s [] :=
  ⟨Tries.refl _, ByPackets.refl _ _, rfl⟩

theorem Emits.trans {writer : RtpPacketizerWriteFn σ} {s t u : MarukoSender (σ × Log)} {gs gs' : List (List Packet)}
    (h : Emits writer s t gs) (k : Emits writer t u gs') : Emits writer s u (gs ++ gs') :=
  ⟨h.tries.trans k.tries, h.packets.trans k.packets, k.ticks.trans h.ticks⟩

def SameStream (rtp : RtpPacketizerState) (t : Sender σ) : Prop := t.rtp = { rtp with seq := t.rtp.seq }

theorem sameStream_kept (writer : RtpPacketizerWriteFn σ) (rtp : RtpPacketizerState) :
    KeptByPackets writer (SameStream rtp) := by
  intro t payload1 payload2 marker h
  rw [rtpPacketizerSendPacket]
  split
  · exact h
  · split
    · exact h
    · rw [SameStream] at h ⊢
      rw [h]

/-- The copy back misses nothing that packets change. -/
theorem copyBack_packetizer {writer : RtpPacketizerWriteFn σ} {s : MarukoSender σ} {t : Sender σ}
    (h : ByPackets writer s.packetizer t) : (s.copyBack t).packetizer = t := by
  have hsame := h _ (sameStream_kept writer s.packetizer.rtp) rfl
  obtain ⟨rtp, out⟩ := t
  rw [SameStream] at hsame
  simp only [MarukoSender.copyBack, MarukoSender.packetizer] at hsame ⊢
  rw [hsame]

theorem Emits.copyBack {writer : RtpPacketizerWriteFn σ} {s : MarukoSender (σ × Log)} {t : Sender (σ × Log)}
    {gs : List (List Packet)} (h : ByPackets (logged writer) s.packetizer t) (htries : Tries s.packetizer t gs) :
    Emits writer s (s.copyBack t) gs := by
  have heq := copyBack_packetizer h
  exact ⟨by rw [heq]; exact htries, by rw [heq]; exact h, rfl⟩

theorem marukoFuLoop_kept {writer : RtpPacketizerWriteFn σ} {inv : Sender σ → Prop} (hk : KeptByPackets writer inv)
    (header : UInt8) (isLast : Bool) (maxFragment fuel : Nat) (t : Sender σ) (payload : List UInt8) (start : Bool)
    (total : Nat) (h : inv t) : inv (marukoFuLoop writer header isLast maxFragment fuel t payload start total).2.2 := by
  induction fuel generalizing t payload start total with
  | zero => exact h
  | succ fuel ih =>
      rw [marukoFuLoop]
      split
      · exact h
      · dsimp only
        generalize (if maxFragment < payload.length then maxFragment else payload.length) = chunk
        have hpacket := hk t [fuIndicatorH264 header, fuFlagsH264 header start (decide (payload.length = chunk))]
          (payload.take chunk) (decide (payload.length = chunk) && isLast) h
        split
        · next heq =>
            rw [heq] at hpacket
            exact hpacket
        · next heq =>
            rw [heq] at hpacket
            apply ih
            exact hpacket

theorem marukoFuLoop_tried (writer : RtpPacketizerWriteFn σ) (header : UInt8) (isLast : Bool) (maxFragment fuel : Nat)
    (t : Sender (σ × Log)) (payload : List UInt8) (start : Bool) (total : Nat) :
    ∃ log, (marukoFuLoop (logged writer) header isLast maxFragment fuel t payload start total).2.2.out.2 =
        t.out.2 ++ log ∧ Tried (fuPackets (h264Front header) isLast maxFragment fuel payload start) log := by
  induction fuel generalizing t payload start total with
  | zero => exact ⟨[], (List.append_nil _).symm, .done⟩
  | succ fuel ih =>
      rw [marukoFuLoop, fuPackets, fragments]
      by_cases hnil : payload.length = 0
      · rw [if_pos hnil, if_pos hnil]
        exact ⟨[], (List.append_nil _).symm, .done⟩
      · rw [if_neg hnil, if_neg hnil]
        generalize (if maxFragment < payload.length then maxFragment else payload.length) = chunk
        simp only [List.map_cons]
        obtain ⟨call, hcall, hlog⟩ := sendPacket_tried writer t (payload.take chunk)
          (decide (payload.length = chunk) && isLast)
          (List.cons_ne_nil (fuIndicatorH264 header) [fuFlagsH264 header start (decide (payload.length = chunk))])
        generalize rtpPacketizerSendPacket (logged writer) t _ _ _ = r at hlog ⊢
        obtain ⟨ok, t'⟩ := r
        cases ok with
        | false => exact ⟨_, hlog, .refused hcall⟩
        | true =>
            obtain ⟨log, hrest, htried⟩ := ih t' (payload.drop chunk) false (total + chunk)
            have hout : t'.out.2 = t.out.2 ++ [(call, true)] := hlog
            rw [hout, List.append_assoc] at hrest
            exact ⟨(call, true) :: log, hrest, .sent hcall htried⟩

variable (writer : RtpPacketizerWriteFn σ) {output : MarukoOutput}

theorem sendPacket_emits (hopen : 0 ≤ output.socketHandle ∨ output.ring = true) (s : MarukoSender (σ × Log))
    {payload : List UInt8} (marker : Bool) (hne : payload ≠ []) :
    Emits writer s (marukoSendRtpPacket (logged writer) output s payload marker).2 [[⟨payload, [], marker⟩]] := by
  have hguard : ¬(payload.length = 0 ∨ (output.socketHandle < 0 ∧ output.ring = false)) := by
    rintro (h | ⟨hsocket, hring⟩)
    · exact hne (List.eq_nil_of_length_eq_zero h)
    · rcases hopen with h | h
      · omega
      · rw [h] at hring
        cases hring
  rw [marukoSendRtpPacket, if_neg hguard]
  exact Emits.copyBack (fun inv hk hi => hk _ payload [] marker hi) (sendPacket_tries writer s.packetizer marker hne)

theorem sendFuH264_emits (s : MarukoSender (σ × Log)) {data : List UInt8} (isLast : Bool) {maxPayload : Nat}
    (hlong : ¬data.length ≤ maxPayload) : Emits writer s (marukoSendFuH264 (logged writer) s data isLast maxPayload).2
      [h264NalPackets data isLast maxPayload] := by
  have hnone : Emits writer s s [[]] := ⟨⟨[], (List.append_nil _).symm, .one .done⟩, ByPackets.refl _ _, rfl⟩
  rw [h264NalPackets.eq_def]
  by_cases hnil : data.length = 0
  · exact absurd (hnil ▸ Nat.zero_le maxPayload) hlong
  · rw [if_neg hnil, if_neg hlong]
    match data, hnil with
    | [], hnil => exact absurd rfl hnil
    | header :: payload, _ =>
      rw [marukoSendFuH264]
      dsimp only
      by_cases hguard : payload.length = 0 ∨ maxPayload ≤ 2
      · rw [if_pos hguard, if_pos hguard]
        exact hnone
      · rw [if_neg hguard, if_neg hguard, min_rtpBufferMax]
        obtain ⟨log, hlog, htried⟩ := marukoFuLoop_tried writer header isLast (min maxPayload rtpBufferMax - 2)
          payload.length s.packetizer payload true 0
        exact Emits.copyBack (fun inv hk hi => marukoFuLoop_kept hk header isLast _ _ _ payload true 0 hi)
          ⟨log, hlog, .one htried⟩

theorem sendNalH264_emits (hopen : 0 ≤ output.socketHandle ∨ output.ring = true) (s : MarukoSender (σ × Log))
    (data : List UInt8) (isLast : Bool) (maxPayload : Nat) :
    Emits writer s (marukoSendNalRtpH264 (logged writer) output s data isLast maxPayload).2
      [h264NalPackets data isLast maxPayload] := by
  rw [marukoSendNalRtpH264]
  by_cases hnil : data.length = 0
  · rw [if_pos hnil, h264NalPackets.eq_def, if_pos hnil]
    exact ⟨⟨[], (List.append_nil _).symm, .one .done⟩, ByPackets.refl _ _, rfl⟩
  · rw [if_neg hnil]
    by_cases hfits : data.length ≤ maxPayload
    · rw [if_pos hfits, h264NalPackets.eq_def, if_neg hnil, if_pos hfits]
      exact sendPacket_emits writer hopen s isLast fun h => hnil (congrArg List.length h)
    · rw [if_neg hfits]
      exact sendFuH264_emits writer s isLast hfits

theorem sendNalHevc_emits (s : MarukoSender (σ × Log)) (data : List UInt8) (isLast : Bool) (maxPayload : Nat) :
    Emits writer s (marukoSendNalRtpHevc (logged writer) s data isLast maxPayload).2
      [hevcNalPackets data isLast maxPayload] := by
  rw [marukoSendNalRtpHevc]
  by_cases hnil : data.length = 0
  · rw [if_pos hnil, hevcNalPackets.eq_def, if_pos hnil]
    exact ⟨⟨[], (List.append_nil _).symm, .one .done⟩, ByPackets.refl _ _, rfl⟩
  · rw [if_neg hnil]
    exact Emits.copyBack (fun inv hk hi => sendHevcNal_kept hk _ data isLast maxPayload hi)
      (sendHevcNal_tries writer s.packetizer data isLast maxPayload)

theorem sendNal_emits (hopen : 0 ≤ output.socketHandle ∨ output.ring = true) (codec : PayloadType)
    (s : MarukoSender (σ × Log)) (data : List UInt8) (isLast : Bool) (maxPayload : Nat) :
    Emits writer s (marukoSendNal (logged writer) output codec s data isLast maxPayload).2
      [nalPackets codec data isLast maxPayload] := by
  cases codec with
  | h264 => exact sendNalH264_emits writer hopen s data isLast maxPayload
  | h265 => exact sendNalHevc_emits writer s data isLast maxPayload

theorem sendRefs_emits (hopen : 0 ≤ output.socketHandle ∨ output.ring = true) (codec : PayloadType) (maxPayload : Nat)
    (refs : List (List UInt8)) (s : MarukoSender (σ × Log)) :
    Emits writer s (marukoSendRefs (logged writer) output codec maxPayload refs s).2
      (refs.map (nalPackets codec · false maxPayload)) := by
  induction refs generalizing s with
  | nil => exact Emits.refl writer s
  | cons ref refs ih => exact (sendNal_emits writer hopen codec s ref false maxPayload).trans (ih _)

theorem sendUnit_emits (hopen : 0 ≤ output.socketHandle ∨ output.ring = true) (codec : PayloadType) (maxPayload : Nat)
    (f : MarukoFrame (σ × Log)) (u : NalUnit) :
    Emits writer f.sender (marukoSendUnit (logged writer) output codec maxPayload f u).sender
      ((setsBefore codec f.params u).map (nalPackets codec · false maxPayload) ++
        [nalPackets codec u.nal u.last maxPayload]) := by
  obtain ⟨totalBytes, s, params⟩ := f
  cases params with
  | none => exact (Emits.refl writer s).trans (sendNal_emits writer hopen codec s u.nal u.last maxPayload)
  | some sets =>
      exact (sendRefs_emits writer hopen codec maxPayload _ s).trans
        (sendNal_emits writer hopen codec _ u.nal u.last maxPayload)

/-- The loop over the units: the packets it tries and the cache it leaves. -/
theorem units_emit (hopen : 0 ≤ output.socketHandle ∨ output.ring = true) (codec : PayloadType) (maxPayload : Nat)
    (us : List NalUnit) (f : MarukoFrame (σ × Log)) :
    Emits writer f.sender (us.foldl (marukoSendUnit (logged writer) output codec maxPayload) f).sender
      (frameGroups codec maxPayload f.params us) := by
  induction us generalizing f with
  | nil => exact Emits.refl writer f.sender
  | cons u us ih => exact (sendUnit_emits writer hopen codec maxPayload f u).trans (ih _)

theorem units_params (output : MarukoOutput) (codec : PayloadType) (maxPayload : Nat) (us : List NalUnit)
    (f : MarukoFrame σ) : (us.foldl (marukoSendUnit writer output codec maxPayload) f).params =
      cacheAfterUnits codec f.params us := by
  induction us generalizing f with
  | nil => rfl
  | cons u us ih => exact ih _

/-- The sender after a frame, the timestamp apart, which moves on at its end. -/
theorem sendFrame_emits (hopen : 0 ≤ output.socketHandle ∨ output.ring = true) (packs : List I6cVencPack)
    (s : MarukoSender (σ × Log)) (params : Option H26xParamSets) (codec : PayloadType) (maxPayload : Nat) :
    ∃ t, Emits writer s t (frameGroups codec maxPayload params (marukoUnits codec packs)) ∧
      (marukoSendFrameRtp (logged writer) output packs s params codec maxPayload).sender =
        { t with rtp := { t.rtp with timestamp := t.rtp.timestamp + t.rtp.frameTicks } } := by
  refine ⟨_, ?_, rfl⟩
  rw [marukoPackLoop_eq]
  exact units_emit writer hopen codec maxPayload _ ⟨0, s, params⟩

end WaybeamVenc.MarukoTrials
