import WaybeamVenc.MarukoRoundTrip
import WaybeamVenc.Star6eTrials

namespace WaybeamVenc.LossyDepay

open H26x RtpPacketizer HevcRtp HevcDepay HevcRoundTrip SidecarTiling PacketTrials MarukoRoundTrip Reassembly Star6eTrials

/-- RFC 7798 for a receiver that was not told of a loss. A fragment that starts
a unit gives up the one under way, as does any other packet, and a fragment of a
unit that is not under way is dropped. -/
def receiveFragment (got : Option (List UInt8)) (b0 : UInt8) : List UInt8 → Option (List UInt8) × List (List UInt8)
  | b1 :: fu :: fragment =>
    if fu.toNat.testBit 7 then
      (if fu.toNat.testBit 6 then none else some (unitHeader b0 fu :: b1 :: fragment), [])
    else
      match got with
      | none => (none, [])
      | some nal => if fu.toNat.testBit 6 then (none, [nal ++ fragment]) else (some (nal ++ fragment), [])
  | _ => (none, [])

/-- One payload: it takes every one, and drops what it cannot read. -/
def receive : Receiver (Option (List UInt8)) (List UInt8) (List UInt8)
  | _, [] => some (none, [])
  | got, b0 :: bytes =>
    some (
      if nalType b0 = 49 then receiveFragment got b0 bytes
      else if nalType b0 < 48 then (none, [b0 :: bytes])
      else if nalType b0 = 48 then (none, (receiveAggregate bytes).getD [])
      else (none, []))

/-- The units that come out of a sequence of payloads, one left open dropped. -/
def reassembled (payloads : List (List UInt8)) : List (List UInt8) := ((feed receive none payloads).map (·.2)).getD []

/-- A unit that can travel as a packet of its own. -/
def Separable (nal : List UInt8) : Prop := h26xUtilHevcNaluType nal ≠ 48 ∧ h26xUtilHevcNaluType nal ≠ 49

/-- Whichever front part of the packets arrives, the receiver gets some of the
units and nothing else. -/
def Carries (g : List Packet) (nals : List (List UInt8)) : Prop :=
  (∀ nal ∈ nals, Separable nal) → ∀ got n, ∃ got' out,
    feed receive got ((g.take n).map Packet.payload) = some (got', out) ∧ out.Sublist nals

theorem carries_nil (nals : List (List UInt8)) : Carries [] nals := by
  intro _ got n
  rw [List.take_nil]
  exact ⟨got, [], rfl, List.nil_sublist nals⟩

theorem carries_one {p : Packet} {nals : List (List UInt8)}
    (h : (∀ nal ∈ nals, Separable nal) → ∀ got, ∃ got' out,
      receive got p.payload = some (got', out) ∧ out.Sublist nals) : Carries [p] nals := by
  intro hnals got n
  cases n with
  | zero => exact ⟨got, [], rfl, List.nil_sublist nals⟩
  | succ n =>
      obtain ⟨got', out, hreceive, hout⟩ := h hnals got
      rw [List.take_succ_cons, List.take_nil]
      exact ⟨got', out, feed_one hreceive, hout⟩

theorem receive_single {nal : List UInt8} (hne : nal ≠ []) (h : Separable nal) (got : Option (List UInt8)) :
    ∃ got' out, receive got nal = some (got', out) ∧ out.Sublist [nal] := by
  obtain ⟨b0, bytes, rfl⟩ := List.exists_cons_of_ne_nil hne
  obtain ⟨haggregate, hfragment⟩ := h
  have haggregate : nalType b0 ≠ 48 := haggregate
  have hfragment : nalType b0 ≠ 49 := hfragment
  rw [receive, if_neg hfragment]
  by_cases htype : nalType b0 < 48
  · rw [if_pos htype]
    exact ⟨none, [b0 :: bytes], rfl, List.Sublist.refl _⟩
  · rw [if_neg htype, if_neg haggregate]
    exact ⟨none, [], rfl, List.nil_sublist _⟩

theorem receive_start (got : Option (List UInt8)) {b0 fu : UInt8} (b1 : UInt8) (fragment : List UInt8)
    (htype : nalType b0 = 49) (hstart : fu.toNat.testBit 7 = true) (hlast : fu.toNat.testBit 6 = false) :
    receive got (b0 :: b1 :: fu :: fragment) = some (some (unitHeader b0 fu :: b1 :: fragment), []) := by
  rw [receive, if_pos htype, receiveFragment.eq_def]
  dsimp only
  rw [if_pos hstart, hlast]
  rfl

theorem receive_later {b0 fu : UInt8} (b1 : UInt8) (nal fragment : List UInt8) (htype : nalType b0 = 49)
    (hstart : fu.toNat.testBit 7 = false) :
    receive (some nal) (b0 :: b1 :: fu :: fragment) =
      some (if fu.toNat.testBit 6 then (none, [nal ++ fragment]) else (some (nal ++ fragment), [])) := by
  rw [receive, if_pos htype, receiveFragment.eq_def]
  dsimp only
  rw [hstart]
  exact congrArg some (if_neg Bool.false_ne_true)

theorem builds (header0 header1 : UInt8) :
    Builds receive (fun start last chunk => hevcFront header0 header1 start last ++ chunk) [header0, header1]
      fun _ => True where
  first got chunk _ _ := by
    have h := receive_start got (fuIndicator1 header0 header1) chunk (fuIndicator0_type header0 header1)
      (fuFlags_start header0 true false) (fuFlags_last header0 true false)
    rw [unitHeader_fu, fuIndicator1_eq] at h
    rw [hevcFront, fuIndicator1_eq]
    exact h
  later unit chunk last _ := by
    have h := receive_later (fuIndicator1 header0 header1) unit chunk (fuIndicator0_type header0 header1)
      (fuFlags_start header0 false last)
    rw [fuFlags_last] at h
    exact h

theorem fuPackets_carry (header0 header1 : UInt8) (isLast : Bool) {maxFragment : Nat} {payload : List UInt8}
    (hmax : 0 < maxFragment) (hlong : maxFragment < payload.length) :
    Carries (fuPackets (hevcFront header0 header1) isLast maxFragment payload.length payload true)
      [header0 :: header1 :: payload] := by
  intro _ got n
  rw [List.map_take, fuPackets_payload]
  cases n with
  | zero => exact ⟨got, [], rfl, List.nil_sublist _⟩
  | succ n =>
      rcases (builds header0 header1).feed_fragments hmax hlong (show True from trivial) n with ⟨_, h⟩ | ⟨_, got', h⟩
      · exact ⟨none, _, h, List.Sublist.refl _⟩
      · exact ⟨got', [], h, List.nil_sublist _⟩

theorem hevcNalPackets_carry {data : List UInt8} (isLast : Bool) (maxPayload : Nat) :
    Carries (hevcNalPackets data isLast maxPayload) [data] := by
  rcases hevcNalPackets_cases data isLast maxPayload with
    ⟨h, -⟩ | ⟨h, hne, -⟩ | ⟨header0, header1, payload, maxFragment, rfl, -, hpos, hlong, h⟩
  · rw [h]
    exact carries_nil _
  · rw [h]
    apply carries_one
    intro hnals got
    rw [Packet.payload, List.append_nil]
    exact receive_single hne (hnals data (List.mem_singleton_self data)) got
  · rw [h]
    exact fuPackets_carry header0 header1 isLast hpos hlong

theorem receive_aggregate {ap : HevcApBuilder} {pending : List (List UInt8)} (h : Waiting ap pending)
    (hcount : 2 ≤ pending.length) (got : Option (List UInt8)) :
    receive got (apHeader ap ++ ap.payload) = some (none, pending) := by
  obtain ⟨b0, b1, hheader, htype⟩ := apHeader_type h.forbidden
  have hfragment : nalType b0 ≠ 49 := by
    rw [htype]
    decide
  have hnot : ¬ nalType b0 < 48 := by
    rw [htype]
    decide
  have hlen : ∀ nal ∈ pending, 0 < nal.length ∧ nal.length < 65536 := fun nal hnal =>
    ⟨List.length_pos_iff.2 (h.held nal hnal), h.short nal hnal⟩
  rw [hheader, h.payload, List.cons_append, List.cons_append, List.nil_append, receive, if_neg hfragment,
    if_neg hnot, if_pos htype, receiveAggregate_sized b1 hlen hcount]
  rfl

theorem firstQueued_waiting {ap : HevcApBuilder} {nal : List UInt8} (h : Waiting ap [nal]) :
    firstQueued ap.payload = nal := by
  rw [h.payload, List.flatMap_singleton]
  exact firstQueued_sized (h.short nal (List.mem_singleton_self nal))

theorem flushPackets_carry {ap : HevcApBuilder} {pending : List (List UInt8)} (h : Waiting ap pending) (marker : Bool) :
    Carries (flushPackets ap marker) pending := by
  rw [flushPackets]
  cases pending with
  | nil =>
      have hzero : ap.nalCount = 0 := h.count
      rw [if_pos hzero]
      exact carries_nil _
  | cons nal rest =>
      cases rest with
      | nil =>
          have hone : ap.nalCount = 1 := h.count
          have hne := h.held nal (List.mem_singleton_self nal)
          rw [if_neg (by omega), if_pos hone, firstQueued_waiting h, onePacket,
            if_neg fun hnil => hne (List.eq_nil_of_length_eq_zero hnil)]
          apply carries_one
          intro hnals got
          rw [Packet.payload, List.append_nil]
          exact receive_single hne (hnals nal (List.mem_singleton_self nal)) got
      | cons nal' rest =>
          have hcount : ap.nalCount = rest.length + 2 := h.count
          have hne : (apHeader ap ++ ap.payload).length ≠ 0 := by
            rw [apHeader, List.length_append]
            exact Nat.ne_of_gt (Nat.add_pos_left Nat.two_pos _)
          rw [if_neg (by omega), if_neg (by omega), onePacket, if_neg hne]
          apply carries_one
          intro _ got
          rw [Packet.payload, List.append_nil]
          exact ⟨none, _, receive_aggregate h (Nat.le_add_left 2 _) got, List.Sublist.refl _⟩

/-- The same for what is tried one after the other. -/
def Conveys (gs : List (List Packet)) (nals : List (List UInt8)) : Prop :=
  (∀ nal ∈ nals, Separable nal) → ∀ log, TriedAll gs log → ∀ got, ∃ got' out,
    feed receive got ((delivered log).map WriteCall.payload) = some (got', out) ∧ out.Sublist nals

theorem Conveys.nil : Conveys [] [] := by
  intro _ log htried got
  cases htried
  exact ⟨got, [], rfl, List.Sublist.refl []⟩

theorem Carries.cons {g : List Packet} {gs : List (List Packet)} {nals nals' : List (List UInt8)} (h : Carries g nals)
    (k : Conveys gs nals') : Conveys (g :: gs) (nals ++ nals') := by
  intro hnals log htried got
  cases htried with
  | cons hg hgs =>
      obtain ⟨n, hpayload, -, -⟩ := hg.delivered
      obtain ⟨middle, out, hfeed, hout⟩ := h (fun nal hnal => hnals nal (List.mem_append_left _ hnal)) got n
      obtain ⟨got', out', hfeed', hout'⟩ :=
        k (fun nal hnal => hnals nal (List.mem_append_right _ hnal)) _ hgs middle
      rw [← hpayload] at hfeed
      rw [delivered_append, List.map_append]
      exact ⟨got', out ++ out', feed_append hfeed hfeed', hout.append hout'⟩

theorem Carries.conveys {g : List Packet} {nals : List (List UInt8)} (h : Carries g nals) : Conveys [g] nals := by
  rw [← List.append_nil nals]
  exact h.cons .nil

theorem Conveys.append {gs gs' : List (List Packet)} {nals nals' : List (List UInt8)} (h : Conveys gs nals)
    (k : Conveys gs' nals') : Conveys (gs ++ gs') (nals ++ nals') := by
  intro hnals log htried got
  obtain ⟨front, rest, rfl, hfront, hrest⟩ := htried.split
  obtain ⟨middle, out, hfeed, hout⟩ := h (fun nal hnal => hnals nal (List.mem_append_left _ hnal)) _ hfront got
  obtain ⟨got', out', hfeed', hout'⟩ := k (fun nal hnal => hnals nal (List.mem_append_right _ hnal)) _ hrest middle
  rw [delivered_append, List.map_append]
  exact ⟨got', out ++ out', feed_append hfeed hfeed', hout.append hout'⟩

end WaybeamVenc.LossyDepay
