import WaybeamVenc.SendFailures

namespace WaybeamVenc.FrameMarker

open H26x RtpPacketizer HevcRtp HevcRoundTrip FrameUnits MarukoVideo PacketTrials MarukoTrials Reassembly Star6eTrials
  SendFailures

variable {σ : Type}

/-- The marker is on the last packet and on no other. -/
def EndsMarked (markers : List Bool) : Prop := ∃ n, markers = List.replicate n false ++ [true]

theorem not_endsMarked_nil : ¬EndsMarked [] := by
  rintro ⟨n, h⟩
  exact List.append_ne_nil_of_right_ne_nil _ (List.cons_ne_nil true []) h.symm

theorem endsMarked_cons (markers : List Bool) : EndsMarked (false :: markers) ↔ EndsMarked markers := by
  constructor
  · rintro ⟨n, h⟩
    cases n with
    | zero => cases h
    | succ n => exact ⟨n, (List.cons.inj h).2⟩
  · rintro ⟨n, rfl⟩
    exact ⟨n + 1, rfl⟩

theorem endsMarked_append {front : List Bool} (hfront : ∀ marker ∈ front, marker = false) (markers : List Bool) :
    EndsMarked (front ++ markers) ↔ EndsMarked markers := by
  induction front with
  | nil => exact Iff.rfl
  | cons marker front ih =>
      rw [hfront marker List.mem_cons_self, List.cons_append, endsMarked_cons]
      exact ih fun m hm => hfront m (List.mem_cons_of_mem marker hm)

theorem not_endsMarked {markers : List Bool} (h : ∀ marker ∈ markers, marker = false) : ¬EndsMarked markers := by
  rw [← List.append_nil markers, endsMarked_append h]
  exact not_endsMarked_nil

/-! The markers of one unit. -/

def Unmarked (ps : List Packet) : Prop := ∀ marker ∈ ps.map Packet.marker, marker = false

theorem unmarked_nil : Unmarked [] := fun _ h => by cases h

theorem onePacket_unmarked (payload : List UInt8) : Unmarked (onePacket payload false) := by
  rw [onePacket]
  split
  · exact unmarked_nil
  · exact fun _ h => List.mem_singleton.1 h

theorem flushPackets_unmarked (ap : HevcApBuilder) : Unmarked (flushPackets ap false) := by
  rw [flushPackets]
  split
  · exact unmarked_nil
  · split
    · exact onePacket_unmarked _
    · exact onePacket_unmarked _

theorem fuPackets_unmarked (front : Bool → Bool → List UInt8) (maxFragment fuel : Nat) (payload : List UInt8)
    (start : Bool) : Unmarked (fuPackets front false maxFragment fuel payload start) := by
  intro marker h
  rw [fuPackets, List.map_map] at h
  obtain ⟨f, _, rfl⟩ := List.mem_map.1 h
  exact Bool.and_false f.2.1

theorem fuPackets_marked (front : Bool → Bool → List UInt8) {maxFragment fuel : Nat} {payload : List UInt8} (start : Bool)
    (hmax : 0 < maxFragment) (hne : payload ≠ []) (hfuel : payload.length ≤ fuel) :
    EndsMarked ((fuPackets front true maxFragment fuel payload start).map Packet.marker) := by
  induction fuel generalizing payload start with
  | zero => exact absurd (List.eq_nil_of_length_eq_zero (Nat.le_zero.1 hfuel)) hne
  | succ fuel ih =>
      rcases fragments_cases start hmax hne hfuel with ⟨_, h⟩ | ⟨_, _, hrest, hlen, h⟩
      · rw [fuPackets, h]
        exact ⟨0, rfl⟩
      · have htail := ih false hrest hlen
        rw [fuPackets] at htail ⊢
        rw [h, List.map_cons, List.map_cons]
        exact (endsMarked_cons _).2 htail

def fuFront : PayloadType → Nat
  | .h265 => 3
  | .h264 => 2

/-- Whether any packet of a unit is tried: one too long for a packet needs room
for a fragment. -/
def Emitted (codec : PayloadType) (maxPayload : Nat) (nal : List UInt8) : Prop :=
  nal.length ≤ maxPayload ∨ fuFront codec < maxPayload

/-- A unit with nothing to send, in one packet or in its fragments. -/
theorem nalPackets_cases (codec : PayloadType) (data : List UInt8) (isLast : Bool) (maxPayload : Nat) :
    (nalPackets codec data isLast maxPayload = [] ∧ (data = [] ∨ ¬Emitted codec maxPayload data)) ∨
      (nalPackets codec data isLast maxPayload = [⟨data, [], isLast⟩] ∧ Emitted codec maxPayload data) ∨
      ∃ front maxFragment payload, nalPackets codec data isLast maxPayload =
          fuPackets front isLast maxFragment payload.length payload true ∧
        0 < maxFragment ∧ maxFragment < payload.length ∧ Emitted codec maxPayload data := by
  cases codec with
  | h265 =>
      rcases hevcNalPackets_cases data isLast maxPayload with
        ⟨h, hnil | ⟨hlong, hsmall⟩⟩ | ⟨h, -, hfits⟩ | ⟨header0, header1, payload, maxFragment, -, hroom, hpos, hlong, h⟩
      · exact Or.inl ⟨h, Or.inl hnil⟩
      · exact Or.inl ⟨h, Or.inr (not_or.2 ⟨Nat.not_le_of_lt hlong, Nat.not_lt_of_le hsmall⟩)⟩
      · exact Or.inr (Or.inl ⟨h, Or.inl hfits⟩)
      · exact Or.inr (Or.inr ⟨_, maxFragment, payload, h, hpos, hlong, Or.inr hroom⟩)
  | h264 =>
      rcases h264NalPackets_cases data isLast maxPayload with
        ⟨h, hnil | ⟨hlong, hsmall⟩⟩ | ⟨h, -, hfits⟩ | ⟨header, payload, maxFragment, -, hroom, hpos, hlong, h⟩
      · exact Or.inl ⟨h, Or.inl hnil⟩
      · exact Or.inl ⟨h, Or.inr (not_or.2 ⟨Nat.not_le_of_lt hlong, Nat.not_lt_of_le hsmall⟩)⟩
      · exact Or.inr (Or.inl ⟨h, Or.inl hfits⟩)
      · exact Or.inr (Or.inr ⟨_, maxFragment, payload, h, hpos, hlong, Or.inr hroom⟩)

theorem nalPackets_unmarked (codec : PayloadType) (data : List UInt8) (maxPayload : Nat) :
    Unmarked (nalPackets codec data false maxPayload) := by
  rcases nalPackets_cases codec data false maxPayload with ⟨h, -⟩ | ⟨h, -⟩ | ⟨front, maxFragment, payload, h, -⟩
  · rw [h]
    exact unmarked_nil
  · rw [h]
    exact fun _ hmem => List.mem_singleton.1 hmem
  · rw [h]
    exact fuPackets_unmarked front maxFragment _ payload true

theorem nalPackets_marked {codec : PayloadType} {data : List UInt8} {maxPayload : Nat} (hne : data ≠ [])
    (h : Emitted codec maxPayload data) : EndsMarked ((nalPackets codec data true maxPayload).map Packet.marker) := by
  rcases nalPackets_cases codec data true maxPayload with
    ⟨-, hnil | hnone⟩ | ⟨hone, -⟩ | ⟨front, maxFragment, payload, hfu, hpos, hlong, -⟩
  · exact absurd hnil hne
  · exact absurd h hnone
  · rw [hone]
    exact ⟨0, rfl⟩
  · have hpayload : payload ≠ [] := List.ne_nil_of_length_pos (Nat.zero_lt_of_lt hlong)
    rw [hfu]
    exact fuPackets_marked front true hpos hpayload (Nat.le_refl _)

theorem nalPackets_none {codec : PayloadType} {data : List UInt8} {maxPayload : Nat} (isLast : Bool)
    (h : ¬Emitted codec maxPayload data) : nalPackets codec data isLast maxPayload = [] := by
  rcases nalPackets_cases codec data isLast maxPayload with ⟨hnil, -⟩ | ⟨-, hsent⟩ | ⟨-, -, -, -, -, -, hsent⟩
  · exact hnil
  · exact absurd hsent h
  · exact absurd hsent h

theorem nalPackets_endsMarked {codec : PayloadType} {data : List UInt8} (isLast : Bool) (maxPayload : Nat)
    (hne : data ≠ []) : EndsMarked ((nalPackets codec data isLast maxPayload).map Packet.marker) ↔
      isLast = true ∧ Emitted codec maxPayload data := by
  constructor
  · intro hmarked
    cases isLast with
    | false => exact absurd hmarked (not_endsMarked (nalPackets_unmarked codec data maxPayload))
    | true =>
        refine ⟨rfl, ?_⟩
        by_contra hnone
        rw [nalPackets_none true hnone] at hmarked
        exact not_endsMarked_nil hmarked
  · rintro ⟨rfl, hemitted⟩
    exact nalPackets_marked hne hemitted

/-! The markers of a frame. -/

def markers (gs : List (List Packet)) : List Bool := gs.flatten.map Packet.marker

theorem markers_cons (g : List Packet) (gs : List (List Packet)) :
    markers (g :: gs) = g.map Packet.marker ++ markers gs := by
  rw [markers, List.flatten_cons, List.map_append]
  rfl

theorem markers_append (gs gs' : List (List Packet)) : markers (gs ++ gs') = markers gs ++ markers gs' := by
  rw [markers, List.flatten_append, List.map_append]
  rfl

theorem markers_unmarked {gs : List (List Packet)} (h : ∀ g ∈ gs, Unmarked g) : ∀ marker ∈ markers gs, marker = false := by
  intro marker hmarker
  obtain ⟨p, hp, rfl⟩ := List.mem_map.1 hmarker
  obtain ⟨g, hg, hpg⟩ := List.mem_flatten.1 hp
  exact h g hg _ (List.mem_map_of_mem hpg)

theorem aloneGroups_unmarked (ap : HevcApBuilder) (data : List UInt8) (maxPayload : Nat) :
    ∀ g ∈ (aloneGroups ap data false maxPayload).1, Unmarked g := by
  intro g hg
  rcases List.mem_cons.1 hg with rfl | hg
  · exact flushPackets_unmarked ap
  · rw [List.mem_singleton.1 hg]
    exact nalPackets_unmarked .h265 data maxPayload

theorem nalGroups_unmarked (maxPayload : Nat) (ap : HevcApBuilder) (data : List UInt8) :
    ∀ g ∈ (nalGroups maxPayload ap data false).1, Unmarked g := by
  rw [nalGroups]
  split
  · exact aloneGroups_unmarked ap data maxPayload
  · split
    · exact fun g hg => by cases hg
    · split
      · intro g hg
        rw [List.mem_singleton.1 hg]
        exact flushPackets_unmarked ap
      · exact aloneGroups_unmarked ap data maxPayload

theorem allGroups_unmarked (maxPayload : Nat) (ap : HevcApBuilder) {hs : List (List UInt8 × Bool)}
    (h : ∀ x ∈ hs, x.2 = false) : ∀ g ∈ (allGroups maxPayload ap hs).1, Unmarked g := by
  induction hs generalizing ap with
  | nil => exact fun g hg => by cases hg
  | cons x hs ih =>
      intro g hg
      rw [allGroups, h x List.mem_cons_self] at hg
      rcases List.mem_append.1 hg with hg | hg
      · exact nalGroups_unmarked maxPayload ap x.1 g hg
      · exact ih _ (fun y hy => h y (List.mem_cons_of_mem x hy)) g hg

theorem flushed_count (ap : HevcApBuilder) : (flushed ap).nalCount = 0 := by
  rw [flushed]
  split
  next hzero => exact hzero
  next => rfl

theorem flushPackets_flushed (ap : HevcApBuilder) (marker : Bool) : flushPackets (flushed ap) marker = [] := by
  rw [flushPackets, if_pos (flushed_count ap)]

theorem onePacket_marked {payload : List UInt8} (hne : payload.length ≠ 0) :
    (onePacket payload true).map Packet.marker = [true] := by
  rw [onePacket, if_neg hne]
  rfl

theorem flushPackets_marked {ap : HevcApBuilder} {pending : List (List UInt8)} (h : Waiting ap pending)
    (hne : pending ≠ []) : (flushPackets ap true).map Packet.marker = [true] := by
  have hcount : ap.nalCount ≠ 0 := fun hzero => hne (List.eq_nil_of_length_eq_zero (h.count.symm.trans hzero))
  rw [flushPackets, if_neg hcount]
  split
  next hone =>
    obtain ⟨nal, rfl⟩ := List.length_eq_one_iff.1 (h.count.symm.trans hone)
    have hnal := h.held nal (List.mem_singleton_self nal)
    rw [LossyDepay.firstQueued_waiting h]
    exact onePacket_marked fun hnil => hnal (List.eq_nil_of_length_eq_zero hnil)
  next =>
    apply onePacket_marked
    rw [apHeader, List.length_append]
    exact Nat.ne_of_gt (Nat.add_pos_left Nat.two_pos _)

/-- All packets of the last unit of a frame, the flush behind the loop included. -/
def closing (r : List (List Packet) × HevcApBuilder) : List (List Packet) := r.1 ++ [flushPackets r.2 true]

theorem queueGroups_closing {ap : HevcApBuilder} {pending : List (List UInt8)} {data : List UInt8} (h : Waiting ap pending)
    (hne : data.length ≠ 0) (hshort : data.length < 65536) (isLast : Bool) :
    markers (closing (queueGroups ap data isLast)) = [true] := by
  have hmarked := flushPackets_marked (hevcApAdd_waiting h hne hshort) (List.append_ne_nil_of_right_ne_nil _
    (List.cons_ne_nil data []))
  cases isLast with
  | false =>
      change markers [flushPackets (hevcApAdd ap data) true] = _
      rw [markers_cons, hmarked]
      rfl
  | true =>
      change markers [flushPackets (hevcApAdd ap data) true, flushPackets (flushed (hevcApAdd ap data)) true] = _
      rw [markers_cons, hmarked, flushPackets_flushed]
      rfl

theorem aloneGroups_closing (ap : HevcApBuilder) {data : List UInt8} (isLast : Bool) (maxPayload : Nat) (hne : data ≠ []) :
    EndsMarked (markers (closing (aloneGroups ap data isLast maxPayload))) ↔
      isLast = true ∧ Emitted .h265 maxPayload data := by
  change EndsMarked (markers [flushPackets ap false, hevcNalPackets data isLast maxPayload,
    flushPackets (flushed ap) true]) ↔ _
  rw [flushPackets_flushed, markers_cons, endsMarked_append (flushPackets_unmarked ap), markers_cons]
  change EndsMarked (List.map Packet.marker (hevcNalPackets data isLast maxPayload) ++ []) ↔ _
  rw [List.append_nil]
  exact @nalPackets_endsMarked .h265 data isLast maxPayload hne

/-- The last unit that is kept ends the frame: it is flagged and sent, or it
waits in the queue for the flush behind the loop. -/
def Closes (maxPayload : Nat) (u : NalUnit) : Prop :=
  (u.last = true ∧ Emitted .h265 maxPayload u.nal) ∨ u.nal.length + 4 ≤ maxPayload

theorem canAdd_flushed (ap : HevcApBuilder) {n maxPayload : Nat} (hn : n ≠ 0) (hshort : n < 65536) :
    hevcApCanAdd (flushed ap) n maxPayload = true ↔ n + 4 ≤ maxPayload := by
  rw [hevcApCanAdd, if_neg (by omega), if_pos (flushed_count ap), decide_eq_true_iff]
  omega

theorem nalGroups_closing {ap : HevcApBuilder} {pending : List (List UInt8)} (h : Waiting ap pending) {maxPayload : Nat}
    (hbuffer : maxPayload ≤ rtpBufferMax) {u : NalUnit} (hne : u.nal ≠ []) :
    EndsMarked (markers (closing (nalGroups maxPayload ap u.nal u.last))) ↔ Closes maxPayload u := by
  have hlen : u.nal.length ≠ 0 := fun hnil => hne (List.eq_nil_of_length_eq_zero hnil)
  have hmarked : EndsMarked [true] := ⟨0, rfl⟩
  have hcap : maxPayload ≤ 8192 := hbuffer
  rw [nalGroups, Closes]
  by_cases hbig : maxPayload < u.nal.length ∨ 65535 < u.nal.length
  · have hlong : ¬u.nal.length + 4 ≤ maxPayload := by omega
    rw [if_pos hbig, aloneGroups_closing ap u.last maxPayload hne, or_iff_left hlong]
  · have hshort : u.nal.length < 65536 := by omega
    rw [if_neg hbig]
    by_cases hroom : hevcApCanAdd ap u.nal.length maxPayload = true
    · have hfits : u.nal.length + 4 ≤ maxPayload := by
        have hsum := (canAdd_room hroom).2.2
        split at hsum <;> omega
      rw [if_pos hroom, queueGroups_closing h hlen hshort u.last]
      exact iff_of_true hmarked (Or.inr hfits)
    · rw [if_neg hroom]
      by_cases hroom' : hevcApCanAdd (flushed ap) u.nal.length maxPayload = true
      · rw [if_pos hroom']
        change EndsMarked (markers (flushPackets ap false ::
          closing (queueGroups (flushed ap) u.nal u.last))) ↔ _
        rw [markers_cons, endsMarked_append (flushPackets_unmarked ap),
          queueGroups_closing (flushed_waiting h) hlen hshort u.last]
        exact iff_of_true hmarked (Or.inr ((canAdd_flushed ap hlen hshort).1 hroom'))
      · have hlong : ¬u.nal.length + 4 ≤ maxPayload := fun hfits => hroom' ((canAdd_flushed ap hlen hshort).2 hfits)
        rw [if_neg hroom', aloneGroups_closing ap u.last maxPayload hne, or_iff_left hlong]

/-! Which units are flagged. -/

theorem entryUnits_last {codec : PayloadType} {last : Bool} {e : Entry} {u : NalUnit} (h : u ∈ entryUnits codec last e) :
    u.last = last := by
  rw [entryUnits] at h
  split at h
  · cases h
  · dsimp only at h
    split at h
    · cases h
    · rw [List.mem_singleton.1 h]

theorem entryUnits_front {codec : PayloadType} (last : Bool) (e : Entry) : (entryUnits codec last e).dropLast = [] := by
  rw [entryUnits]
  split
  · rfl
  · dsimp only
    split <;> rfl

def FlaggedLast (us : List NalUnit) : Prop := ∀ u ∈ us.dropLast, u.last = false

theorem FlaggedLast.append {us us' : List NalUnit} (hus : ∀ u ∈ us, u.last = false) (h : FlaggedLast us') :
    FlaggedLast (us ++ us') := by
  intro u hu
  rw [List.dropLast_append] at hu
  split at hu
  · exact hus u (List.dropLast_subset us hu)
  · rcases List.mem_append.1 hu with hu | hu
    · exact hus u hu
    · exact h u hu

theorem packUnits_unflagged {codec : PayloadType} {es : List Entry} :
    ∀ u ∈ packUnits codec false es, u.last = false := by
  induction es with
  | nil => exact fun u hu => by cases hu
  | cons e es ih =>
      intro u hu
      rw [packUnits, Bool.false_and] at hu
      rcases List.mem_append.1 hu with hu | hu
      · exact entryUnits_last hu
      · exact ih u hu

theorem packUnits_flaggedLast (codec : PayloadType) (lastPack : Bool) (es : List Entry) :
    FlaggedLast (packUnits codec lastPack es) := by
  induction es with
  | nil => exact fun u hu => by cases hu
  | cons e es ih =>
      rw [packUnits]
      cases es with
      | nil =>
          rw [packUnits, List.append_nil]
          intro u hu
          rw [entryUnits_front] at hu
          cases hu
      | cons e' es =>
          rw [List.isEmpty_cons, Bool.and_false]
          exact FlaggedLast.append (fun u hu => entryUnits_last hu) ih

theorem frameUnits_flaggedLast (codec : PayloadType) (ps : List (List Entry)) : FlaggedLast (frameUnits codec ps) := by
  induction ps with
  | nil => exact fun u hu => by cases hu
  | cons p ps ih =>
      rw [frameUnits]
      cases ps with
      | nil =>
          rw [frameUnits, List.append_nil]
          exact packUnits_flaggedLast codec true p
      | cons p' ps =>
          rw [List.isEmpty_cons]
          exact FlaggedLast.append packUnits_unflagged ih

theorem front_unflagged {us front : List NalUnit} {u : NalUnit} (h : FlaggedLast us) (heq : us = front ++ [u]) :
    ∀ v ∈ front, v.last = false := by
  intro v hv
  apply h v
  rw [heq, List.dropLast_concat]
  exact hv

/-! Frames. -/

theorem handed_append (codec : PayloadType) (params : Option H26xParamSets) (us us' : List NalUnit) :
    handed codec params (us ++ us') = handed codec params us ++ handed codec (cacheAfterUnits codec params us) us' := by
  induction us generalizing params with
  | nil => rfl
  | cons u us ih =>
      rw [List.cons_append, handed, handed, ih]
      exact (List.append_assoc _ _ _).symm

theorem handed_unflagged {codec : PayloadType} {params : Option H26xParamSets} {us : List NalUnit}
    (h : ∀ u ∈ us, u.last = false) : ∀ x ∈ handed codec params us, x.2 = false := by
  induction us generalizing params with
  | nil => exact fun x hx => by cases hx
  | cons u us ih =>
      intro x hx
      rw [handed, List.append_assoc] at hx
      rcases List.mem_append.1 hx with hx | hx
      · obtain ⟨set, _, rfl⟩ := List.mem_map.1 hx
        rfl
      · rcases List.mem_cons.1 hx with rfl | hx
        · exact h u List.mem_cons_self
        · exact ih (fun v hv => h v (List.mem_cons_of_mem u hv)) x hx

theorem star6e_endsMarked (params : Option H26xParamSets) (packs : List MiVencPack) {maxPayload : Nat}
    (hbuffer : maxPayload ≤ rtpBufferMax) : EndsMarked (markers (star6eGroups params packs maxPayload)) ↔
      ∃ u, (star6eUnits packs).getLast? = some u ∧ Closes maxPayload u := by
  rw [star6eGroups]
  cases hlast : (star6eUnits packs).getLast? with
  | none =>
      rw [List.getLast?_eq_none_iff.1 hlast]
      exact iff_of_false not_endsMarked_nil fun ⟨u, hu, _⟩ => by cases hu
  | some u =>
      obtain ⟨front, hunits⟩ := List.getLast?_eq_some_iff.1 hlast
      have hne : ∀ v ∈ star6eUnits packs, v.nal ≠ [] := fun v hv => frameUnits_nal_ne_nil hv
      have hflags := front_unflagged (frameUnits_flaggedLast .h265 _) hunits
      have hbefore : ∀ x ∈ handed .h265 params front ++
          (setsBefore .h265 (cacheAfterUnits .h265 params front) u).map (·, false), x.2 = false := by
        intro x hx
        rcases List.mem_append.1 hx with hx | hx
        · exact handed_unflagged hflags x hx
        · obtain ⟨set, _, rfl⟩ := List.mem_map.1 hx
          rfl
      have hhanded : handed .h265 params (star6eUnits packs) = (handed .h265 params front ++
          (setsBefore .h265 (cacheAfterUnits .h265 params front) u).map (·, false)) ++ [(u.nal, u.last)] := by
        rw [hunits, handed_append, handed, handed, List.append_nil, List.append_assoc]
      have hnals := @handed_ne_nil .h265 params _ hne
      rw [hhanded] at hnals
      obtain ⟨_, pending, _, hwaiting, _⟩ := allGroups_moves Waiting.empty
        (fun x hx => hnals x (List.mem_append_left _ hx)) maxPayload
      have hfront := markers_unmarked (allGroups_unmarked maxPayload hevcApReset hbefore)
      rw [hhanded, allGroups_append]
      generalize allGroups maxPayload hevcApReset (handed .h265 params front ++ _) = r at hwaiting hfront ⊢
      have hgroups : allGroups maxPayload r.2 [(u.nal, u.last)] = nalGroups maxPayload r.2 u.nal u.last := by
        rw [allGroups, allGroups, List.append_nil]
      have hclosing := nalGroups_closing hwaiting hbuffer (hne u (hunits ▸ List.mem_append_right front List.mem_cons_self))
      dsimp only
      rw [hgroups, List.append_assoc, markers_append, endsMarked_append hfront]
      rw [closing] at hclosing
      rw [hclosing]
      simp only [Option.some.injEq, exists_eq_left']

theorem frameGroups_eq (codec : PayloadType) (maxPayload : Nat) (params : Option H26xParamSets) (us : List NalUnit) :
    frameGroups codec maxPayload params us =
      (handed codec params us).map fun h => nalPackets codec h.1 h.2 maxPayload := by
  induction us generalizing params with
  | nil => rfl
  | cons u us ih =>
      rw [frameGroups, handed, ih, List.map_append, List.map_append, List.map_map]
      rfl

theorem maruko_endsMarked (codec : PayloadType) (params : Option H26xParamSets) (packs : List I6cVencPack)
    (maxPayload : Nat) : EndsMarked (markers (frameGroups codec maxPayload params (marukoUnits codec packs))) ↔
      ∃ u, (marukoUnits codec packs).getLast? = some u ∧ u.last = true ∧ Emitted codec maxPayload u.nal := by
  rw [frameGroups_eq]
  cases hlast : (marukoUnits codec packs).getLast? with
  | none =>
      rw [List.getLast?_eq_none_iff.1 hlast]
      exact iff_of_false not_endsMarked_nil fun ⟨u, hu, _⟩ => by cases hu
  | some u =>
      obtain ⟨front, hunits⟩ := List.getLast?_eq_some_iff.1 hlast
      have hne : u.nal ≠ [] := frameUnits_nal_ne_nil (show u ∈ marukoUnits codec packs by
        rw [hunits]
        exact List.mem_append_right front List.mem_cons_self)
      have hflags := front_unflagged (frameUnits_flaggedLast codec _) hunits
      have hbefore : ∀ x ∈ handed codec params front ++
          (setsBefore codec (cacheAfterUnits codec params front) u).map (·, false), x.2 = false := by
        intro x hx
        rcases List.mem_append.1 hx with hx | hx
        · exact handed_unflagged hflags x hx
        · obtain ⟨set, _, rfl⟩ := List.mem_map.1 hx
          rfl
      have hfront : ∀ g ∈ (handed codec params front ++
          (setsBefore codec (cacheAfterUnits codec params front) u).map (·, false)).map
            fun h => nalPackets codec h.1 h.2 maxPayload, Unmarked g := by
        intro g hg
        obtain ⟨x, hx, rfl⟩ := List.mem_map.1 hg
        rw [hbefore x hx]
        exact nalPackets_unmarked codec x.1 maxPayload
      rw [hunits, handed_append, handed, handed, List.append_nil, ← List.append_assoc, List.map_append,
        markers_append, endsMarked_append (markers_unmarked hfront), List.map_singleton, markers_cons]
      change EndsMarked (List.map Packet.marker (nalPackets codec u.nal u.last maxPayload) ++ []) ↔ _
      rw [List.append_nil, nalPackets_endsMarked u.last maxPayload hne]
      simp only [Option.some.injEq, exists_eq_left']

def markerBits (log : Log) : List Bool := log.map (markerOf ·.1)

def star6eLog (writer : RtpPacketizerWriteFn σ) (out : σ) (rtp : RtpPacketizerState) (packs : List MiVencPack)
    (frameTicks : UInt32) (params : Option H26xParamSets) (maxPayload : Nat) (stats : Star6eHevcRtpStats) : Log :=
  (star6eHevcRtpSendFrame (logged writer) packs ⟨rtp, (out, [])⟩ frameTicks params maxPayload stats).tx.sender.out.2

def marukoLog (writer : RtpPacketizerWriteFn σ) (out : σ) (output : MarukoOutput) (packs : List I6cVencPack)
    (rtp : MarukoRtpState) (params : Option H26xParamSets) (codec : PayloadType) (maxPayload : Nat) : Log :=
  (marukoSendFrameRtp (logged writer) output packs ⟨rtp, (out, [])⟩ params codec maxPayload).sender.out.2

theorem star6eLog_marked_iff (writer : RtpPacketizerWriteFn σ) (out : σ) (rtp : RtpPacketizerState)
    (packs : List MiVencPack) (frameTicks : UInt32) (params : Option H26xParamSets) (maxPayload : Nat)
    (stats : Star6eHevcRtpStats) (hok : succeeded (star6eLog writer out rtp packs frameTicks params maxPayload stats)) :
    EndsMarked (markerBits (star6eLog writer out rtp packs frameTicks params maxPayload stats)) ↔
      ∃ u, (star6eUnits packs).getLast? = some u ∧ Closes (min maxPayload rtpBufferMax) u := by
  obtain ⟨tried, hlog, htried⟩ := sendFrame_tries writer packs ⟨rtp, (out, [])⟩ frameTicks params maxPayload stats
  have heq : star6eLog writer out rtp packs frameTicks params maxPayload stats = tried := hlog
  rw [heq] at hok ⊢
  rw [markerBits, (htried.all hok).2]
  exact star6e_endsMarked params packs (Nat.min_le_right _ _)

theorem marukoLog_marked_iff (writer : RtpPacketizerWriteFn σ) (out : σ) {output : MarukoOutput} (packs : List I6cVencPack)
    (rtp : MarukoRtpState) (params : Option H26xParamSets) (codec : PayloadType) (maxPayload : Nat)
    (hopen : 0 ≤ output.socketHandle ∨ output.ring = true)
    (hok : succeeded (marukoLog writer out output packs rtp params codec maxPayload)) :
    EndsMarked (markerBits (marukoLog writer out output packs rtp params codec maxPayload)) ↔
      ∃ u, (marukoUnits codec packs).getLast? = some u ∧ u.last = true ∧ Emitted codec maxPayload u.nal := by
  obtain ⟨t, hemits, hsender⟩ := sendFrame_emits writer hopen packs ⟨rtp, (out, [])⟩ params codec maxPayload
  obtain ⟨tried, hlog, htried⟩ := hemits.tries
  have heq : marukoLog writer out output packs rtp params codec maxPayload = tried :=
    (congrArg (·.out.2) hsender).trans hlog
  rw [heq] at hok ⊢
  rw [markerBits, (htried.all hok).2]
  exact maruko_endsMarked codec params packs maxPayload

/-- When every write succeeds, the marker is on a frame's last packet and on no
other exactly when the last unit that the loop keeps closes the frame, which
needs the flag of the very last entry unless the unit waits in the queue. -/
theorem marked_iff_closed (writer : RtpPacketizerWriteFn σ) (out : σ) (params : Option H26xParamSets) (maxPayload : Nat)
    (rtp : RtpPacketizerState) (packs : List MiVencPack) (frameTicks : UInt32) (stats : Star6eHevcRtpStats)
    (marukoRtp : MarukoRtpState) (output : MarukoOutput) (marukoPacks : List I6cVencPack) (codec : PayloadType)
    (hopen : 0 ≤ output.socketHandle ∨ output.ring = true) :
    (succeeded (star6eLog writer out rtp packs frameTicks params maxPayload stats) →
      (EndsMarked (markerBits (star6eLog writer out rtp packs frameTicks params maxPayload stats)) ↔
        ∃ u, (star6eUnits packs).getLast? = some u ∧ Closes (min maxPayload rtpBufferMax) u)) ∧
    (succeeded (marukoLog writer out output marukoPacks marukoRtp params codec maxPayload) →
      (EndsMarked (markerBits (marukoLog writer out output marukoPacks marukoRtp params codec maxPayload)) ↔
        ∃ u, (marukoUnits codec marukoPacks).getLast? = some u ∧ u.last = true ∧ Emitted codec maxPayload u.nal)) :=
  ⟨star6eLog_marked_iff writer out rtp packs frameTicks params maxPayload stats,
    marukoLog_marked_iff writer out marukoPacks marukoRtp params codec maxPayload hopen⟩

def takesAll : RtpPacketizerWriteFn Unit := fun _ _ => (true, ())

def slicePack : MiVencPack := ⟨some ([0, 0, 0, 1, 2, 1] ++ List.replicate 1498 7), 0, 0, Vector.replicate 8 ⟨0, 0, 0⟩⟩

theorem marked_iff_closed_slice :
    EndsMarked (markerBits (star6eLog takesAll () ⟨0, 0, 1, 97⟩ [slicePack] 3000 none 1400 ⟨0, 0, 0, 0, 0, 0, 0⟩)) := by
  have hok : succeeded (star6eLog takesAll () ⟨0, 0, 1, 97⟩ [slicePack] 3000 none 1400 ⟨0, 0, 0, 0, 0, 0, 0⟩) := by
    unfold succeeded
    decide +kernel
  refine ((marked_iff_closed takesAll () none 1400 ⟨0, 0, 1, 97⟩ [slicePack] 3000 ⟨0, 0, 0, 0, 0, 0, 0⟩ ⟨0, 0, 1, 97, 3000⟩
    ⟨3, false⟩ [] .h265 (Or.inl (by decide))).1 hok).2 ?_
  exact ⟨⟨[2, 1] ++ List.replicate 1498 7, 1, true⟩, by decide +kernel, Or.inl ⟨rfl, Or.inr (by decide)⟩⟩

/-- A pack without data behind the slice, and the frame ends without a marker. -/
theorem marker_lost_behind_slice :
    let log := star6eLog takesAll () ⟨0, 0, 1, 97⟩ [slicePack, ⟨none, 0, 0, Vector.replicate 8 ⟨0, 0, 0⟩⟩] 3000 none 1400
      ⟨0, 0, 0, 0, 0, 0, 0⟩
    succeeded log ∧ markerBits log = [false, false] ∧ ¬EndsMarked (markerBits log) := by
  intro log
  have hbits : markerBits log = [false, false] := by decide +kernel
  refine ⟨by unfold succeeded; decide +kernel, hbits, ?_⟩
  rw [hbits]
  exact not_endsMarked (by decide)

end WaybeamVenc.FrameMarker
