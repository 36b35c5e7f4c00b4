import Mathlib.Tactic.SplitIfs

namespace WaybeamVenc.HevcDepay

def nalType (b0 : UInt8) : UInt8 := (b0 >>> 1) &&& 0x3F

/-- The units of an aggregation packet, each behind its size. -/
def aggregated : Nat → List UInt8 → Option (List (List UInt8))
  | _, [] => some []
  | fuel + 1, s1 :: s0 :: bytes =>
    let len := s1.toNat * 256 + s0.toNat
    if 0 < len ∧ len ≤ bytes.length then (aggregated fuel (bytes.drop len)).map (bytes.take len :: ·) else none
  | _, _ => none

def receiveAggregate : List UInt8 → Option (List (List UInt8))
  | [] => none
  | _ :: units => (aggregated units.length units).filter (2 ≤ ·.length)

def unitHeader (b0 fu : UInt8) : UInt8 := (b0 &&& 0x81) ||| ((fu &&& 0x3F) <<< (1 : UInt8))

/-- A fragment that starts a unit when none is open, or continues the one that
is. -/
def receiveFragment (got : Option (List UInt8)) (b0 : UInt8) :
    List UInt8 → Option (Option (List UInt8) × List (List UInt8))
  | b1 :: fu :: fragment =>
    if fragment = [] then none
    else
      match got with
      | none =>
        if fu.toNat.testBit 7 ∧ ¬ fu.toNat.testBit 6 then some (some (unitHeader b0 fu :: b1 :: fragment), []) else none
      | some nal =>
        if fu.toNat.testBit 7 then none
        else some (if fu.toNat.testBit 6 then (none, [nal ++ fragment]) else (some (nal ++ fragment), []))
  | _ => none

/-- One payload after what was received of a fragmented unit: what is received
of one now, and the units completed. -/
def receive (got : Option (List UInt8)) : List UInt8 → Option (Option (List UInt8) × List (List UInt8))
  | [] => none
  | b0 :: bytes =>
    if nalType b0 = 49 then receiveFragment got b0 bytes
    else if got ≠ none then none
    else if nalType b0 < 48 then some (none, [b0 :: bytes])
    else if nalType b0 = 48 then (receiveAggregate bytes).map (none, ·)
    else none

/-- The units of a whole packet sequence; none when a packet is malformed or
the sequence stops inside a unit. -/
def depacketize : Option (List UInt8) → List (List UInt8) → Option (List (List UInt8))
  | got, [] => if got = none then some [] else none
  | got, payload :: payloads =>
    (receive got payload).bind fun r => (depacketize r.1 payloads).map (r.2 ++ ·)

def sized (nal : List UInt8) : List UInt8 :=
  UInt8.ofNat (nal.length / 256) :: UInt8.ofNat (nal.length % 256) :: nal

theorem depacketize_append {got : Option (List UInt8)} {ps qs : List (List UInt8)} {nals nals' : List (List UInt8)}
    (h : depacketize got ps = some nals) (k : depacketize none qs = some nals') :
    depacketize got (ps ++ qs) = some (nals ++ nals') := by
  induction ps generalizing got nals with
  | nil =>
      rw [depacketize] at h
      split at h
      · next hgot =>
        cases h
        rw [hgot]
        exact k
      · cases h
  | cons payload ps ih =>
      rw [List.cons_append, depacketize]
      rw [depacketize] at h
      obtain ⟨r, hr, hmap⟩ := Option.bind_eq_some_iff.mp h
      obtain ⟨rest, hrest, hnals⟩ := Option.map_eq_some_iff.mp hmap
      rw [hr, Option.bind_some, ih hrest, Option.map_some, ← hnals, List.append_assoc]

theorem depacketize_one {payload : List UInt8} {nals : List (List UInt8)}
    (h : receive none payload = some (none, nals)) : depacketize none [payload] = some nals := by
  rw [depacketize, h, Option.bind_some, depacketize, if_pos rfl, Option.map_some, List.append_nil]

theorem receive_single {b0 : UInt8} {bytes : List UInt8} (htype : nalType b0 < 48) :
    receive none (b0 :: bytes) = some (none, [b0 :: bytes]) := by
  have hfragment : nalType b0 ≠ 49 := by
    intro h
    rw [h] at htype
    exact absurd htype (by decide)
  rw [receive, if_neg hfragment, if_neg (not_not_intro rfl), if_pos htype]

theorem depacketize_single {b0 : UInt8} {bytes : List UInt8} (htype : nalType b0 < 48) :
    depacketize none [b0 :: bytes] = some [b0 :: bytes] := depacketize_one (receive_single htype)

theorem aggregated_sized {nals : List (List UInt8)} {fuel : Nat}
    (hlen : ∀ nal ∈ nals, 0 < nal.length ∧ nal.length < 65536) (hfuel : nals.length ≤ fuel) :
    aggregated fuel (nals.flatMap sized) = some nals := by
  induction nals generalizing fuel with
  | nil => cases fuel <;> rfl
  | cons nal nals ih =>
      obtain ⟨hpos, hsmall⟩ := hlen nal (List.mem_cons_self ..)
      cases fuel with
      | zero => cases hfuel
      | succ fuel =>
          have hsize : (UInt8.ofNat (nal.length / 256)).toNat * 256 + (UInt8.ofNat (nal.length % 256)).toNat =
              nal.length := by
            rw [UInt8.toNat_ofNat_of_lt' (by change _ < 256; omega), UInt8.toNat_ofNat_of_lt' (by change _ < 256; omega)]
            omega
          have hroom : 0 < nal.length ∧ nal.length ≤ (nal ++ nals.flatMap sized).length :=
            ⟨hpos, by rw [List.length_append]; omega⟩
          rw [List.flatMap_cons, sized, List.cons_append, List.cons_append, aggregated]
          simp only [hsize]
          rw [if_pos hroom, List.drop_left, List.take_left,
            ih (fun n hn => hlen n (List.mem_cons_of_mem _ hn)) (Nat.le_of_succ_le_succ hfuel), Option.map_some]

theorem length_le_flatMap_sized (nals : List (List UInt8)) : nals.length ≤ (nals.flatMap sized).length := by
  induction nals with
  | nil => exact Nat.le_refl 0
  | cons nal nals ih =>
      rw [List.flatMap_cons, List.length_append, List.length_cons]
      simp only [sized, List.length_cons]
      omega

theorem receiveAggregate_sized (b1 : UInt8) {nals : List (List UInt8)}
    (hlen : ∀ nal ∈ nals, 0 < nal.length ∧ nal.length < 65536) (hcount : 2 ≤ nals.length) :
    receiveAggregate (b1 :: nals.flatMap sized) = some nals := by
  rw [receiveAggregate, aggregated_sized hlen (length_le_flatMap_sized nals)]
  exact Option.filter_some_pos (decide_eq_true hcount)

theorem depacketize_aggregate {b0 b1 : UInt8} {nals : List (List UInt8)} (htype : nalType b0 = 48)
    (hlen : ∀ nal ∈ nals, 0 < nal.length ∧ nal.length < 65536) (hcount : 2 ≤ nals.length) :
    depacketize none [b0 :: b1 :: nals.flatMap sized] = some nals := by
  apply depacketize_one
  have hfragment : nalType b0 ≠ 49 := by
    rw [htype]
    decide
  have hnot : ¬ nalType b0 < 48 := by
    rw [htype]
    decide
  rw [receive, if_neg hfragment, if_neg (not_not_intro rfl), if_neg hnot, if_pos htype,
    receiveAggregate_sized b1 hlen hcount, Option.map_some]

theorem receive_start {b0 fu : UInt8} (b1 : UInt8) {fragment : List UInt8} (htype : nalType b0 = 49)
    (hstart : fu.toNat.testBit 7 = true) (hlast : fu.toNat.testBit 6 = false) (hne : fragment ≠ []) :
    receive none (b0 :: b1 :: fu :: fragment) = some (some (unitHeader b0 fu :: b1 :: fragment), []) := by
  have hbits : fu.toNat.testBit 7 = true ∧ ¬ fu.toNat.testBit 6 = true := ⟨hstart, by rw [hlast]; decide⟩
  rw [receive, if_pos htype, receiveFragment, if_neg hne]
  exact if_pos hbits

theorem receive_later {b0 fu : UInt8} (b1 : UInt8) (nal : List UInt8) {fragment : List UInt8} (htype : nalType b0 = 49)
    (hstart : fu.toNat.testBit 7 = false) (hne : fragment ≠ []) :
    receive (some nal) (b0 :: b1 :: fu :: fragment) =
      some (if fu.toNat.testBit 6 then (none, [nal ++ fragment]) else (some (nal ++ fragment), [])) := by
  have hbit : ¬ fu.toNat.testBit 7 = true := by
    rw [hstart]
    decide
  rw [receive, if_pos htype, receiveFragment, if_neg hne]
  exact if_neg hbit

end WaybeamVenc.HevcDepay
