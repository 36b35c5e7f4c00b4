import WaybeamVenc.TsRoundTrip

namespace WaybeamVenc.TsPayload

open Fallible TsMux TsDemux TsPackets TsRoundTrip

abbrev Pid := { pid : UInt16 // pid.toNat < 8192 }

/-- The bytes of packets behind their headers and adaptation fields. -/
def payloadBytes (packets : List (List UInt8)) : Option (List UInt8) :=
  (packets.mapM parsePacket).map fun ps => ps.flatMap (·.payload)

/-- Those bytes are a PES packet of a size and nothing else, so whatever fills
the packets up is in their adaptation fields. -/
structure OnlyPes (packets : List (List UInt8)) (size : Nat) (pes : List UInt8) : Prop where
  count : (payloadBytes packets).map List.length = some size
  bytes : payloadBytes packets = some pes

/-- The bytes of the adaptation field of a first packet. -/
def adaptationSize (s : TsMuxState) (usePcr rai : Bool) : Nat :=
  if usePcr then 8 else if rai || s.discontinuity then 2 else 0

/-- The first packet is filled up behind the data; the others are not. -/
theorem writePesPackets_payload (s : TsMuxState) {bufSize room : Nat} (hbuf : bufSize / 188 = room + 1) (pid : Pid)
    (cc streamId : UInt8) (data : List UInt8) (pts : UInt64) (usePcr rai : Bool) :
    payloadBytes (writePesPackets s bufSize pid.1 cc streamId data pts usePcr rai).2.1 =
      some (pesHeader streamId data.length pts ++ data.take (170 - adaptationSize s usePcr rai) ++
        List.replicate (170 - adaptationSize s usePcr rai - data.length) 0xFF ++
        (data.drop (170 - adaptationSize s usePcr rai)).take (184 * room)) := by
  have hhead : (firstHeader s pid.1 cc pts usePcr rai).length = 4 + adaptationSize s usePcr rai := by
    rw [firstHeader_length, adaptationSize]
    split_ifs <;> rfl
  have hsize : adaptationSize s usePcr rai ≤ 8 := by
    rw [adaptationSize]
    split_ifs <;> decide
  generalize adaptationSize s usePcr rai = size at hhead hsize
  have hspace : 174 - (4 + size) = 170 - size := by omega
  have hlen : (pesHeader streamId data.length pts ++ data.take (170 - size)).length = 14 + min (170 - size) data.length := by
    rw [List.length_append, pesHeader_length, List.length_take]
  have hpad : 188 - (4 + size) - (14 + min (170 - size) data.length) = 170 - size - data.length := by omega
  obtain ⟨ps, hparse, _, _, hbytes, _⟩ :=
    continuationPackets_spec room (nextCc cc) (data.drop (170 - size)) pid.2
  have hfirst := firstPacket_parses s pid.1 cc pts usePcr rai (pesHeader streamId data.length pts ++ data.take (170 - size))
    pid.2 (by rw [hhead, hlen]; omega)
  rw [hhead, hlen, hpad] at hfirst
  rw [writePesPackets_eq s hbuf, hhead, hspace]
  rw [payloadBytes, mapM_cons_some hfirst hparse, Option.map_some, List.flatMap_cons, hbytes]

/-- The payloads are the PES exactly when it fills the first packet: one that
ends in front of that leaves the fill of the packet behind it. -/
theorem only_pes_iff (s : TsMuxState) (bufSize : Nat) (pid : Pid) (cc streamId : UInt8) (data : List UInt8) (pts : UInt64)
    (usePcr rai : Bool) (hroom : 188 * unitPackets (4 + adaptationSize s usePcr rai) data.length ≤ bufSize) :
    OnlyPes (writePesPackets s bufSize pid.1 cc streamId data pts usePcr rai).2.1 (14 + data.length)
        (pesHeader streamId data.length pts ++ data) ↔
      188 - 4 - adaptationSize s usePcr rai ≤ 14 + data.length := by
  have hsize : adaptationSize s usePcr rai ≤ 8 := by
    rw [adaptationSize]
    split_ifs <;> decide
  obtain ⟨room, hbuf⟩ : ∃ room, bufSize / 188 = room + 1 := by
    refine ⟨bufSize / 188 - 1, ?_⟩
    rw [unitPackets] at hroom
    omega
  have hpayload := writePesPackets_payload s hbuf pid cc streamId data pts usePcr rai
  generalize adaptationSize s usePcr rai = size at hroom hsize hpayload ⊢
  have hrest : (data.drop (170 - size)).take (184 * room) = data.drop (170 - size) := by
    apply List.take_of_length_le
    rw [List.length_drop]
    rw [unitPackets] at hroom
    omega
  rw [hrest] at hpayload
  by_cases hfills : 170 - size ≤ data.length
  · have hnone : 170 - size - data.length = 0 := by omega
    rw [hnone, List.replicate_zero, List.append_nil, List.append_assoc, List.take_append_drop] at hpayload
    refine iff_of_true ⟨?_, hpayload⟩ (by omega)
    rw [hpayload, Option.map_some, List.length_append, pesHeader_length]
  · refine iff_of_false ?_ (by omega)
    intro h
    have hlen := h.count
    rw [hpayload, Option.map_some, Option.some.injEq, List.length_append, List.length_append, List.length_append,
      pesHeader_length, List.length_take, List.length_replicate, List.length_drop] at hlen
    omega

theorem only_pes_iff_two_packets :
    let data : List UInt8 := List.replicate 300 7
    OnlyPes (writePesPackets (tsMuxInit 48000 1) 400 tsPidVideo 3 0xE0 data 90000 true true).2.1 (14 + data.length)
      (pesHeader 0xE0 data.length 90000 ++ data) := by
  intro data
  have hlen : data.length = 300 := List.length_replicate
  exact (only_pes_iff (tsMuxInit 48000 1) 400 ⟨tsPidVideo, by decide⟩ 3 0xE0 data 90000 true true
    (by rw [hlen]; decide)).2 (by rw [hlen]; decide)

/-- A unit of one byte: its packet ends in 169 bytes of fill. -/
theorem short_unit_filled :
    ¬ ∀ (s : TsMuxState) (bufSize : Nat) (pid : Pid) (cc streamId : UInt8) (data : List UInt8) (pts : UInt64)
      (usePcr rai : Bool), 188 * unitPackets (4 + adaptationSize s usePcr rai) data.length ≤ bufSize →
      OnlyPes (writePesPackets s bufSize pid.1 cc streamId data pts usePcr rai).2.1 (14 + data.length)
        (pesHeader streamId data.length pts ++ data) := by
  intro h
  have hone := (h (tsMuxInit 48000 1) 188 ⟨tsPidAudio, by decide⟩ 0 0xBD [7] 0 false false (by decide)).count
  exact absurd hone (by decide +kernel)

end WaybeamVenc.TsPayload
