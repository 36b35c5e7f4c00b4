import WaybeamVenc.TsPackets

namespace WaybeamVenc.TsCrc

open Crc TsMux TsDemux TsPackets

/-- What a receiver runs the check over: the section behind a zero pointer
field, as long as its own length field says. -/
def checkedSection (packet : List UInt8) : List UInt8 :=
  match packet.drop 5 with
  | tableId :: l1 :: l0 :: body => tableId :: l1 :: l0 :: body.take (l1.toNat % 16 * 256 + l0.toNat)
  | _ => []

theorem checkedSection_packet {pid : UInt16} {cc tableId l1 l0 : UInt8} {body : List UInt8}
    (hlen : l1.toNat % 16 * 256 + l0.toNat = body.length + 4) :
    checkedSection (sectionPacket pid cc (tableId :: l1 :: l0 :: body)) =
      tableId :: l1 :: l0 :: body ++ trailer (tsCrc32 (tableId :: l1 :: l0 :: body)) := by
  generalize hcheck : trailer (tsCrc32 (tableId :: l1 :: l0 :: body)) = check
  have hlength : check.length = 4 := by
    rw [← hcheck]
    rfl
  have hdrop : (sectionPacket pid cc (tableId :: l1 :: l0 :: body)).drop 5 = tableId :: l1 :: l0 :: (body ++ check ++
      List.replicate (tsPacketSize - (startTsPacket pid cc true false ++
        0x00 :: (tableId :: l1 :: l0 :: body) ++ check).length) 0xFF) := by
    rw [sectionPacket, padded, hcheck]
    simp [startTsPacket]
  rw [checkedSection, hdrop]
  simp only [List.cons_append]
  rw [hlen, List.take_left' (by rw [List.length_append, hlength])]

theorem section_checks {pid : UInt16} {cc tableId l1 l0 : UInt8} {body : List UInt8}
    (hlen : l1.toNat % 16 * 256 + l0.toNat = body.length + 4) :
    tsCrc32 (checkedSection (sectionPacket pid cc (tableId :: l1 :: l0 :: body))) = 0#32 := by
  rw [checkedSection_packet hlen, tsCrc32_eq_crc, crc_of_section]

theorem pmtBody_length (s : TsMuxState) : (pmtBody s).length = 20 ∨ (pmtBody s).length = 31 := by
  rw [pmtBody]
  split
  · exact .inr rfl
  · exact .inl rfl

theorem pmt_length {n : Nat} (h : n = 20 ∨ n = 31) :
    ((0xB000 ||| (UInt16.ofNat (n + 4) &&& 0x0FFF) : UInt16) >>> 8).toUInt8.toNat % 16 * 256 +
      (0xB000 ||| (UInt16.ofNat (n + 4) &&& 0x0FFF) : UInt16).toUInt8.toNat = n + 4 := by
  rcases h with rfl | rfl
  · decide
  · decide

/-- Both tables check at a receiver. -/
theorem tables_check (s : TsMuxState) (bufSize : Nat) :
    ∀ packet ∈ (tsMuxWritePatPmt s bufSize).2, tsCrc32 (checkedSection packet) = 0#32 := by
  intro packet hmem
  rw [tsMuxWritePatPmt] at hmem
  split at hmem
  · cases hmem
  · rcases List.mem_pair.1 hmem with rfl | rfl
    · exact section_checks rfl
    · exact section_checks (pmt_length (pmtBody_length s))

/-- The table computes the bitwise remainder of every message, and a message
with its remainder behind it has the remainder 0, as both tables do. -/
theorem tsCrc32_bitwise :
    (∀ data, tsCrc32 data = crcBits 0x04C11DB7 0xFFFFFFFF (data.flatMap messageBits)) ∧
      (∀ data, tsCrc32 (data ++ trailer (tsCrc32 data)) = 0#32) ∧
      ∀ s bufSize, ∀ packet ∈ (tsMuxWritePatPmt s bufSize).2, tsCrc32 (checkedSection packet) = 0#32 := by
  refine ⟨fun data => ?_, fun data => ?_, tables_check⟩
  · rw [tsCrc32_eq_crc]
    exact crc_eq_bits crcPoly 0xFFFFFFFF data
  · rw [tsCrc32_eq_crc (data ++ trailer (tsCrc32 data)), crc_of_section]

example : tsCrc32 [0x31, 0x32, 0x33, 0x34, 0x35, 0x36, 0x37, 0x38, 0x39] = 0x0376E6E7 := by
  decide +kernel

end WaybeamVenc.TsCrc
