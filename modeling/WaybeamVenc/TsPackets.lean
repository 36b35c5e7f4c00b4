import WaybeamVenc.TsMux
import WaybeamVenc.TsDemux

namespace WaybeamVenc.TsPackets

open Crc TsMux TsDemux

/-- Every entry of the table is eight shifts of its index. -/
theorem table_entry : ∀ i : Fin 256, tsCrc32Table.getD i.val 0 = entry crcPoly (BitVec.ofFin i) := by
  decide +kernel

theorem tsCrc32_eq_crc (data : List UInt8) : tsCrc32 data = crc crcPoly 0xFFFFFFFF data := by
  have hstep : ∀ (c : BitVec 32) (b : UInt8),
      (c <<< 8) ^^^ tsCrc32Table.getD (topByte c ^^^ b.toBitVec).toNat 0 = feed crcPoly c b := by
    intro c b
    rw [feed_eq_entry]
    exact congrArg _ (table_entry (topByte c ^^^ b.toBitVec).toFin)
  rw [tsCrc32, crc]
  congr 1
  funext c b
  exact hstep c b

theorem crc_of_section (data : List UInt8) : crc crcPoly 0xFFFFFFFF (data ++ trailer (tsCrc32 data)) = 0#32 := by
  rw [crc_append, tsCrc32_eq_crc, crc_trailer]

@[simp] theorem startTsPacket_length (pid : UInt16) (cc : UInt8) (pusi adapt : Bool) :
    (startTsPacket pid cc pusi adapt).length = 4 := rfl

theorem nextCc_toNat (cc : UInt8) : (nextCc cc).toNat = (cc.toNat + 1) % 16 := by
  have hmask : (nextCc cc).toNat = (cc.toNat + 1) % 256 % 16 := by
    rw [nextCc, UInt8.toNat_and, UInt8.toNat_add]
    exact Nat.and_two_pow_sub_one_eq_mod _ 4
  rw [hmask, Nat.mod_mod_of_dvd _ (by decide)]

theorem header_flag (pid : UInt16) (pusi : Bool) :
    ((if pusi then 0x40 else 0x00 : UInt8) ||| ((pid >>> 8) &&& 0x1F).toUInt8).toNat.testBit 6 = pusi := by
  have hbit : (31 : Nat).testBit 6 = false := by decide
  have hset : (64 : Nat).testBit 6 = true := by decide
  cases pusi <;> simp [Nat.testBit_or, hbit, hset]

theorem header_pid (pid : UInt16) (pusi : Bool) (hpid : pid.toNat < 8192) :
    ((if pusi then 0x40 else 0x00 : UInt8) ||| ((pid >>> 8) &&& 0x1F).toUInt8).toNat % 32 * 256 +
      (pid &&& 0xFF).toUInt8.toNat = pid.toNat := by
  have hhigh : ((if pusi then 0x40 else 0x00 : UInt8) ||| ((pid >>> 8) &&& 0x1F).toUInt8).toNat % 32 =
      pid.toNat / 256 := by
    have hmask (n : Nat) : n &&& 31 = n % 32 := Nat.and_two_pow_sub_one_eq_mod n 5
    have hor (m n : Nat) : (m ||| n) % 32 = m % 32 ||| n % 32 := Nat.or_mod_two_pow (n := 5)
    cases pusi <;> simp [Nat.shiftRight_eq_div_pow, hmask, hor] <;> omega
  have hlow : (pid &&& 0xFF).toUInt8.toNat = pid.toNat % 256 := by
    have hmask (n : Nat) : n &&& 255 = n % 256 := Nat.and_two_pow_sub_one_eq_mod n 8
    simp [hmask]
  rw [hhigh, hlow]
  omega

theorem header_cc (cc : UInt8) (adapt : Bool) :
    ((if adapt then 0x30 else 0x10 : UInt8) ||| (cc &&& 0x0F)).toNat % 16 = cc.toNat % 16 := by
  have hmask (n : Nat) : n &&& 15 = n % 16 := Nat.and_two_pow_sub_one_eq_mod n 4
  have hor (m n : Nat) : (m ||| n) % 16 = m % 16 ||| n % 16 := Nat.or_mod_two_pow (n := 4)
  cases adapt <;> simp [hmask, hor]

theorem header_adapt (cc : UInt8) (adapt : Bool) :
    ((if adapt then 0x30 else 0x10 : UInt8) ||| (cc &&& 0x0F)).toNat.testBit 5 = adapt := by
  have hbit : (15 : Nat).testBit 5 = false := by decide
  have hclear : (16 : Nat).testBit 5 = false := by decide
  have hset : (48 : Nat).testBit 5 = true := by decide
  cases adapt <;> simp [Nat.testBit_or, Nat.testBit_and, hbit, hclear, hset]

theorem header_hasPayload (cc : UInt8) (adapt : Bool) :
    ((if adapt then 0x30 else 0x10 : UInt8) ||| (cc &&& 0x0F)).toNat.testBit 4 = true := by
  have hpayload : (16 : Nat).testBit 4 = true := by decide
  have hboth : (48 : Nat).testBit 4 = true := by decide
  cases adapt <;> simp [Nat.testBit_or, hpayload, hboth]

theorem parsePacket_start {pid : UInt16} (cc : UInt8) (pusi adapt : Bool) {rest payload : List UInt8} {rai : Bool}
    (hpid : pid.toNat < 8192) (hlen : rest.length = 184)
    (hrest : (if adapt then skipAdaptation rest else some (false, rest)) = some (rai, payload)) :
    parsePacket (startTsPacket pid cc pusi adapt ++ rest) = some ⟨pid.toNat, pusi, cc.toNat % 16, rai, payload⟩ := by
  simp only [startTsPacket, List.cons_append, List.nil_append, parsePacket, hlen, and_self, if_true,
    header_pid pid pusi hpid, header_flag, header_cc, header_adapt, header_hasPayload, hrest, Option.map_some]

theorem padded_append {head : List UInt8} (rest : List UInt8) :
    padded (head ++ rest) = head ++ (rest ++ List.replicate (188 - head.length - rest.length) 0xFF) := by
  rw [padded, List.append_assoc, List.length_append, Nat.sub_add_eq]
  rfl

theorem parsePacket_plain {pid : UInt16} (cc : UInt8) (pusi : Bool) {rest : List UInt8} (hpid : pid.toNat < 8192)
    (hlen : rest.length ≤ 184) :
    parsePacket (padded (startTsPacket pid cc pusi false ++ rest)) =
      some ⟨pid.toNat, pusi, cc.toNat % 16, false, rest ++ List.replicate (184 - rest.length) 0xFF⟩ := by
  rw [padded_append, startTsPacket_length]
  apply parsePacket_start cc pusi false hpid
  · simp only [List.length_append, List.length_replicate]
    omega
  · rfl

def sectionSent (pid : UInt16) (cc : UInt8) (bytes : List UInt8) : TsPacket :=
  ⟨pid.toNat, true, cc.toNat % 16, false,
    0x00 :: bytes ++ trailer (tsCrc32 bytes) ++ List.replicate (179 - bytes.length) 0xFF⟩

theorem sectionPacket_parses (pid : UInt16) (cc : UInt8) (bytes : List UInt8) (hpid : pid.toNat < 8192)
    (hlen : bytes.length ≤ 179) : parsePacket (sectionPacket pid cc bytes) = some (sectionSent pid cc bytes) := by
  have htrailer : (trailer (tsCrc32 bytes)).length = 4 := rfl
  have hlength : (0x00 :: bytes ++ trailer (tsCrc32 bytes)).length = bytes.length + 5 := by
    rw [List.length_append, List.length_cons, htrailer]
  have hroom : 184 - (bytes.length + 5) = 179 - bytes.length := by omega
  rw [sectionPacket, List.append_assoc, parsePacket_plain cc true hpid (by omega), hlength, hroom]
  rfl

theorem adaptation_flags : ∀ usePcr rai disc : Bool,
    ((if rai then 0x40 else 0 : UInt8) ||| (if usePcr then 0x10 else 0) ||| (if disc then 0x80 else 0)).toNat.testBit 6 =
      rai := by decide

theorem skip_adaptationField (s : TsMuxState) (pts : UInt64) (usePcr rai : Bool) (rest : List UInt8) :
    skipAdaptation (adaptationField s pts usePcr rai ++ rest) = some (rai, rest) := by
  have hflags := adaptation_flags usePcr rai s.discontinuity
  cases usePcr
  · simp only [adaptationField, List.cons_append, List.nil_append, skipAdaptation, Bool.false_eq_true, if_false,
      List.headD_cons] at hflags ⊢
    rw [hflags]
    simp
  · simp only [adaptationField, writePcr, List.cons_append, List.nil_append, skipAdaptation, if_true,
      List.headD_cons] at hflags ⊢
    rw [hflags]
    simp

theorem adaptationField_length (s : TsMuxState) (pts : UInt64) (usePcr rai : Bool) :
    (adaptationField s pts usePcr rai).length = if usePcr then 8 else 2 := by
  cases usePcr <;> rfl

theorem firstHeader_length (s : TsMuxState) (pid : UInt16) (cc : UInt8) (pts : UInt64) (usePcr rai : Bool) :
    (firstHeader s pid cc pts usePcr rai).length =
      if usePcr then 12 else if rai || s.discontinuity then 6 else 4 := by
  rw [firstHeader]
  cases usePcr <;> cases rai <;> cases s.discontinuity <;> rfl

/-- The first packet of a unit carries its random access flag, and its
payload is what was written behind the header. -/
theorem firstPacket_parses (s : TsMuxState) (pid : UInt16) (cc : UInt8) (pts : UInt64) (usePcr rai : Bool)
    (rest : List UInt8) (hpid : pid.toNat < 8192)
    (hlen : (firstHeader s pid cc pts usePcr rai).length + rest.length ≤ 188) :
    parsePacket (padded (firstHeader s pid cc pts usePcr rai ++ rest)) =
      some ⟨pid.toNat, true, cc.toNat % 16, rai,
        rest ++ List.replicate (188 - (firstHeader s pid cc pts usePcr rai).length - rest.length) 0xFF⟩ := by
  by_cases hadapt : (usePcr || rai || s.discontinuity) = true
  · have hhead : firstHeader s pid cc pts usePcr rai =
        startTsPacket pid cc true true ++ adaptationField s pts usePcr rai := by
      rw [firstHeader, if_pos hadapt]
    have hfield : (adaptationField s pts usePcr rai).length ≤ 8 := by
      rw [adaptationField_length]
      split <;> decide
    rw [padded_append, hhead, List.append_assoc]
    rw [hhead, List.length_append, startTsPacket_length] at hlen
    apply parsePacket_start cc true true hpid
    · simp only [List.length_append, startTsPacket_length, List.length_replicate]
      omega
    · exact skip_adaptationField s pts usePcr rai _
  · have hhead : firstHeader s pid cc pts usePcr rai = startTsPacket pid cc true false := by
      rw [firstHeader, if_neg hadapt]
    have hrai : rai = false := by
      cases rai
      · rfl
      · simp at hadapt
    rw [hhead, startTsPacket_length] at hlen ⊢
    rw [parsePacket_plain cc true hpid (by omega), hrai]

theorem skip_stuffing {stuff : Nat} (rest : List UInt8) (hpos : 2 ≤ stuff) (hstuff : stuff ≤ 184) :
    skipAdaptation (UInt8.ofNat (stuff - 1) :: 0x00 :: List.replicate (stuff - 2) 0xFF ++ rest) =
      some (false, rest) := by
  have hlen : (UInt8.ofNat (stuff - 1)).toNat = stuff - 1 := UInt8.toNat_ofNat_of_lt' (by change _ < 256; omega)
  have hdrop : (0x00 :: List.replicate (stuff - 2) 0xFF ++ rest).drop (stuff - 1) = rest := by
    apply List.drop_left'
    simp only [List.length_cons, List.length_replicate]
    omega
  rw [List.cons_append, skipAdaptation, hlen, hdrop, if_pos]
  · simp
  · simp only [List.length_append, List.length_cons, List.length_replicate]
    omega

/-- A continuation packet carries the next bytes of its unit, however it is
stuffed. -/
theorem continuationPacket_parses {pid : UInt16} (cc : UInt8) {data : List UInt8} (hpid : pid.toNat < 8192) :
    parsePacket (continuationPacket pid cc data) =
      some ⟨pid.toNat, false, cc.toNat % 16, false, data.take 184⟩ := by
  rw [continuationPacket]
  split
  · next hshort =>
    have hdata : data.length < 184 := hshort
    rw [List.take_of_length_le (by omega)]
    have hsize : tsPacketSize - 4 - data.length = 184 - data.length := rfl
    rw [hsize, List.append_assoc]
    by_cases hone : 184 - data.length = 1
    · rw [if_pos hone]
      apply parsePacket_start cc false true hpid
      · rw [List.length_append, List.length_singleton]
        omega
      · rfl
    · rw [if_neg hone]
      apply parsePacket_start cc false true hpid
      · simp only [List.length_append, List.length_cons, List.length_replicate]
        omega
      · exact skip_stuffing data (by omega) (by omega)
  · next hfull =>
    have hdata : ¬ data.length < 184 := hfull
    apply parsePacket_start cc false false hpid
    · rw [List.length_take]
      change min 184 data.length = 184
      omega
    · rfl

end WaybeamVenc.TsPackets
