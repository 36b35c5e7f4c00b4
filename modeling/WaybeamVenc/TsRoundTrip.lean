import Mathlib.Data.UInt
import WaybeamVenc.TsPackets

namespace WaybeamVenc.TsRoundTrip

open Fallible Crc TsMux TsDemux TsPackets

theorem marked (n : UInt64) : ((n <<< 1) ||| 1).toUInt8.toNat / 2 = n.toNat % 128 := by
  simp [Nat.or_div_two, Nat.shiftLeft_eq]
  omega

theorem pts_high (pts : UInt64) :
    (((2 : UInt64) <<< 4) ||| (((pts >>> 30) &&& 0x07) <<< 1) ||| 1).toUInt8.toNat / 2 % 8 =
      pts.toNat / 2 ^ 30 % 8 := by
  have hmask (n : Nat) : n &&& 7 = n % 8 := Nat.and_two_pow_sub_one_eq_mod n 3
  have hlow (a b : Nat) : (a ||| b) % 8 = a % 8 ||| b % 8 := Nat.or_mod_two_pow (n := 3)
  simp [hmask, hlow, Nat.or_div_two, Nat.shiftLeft_eq, Nat.shiftRight_eq_div_pow]
  omega

/-- The five fields of a timestamp are its low 33 bits. -/
theorem readPts_writePts (pts : UInt64) (rest : List UInt8) :
    readPts (writePts 2 pts ++ rest) = some (pts.toNat % 2 ^ 33) := by
  have hmask (n : Nat) : n &&& 127 = n % 128 := Nat.and_two_pow_sub_one_eq_mod n 7
  have hbyte (n : Nat) : n &&& 255 = n % 256 := Nat.and_two_pow_sub_one_eq_mod n 8
  have hb1 : ((pts >>> 22) &&& 0xFF).toUInt8.toNat = pts.toNat / 2 ^ 22 % 256 := by
    simp [hbyte, Nat.shiftRight_eq_div_pow]
  have hb2 : ((((pts >>> 15) &&& 0x7F) <<< 1) ||| 1).toUInt8.toNat / 2 = pts.toNat / 2 ^ 15 % 128 := by
    rw [marked]
    simp [hmask, Nat.shiftRight_eq_div_pow]
  have hb3 : ((pts >>> 7) &&& 0xFF).toUInt8.toNat = pts.toNat / 2 ^ 7 % 256 := by
    simp [hbyte, Nat.shiftRight_eq_div_pow]
  have hb4 : (((pts &&& 0x7F) <<< 1) ||| 1).toUInt8.toNat / 2 = pts.toNat % 128 := by
    rw [marked]
    simp [hmask]
  simp only [writePts, List.cons_append, List.nil_append, readPts, pts_high, hb1, hb2, hb3, hb4]
  congr 1
  omega

theorem putBe16_toNat (v : UInt16) : (v >>> 8).toUInt8.toNat * 256 + v.toUInt8.toNat = v.toNat := by
  have hv := v.toNat_lt
  simp [Nat.shiftRight_eq_div_pow]
  omega

theorem pesHeader_length (streamId : UInt8) (dataLen : Nat) (pts : UInt64) :
    (pesHeader streamId dataLen pts).length = 14 := rfl

theorem parsePes_header (streamId : UInt8) (len : UInt16) (rest : List UInt8) (rai : Bool) :
    parsePes ⟨rai, [0x00, 0x00, 0x01, streamId] ++ putBe16 len ++ [0x80, 0x80, 5] ++ rest⟩ =
      some ⟨streamId, readPts (rest.take 5), rai,
        if len.toNat = 0 then rest.drop 5 else (rest.drop 5).take (len.toNat - 3 - 5)⟩ := by
  have hflag : (0x80 : UInt8).toNat.testBit 7 = true := by decide
  have hheader : (5 : UInt8).toNat = 5 := rfl
  simp only [putBe16, List.cons_append, List.nil_append, parsePes, putBe16_toNat, hflag, hheader, if_true]

/-- A unit whose header counts n bytes reads back, also when it has been cut
short, with padding behind it only where its length says where it ends. -/
theorem parsePes_pesHeader (streamId : UInt8) {data pad : List UInt8} {n : Nat} (pts : UInt64) (rai : Bool)
    (hpad : pad = [] ∧ data.length ≤ n ∨ n = data.length ∧ n + 8 ≤ 0xFFFF) :
    parsePes ⟨rai, pesHeader streamId n pts ++ data ++ pad⟩ = some ⟨streamId, some (pts.toNat % 2 ^ 33), rai, data⟩ := by
  have hpts : readPts (writePts 2 pts) = some (pts.toNat % 2 ^ 33) := by
    have h := readPts_writePts pts []
    rwa [List.append_nil] at h
  have htake : (writePts 2 pts ++ (data ++ pad)).take 5 = writePts 2 pts := rfl
  have hdrop : (writePts 2 pts ++ (data ++ pad)).drop 5 = data ++ pad := rfl
  rw [pesHeader, List.append_assoc, List.append_assoc, parsePes_header, htake, hdrop, hpts]
  by_cases hlong : 0xFFFF < n + 8
  · have hnone : pad = [] := (hpad.resolve_right (by omega)).1
    have hzero : (UInt16.ofNat 0).toNat = 0 := rfl
    rw [if_pos hlong, if_pos hzero, hnone, List.append_nil]
  · have hlen : (UInt16.ofNat (n + 8)).toNat = n + 8 := UInt16.toNat_ofNat_of_lt' (by change _ < 65536; omega)
    have hcut : (data ++ pad).take (n + 8 - 3 - 5) = data := by
      rcases hpad with ⟨hnone, hshort⟩ | ⟨hwhole, -⟩
      · rw [hnone, List.append_nil]
        exact List.take_of_length_le (by omega)
      · exact List.take_left' (by omega)
    rw [if_neg hlong, hlen, if_neg (by omega), hcut]

theorem parseSection_trailer (tableId l1 l0 : UInt8) (body pad : List UInt8) (rai : Bool)
    (hlen : l1.toNat % 16 * 256 + l0.toNat = body.length + 4) :
    parseSection ⟨rai, 0x00 :: (tableId :: l1 :: l0 :: body) ++ trailer (tsCrc32 (tableId :: l1 :: l0 :: body)) ++ pad⟩ =
      some (tableId :: l1 :: l0 :: body) := by
  have htake : (body ++ trailer (tsCrc32 (tableId :: l1 :: l0 :: body)) ++ pad).take (body.length + 4) =
      body ++ trailer (tsCrc32 (tableId :: l1 :: l0 :: body)) := List.take_left' (by simp [trailer])
  have hcrc := crc_of_section (tableId :: l1 :: l0 :: body)
  have hcut : (tableId :: l1 :: l0 :: (body ++ trailer (tsCrc32 (tableId :: l1 :: l0 :: body)))).take
      (body.length + 4 - 1) = tableId :: l1 :: l0 :: body := by
    rw [← List.cons_append, ← List.cons_append, ← List.cons_append]
    exact List.take_left' rfl
  have hroom : 4 ≤ body.length + 4 ∧
      body.length + 4 ≤ (body ++ trailer (tsCrc32 (tableId :: l1 :: l0 :: body)) ++ pad).length := by
    simp only [List.length_append, trailer, List.length_cons, List.length_nil]
    omega
  simp only [List.cons_append] at hcrc
  simp only [parseSection, List.cons_append, UInt8.toNat_zero, List.drop_zero, hlen, htake, hcut]
  rw [if_pos ⟨hroom.1, hroom.2, hcrc⟩]

theorem pmtBody_length (s : TsMuxState) : (pmtBody s).length = 20 ∨ (pmtBody s).length = 31 := by
  rw [pmtBody]
  split
  · exact Or.inr rfl
  · exact Or.inl rfl

theorem sectionLength (n : Nat) (hn : n < 4096) :
    ((0xB000 ||| (UInt16.ofNat n &&& 0x0FFF)) >>> 8).toUInt8.toNat % 16 * 256 +
      (0xB000 ||| (UInt16.ofNat n &&& 0x0FFF)).toUInt8.toNat = n := by
  have hmask (n : Nat) : n &&& 4095 = n % 4096 := Nat.and_two_pow_sub_one_eq_mod n 12
  have hhigh (a b : Nat) : (a ||| b) / 256 = a / 256 ||| b / 256 := Nat.or_div_two_pow (n := 8)
  have hlow (a b : Nat) : (a ||| b) % 256 = a % 256 ||| b % 256 := Nat.or_mod_two_pow (n := 8)
  have hnibble (a b : Nat) : (a ||| b) % 16 = a % 16 ||| b % 16 := Nat.or_mod_two_pow (n := 4)
  have hbyte (n : Nat) : n &&& 255 = n % 256 := Nat.and_two_pow_sub_one_eq_mod n 8
  simp [hmask, hhigh, hlow, hnibble, hbyte, Nat.shiftRight_eq_div_pow]
  omega

theorem continuationPackets_spec {pid : UInt16} (room : Nat) (cc : UInt8) (data : List UInt8)
    (hpid : pid.toNat < 8192) :
    ∃ ps, (continuationPackets pid room cc data).2.mapM parsePacket = some ps ∧
      (∀ p ∈ ps, p.pid = pid.toNat ∧ p.unitStart = false) ∧
      Counts (cc.toNat % 16) (ps.map (·.cc)) ((continuationPackets pid room cc data).1.toNat % 16) ∧
      ps.flatMap (·.payload) = data.take (184 * room) ∧
      ((data.length + 183) / 184 ≤ room → ps.length = (data.length + 183) / 184) := by
  induction room generalizing cc data with
  | zero =>
      refine ⟨[], rfl, by simp, rfl, rfl, ?_⟩
      intro hroom
      rw [List.length_nil]
      omega
  | succ room ih =>
      cases data with
      | nil => exact ⟨[], rfl, by simp, rfl, rfl, fun _ => rfl⟩
      | cons b data =>
          obtain ⟨ps, hparse, hpids, hcounts, hbytes, hcount⟩ := ih (nextCc cc) ((b :: data).drop 184)
          refine ⟨⟨pid.toNat, false, cc.toNat % 16, false, (b :: data).take 184⟩ :: ps, ?_, ?_, ?_, ?_, ?_⟩
          · exact mapM_cons_some (continuationPacket_parses cc hpid) hparse
          · intro p hp
            cases hp with
            | head => exact ⟨rfl, rfl⟩
            | tail _ hp => exact hpids p hp
          · refine ⟨rfl, ?_⟩
            have hnext : (nextCc cc).toNat % 16 = (cc.toNat % 16 + 1) % 16 := by
              rw [nextCc_toNat]
              omega
            rw [← hnext]
            exact hcounts
          · rw [List.flatMap_cons, hbytes, ← List.take_add, Nat.mul_succ, Nat.add_comm]
          · intro hroom
            simp only [List.length_cons, List.length_drop] at hroom hcount ⊢
            rw [hcount (by omega)]
            omega

/-- The packets of one unit of data: the first, and as many as the rest of the
data fills. -/
def unitPackets (headLen dataLen : Nat) : Nat := 1 + (dataLen - (174 - headLen) + 183) / 184

/-- How much of a unit the buffer holds behind the head of its first packet. -/
def unitRoom (headLen bufSize : Nat) : Nat := 174 - headLen + 184 * (bufSize / 188 - 1)

/-- What the first packet carries of a unit, with its padding, and what the
packets behind it carry make the unit, cut where they end. -/
theorem parsePes_split (streamId : UInt8) (data : List UInt8) (pts : UInt64) (rai : Bool) {headLen : Nat} (room : Nat)
    (hhead : headLen ≤ 12) :
    parsePes ⟨rai, pesHeader streamId data.length pts ++ data.take (174 - headLen) ++
        List.replicate (188 - headLen - (pesHeader streamId data.length pts ++ data.take (174 - headLen)).length) 0xFF ++
        (data.drop (174 - headLen)).take (184 * room)⟩ =
      some ⟨streamId, some (pts.toNat % 2 ^ 33), rai, data.take (174 - headLen + 184 * room)⟩ := by
  have hlen : (pesHeader streamId data.length pts ++ data.take (174 - headLen)).length =
      14 + min (174 - headLen) data.length := by
    rw [List.length_append, pesHeader_length, List.length_take]
  by_cases hshort : data.length ≤ 174 - headLen
  · rw [List.take_of_length_le hshort, List.drop_of_length_le hshort, List.take_nil, List.append_nil,
      List.take_of_length_le (Nat.le_add_right_of_le hshort)]
    exact parsePes_pesHeader streamId pts rai (Or.inr ⟨rfl, by omega⟩)
  · have hnone : 188 - headLen - (14 + min (174 - headLen) data.length) = 0 := by omega
    rw [hlen, hnone, List.replicate_zero, List.append_nil, List.append_assoc, ← List.take_add]
    have hwhole : parsePes ⟨rai, pesHeader streamId data.length pts ++
        data.take (174 - headLen + 184 * room) ++ []⟩ = _ :=
      parsePes_pesHeader streamId pts rai (Or.inl ⟨rfl, List.length_take_le' _ _⟩)
    rwa [List.append_nil] at hwhole

/-- The packets of a unit: the first one, with as much of the data as it holds
behind the PES header, and those of the rest. -/
theorem writePesPackets_eq (s : TsMuxState) {bufSize room : Nat} (hbuf : bufSize / 188 = room + 1) (pid : UInt16)
    (cc streamId : UInt8) (data : List UInt8) (pts : UInt64) (usePcr rai : Bool) :
    let head := firstHeader s pid cc pts usePcr rai
    writePesPackets s bufSize pid cc streamId data pts usePcr rai =
      ((continuationPackets pid room (nextCc cc) (data.drop (174 - head.length))).1,
        padded (head ++ (pesHeader streamId data.length pts ++ data.take (174 - head.length))) ::
          (continuationPackets pid room (nextCc cc) (data.drop (174 - head.length))).2, false) := by
  intro head
  have hheadLen : head.length ≤ 12 := by
    rw [firstHeader_length]
    split_ifs <;> decide
  have hpes : (pesHeader streamId data.length pts).take (tsPacketSize - head.length) = pesHeader streamId data.length pts := by
    rw [List.take_of_length_le]
    rw [pesHeader_length]
    change 14 ≤ 188 - head.length
    omega
  have hspace : tsPacketSize - head.length - (pesHeader streamId data.length pts).length = 174 - head.length := by
    rw [pesHeader_length]
    change 188 - head.length - 14 = _
    omega
  have hroom : bufSize / tsPacketSize = room + 1 := hbuf
  rw [writePesPackets, hroom]
  dsimp only
  rw [hpes, hspace, List.append_assoc]

/-- A unit is written as whole packets and cut where the buffer ends. -/
theorem writePesPackets_unit (s : TsMuxState) (bufSize : Nat) (pid : UInt16) (cc streamId : UInt8) (data : List UInt8)
    (pts : UInt64) (usePcr rai : Bool) (hpid : pid.toNat < 8192) :
    ∃ ps, (writePesPackets s bufSize pid cc streamId data pts usePcr rai).2.1.mapM parsePacket = some ps ∧
      (∀ p ∈ ps, p.pid = pid.toNat) ∧
      Counts (cc.toNat % 16) (ps.map (·.cc))
        ((writePesPackets s bufSize pid cc streamId data pts usePcr rai).1.toNat % 16) ∧
      (188 ≤ bufSize → OneUnit parsePes ps rai ⟨streamId, some (pts.toNat % 2 ^ 33), rai,
        data.take (unitRoom (firstHeader s pid cc pts usePcr rai).length bufSize)⟩) ∧
      (188 * unitPackets (firstHeader s pid cc pts usePcr rai).length data.length ≤ bufSize →
        ps.length = unitPackets (firstHeader s pid cc pts usePcr rai).length data.length) := by
  cases hbuf : bufSize / 188 with
  | zero =>
      have hroom : bufSize / tsPacketSize = 0 := hbuf
      rw [writePesPackets, hroom]
      refine ⟨[], rfl, by simp, rfl, fun h => ?_, fun hfits => ?_⟩
      · omega
      · rw [unitPackets] at hfits
        omega
  | succ room =>
      rw [writePesPackets_eq s hbuf]
      generalize hhead : firstHeader s pid cc pts usePcr rai = head
      have hheadLen : head.length ≤ 12 := by
        rw [← hhead, firstHeader_length]
        split_ifs <;> decide
      have hrest : (pesHeader streamId data.length pts ++ data.take (174 - head.length)).length =
          14 + min (174 - head.length) data.length := by
        rw [List.length_append, pesHeader_length, List.length_take]
      obtain ⟨ps, hparse, hpids, hcounts, hbytes, hcount⟩ :=
        continuationPackets_spec room (nextCc cc) (data.drop (174 - head.length)) hpid
      have hfirst := firstPacket_parses s pid cc pts usePcr rai
        (pesHeader streamId data.length pts ++ data.take (174 - head.length)) hpid
        (by rw [hhead, hrest]; omega)
      rw [hhead] at hfirst
      refine ⟨_, mapM_cons_some hfirst hparse, ?_, ?_, fun _ => ?_, ?_⟩
      · intro p hp
        cases hp with
        | head => rfl
        | tail _ hp => exact (hpids p hp).1
      · refine ⟨rfl, ?_⟩
        have hnext : (nextCc cc).toNat % 16 = (cc.toNat % 16 + 1) % 16 := by
          rw [nextCc_toNat]
          omega
        rw [← hnext]
        exact hcounts
      · refine ⟨_, ps, rfl, rfl, rfl, fun q hq => (hpids q hq).2, ?_⟩
        have hcapacity : unitRoom head.length bufSize = 174 - head.length + 184 * room := by
          rw [unitRoom, hbuf, Nat.add_sub_cancel]
        rw [hcapacity, hbytes]
        exact parsePes_split streamId data pts rai room hheadLen
      · intro hfits
        rw [unitPackets] at hfits ⊢
        rw [List.length_drop] at hcount
        rw [List.length_cons, hcount (by omega)]
        omega

theorem writePesPackets_spec (s : TsMuxState) (bufSize : Nat) (pid : UInt16) (cc streamId : UInt8) (data : List UInt8)
    (pts : UInt64) (usePcr rai : Bool) (hpid : pid.toNat < 8192) :
    ∃ ps, (writePesPackets s bufSize pid cc streamId data pts usePcr rai).2.1.mapM parsePacket = some ps ∧
      (∀ p ∈ ps, p.pid = pid.toNat) ∧
      Counts (cc.toNat % 16) (ps.map (·.cc))
        ((writePesPackets s bufSize pid cc streamId data pts usePcr rai).1.toNat % 16) ∧
      (188 * unitPackets (firstHeader s pid cc pts usePcr rai).length data.length ≤ bufSize →
        Carries parsePes ps [⟨streamId, some (pts.toNat % 2 ^ 33), rai, data⟩] ∧
        (writePesPackets s bufSize pid cc streamId data pts usePcr rai).2.1.length =
          unitPackets (firstHeader s pid cc pts usePcr rai).length data.length) := by
  obtain ⟨ps, hparse, hpids, hcounts, hunit, hcount⟩ :=
    writePesPackets_unit s bufSize pid cc streamId data pts usePcr rai hpid
  refine ⟨ps, hparse, hpids, hcounts, fun hfits => ⟨?_, by rw [mapM_length hparse, hcount hfits]⟩⟩
  rw [unitPackets] at hfits
  have hwhole : data.length ≤ unitRoom (firstHeader s pid cc pts usePcr rai).length bufSize := by
    rw [unitRoom]
    omega
  have hcarries := (hunit (by omega)).carries
  rwa [List.take_of_length_le hwhole] at hcarries

def counter (s : TsMuxState) (pid : Nat) : Nat :=
  if pid = tsPidPat.toNat then s.ccPat.toNat % 16
  else if pid = tsPidPmt.toNat then s.ccPmt.toNat % 16
  else if pid = tsPidVideo.toNat then s.ccVideo.toNat % 16
  else if pid = tsPidAudio.toNat then s.ccAudio.toNat % 16
  else 0

/-- Packets that take every counter of s to that of s'. -/
def Counted (s : TsMuxState) (ps : List TsPacket) (s' : TsMuxState) : Prop :=
  ∀ pid, Counts (counter s pid) ((ofPid pid ps).map (·.cc)) (counter s' pid)

structure Delivers (ps : List TsPacket) (pats pmts : List (List UInt8)) (videos audios : List PesUnit) : Prop where
  pat : Carries parseSection (ofPid tsPidPat.toNat ps) pats
  pmt : Carries parseSection (ofPid tsPidPmt.toNat ps) pmts
  video : Carries parsePes (ofPid tsPidVideo.toNat ps) videos
  audio : Carries parsePes (ofPid tsPidAudio.toNat ps) audios

theorem Counted.append {s t u : TsMuxState} {ps qs : List TsPacket} (h : Counted s ps t) (k : Counted t qs u) :
    Counted s (ps ++ qs) u := by
  intro pid
  rw [ofPid_append, List.map_append]
  exact (h pid).append (k pid)

theorem Delivers.nil : Delivers [] [] [] [] [] := ⟨.nil, .nil, .nil, .nil⟩

theorem Delivers.append {ps qs : List TsPacket} {pats pats' pmts pmts' : List (List UInt8)}
    {videos videos' audios audios' : List PesUnit} (h : Delivers ps pats pmts videos audios)
    (k : Delivers qs pats' pmts' videos' audios') :
    Delivers (ps ++ qs) (pats ++ pats') (pmts ++ pmts') (videos ++ videos') (audios ++ audios') := by
  constructor
  · rw [ofPid_append]
    exact h.pat.append k.pat
  · rw [ofPid_append]
    exact h.pmt.append k.pmt
  · rw [ofPid_append]
    exact h.video.append k.video
  · rw [ofPid_append]
    exact h.audio.append k.audio

theorem Counted.ofUnit {s s' : TsMuxState} {ps : List TsPacket} {pid : Nat} (hpids : ∀ p ∈ ps, p.pid = pid)
    (hcounts : Counts (counter s pid) (ps.map (·.cc)) (counter s' pid))
    (hframe : ∀ pid', pid ≠ pid' → counter s' pid' = counter s pid') : Counted s ps s' := by
  intro pid'
  by_cases hpid : pid = pid'
  · subst hpid
    rw [ofPid_same hpids]
    exact hcounts
  · rw [ofPid_other hpids hpid]
    exact (hframe pid' hpid).symm

theorem carries_same {β : Type} {f : Payload → Option β} {ps : List TsPacket} {us : List β} {pid : Nat}
    (hpids : ∀ p ∈ ps, p.pid = pid) (h : Carries f ps us) : Carries f (ofPid pid ps) us := by
  rw [ofPid_same hpids]
  exact h

theorem carries_other {β : Type} {f : Payload → Option β} {ps : List TsPacket} {pid pid' : Nat}
    (hpids : ∀ p ∈ ps, p.pid = pid) (hne : pid ≠ pid') : Carries f (ofPid pid' ps) [] := by
  rw [ofPid_other hpids hne]
  exact .nil

theorem Delivers.ofPat {ps : List TsPacket} {pats : List (List UInt8)} (hpids : ∀ p ∈ ps, p.pid = tsPidPat.toNat)
    (h : Carries parseSection ps pats) : Delivers ps pats [] [] [] :=
  ⟨carries_same hpids h, carries_other hpids (by decide), carries_other hpids (by decide),
    carries_other hpids (by decide)⟩

theorem Delivers.ofPmt {ps : List TsPacket} {pmts : List (List UInt8)} (hpids : ∀ p ∈ ps, p.pid = tsPidPmt.toNat)
    (h : Carries parseSection ps pmts) : Delivers ps [] pmts [] [] :=
  ⟨carries_other hpids (by decide), carries_same hpids h, carries_other hpids (by decide),
    carries_other hpids (by decide)⟩

theorem Delivers.ofVideo {ps : List TsPacket} {videos : List PesUnit} (hpids : ∀ p ∈ ps, p.pid = tsPidVideo.toNat)
    (h : Carries parsePes ps videos) : Delivers ps [] [] videos [] :=
  ⟨carries_other hpids (by decide), carries_other hpids (by decide), carries_same hpids h,
    carries_other hpids (by decide)⟩

theorem Delivers.ofAudio {ps : List TsPacket} {audios : List PesUnit} (hpids : ∀ p ∈ ps, p.pid = tsPidAudio.toNat)
    (h : Carries parsePes ps audios) : Delivers ps [] [] [] audios :=
  ⟨carries_other hpids (by decide), carries_other hpids (by decide), carries_other hpids (by decide),
    carries_same hpids h⟩

theorem nextCc_mod (cc : UInt8) : (nextCc cc).toNat % 16 = (cc.toNat % 16 + 1) % 16 := by
  rw [nextCc_toNat]
  omega

theorem patSection_reads (pad : List UInt8) (rai : Bool) :
    parseSection ⟨rai, 0x00 :: patSection ++ trailer (tsCrc32 patSection) ++ pad⟩ = some patSection :=
  parseSection_trailer 0x00 0xB0 0x0D [0x00, 0x01, 0xC1, 0x00, 0x00, 0x00, 0x01, 0xF0, 0x00] pad rai rfl

theorem pmtSection_reads (s : TsMuxState) (pad : List UInt8) (rai : Bool) :
    parseSection ⟨rai, 0x00 :: pmtSection s ++ trailer (tsCrc32 (pmtSection s)) ++ pad⟩ = some (pmtSection s) := by
  apply parseSection_trailer
  have hbody := pmtBody_length s
  exact sectionLength _ (by omega)

theorem pmtSection_congr {s t : TsMuxState} (hrate : s.audioRate = t.audioRate)
    (hchannels : s.audioChannels = t.audioChannels) : pmtSection s = pmtSection t := by
  simp only [pmtSection, pmtBody, hrate, hchannels]

theorem sectionSent_carries (pid : UInt16) (cc : UInt8) {bytes : List UInt8}
    (hreads : ∀ pad rai, parseSection ⟨rai, 0x00 :: bytes ++ trailer (tsCrc32 bytes) ++ pad⟩ = some bytes) :
    Carries parseSection [sectionSent pid cc bytes] [bytes] := by
  apply Carries.unit rfl (List.forall_mem_nil _)
  rw [List.flatMap_nil, List.append_nil]
  exact hreads _ _

theorem tsMuxWritePatPmt_parses {s : TsMuxState} {bufSize : Nat} (hroom : 2 * tsPacketSize ≤ bufSize) :
    (tsMuxWritePatPmt s bufSize).2.mapM parsePacket =
      some [sectionSent tsPidPat s.ccPat patSection, sectionSent tsPidPmt s.ccPmt (pmtSection s)] := by
  have hpmt : (pmtSection s).length ≤ 179 := by
    have hbody := pmtBody_length s
    simp only [pmtSection, putBe16, List.length_append, List.length_cons, List.length_nil]
    omega
  have hfirst := sectionPacket_parses tsPidPat s.ccPat patSection (by decide) (by decide)
  have hsecond := sectionPacket_parses tsPidPmt s.ccPmt (pmtSection s) (by decide) hpmt
  rw [tsMuxWritePatPmt, if_neg (Nat.not_lt.mpr hroom)]
  exact mapM_cons_some hfirst (mapM_cons_some hsecond rfl)

theorem tsMuxWritePatPmt_spec (s : TsMuxState) (bufSize : Nat) :
    ∃ ps, (tsMuxWritePatPmt s bufSize).2.mapM parsePacket = some ps ∧
      Counted s ps (tsMuxWritePatPmt s bufSize).1 ∧
      (2 * tsPacketSize ≤ bufSize → Delivers ps [patSection] [pmtSection s] [] []) := by
  by_cases hroom : bufSize < 2 * tsPacketSize
  · rw [tsMuxWritePatPmt, if_pos hroom]
    exact ⟨[], rfl, fun _ => rfl, fun hfits => absurd hroom (Nat.not_lt.mpr hfits)⟩
  · have hparse := tsMuxWritePatPmt_parses (s := s) (Nat.not_lt.mp hroom)
    rw [tsMuxWritePatPmt, if_neg hroom] at hparse ⊢
    refine ⟨[sectionSent tsPidPat s.ccPat patSection, sectionSent tsPidPmt s.ccPmt (pmtSection s)], hparse, ?_,
      fun _ => ?_⟩
    · have hpat : Counted s [sectionSent tsPidPat s.ccPat patSection] { s with ccPat := nextCc s.ccPat } := by
        apply Counted.ofUnit (List.forall_mem_singleton.mpr rfl)
        · exact ⟨rfl, (nextCc_mod s.ccPat).symm⟩
        · intro pid hpid
          have hother : ¬ pid = tsPidPat.toNat := fun h => hpid h.symm
          simp only [counter, if_neg hother]
      apply hpat.append
      apply Counted.ofUnit (List.forall_mem_singleton.mpr rfl)
      · exact ⟨rfl, (nextCc_mod s.ccPmt).symm⟩
      · intro pid hpid
        have hother : ¬ pid = tsPidPmt.toNat := fun h => hpid h.symm
        simp only [counter, if_neg hother]
    · have hpat : Delivers [sectionSent tsPidPat s.ccPat patSection] [patSection] [] [] [] := by
        apply Delivers.ofPat (List.forall_mem_singleton.mpr rfl)
        exact sectionSent_carries tsPidPat s.ccPat patSection_reads
      apply hpat.append
      apply Delivers.ofPmt (List.forall_mem_singleton.mpr rfl)
      exact sectionSent_carries tsPidPmt s.ccPmt (pmtSection_reads s)

def outputSize (s : TsMuxState) : Call → Nat
  | .patPmt _ => 2 * tsPacketSize
  | .video _ data _ _ =>
    (if tsPatPmtInterval ≤ s.videoFrames then 2 * tsPacketSize else 0) + tsPacketSize * unitPackets 12 data.length
  | .audio _ data _ => tsPacketSize * unitPackets (if s.discontinuity then 6 else 4) data.length

/-- Data to write and a buffer large enough for the output. -/
def fits (s : TsMuxState) : Call → Prop
  | .patPmt bufSize => outputSize s (.patPmt bufSize) ≤ bufSize
  | .video bufSize data pts isIdr => data ≠ [] ∧ outputSize s (.video bufSize data pts isIdr) ≤ bufSize
  | .audio bufSize data pts => data ≠ [] ∧ outputSize s (.audio bufSize data pts) ≤ bufSize

def allFit : TsMuxState → List Call → Prop
  | _, [] => True
  | s, c :: cs => fits s c ∧ allFit (call s c).1 cs

def videoUnits : Call → List PesUnit
  | .video _ data pts isIdr => [⟨0xE0, some (pts.toNat % 2 ^ 33), isIdr, data⟩]
  | _ => []

def audioUnits : Call → List PesUnit
  | .audio _ data pts => [⟨0xBD, some (pts.toNat % 2 ^ 33), false, data⟩]
  | _ => []

def tablesOf (s : TsMuxState) : Call → Nat
  | .patPmt _ => 1
  | .video _ _ _ _ => if tsPatPmtInterval ≤ s.videoFrames then 1 else 0
  | .audio _ _ _ => 0

theorem periodicTables_spec (s : TsMuxState) (bufSize : Nat) :
    ∃ ps, (periodicTables s bufSize).2.mapM parsePacket = some ps ∧ Counted s ps (periodicTables s bufSize).1 ∧
      ((if tsPatPmtInterval ≤ s.videoFrames then 2 * tsPacketSize else 0) ≤ bufSize →
        Delivers ps (List.replicate (if tsPatPmtInterval ≤ s.videoFrames then 1 else 0) patSection)
          (List.replicate (if tsPatPmtInterval ≤ s.videoFrames then 1 else 0) (pmtSection s)) [] [] ∧
        tsPacketSize * (periodicTables s bufSize).2.length =
          if tsPatPmtInterval ≤ s.videoFrames then 2 * tsPacketSize else 0) := by
  by_cases hdue : tsPatPmtInterval ≤ s.videoFrames
  · simp only [periodicTables, if_pos hdue]
    obtain ⟨ps, hparse, hcounted, hdelivers⟩ := tsMuxWritePatPmt_spec s bufSize
    refine ⟨ps, hparse, hcounted, fun hroom => ⟨hdelivers hroom, ?_⟩⟩
    rw [tsMuxWritePatPmt, if_neg (Nat.not_lt.mpr hroom)]
    rfl
  · simp only [periodicTables, if_neg hdue]
    exact ⟨[], rfl, fun _ => rfl, fun _ => ⟨Delivers.nil, rfl⟩⟩

theorem tsMuxWriteVideo_spec (s : TsMuxState) (bufSize : Nat) (data : List UInt8) (pts : UInt64) (isIdr : Bool) :
    ∃ ps, (tsMuxWriteVideo s bufSize data pts isIdr).2.mapM parsePacket = some ps ∧
      Counted s ps (tsMuxWriteVideo s bufSize data pts isIdr).1 ∧
      (fits s (.video bufSize data pts isIdr) →
        Delivers ps (List.replicate (tablesOf s (.video bufSize data pts isIdr)) patSection)
          (List.replicate (tablesOf s (.video bufSize data pts isIdr)) (pmtSection s))
          [⟨0xE0, some (pts.toNat % 2 ^ 33), isIdr, data⟩] [] ∧
        tsPacketSize * (tsMuxWriteVideo s bufSize data pts isIdr).2.length =
          outputSize s (.video bufSize data pts isIdr)) := by
  by_cases hdata : data = []
  · rw [tsMuxWriteVideo, if_pos hdata]
    exact ⟨[], rfl, fun _ => rfl, fun hfits => absurd hdata hfits.1⟩
  · rw [tsMuxWriteVideo, if_neg hdata]
    obtain ⟨tables, htables, hcounted, hdelivers⟩ := periodicTables_spec s bufSize
    generalize periodicTables s bufSize = r at htables hcounted hdelivers ⊢
    obtain ⟨t, raw⟩ := r
    obtain ⟨ps, hparse, hpids, hcounts, hunit⟩ := writePesPackets_spec { t with videoFrames := t.videoFrames + 1 }
      (bufSize - tsPacketSize * raw.length) tsPidVideo t.ccVideo 0xE0 data pts true isIdr (by decide)
    refine ⟨tables ++ ps, mapM_append_some htables hparse, ?_, ?_⟩
    · apply hcounted.append
      apply Counted.ofUnit hpids
      · exact hcounts
      · intro pid hpid
        have hother : ¬ pid = tsPidVideo.toNat := fun h => hpid h.symm
        simp only [counter, if_neg hother]
    · intro hfits
      have hsize : (if tsPatPmtInterval ≤ s.videoFrames then 2 * tsPacketSize else 0) +
          tsPacketSize * unitPackets 12 data.length ≤ bufSize := hfits.2
      obtain ⟨hsections, hlength⟩ := hdelivers (by omega)
      have hroom : 188 * unitPackets 12 data.length ≤ bufSize - tsPacketSize * raw.length := by
        rw [hlength]
        exact Nat.le_sub_of_add_le' hsize
      obtain ⟨hcarries, hcount⟩ := hunit (by rw [firstHeader_length]; exact hroom)
      have hvideo := hsections.append (Delivers.ofVideo hpids hcarries)
      rw [List.append_nil, List.append_nil] at hvideo
      refine ⟨hvideo, ?_⟩
      rw [firstHeader_length] at hcount
      rw [List.length_append, Nat.mul_add]
      exact congrArg₂ (· + ·) hlength (congrArg (tsPacketSize * ·) hcount)

theorem tsMuxWriteAudio_spec (s : TsMuxState) (bufSize : Nat) (data : List UInt8) (pts : UInt64) :
    ∃ ps, (tsMuxWriteAudio s bufSize data pts).2.mapM parsePacket = some ps ∧
      Counted s ps (tsMuxWriteAudio s bufSize data pts).1 ∧
      (fits s (.audio bufSize data pts) →
        Delivers ps [] [] [] [⟨0xBD, some (pts.toNat % 2 ^ 33), false, data⟩] ∧
        tsPacketSize * (tsMuxWriteAudio s bufSize data pts).2.length = outputSize s (.audio bufSize data pts)) := by
  by_cases hdata : data = []
  · rw [tsMuxWriteAudio, if_pos hdata]
    exact ⟨[], rfl, fun _ => rfl, fun hfits => absurd hdata hfits.1⟩
  · rw [tsMuxWriteAudio, if_neg hdata]
    obtain ⟨ps, hparse, hpids, hcounts, hunit⟩ := writePesPackets_spec s bufSize tsPidAudio s.ccAudio 0xBD data pts
      false false (by decide)
    refine ⟨ps, hparse, ?_, ?_⟩
    · apply Counted.ofUnit hpids
      · exact hcounts
      · intro pid hpid
        have hother : ¬ pid = tsPidAudio.toNat := fun h => hpid h.symm
        simp only [counter, if_neg hother]
    · intro hfits
      have hroom : 188 * unitPackets (if s.discontinuity then 6 else 4) data.length ≤ bufSize := hfits.2
      have hhead : (firstHeader s tsPidAudio s.ccAudio pts false false).length = if s.discontinuity then 6 else 4 := by
        rw [firstHeader_length, Bool.false_or]
        rfl
      obtain ⟨hcarries, hcount⟩ := hunit (by rw [hhead]; exact hroom)
      refine ⟨Delivers.ofAudio hpids hcarries, ?_⟩
      rw [hcount, hhead]
      rfl

theorem call_spec (s : TsMuxState) (c : Call) :
    ∃ ps, (call s c).2.mapM parsePacket = some ps ∧ Counted s ps (call s c).1 ∧
      (fits s c → Delivers ps (List.replicate (tablesOf s c) patSection) (List.replicate (tablesOf s c) (pmtSection s))
          (videoUnits c) (audioUnits c) ∧
        tsPacketSize * (call s c).2.length = outputSize s c) := by
  cases c with
  | patPmt bufSize =>
      obtain ⟨ps, hparse, hcounted, hdelivers⟩ := tsMuxWritePatPmt_spec s bufSize
      refine ⟨ps, hparse, hcounted, fun hfits => ⟨hdelivers hfits, ?_⟩⟩
      have hroom : ¬ bufSize < 2 * tsPacketSize := Nat.not_lt.mpr hfits
      rw [call, tsMuxWritePatPmt, if_neg hroom]
      rfl
  | video bufSize data pts isIdr => exact tsMuxWriteVideo_spec s bufSize data pts isIdr
  | audio bufSize data pts => exact tsMuxWriteAudio_spec s bufSize data pts

/-- The size a buffer is asked to have is the size of what is written. -/
theorem outputSize_exact {s : TsMuxState} {c : Call} (h : fits s c) :
    tsPacketSize * (call s c).2.length = outputSize s c := by
  obtain ⟨ps, -, -, hsize⟩ := call_spec s c
  exact (hsize h).2

theorem tsMuxWritePatPmt_frame (s : TsMuxState) (bufSize : Nat) :
    (tsMuxWritePatPmt s bufSize).1.audioRate = s.audioRate ∧
      (tsMuxWritePatPmt s bufSize).1.audioChannels = s.audioChannels ∧
      (tsMuxWritePatPmt s bufSize).1.videoFrames = s.videoFrames := by
  by_cases hroom : bufSize < 2 * tsPacketSize
  · rw [tsMuxWritePatPmt, if_pos hroom]
    exact ⟨rfl, rfl, rfl⟩
  · rw [tsMuxWritePatPmt, if_neg hroom]
    exact ⟨rfl, rfl, rfl⟩

/-- What a call leaves of the audio configuration and of the unit count. -/
theorem call_frame (s : TsMuxState) (c : Call) :
    (call s c).1.audioRate = s.audioRate ∧ (call s c).1.audioChannels = s.audioChannels ∧
      (fits s c → (call s c).1.videoFrames = match c with
        | .video _ _ _ _ => if tsPatPmtInterval ≤ s.videoFrames then 1 else s.videoFrames + 1
        | _ => s.videoFrames) := by
  cases c with
  | patPmt bufSize =>
      obtain ⟨hrate, hchannels, hframes⟩ := tsMuxWritePatPmt_frame s bufSize
      exact ⟨hrate, hchannels, fun _ => hframes⟩
  | video bufSize data pts isIdr =>
      obtain ⟨hrate, hchannels, -⟩ := tsMuxWritePatPmt_frame s bufSize
      rw [call, tsMuxWriteVideo]
      by_cases hdata : data = []
      · rw [if_pos hdata]
        exact ⟨rfl, rfl, fun hfits => absurd hdata hfits.1⟩
      · rw [if_neg hdata, periodicTables]
        by_cases hdue : tsPatPmtInterval ≤ s.videoFrames
        · simp only [if_pos hdue]
          exact ⟨hrate, hchannels, fun _ => rfl⟩
        · simp only [if_neg hdue, implies_true, and_self]
  | audio bufSize data pts =>
      rw [call, tsMuxWriteAudio]
      by_cases hdata : data = []
      · rw [if_pos hdata]
        exact ⟨rfl, rfl, fun hfits => absurd hdata hfits.1⟩
      · rw [if_neg hdata]
        exact ⟨rfl, rfl, fun _ => rfl⟩

def isPatPmt : Call → Bool
  | .patPmt _ => true
  | _ => false

/-- The tables that a sequence of calls emits when frames video units were
written since the last: those asked for, and one for every fifteen units. -/
def tableCount (frames : Nat) (cs : List Call) : Nat :=
  cs.countP isPatPmt + ((cs.flatMap videoUnits).length + frames - 1) / 15

theorem tableCount_cons {s : TsMuxState} {c : Call} (cs : List Call) (hfits : fits s c)
    (hpos : 1 ≤ s.videoFrames.toNat) (hframes : s.videoFrames.toNat ≤ 15) :
    1 ≤ (call s c).1.videoFrames.toNat ∧ (call s c).1.videoFrames.toNat ≤ 15 ∧
      tablesOf s c + tableCount (call s c).1.videoFrames.toNat cs = tableCount s.videoFrames.toNat (c :: cs) := by
  obtain ⟨-, -, hcount⟩ := call_frame s c
  have hleft := hcount hfits
  cases c with
  | patPmt bufSize =>
      have hsame : (call s (.patPmt bufSize)).1.videoFrames = s.videoFrames := hleft
      rw [hsame]
      refine ⟨hpos, hframes, ?_⟩
      simp only [tablesOf, tableCount, List.countP_cons, isPatPmt, List.flatMap_cons, videoUnits, List.nil_append, if_true]
      omega
  | audio bufSize data pts =>
      have hsame : (call s (.audio bufSize data pts)).1.videoFrames = s.videoFrames := hleft
      rw [hsame]
      refine ⟨hpos, hframes, ?_⟩
      simp only [tablesOf, tableCount, List.countP_cons, isPatPmt, List.flatMap_cons, videoUnits, List.nil_append,
        Bool.false_eq_true, if_false]
      omega
  | video bufSize data pts isIdr =>
      have hdueNat : tsPatPmtInterval ≤ s.videoFrames ↔ 15 ≤ s.videoFrames.toNat := UInt32.le_iff_toNat_le
      have hnext : (call s (.video bufSize data pts isIdr)).1.videoFrames =
          if tsPatPmtInterval ≤ s.videoFrames then 1 else s.videoFrames + 1 := hleft
      rw [hnext]
      simp only [tablesOf, tableCount, List.countP_cons, isPatPmt, List.flatMap_cons, videoUnits, List.length_append,
        List.length_singleton, Bool.false_eq_true, if_false]
      by_cases hdue : tsPatPmtInterval ≤ s.videoFrames
      · have hfull := hdueNat.mp hdue
        have hone : (1 : UInt32).toNat = 1 := rfl
        rw [if_pos hdue, if_pos hdue, hone]
        omega
      · have hless : s.videoFrames.toNat < 15 := Nat.lt_of_not_le (fun h => hdue (hdueNat.mpr h))
        have hsucc : (s.videoFrames + 1).toNat = s.videoFrames.toNat + 1 := by
          rw [UInt32.toNat_add]
          exact Nat.mod_eq_of_lt (by change s.videoFrames.toNat + 1 < 2 ^ 32; omega)
        rw [if_neg hdue, if_neg hdue, hsucc]
        omega

theorem calls_spec (s : TsMuxState) (cs : List Call) :
    ∃ ps, (calls s cs).2.mapM parsePacket = some ps ∧ Counted s ps (calls s cs).1 ∧
      (1 ≤ s.videoFrames.toNat → s.videoFrames.toNat ≤ 15 → allFit s cs →
        Delivers ps (List.replicate (tableCount s.videoFrames.toNat cs) patSection)
          (List.replicate (tableCount s.videoFrames.toNat cs) (pmtSection s))
          (cs.flatMap videoUnits) (cs.flatMap audioUnits)) := by
  induction cs generalizing s with
  | nil =>
      refine ⟨[], rfl, fun _ => rfl, fun hpos hframes _ => ?_⟩
      have hnone : tableCount s.videoFrames.toNat [] = 0 := by
        simp only [tableCount, List.countP_nil, List.flatMap_nil, List.length_nil]
        omega
      rw [hnone]
      exact Delivers.nil
  | cons c cs ih =>
      obtain ⟨ps, hparse, hcounted, hcall⟩ := call_spec s c
      obtain ⟨qs, hrest, hcounts, hrun⟩ := ih (call s c).1
      refine ⟨ps ++ qs, mapM_append_some hparse hrest, hcounted.append hcounts, fun hpos hframes hfits => ?_⟩
      obtain ⟨hpos', hframes', hcount⟩ := tableCount_cons cs hfits.1 hpos hframes
      obtain ⟨hrate, hchannels, -⟩ := call_frame s c
      have hdelivers := (hcall hfits.1).1.append (hrun hpos' hframes' hfits.2)
      rw [pmtSection_congr hrate hchannels, ← List.replicate_add, ← List.replicate_add, hcount] at hdelivers
      exact hdelivers

/-- Every call sequence from a fresh muxer, in a first or a later segment,
writes whole packets that count without a gap; when every call has room, a
receiver recovers the units of both streams and the tables. -/
theorem mux_round_trip (audioRate : UInt32) (audioChannels : UInt8) (discontinuity : Bool) (cs : List Call) :
    let s := { tsMuxInit audioRate audioChannels with discontinuity := discontinuity }
    let out := (calls s cs).2.flatten
    out.length % 188 = 0 ∧ (∀ bytes ∈ chunks (out.length / 188) out, bytes.head? = some 0x47) ∧
    ∃ ps, parseStream out = some ps ∧
      (∀ pid, ((ofPid pid ps).map (·.cc)).IsChain Continues) ∧
      (allFit s cs →
        pesUnits 0x100 ps = some (cs.flatMap videoUnits) ∧ pesUnits 0x101 ps = some (cs.flatMap audioUnits) ∧
        sections 0 ps = some (List.replicate (tableCount 15 cs) patSection) ∧
        sections 0x1000 ps = some (List.replicate (tableCount 15 cs) (pmtSection s))) := by
  intro s out
  obtain ⟨ps, hparse, hcounted, hrun⟩ := calls_spec s cs
  have hpackets : ∀ bytes ∈ (calls s cs).2, bytes.length = 188 := by
    intro bytes hmem
    obtain ⟨p, -, hp⟩ := mem_of_mapM hparse hmem
    exact parsePacket_length hp
  refine ⟨?_, fun bytes hmem => (sync_bytes hparse bytes hmem).2, ps, parseStream_flatten hparse, ?_, ?_⟩
  · rw [flatten_length hpackets]
    exact Nat.mul_mod_left ..
  · intro pid
    exact (hcounted pid).continues
  · intro hfits
    have hframes : s.videoFrames.toNat = 15 := rfl
    obtain ⟨hpat, hpmt, hvideo, haudio⟩ := hrun (by omega) (by omega) hfits
    exact ⟨hvideo.read, haudio.read, hpat.read, hpmt.read⟩

theorem mux_round_trip_three_calls :
    ∃ ps, parseStream (calls (tsMuxInit 48000 1) [.video 1000 [1, 2, 3] 9000 true, .audio 188 [4, 5] (2 ^ 33 + 7),
        .patPmt 376]).2.flatten = some ps ∧
      pesUnits 0x100 ps = some [⟨0xE0, some 9000, true, [1, 2, 3]⟩] ∧
      pesUnits 0x101 ps = some [⟨0xBD, some 7, false, [4, 5]⟩] ∧
      sections 0 ps = some [patSection, patSection] ∧
      sections 0x1000 ps = some [pmtSection (tsMuxInit 48000 1), pmtSection (tsMuxInit 48000 1)] := by
  have hfits : allFit (tsMuxInit 48000 1)
      [.video 1000 [1, 2, 3] 9000 true, .audio 188 [4, 5] (2 ^ 33 + 7), .patPmt 376] :=
    ⟨⟨by decide, by decide⟩, ⟨by decide, by decide⟩, Nat.le_refl 376, trivial⟩
  obtain ⟨-, -, ps, hparse, -, hunits⟩ := mux_round_trip 48000 1 false
    [.video 1000 [1, 2, 3] 9000 true, .audio 188 [4, 5] (2 ^ 33 + 7), .patPmt 376]
  exact ⟨ps, hparse, hunits hfits⟩

end WaybeamVenc.TsRoundTrip
