import WaybeamVenc.ByteBuffer
import WaybeamVenc.OutputSocket
import WaybeamVenc.Reassembly
import WaybeamVenc.SidecarTiling

namespace WaybeamVenc.CompactPacket

open ByteBuffer OutputSocket Reassembly SidecarTiling

/-- Where a datagram went and what it carried. -/
structure Datagram where
  dst : SockAddr
  bytes : List UInt8
deriving DecidableEq

structure Star6eOutput where
  socketHandle : Int
  dst : SockAddr
  dstLen : UInt32
  transport : UriType
  sendErrors : UInt32

/-- The kernel's side of the socket: which of the calls succeed, how many there
were, and what was sent. -/
structure Net where
  accepts : Nat → Bool
  calls : Nat
  sent : List Datagram

structure State where
  output : Star6eOutput
  net : Net

def datagram (output : Star6eOutput) (bytes : List UInt8) : Datagram := ⟨output.dst.take output.dstLen.toNat, bytes⟩

/-- A sendto or sendmsg; true stands for a return that is not negative. -/
def sendmsg (s : State) (bytes : List UInt8) : Bool × State :=
  if s.net.accepts s.net.calls then
    (true, { s with net := ⟨s.net.accepts, s.net.calls + 1, s.net.sent ++ [datagram s.output bytes]⟩ })
  else (false, { s with net := ⟨s.net.accepts, s.net.calls + 1, s.net.sent⟩ })

def countSendError (s : State) : State := { s with output := { s.output with sendErrors := s.output.sendErrors + 1 } }

def star6eWriteBe16 (data : List UInt8) (offset : Nat) (value : UInt16) : List UInt8 :=
  storeBytes data offset [(value >>> 8).toUInt8, (value &&& 0xff).toUInt8]

def star6eWriteBe32 (data : List UInt8) (offset : Nat) (value : UInt32) : List UInt8 :=
  storeBytes data offset [(value >>> 24).toUInt8, ((value >>> 16) &&& 0xff).toUInt8, ((value >>> 8) &&& 0xff).toUInt8,
    (value &&& 0xff).toUInt8]

def star6eRtpHeaderSize : UInt32 := 12

/-- As many bytes as a packet size can say. -/
abbrev Packet := { bytes : List UInt8 // bytes.length < 2 ^ 32 }

/-- The header of one fragment: the packet's, with its own marker and sequence
number written over it. -/
def fragmentHeader (packet : List UInt8) (last : Bool) (sequence : UInt16) : List UInt8 :=
  let marker := packet.getD 1 0 &&& 0x80
  let header := packet.take star6eRtpHeaderSize.toNat
  let header := storeBytes header 1 [(packet.getD 1 0 &&& 0x7f) ||| (if last then marker else 0)]
  let header := star6eWriteBe16 header 2 sequence
  let header := star6eWriteBe32 header 4 (star6eReadBe32 (packet.drop 4))
  star6eWriteBe32 header 8 (star6eReadBe32 (packet.drop 8))

/-- Every turn sends at least one byte, so fuel of the payload size suffices. -/
def fragmentLoop (packet : List UInt8) (payloadSize maxFragment : UInt32) : Nat → State → UInt32 → UInt16 → Int × State
  | 0, s, _, _ => (0, s)
  | fuel + 1, s, offset, seq =>
    if offset < payloadSize then
      let fragmentSize := payloadSize - offset
      let fragmentSize := if maxFragment < fragmentSize then maxFragment else fragmentSize
      let header := fragmentHeader packet (payloadSize ≤ offset + fragmentSize) seq
      let payload := packet.drop star6eRtpHeaderSize.toNat
      match sendmsg s (header ++ (payload.drop offset.toNat).take fragmentSize.toNat) with
      | (false, s) => (-1, countSendError s)
      | (true, s) => fragmentLoop packet payloadSize maxFragment fuel s (offset + fragmentSize) (seq + 1)
    else (0, s)

def star6eOutputSendCompactPacket (s : State) (packet : Packet) (maxSize : UInt32) : Int × State :=
  let packetSize := UInt32.ofNat packet.1.length
  if s.output.socketHandle < 0 ∨ s.output.transport = .shm ∨ packetSize = 0 then (-1, s)
  else if packetSize ≤ maxSize then
    match sendmsg s packet.1 with
    | (false, s) => (-1, countSendError s)
    | (true, s) => (0, s)
  else if maxSize ≤ star6eRtpHeaderSize ∨ packetSize ≤ star6eRtpHeaderSize then (0, s)
  else
    let payloadSize := packetSize - star6eRtpHeaderSize
    fragmentLoop packet.1 payloadSize (maxSize - star6eRtpHeaderSize) payloadSize.toNat s 0 (star6eReadBe16 (packet.1.drop 2))

/-! What the receiver of the datagrams sees. -/

/-- A packet header; what is between the marker and the end but for the
sequence number is bytes here. -/
@[ext]
structure Header where
  first : UInt8
  marker : Bool
  payloadType : UInt8
  sequence : UInt16
  timestampSsrc : List UInt8
deriving DecidableEq

def header (d : List UInt8) : Header :=
  ⟨d.getD 0 0, d.getD 1 0 &&& 0x80 ≠ 0, d.getD 1 0 &&& 0x7f, star6eReadBe16 (d.drop 2), (d.drop 4).take 8⟩

/-- Datagrams that are a packet in pieces. -/
structure InPieces (packet : List UInt8) (maxSize : Nat) (ds : List (List UInt8)) : Prop where
  short : ∀ d ∈ ds, d.length ≤ maxSize
  headers : ∀ i (h : i < ds.length), header ds[i] =
    { header packet with
      sequence := (header packet).sequence + UInt16.ofNat i
      marker := (header packet).marker && decide (i + 1 = ds.length) }
  payload : (ds.map fun d => d.drop star6eRtpHeaderSize.toNat).flatten = packet.drop star6eRtpHeaderSize.toNat

/-- The packet a receiver makes of the datagrams it got: the first header, with
the marker of the last one, and the payloads. -/
def reassembled (ds : List (List UInt8)) : List UInt8 :=
  (ds.getD 0 []).take 1 ++ ((ds.getD (ds.length - 1) []).drop 1).take 1 ++
    ((ds.getD 0 []).take star6eRtpHeaderSize.toNat).drop 2 ++ (ds.map fun d => d.drop star6eRtpHeaderSize.toNat).flatten

structure Lossless (packet : List UInt8) (maxSize : Nat) (ds : List (List UInt8)) : Prop where
  shape : (packet.length ≤ maxSize ∧ ds = [packet]) ∨ (maxSize < packet.length ∧ InPieces packet maxSize ds)
  determined : reassembled ds = packet

/-! One header. -/

theorem marker_bits (n : Fin 256) (last : Bool) :
    let b := UInt8.ofFin n
    let b' := (b &&& 0x7f) ||| (if last then b &&& 0x80 else 0)
    decide (b' &&& 0x80 ≠ 0) = (decide (b &&& 0x80 ≠ 0) && last) ∧ b' &&& 0x7f = b &&& 0x7f ∧
      (b &&& 0x7f) ||| (b &&& 0x80) = b := by
  revert n last
  decide +kernel

theorem low_byte16 (v : UInt16) : (v &&& 0xff).toUInt8 = v.toUInt8 := by
  apply UInt8.toNat_inj.1
  have hmask : v.toNat &&& 255 = v.toNat % 256 := Nat.and_two_pow_sub_one_eq_mod _ 8
  rw [UInt16.toNat_toUInt8, UInt16.toNat_toUInt8, UInt16.toNat_and]
  exact (congrArg (· % 256) hmask).trans (Nat.mod_mod _ _)

theorem low_byte32 (v : UInt32) : (v &&& 0xff).toUInt8 = v.toUInt8 := by
  apply UInt8.toNat_inj.1
  have hmask : v.toNat &&& 255 = v.toNat % 256 := Nat.and_two_pow_sub_one_eq_mod _ 8
  rw [UInt32.toNat_toUInt8, UInt32.toNat_toUInt8, UInt32.toNat_and]
  exact (congrArg (· % 256) hmask).trans (Nat.mod_mod _ _)

theorem writeBe16_eq (data : List UInt8) (offset : Nat) (v : UInt16) :
    star6eWriteBe16 data offset v = storeBytes data offset (bytes16 v).reverse := by
  rw [star6eWriteBe16, low_byte16]
  rfl

theorem readBe16_cons (b0 b1 : UInt8) (rest : List UInt8) : star6eReadBe16 (b0 :: b1 :: rest) = word16 [b1, b0] :=
  UInt16.or_comm _ _

theorem readBe16_bytes (v : UInt16) (rest : List UInt8) : star6eReadBe16 ((bytes16 v).reverse ++ rest) = v :=
  (readBe16_cons _ _ rest).trans (word16_bytes16 v)

/-- A word that is read and written back leaves its bytes. -/
theorem writeBe32_readBe32 (data : List UInt8) (offset : Nat) (b0 b1 b2 b3 : UInt8) (rest : List UInt8) :
    star6eWriteBe32 data offset (star6eReadBe32 (b0 :: b1 :: b2 :: b3 :: rest)) = storeBytes data offset [b0, b1, b2, b3] := by
  have hword : star6eReadBe32 (b0 :: b1 :: b2 :: b3 :: rest) = word32 [b3, b2, b1, b0] := by
    rw [star6eReadBe32, word32, UInt32.or_comm, UInt32.or_comm ((b0.toUInt32 <<< 24) ||| (b1.toUInt32 <<< 16)),
      UInt32.or_comm (b0.toUInt32 <<< 24), ← UInt32.or_assoc, ← UInt32.or_assoc]
  have hbytes := congrArg List.reverse (bytes32_word32 b3 b2 b1 b0)
  rw [hword, star6eWriteBe32, low_byte32, low_byte32, low_byte32]
  exact congrArg (storeBytes data offset) hbytes

/-- The header of a fragment, byte by byte. -/
theorem fragmentHeader_eq {packet : List UInt8} (h : 12 ≤ packet.length) (last : Bool) (sequence : UInt16) :
    fragmentHeader packet last sequence =
      packet.getD 0 0 :: ((packet.getD 1 0 &&& 0x7f) ||| (if last then packet.getD 1 0 &&& 0x80 else 0)) ::
        ((bytes16 sequence).reverse ++ (packet.drop 4).take 8) := by
  rcases packet with _ | ⟨b0, _ | ⟨b1, _ | ⟨b2, _ | ⟨b3, _ | ⟨b4, _ | ⟨b5, _ | ⟨b6, _ | ⟨b7, _ | ⟨b8, _ | ⟨b9,
    _ | ⟨b10, _ | ⟨b11, rest⟩⟩⟩⟩⟩⟩⟩⟩⟩⟩⟩⟩
  all_goals try (simp only [List.length_cons, List.length_nil] at h; omega)
  rw [fragmentHeader]
  simp only [List.drop_succ_cons, List.drop_zero, writeBe32_readBe32, writeBe16_eq]
  rfl

theorem fragmentHeader_self {packet : List UInt8} (h : 12 ≤ packet.length) :
    fragmentHeader packet true (star6eReadBe16 (packet.drop 2)) = packet.take 12 := by
  obtain ⟨_, _, hbyte⟩ := marker_bits (packet.getD 1 0).toFin true
  have hmarker : (packet.getD 1 0 &&& 0x7f) ||| (if true then packet.getD 1 0 &&& 0x80 else 0) = packet.getD 1 0 := hbyte
  rw [fragmentHeader_eq h, hmarker]
  rcases packet with _ | ⟨b0, _ | ⟨b1, _ | ⟨b2, _ | ⟨b3, rest⟩⟩⟩⟩
  all_goals try (simp only [List.length_cons, List.length_nil] at h; omega)
  change b0 :: b1 :: ((bytes16 (star6eReadBe16 (b2 :: b3 :: rest))).reverse ++ rest.take 8) = b0 :: b1 :: b2 :: b3 :: rest.take 8
  rw [readBe16_cons, bytes16_word16]
  rfl

theorem header_fragment {packet : List UInt8} (h : 12 ≤ packet.length) (last : Bool) (sequence : UInt16) (chunk : List UInt8) :
    header (fragmentHeader packet last sequence ++ chunk) =
      { header packet with sequence := sequence, marker := (header packet).marker && last } := by
  obtain ⟨hmarker, htype, _⟩ := marker_bits (packet.getD 1 0).toFin last
  have hbody : ((packet.drop 4).take 8 ++ chunk).take 8 = (packet.drop 4).take 8 := by
    rw [List.take_left']
    rw [List.length_take, List.length_drop]
    omega
  rw [fragmentHeader_eq h]
  apply Header.ext
  · rfl
  · exact hmarker
  · exact htype
  · exact readBe16_bytes sequence ((packet.drop 4).take 8 ++ chunk)
  · exact hbody

theorem fragmentHeader_length {packet : List UInt8} (h : 12 ≤ packet.length) (last : Bool) (sequence : UInt16) :
    (fragmentHeader packet last sequence).length = 12 := by
  rw [fragmentHeader_eq h, List.length_cons, List.length_cons, List.length_append, List.length_take, List.length_drop]
  simp only [bytes16, List.length_reverse, List.length_cons, List.length_nil]
  omega

/-! The loop cuts the payload as a list is cut. -/

def pieces (packet : List UInt8) (maxFragment fuel : Nat) (rest : List UInt8) (sequence : UInt16) : List (List UInt8) :=
  (fragments maxFragment fuel rest false).mapIdx fun i f =>
    fragmentHeader packet f.2.1 (sequence + UInt16.ofNat i) ++ f.2.2

theorem pieces_cons {packet rest rest' chunk : List UInt8} {maxFragment fuel fuel' : Nat} {start last : Bool}
    (h : fragments maxFragment fuel rest false = (start, last, chunk) :: fragments maxFragment fuel' rest' false)
    (sequence : UInt16) :
    pieces packet maxFragment fuel rest sequence =
      (fragmentHeader packet last sequence ++ chunk) :: pieces packet maxFragment fuel' rest' (sequence + 1) := by
  have hnext : ∀ i : Nat, sequence + UInt16.ofNat (i + 1) = sequence + 1 + UInt16.ofNat i := by
    intro i
    rw [UInt16.ofNat_add, UInt16.add_comm (UInt16.ofNat i), UInt16.add_assoc]
    rfl
  rw [pieces, h, List.mapIdx_cons, pieces]
  simp only [hnext]
  rw [show sequence + UInt16.ofNat 0 = sequence from UInt16.add_zero sequence]

theorem pieces_nil (packet : List UInt8) (maxFragment fuel : Nat) (sequence : UInt16) :
    pieces packet maxFragment fuel [] sequence = [] := by
  cases fuel <;> rfl

theorem sendmsg_cases (s : State) (bytes : List UInt8) :
    (∃ net, sendmsg s bytes = (false, { s with net := net }) ∧ net.sent = s.net.sent) ∨
      ∃ net, sendmsg s bytes = (true, { s with net := net }) ∧ net.sent = s.net.sent ++ [datagram s.output bytes] := by
  rw [sendmsg]
  split
  · exact .inr ⟨_, rfl, rfl⟩
  · exact .inl ⟨_, rfl, rfl⟩

theorem pieces_turn (packet : List UInt8) {rest : List UInt8} {maxFragment fuel : Nat} (hmax : 0 < maxFragment) (hne : rest ≠ [])
    (hfuel : rest.length ≤ fuel + 1) (sequence : UInt16) :
    pieces packet maxFragment (fuel + 1) rest sequence =
      (fragmentHeader packet (rest.length ≤ maxFragment) sequence ++ rest.take (min maxFragment rest.length)) ::
        pieces packet maxFragment fuel (rest.drop (min maxFragment rest.length)) (sequence + 1) := by
  rcases fragments_cases false hmax hne hfuel with ⟨hle, h⟩ | ⟨hlong, _, _, _, h⟩
  · have hnil : fragments maxFragment fuel ([] : List UInt8) false = [] := by cases fuel <;> rfl
    rw [← hnil] at h
    rw [pieces_cons h, decide_eq_true hle, Nat.min_eq_right hle, List.take_length, List.drop_length]
  · rw [pieces_cons h, decide_eq_false (Nat.not_le.2 hlong), Nat.min_eq_left hlong.le]

theorem fragmentSize_toNat (maxFragment left : UInt32) :
    (if maxFragment < left then maxFragment else left).toNat = min maxFragment.toNat left.toNat := by
  split
  · next h => exact (Nat.min_eq_left (UInt32.lt_iff_toNat_lt.1 h).le).symm
  · next h => exact (Nat.min_eq_right (Nat.not_lt.1 fun hlt => h (UInt32.lt_iff_toNat_lt.2 hlt))).symm

theorem fragmentLoop_turn (packet : List UInt8) {payloadSize offset : UInt32} (maxFragment : UInt32)
    (hmore : offset < payloadSize) (fuel : Nat) (s : State) (sequence : UInt16) :
    ∃ size : UInt32, size.toNat = min maxFragment.toNat (payloadSize.toNat - offset.toNat) ∧
      fragmentLoop packet payloadSize maxFragment (fuel + 1) s offset sequence =
        match sendmsg s (fragmentHeader packet (payloadSize ≤ offset + size) sequence ++
          ((packet.drop 12).drop offset.toNat).take size.toNat) with
        | (false, s) => (-1, countSendError s)
        | (true, s) => fragmentLoop packet payloadSize maxFragment fuel s (offset + size) (sequence + 1) := by
  have hsub : (payloadSize - offset).toNat = payloadSize.toNat - offset.toNat :=
    UInt32.toNat_sub_of_le _ _ (UInt32.le_of_lt hmore)
  refine ⟨if maxFragment < payloadSize - offset then maxFragment else payloadSize - offset, ?_, ?_⟩
  · rw [fragmentSize_toNat, hsub]
  · rw [fragmentLoop, if_pos hmore]
    rfl

/-- A loop that ends well has sent the pieces of what was left. -/
theorem fragmentLoop_sent {packet : List UInt8} {payloadSize maxFragment : UInt32} (hmax : 0 < maxFragment.toNat)
    (hsize : packet.length = 12 + payloadSize.toNat) (fuel : Nat) (s : State) (offset : UInt32) (sequence : UInt16)
    (hoffset : offset.toNat ≤ payloadSize.toNat) (hfuel : payloadSize.toNat - offset.toNat ≤ fuel)
    (hret : (fragmentLoop packet payloadSize maxFragment fuel s offset sequence).1 = 0) :
    (fragmentLoop packet payloadSize maxFragment fuel s offset sequence).2.net.sent = s.net.sent ++
      (pieces packet maxFragment.toNat fuel ((packet.drop 12).drop offset.toNat) sequence).map (datagram s.output) := by
  have hlen : ∀ n, ((packet.drop 12).drop n).length = payloadSize.toNat - n := by
    intro n
    rw [List.length_drop, List.length_drop, hsize, Nat.add_sub_cancel_left]
  have hend : ∀ n, payloadSize.toNat ≤ n → (packet.drop 12).drop n = [] := by
    intro n hn
    apply List.eq_nil_of_length_eq_zero
    rw [hlen]
    omega
  induction fuel generalizing s offset sequence with
  | zero =>
      rw [hend _ (by omega), pieces_nil, List.map_nil, List.append_nil]
      rfl
  | succ fuel ih =>
      by_cases hmore : offset < payloadSize
      · have hlt := UInt32.lt_iff_toNat_lt.1 hmore
        have hne : (packet.drop 12).drop offset.toNat ≠ [] := by
          apply List.ne_nil_of_length_pos
          rw [hlen]
          omega
        obtain ⟨size, hchunk, hstep⟩ := fragmentLoop_turn packet maxFragment hmore fuel s sequence
        have hturn := pieces_turn packet hmax hne (by rw [hlen]; exact hfuel) sequence
        rw [hlen, ← hchunk] at hturn
        -- the counter stays below the size, so it does not wrap
        have hadd : (offset + size).toNat = offset.toNat + size.toNat := by
          have := payloadSize.toNat_lt
          rw [UInt32.toNat_add]
          omega
        have hlast : decide (payloadSize.toNat - offset.toNat ≤ maxFragment.toNat) = decide (payloadSize ≤ offset + size) := by
          rw [decide_eq_decide, UInt32.le_iff_toNat_le, hadd]
          omega
        have hdrop : ((packet.drop 12).drop offset.toNat).drop size.toNat = (packet.drop 12).drop (offset + size).toNat := by
          rw [hadd, List.drop_drop (i := size.toNat)]
        rw [hlast, hdrop] at hturn
        rw [hstep] at hret ⊢
        rw [hturn, List.map_cons]
        rcases sendmsg_cases s (fragmentHeader packet (decide (payloadSize ≤ offset + size)) sequence ++
            ((packet.drop 12).drop offset.toNat).take size.toNat) with ⟨net, h, _⟩ | ⟨net, h, hsent⟩
        · rw [h] at hret
          exact absurd hret (by simp)
        · rw [h] at hret ⊢
          have hnext := ih { s with net := net } (offset + size) (sequence + 1) (by omega) (by omega) hret
          rw [hsent, List.append_assoc] at hnext
          exact hnext
      · have := mt UInt32.lt_iff_toNat_lt.2 hmore
        rw [hend _ (by omega), pieces_nil, List.map_nil, List.append_nil, fragmentLoop, if_neg hmore]

/-! The pieces of a packet. -/

section Pieces

variable {packet : List UInt8} {maxSize : Nat} (hlong : 12 < packet.length) (hmax : 12 < maxSize)

/-- The pieces of the whole payload. -/
def allPieces (packet : List UInt8) (maxSize : Nat) : List (List UInt8) :=
  pieces packet (maxSize - 12) (packet.length - 12) (packet.drop 12) (star6eReadBe16 (packet.drop 2))

include hmax

theorem allPieces_getElem (i : Nat) (h : i < (allPieces packet maxSize).length) :
    ∃ chunk, chunk.length ≤ maxSize - 12 ∧ (allPieces packet maxSize)[i] =
      fragmentHeader packet (decide (i + 1 = (allPieces packet maxSize).length))
        (star6eReadBe16 (packet.drop 2) + UInt16.ofNat i) ++ chunk := by
  have hpos : 0 < maxSize - 12 := by omega
  have hfuel : (packet.drop 12).length ≤ packet.length - 12 := by rw [List.length_drop]
  have hi : i < (fragments (maxSize - 12) (packet.length - 12) (packet.drop 12) false).length := by
    rwa [allPieces, pieces, List.length_mapIdx] at h
  refine ⟨(fragments (maxSize - 12) (packet.length - 12) (packet.drop 12) false)[i].2.2, ?_, ?_⟩
  · exact fragments_short hpos hfuel false _ (List.getElem_mem hi)
  · simp only [allPieces, pieces, List.getElem_mapIdx, List.length_mapIdx, fragments_last hpos hfuel false i hi]

include hlong

theorem allPieces_payload : ((allPieces packet maxSize).map (List.drop 12)).flatten = packet.drop 12 := by
  have hpos : 0 < maxSize - 12 := by omega
  have hfuel : (packet.drop 12).length ≤ packet.length - 12 := by rw [List.length_drop]
  have hchunks : (allPieces packet maxSize).map (List.drop 12) =
      (fragments (maxSize - 12) (packet.length - 12) (packet.drop 12) false).map fun f => f.2.2 := by
    rw [allPieces, pieces]
    apply List.ext_getElem
    · rw [List.length_map, List.length_map, List.length_mapIdx]
    · intro i h h'
      rw [List.getElem_map, List.getElem_mapIdx, List.getElem_map, List.drop_left' (fragmentHeader_length hlong.le _ _)]
  rw [hchunks, fragments_flatten hpos hfuel]

theorem allPieces_inPieces : InPieces packet maxSize (allPieces packet maxSize) := by
  constructor
  · intro d hd
    obtain ⟨i, h, rfl⟩ := List.mem_iff_getElem.1 hd
    obtain ⟨chunk, hshort, hpiece⟩ := allPieces_getElem hmax i h
    rw [hpiece, List.length_append, fragmentHeader_length hlong.le]
    omega
  · intro i h
    obtain ⟨chunk, _, hpiece⟩ := allPieces_getElem hmax i h
    rw [hpiece, header_fragment hlong.le]
    rfl
  · exact allPieces_payload hlong hmax

theorem reassembled_allPieces : reassembled (allPieces packet maxSize) = packet := by
  have hpayload := allPieces_payload hlong hmax
  have hsome : 0 < (allPieces packet maxSize).length := by
    apply List.length_pos_of_ne_nil
    intro hnil
    rw [hnil] at hpayload
    have := List.drop_eq_nil_iff.1 hpayload.symm
    omega
  have hend : (allPieces packet maxSize).length - 1 < (allPieces packet maxSize).length := by omega
  obtain ⟨first, _, hfirst⟩ := allPieces_getElem hmax 0 hsome
  obtain ⟨last, _, hlast⟩ := allPieces_getElem hmax _ hend
  have hself := fragmentHeader_self hlong.le
  have hflag : decide ((allPieces packet maxSize).length - 1 + 1 = (allPieces packet maxSize).length) = true :=
    decide_eq_true (by omega)
  -- the first piece has all of the header but the marker, which the last one has
  have hheader : ((allPieces packet maxSize)[0].take 1 ++
      ((allPieces packet maxSize)[(allPieces packet maxSize).length - 1].drop 1).take 1 ++
      ((allPieces packet maxSize)[0].take 12).drop 2) = packet.take 12 := by
    rw [hfirst, hlast, hflag, List.take_left' (fragmentHeader_length hlong.le _ _), ← hself]
    rw [fragmentHeader_eq hlong.le, fragmentHeader_eq hlong.le, fragmentHeader_eq hlong.le]
    rw [show star6eReadBe16 (packet.drop 2) + UInt16.ofNat 0 = star6eReadBe16 (packet.drop 2) from UInt16.add_zero _]
    rfl
  rw [reassembled, List.getD_eq_getElem _ _ hsome, List.getD_eq_getElem _ _ hend]
  exact (congrArg₂ (· ++ ·) hheader hpayload).trans (List.take_append_drop 12 packet)

end Pieces

theorem reassembled_one (packet : List UInt8) : reassembled [packet] = packet := by
  rcases packet with _ | ⟨b0, _ | ⟨b1, rest⟩⟩
  · rfl
  · rfl
  · change b0 :: b1 :: (rest.take 10 ++ (rest.drop 10 ++ [])) = b0 :: b1 :: rest
    rw [List.append_nil, List.take_append_drop]

theorem sent_one {s s' : State} {packet : List UInt8} {maxSize : Nat} (h : packet.length ≤ maxSize)
    (hsent : s'.net.sent = s.net.sent ++ [datagram s.output packet]) :
    ∃ ds, s'.net.sent = s.net.sent ++ ds.map (datagram s.output) ∧ Lossless packet maxSize ds :=
  ⟨[packet], hsent, .inl ⟨h, rfl⟩, reassembled_one packet⟩

/-- A packet that is too long, with room for more than a header in a fragment. -/
theorem sent_pieces {s : State} {packet : Packet} {maxSize : UInt32} (hlong : maxSize.toNat < packet.1.length)
    (hmax : 12 < maxSize.toNat) (hsize : (UInt32.ofNat packet.1.length).toNat = packet.1.length) :
    let r := fragmentLoop packet.1 (UInt32.ofNat packet.1.length - star6eRtpHeaderSize) (maxSize - star6eRtpHeaderSize)
      (UInt32.ofNat packet.1.length - star6eRtpHeaderSize).toNat s 0 (star6eReadBe16 (packet.1.drop 2))
    r.1 = 0 → ∃ ds, r.2.net.sent = s.net.sent ++ ds.map (datagram s.output) ∧ Lossless packet.1 maxSize.toNat ds := by
  have hpayload : (UInt32.ofNat packet.1.length - star6eRtpHeaderSize).toNat = packet.1.length - 12 := by
    rw [UInt32.toNat_sub_of_le, hsize]
    · rfl
    · rw [UInt32.le_iff_toNat_le, hsize]
      exact (hmax.trans hlong).le
  have hfragment : (maxSize - star6eRtpHeaderSize).toNat = maxSize.toNat - 12 :=
    UInt32.toNat_sub_of_le _ _ (UInt32.le_iff_toNat_le.2 hmax.le)
  rw [hpayload]
  intro r hret
  have hsent := fragmentLoop_sent (by omega) (by omega) _ s 0 _ (Nat.zero_le _) (hpayload ▸ Nat.sub_le _ _) hret
  rw [hfragment] at hsent
  exact ⟨allPieces packet.1 maxSize.toNat, hsent, .inr ⟨hlong, allPieces_inPieces (hmax.trans hlong) hmax⟩,
    reassembled_allPieces (hmax.trans hlong) hmax⟩

/-- A packet is lost behind a zero exactly when it is too long and no fragment
has room for more than the header. -/
theorem compact_packet_iff (s : State) (packet : Packet) (maxSize : UInt32) :
    let r := star6eOutputSendCompactPacket s packet maxSize
    (r.1 = 0 → ∃ ds, r.2.net.sent = s.net.sent ++ ds.map (datagram s.output) ∧ Lossless packet.1 maxSize.toNat ds) ↔
      (s.output.socketHandle < 0 ∨ s.output.transport = .shm ∨ packet.1 = []) ∨
        packet.1.length ≤ maxSize.toNat ∨ 12 < maxSize.toNat := by
  have hsize : (UInt32.ofNat packet.1.length).toNat = packet.1.length := UInt32.toNat_ofNat_of_lt packet.2
  have hempty : UInt32.ofNat packet.1.length = 0 ↔ packet.1 = [] := by
    rw [← UInt32.toNat_inj, hsize]
    exact List.length_eq_zero_iff
  intro r
  by_cases hrefused : s.output.socketHandle < 0 ∨ s.output.transport = .shm ∨ UInt32.ofNat packet.1.length = 0
  · have hr : r = (-1, s) := if_pos hrefused
    rw [hr]
    rw [hempty] at hrefused
    exact iff_of_true (fun h => absurd h (by simp)) (.inl hrefused)
  · by_cases hfits : packet.1.length ≤ maxSize.toNat
    · have hle : UInt32.ofNat packet.1.length ≤ maxSize := by
        rw [UInt32.le_iff_toNat_le, hsize]
        exact hfits
      refine iff_of_true ?_ (.inr (.inl hfits))
      intro hret
      have hr : r = _ := (if_neg hrefused).trans (if_pos hle)
      rcases sendmsg_cases s packet.1 with ⟨net, h, _⟩ | ⟨net, h, hsent⟩
      · rw [hr, h] at hret
        exact absurd hret (by simp)
      · rw [hr, h]
        exact sent_one hfits hsent
    · have hle : ¬ UInt32.ofNat packet.1.length ≤ maxSize := by
        rw [UInt32.le_iff_toNat_le, hsize]
        exact hfits
      have hlong := Nat.not_le.1 hfits
      have hr : r = _ := (if_neg hrefused).trans (if_neg hle)
      by_cases hroom : 12 < maxSize.toNat
      · have hmax : ¬ (maxSize ≤ star6eRtpHeaderSize ∨ UInt32.ofNat packet.1.length ≤ star6eRtpHeaderSize) := by
          rw [UInt32.le_iff_toNat_le, UInt32.le_iff_toNat_le, hsize]
          exact fun h => h.elim (Nat.not_le.2 hroom) (Nat.not_le.2 (hroom.trans hlong))
        refine iff_of_true ?_ (.inr (.inr hroom))
        rw [hr, if_neg hmax]
        exact sent_pieces hlong hroom hsize
      · have hmax : maxSize ≤ star6eRtpHeaderSize ∨ UInt32.ofNat packet.1.length ≤ star6eRtpHeaderSize :=
          .inl (UInt32.le_iff_toNat_le.2 (Nat.not_lt.1 hroom))
        rw [hempty] at hrefused
        refine iff_of_false ?_ ?_
        · rw [hr, if_pos hmax]
          intro h
          obtain ⟨ds, hsent, hlossless⟩ := h rfl
          have hnil : ds = [] := List.map_eq_nil_iff.1 (List.self_eq_append_right.1 hsent)
          have hpacket := hlossless.determined
          rw [hnil] at hpacket
          exact hrefused (.inr (.inr hpacket.symm))
        · exact fun h => h.elim hrefused fun h => h.elim hfits hroom

/-- Twenty bytes where a fragment would be all header. -/
theorem compact_packet_dropped :
    ¬ ∀ (s : State) (packet : Packet) (maxSize : UInt32),
      let r := star6eOutputSendCompactPacket s packet maxSize
      r.1 = 0 → ∃ ds, r.2.net.sent = s.net.sent ++ ds.map (datagram s.output) ∧ Lossless packet.1 maxSize.toNat ds := by
  intro h
  obtain ⟨ds, hsent, hlossless⟩ := h ⟨⟨3, [], 0, .udp, 0⟩, ⟨fun _ => true, 0, []⟩⟩ ⟨List.replicate 20 7, by simp⟩ 12 rfl
  have hnil : ds = [] := List.map_eq_nil_iff.1 (List.self_eq_append_right.1 hsent)
  have hpacket := hlossless.determined
  rw [hnil] at hpacket
  exact absurd hpacket (by decide)

end WaybeamVenc.CompactPacket
