import WaybeamVenc.BigEndian
import WaybeamVenc.VideoSender

namespace WaybeamVenc.SidecarWire

open BigEndian VideoSender

def rtpSidecarMagic : Nat := 0x52545053

def rtpSidecarVersion : UInt8 := 1

def rtpSidecarMsgSubscribe : UInt8 := 1

def rtpSidecarMsgFrame : UInt8 := 2

def rtpSidecarMsgSyncReq : UInt8 := 3

def rtpSidecarMsgSyncResp : UInt8 := 4

def rtpSidecarSubTtlUs : UInt64 := 5 * 1000000

def rtpSidecarFlagEncInfo : UInt8 := 0x02

abbrev Datagram := List UInt8

/-! The messages as they are sent. -/

/-- The first eight bytes of every message. -/
def header (msgType b6 b7 : UInt8) : Datagram := bytes 4 rtpSidecarMagic ++ [rtpSidecarVersion, msgType, b6, b7]

/-- RtpSidecarSubscribe. -/
def subscribe : Datagram := header rtpSidecarMsgSubscribe 0 0

/-- RtpSidecarSyncReq. -/
def syncReq (t1 : UInt64) : Datagram := header rtpSidecarMsgSyncReq 0 0 ++ bytes 8 t1.toNat

/-- RtpSidecarSyncResp, with the first time as it came in. -/
def syncResp (t1 : List UInt8) (t2 t3 : UInt64) : Datagram :=
  header rtpSidecarMsgSyncResp 0 0 ++ (t1 ++ (bytes 8 t2.toNat ++ bytes 8 t3.toNat))

/-- RtpSidecarEncInfoWire. -/
def encInfoBytes (info : RtpSidecarEncInfo) : List UInt8 :=
  bytes 4 info.frameSizeBytes.toNat ++
    ([info.frameType, info.qp, info.complexity, info.sceneChange, info.gopState, info.idrInserted] ++
      bytes 2 info.framesSinceIdr.toNat)

/-- RtpSidecarFrame, with the trailer of RtpSidecarFrameExt where there is one. -/
def frameBytes (m : RtpSidecarFrameExt) : Datagram :=
  header rtpSidecarMsgFrame 0 m.flags ++
    (bytes 4 m.frame.ssrc.toNat ++ (bytes 4 m.frame.rtpTs.toNat ++ (bytes 8 m.frameId.toNat ++
      (bytes 8 m.frame.frameReadyUs.toNat ++ (bytes 2 m.frame.seqFirst.toNat ++ (bytes 2 m.frame.seqCount.toNat ++
        (bytes 8 m.frame.captureUs.toNat ++ (bytes 8 m.lastPktSendUs.toNat ++
          match m.frame.encInfo with
          | none => []
          | some info => encInfoBytes info))))))))

/-! The messages as they are read. -/

/-- The type of a message that passes the checks both programs make first. -/
def msgType (buf : Datagram) : Option UInt8 :=
  if buf.length < 6 then none
  else if field buf 0 4 = rtpSidecarMagic ∧ buf.getD 4 0 = rtpSidecarVersion then some (buf.getD 5 0)
  else none

/-- CacheEntry without its valid flag. -/
structure CacheEntry where
  ssrc : UInt32
  rtpTs : UInt32
  frameId : UInt64
  captureUs : UInt64
  frameReadyUs : UInt64
  lastPktSendUs : UInt64
  frameSizeBytes : UInt32
  seqFirst : UInt16
  seqCount : UInt16
  framesSinceIdr : UInt16
  frameType : UInt8
  qp : UInt8
  complexity : UInt8
  sceneChange : UInt8
  gopState : UInt8
  idrInserted : UInt8
  hasEncInfo : Bool
  metaRecvUs : UInt64
deriving DecidableEq

def sizeofFrame : Nat := 52

def sizeofFrameExt : Nat := 64

/-- The entry that cache_store_frame fills. -/
def readFrame (buf : Datagram) (recvUs : UInt64) : CacheEntry :=
  let entry : CacheEntry := {
    ssrc := UInt32.ofNat (field buf 8 4)
    rtpTs := UInt32.ofNat (field buf 12 4)
    frameId := UInt64.ofNat (field buf 16 8)
    captureUs := UInt64.ofNat (field buf 36 8)
    frameReadyUs := UInt64.ofNat (field buf 24 8)
    lastPktSendUs := UInt64.ofNat (field buf 44 8)
    frameSizeBytes := 0
    seqFirst := UInt16.ofNat (field buf 32 2)
    seqCount := UInt16.ofNat (field buf 34 2)
    framesSinceIdr := 0
    frameType := 0
    qp := 0
    complexity := 0
    sceneChange := 0
    gopState := 0
    idrInserted := 0
    hasEncInfo := false
    metaRecvUs := recvUs }
  if buf.getD 7 0 &&& rtpSidecarFlagEncInfo ≠ 0 ∧ sizeofFrameExt ≤ buf.length then
    { entry with
      frameSizeBytes := UInt32.ofNat (field buf 52 4)
      framesSinceIdr := UInt16.ofNat (field buf 62 2)
      frameType := buf.getD 56 0
      qp := buf.getD 57 0
      complexity := buf.getD 58 0
      sceneChange := buf.getD 59 0
      gopState := buf.getD 60 0
      idrInserted := buf.getD 61 0
      hasEncInfo := true }
  else entry

/-- What the probe is to know of a frame. -/
def entryOf (m : RtpSidecarFrameExt) (recvUs : UInt64) : CacheEntry where
  ssrc := m.frame.ssrc
  rtpTs := m.frame.rtpTs
  frameId := m.frameId
  captureUs := m.frame.captureUs
  frameReadyUs := m.frame.frameReadyUs
  lastPktSendUs := m.lastPktSendUs
  frameSizeBytes := (m.frame.encInfo.map (·.frameSizeBytes)).getD 0
  seqFirst := m.frame.seqFirst
  seqCount := m.frame.seqCount
  framesSinceIdr := (m.frame.encInfo.map (·.framesSinceIdr)).getD 0
  frameType := (m.frame.encInfo.map (·.frameType)).getD 0
  qp := (m.frame.encInfo.map (·.qp)).getD 0
  complexity := (m.frame.encInfo.map (·.complexity)).getD 0
  sceneChange := (m.frame.encInfo.map (·.sceneChange)).getD 0
  gopState := (m.frame.encInfo.map (·.gopState)).getD 0
  idrInserted := (m.frame.encInfo.map (·.idrInserted)).getD 0
  hasEncInfo := m.frame.encInfo.isSome
  metaRecvUs := recvUs

/-! A list of a known length in front of the rest. -/

theorem field_skip {front back : List UInt8} {offset n : Nat} (h : front.length ≤ offset) :
    field (front ++ back) offset n = field back (offset - front.length) n := by
  simp [field, List.drop_append, List.drop_eq_nil_of_le h]

theorem field_front {offset n : Nat} (v : Nat) (back : List UInt8) (h : offset = 0) :
    field (bytes n v ++ back) offset n = v % 256 ^ n := by
  subst h
  exact @field_append [] back 0 rfl n v

theorem field_cons (b : UInt8) (bs : List UInt8) (offset n : Nat) : field (b :: bs) (offset + 1) n = field bs offset n := rfl

theorem field_head {offset n : Nat} (v : Nat) (h : offset = 0) : field (bytes n v) offset n = v % 256 ^ n := by
  simpa using field_front v [] h

@[simp] theorem length_header (msgType b6 b7 : UInt8) : (header msgType b6 b7).length = 8 := by
  simp [header]

@[simp] theorem length_encInfoBytes (info : RtpSidecarEncInfo) : (encInfoBytes info).length = 12 := by
  simp [encInfoBytes]

theorem magic_header (msgType b6 b7 : UInt8) (back : List UInt8) :
    field (header msgType b6 b7 ++ back) 0 4 = rtpSidecarMagic := by
  rw [header, List.append_assoc, field_front _ _ rfl]
  rfl

theorem msgType_header (msgType b6 b7 : UInt8) (back : List UInt8) :
    SidecarWire.msgType (header msgType b6 b7 ++ back) = some msgType := by
  have hlen : ¬(header msgType b6 b7 ++ back).length < 6 := by simp; omega
  have hversion : (header msgType b6 b7 ++ back).getD 4 0 = rtpSidecarVersion := by simp [header, bytes]
  have htype : (header msgType b6 b7 ++ back).getD 5 0 = msgType := by simp [header, bytes]
  rw [SidecarWire.msgType, if_neg hlen, if_pos ⟨magic_header msgType b6 b7 back, hversion⟩, htype]

/-! What each message is read as. -/

theorem msgType_subscribe : msgType subscribe = some rtpSidecarMsgSubscribe := by
  simpa [subscribe] using msgType_header rtpSidecarMsgSubscribe 0 0 []

theorem msgType_syncReq (t1 : UInt64) : msgType (syncReq t1) = some rtpSidecarMsgSyncReq :=
  msgType_header _ _ _ _

theorem msgType_syncResp (t1 : List UInt8) (t2 t3 : UInt64) : msgType (syncResp t1 t2 t3) = some rtpSidecarMsgSyncResp :=
  msgType_header _ _ _ _

theorem msgType_frameBytes (m : RtpSidecarFrameExt) : msgType (frameBytes m) = some rtpSidecarMsgFrame :=
  msgType_header _ _ _ _

theorem length_syncReq (t1 : UInt64) : (syncReq t1).length = 16 := by
  simp [syncReq]

theorem length_frameBytes (m : RtpSidecarFrameExt) :
    (frameBytes m).length = if m.frame.encInfo.isSome then sizeofFrameExt else sizeofFrame := by
  cases h : m.frame.encInfo <;> simp [frameBytes, h, sizeofFrame, sizeofFrameExt]

theorem encInfo_flag (info : Option RtpSidecarEncInfo) : frameFlags info &&& rtpSidecarFlagEncInfo ≠ 0 ↔ info.isSome := by
  cases info with
  | none => decide
  | some info =>
      by_cases h : info.frameType = 1 ∨ info.frameType = 2
      · simp only [frameFlags, if_pos h]
        exact iff_of_true (by decide) rfl
      · simp [frameFlags, h, rtpSidecarFlagEncInfo]

@[simp] theorem flags_frameBytes (m : RtpSidecarFrameExt) : (frameBytes m).getD 7 0 = m.flags := by
  simp [frameBytes, header, bytes]

/-- A record that was put on the wire is read back as it was. -/
theorem readFrame_frameBytes {m : RtpSidecarFrameExt} (hflags : m.flags = frameFlags m.frame.encInfo) (recvUs : UInt64) :
    readFrame (frameBytes m) recvUs = entryOf m recvUs := by
  cases hinfo : m.frame.encInfo with
  | none =>
      simp only [readFrame, flags_frameBytes, hflags, hinfo, encInfo_flag]
      simp [frameBytes, hinfo, field_skip, field_front, field_head, entryOf]
  | some info =>
      simp only [readFrame, flags_frameBytes, hflags, hinfo, encInfo_flag]
      simp [frameBytes, hinfo, field_skip, field_front, field_head, field_cons, encInfoBytes, entryOf,
        sizeofFrameExt]

/-- Whatever frame the sender puts on the wire, the probe takes it for a frame
message of the right length and reads every field of it. -/
theorem sent_frame_read_back {s : RtpSidecarSender} {nowUs : UInt64} {frame : FrameRecord} {m : RtpSidecarFrameExt}
    (h : (rtpSidecarSendFrame s nowUs frame).1 = some m) (recvUs : UInt64) :
    msgType (frameBytes m) = some rtpSidecarMsgFrame ∧
      (frameBytes m).length = (if frame.encInfo.isSome then sizeofFrameExt else sizeofFrame) ∧
        readFrame (frameBytes m) recvUs = entryOf ⟨frameFlags frame.encInfo, s.frameId, frame, nowUs⟩ recvUs := by
  have hm : m = ⟨frameFlags frame.encInfo, s.frameId, frame, nowUs⟩ := by
    unfold rtpSidecarSendFrame at h
    split at h
    · cases h
    · split at h
      · exact (Option.some.inj h).symm
      · cases h
  subst hm
  exact ⟨msgType_frameBytes _, length_frameBytes _, readFrame_frameBytes rfl recvUs⟩

theorem sent_frame_read_back_ext :
    readFrame (frameBytes ⟨3, 41, ⟨7, 90, 65535, 3, 11, 22, some ⟨70000, 2, 30, 8, 0, 1, 0, 300⟩⟩, 33⟩) 44 =
      ⟨7, 90, 41, 11, 22, 33, 70000, 65535, 3, 300, 2, 30, 8, 0, 1, 0, true, 44⟩ :=
  (@sent_frame_read_back ⟨3, 41, 1000⟩ 33 ⟨7, 90, 65535, 3, 11, 22, some ⟨70000, 2, 30, 8, 0, 1, 0, 300⟩⟩ _ rfl 44).2.2

end WaybeamVenc.SidecarWire
