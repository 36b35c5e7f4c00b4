import WaybeamVenc.Runs
import WaybeamVenc.RingGeometry

namespace WaybeamVenc.RingModel

open Runs RingGeometry

/-- The two buffers handed to venc_ring_write; both lengths are uint16_t. -/
structure Packet where
  hdr : List UInt8
  payload : List UInt8
  hdrFits : hdr.length < 2 ^ 16
  payloadFits : payload.length < 2 ^ 16

def Packet.bytes (p : Packet) : List UInt8 := p.hdr ++ p.payload

def Packet.total (p : Packet) : UInt32 := UInt32.ofNat p.hdr.length + UInt32.ofNat p.payload.length

/-- The next atomic step of venc_ring_write, with the values it has loaded.
The two memcpy calls store the header and the payload byte after byte. -/
inductive WritePc
  | idle
  | loadWriteIdx (p : Packet)
  | loadReadIdx (p : Packet) (w : UInt64)
  | storeLength (p : Packet) (w : UInt64)
  | storeData (p : Packet) (w : UInt64) (k : Nat)
  | storeWriteIdx (p : Packet) (w : UInt64)
  | bumpSeq (p : Packet)
  | loadWaiting (p : Packet)
  | wake (p : Packet)

/-- Which call of venc_ring_read runs: a plain one, the one at the head of the
loop of venc_ring_read_wait, or the one after the futex call. -/
inductive Caller
  | plain
  | first (timeoutMs : Int)
  | recheck (timeoutMs : Int)

inductive ReadPc
  | idle
  | loadReadIdx (c : Caller) (bufSize : UInt16)
  | loadWriteIdx (c : Caller) (bufSize : UInt16) (rd : UInt64)
  | loadLength (c : Caller) (bufSize : UInt16) (rd : UInt64)
  | loadData (c : Caller) (bufSize : UInt16) (rd : UInt64) (len : UInt16) (buf : List UInt8)
  | storeReadIdx (c : Caller) (bufSize : UInt16) (rd : UInt64) (out : Option (List UInt8))
  | loadSeq (timeoutMs : Int) (bufSize : UInt16)
  | setWaiting (timeoutMs : Int) (bufSize : UInt16) (seq : UInt32)
  | futexWait (timeoutMs : Int) (bufSize : UInt16) (seq : UInt32)
  | blocked (timeoutMs : Int) (bufSize : UInt16)
  | clearWaiting (timeoutMs : Int) (bufSize : UInt16)

/-- The counters of one process's handle; they are not in shared memory. -/
structure Stats where
  writes : UInt64 := 0
  reads : UInt64 := 0
  fullDrops : UInt64 := 0
  oversizeDrops : UInt64 := 0
  badSlotDrops : UInt64 := 0

/-- Shared memory, the two processes, and the history of their calls: written
holds the strings whose write returned 0, received what the reads returned. -/
structure State where
  writeIdx : UInt64
  futexSeq : UInt32
  readIdx : UInt64
  consumerWaiting : Bool
  mem : Nat → UInt8
  producer : WritePc
  consumer : ReadPc
  producerStats : Stats
  consumerStats : Stats
  written : List (List UInt8)
  received : List (Nat × List UInt8)

/-- The zeroed mapping left by venc_ring_create. -/
def fresh : State := ⟨0, 0, 0, false, fun _ => 0, .idle, .idle, {}, {}, [], []⟩

inductive Act
  | write (p : Packet)
  | read (bufSize : UInt16)
  | readWait (bufSize : UInt16) (timeoutMs : Int)
  | producer
  | consumer
  | timeout

variable (g : Geometry)

def slotIdx (i : UInt64) : Nat := (i &&& (g.slotCount - 1).toUInt64).toUInt32.toNat

/-- The offset of a slot from slots_base. -/
def slotAt (i : UInt64) : Nat := slotIdx g i * g.stride.toNat

def poke (mem : Nat → UInt8) (a : Nat) (b : UInt8) : Nat → UInt8 := Function.update mem a b

def storeU16 (mem : Nat → UInt8) (a : Nat) (v : UInt16) : Nat → UInt8 :=
  poke (poke mem a v.toUInt8) (a + 1) (v >>> 8).toUInt8

def loadU16 (mem : Nat → UInt8) (a : Nat) : UInt16 :=
  (mem a).toUInt16 ||| ((mem (a + 1)).toUInt16 <<< 8)

def afterStores (p : Packet) (w : UInt64) (k : Nat) : WritePc :=
  if k < p.bytes.length then .storeData p w k else .storeWriteIdx p w

/-- FUTEX_WAKE lets a blocked waiter return and does nothing otherwise. -/
def woken : ReadPc → ReadPc
  | .blocked t n => .clearWaiting t n
  | pc => pc

def writerStep (s : State) : Option State :=
  match s.producer with
  | .idle => none
  | .loadWriteIdx p => some { s with producer := .loadReadIdx p s.writeIdx }
  | .loadReadIdx p w =>
      if g.slotCount.toUInt64 ≤ w - s.readIdx then
        some { s with
          producer := .idle
          producerStats := { s.producerStats with fullDrops := s.producerStats.fullDrops + 1 } }
      else some { s with producer := .storeLength p w }
  | .storeLength p w =>
      some { s with
        mem := storeU16 s.mem (slotAt g w) p.total.toUInt16
        producer := afterStores p w 0 }
  | .storeData p w k =>
      some { s with
        mem := poke s.mem (slotAt g w + 2 + k) (p.bytes.getD k 0)
        producer := afterStores p w (k + 1) }
  | .storeWriteIdx p w =>
      some { s with
        writeIdx := w + 1
        producerStats := { s.producerStats with writes := s.producerStats.writes + 1 }
        producer := .bumpSeq p }
  | .bumpSeq p => some { s with futexSeq := s.futexSeq + 1, producer := .loadWaiting p }
  | .loadWaiting p =>
      if s.consumerWaiting then some { s with producer := .wake p }
      else some { s with producer := .idle, written := s.written ++ [p.bytes] }
  | .wake p =>
      some { s with
        consumer := woken s.consumer
        producer := .idle
        written := s.written ++ [p.bytes] }

/-- Where the consumer goes when venc_ring_read returns 0 or not. -/
def afterRead (c : Caller) (bufSize : UInt16) (ok : Bool) : ReadPc :=
  match c with
  | .plain => .idle
  | .first t => if ok then .idle else .loadSeq t bufSize
  | .recheck t => if ok || 0 < t then .idle else .loadReadIdx (.first t) bufSize

def afterLoads (c : Caller) (bufSize : UInt16) (rd : UInt64) (len : UInt16) (buf : List UInt8) : ReadPc :=
  if buf.length < len.toNat then .loadData c bufSize rd len buf else .storeReadIdx c bufSize rd (some buf)

def readerStep (s : State) : Option State :=
  match s.consumer with
  | .idle => none
  | .loadReadIdx c n => some { s with consumer := .loadWriteIdx c n s.readIdx }
  | .loadWriteIdx c n rd =>
      some { s with consumer := if s.writeIdx ≤ rd then afterRead c n false else .loadLength c n rd }
  | .loadLength c n rd =>
      let len := loadU16 s.mem (slotAt g rd)
      if g.slotDataSize < len.toUInt32 then
        some { s with
          consumerStats := { s.consumerStats with badSlotDrops := s.consumerStats.badSlotDrops + 1 }
          consumer := .storeReadIdx c n rd none }
      else some { s with consumer := afterLoads c n rd (if n < len then n else len) [] }
  | .loadData c n rd len buf =>
      some { s with
        consumer := afterLoads c n rd len (buf ++ [s.mem (slotAt g rd + 2 + buf.length)]) }
  | .storeReadIdx c n rd none => some { s with readIdx := rd + 1, consumer := afterRead c n false }
  | .storeReadIdx c n rd (some buf) =>
      some { s with
        readIdx := rd + 1
        consumerStats := { s.consumerStats with reads := s.consumerStats.reads + 1 }
        received := s.received ++ [(buf.length, buf)]
        consumer := afterRead c n true }
  | .loadSeq t n => some { s with consumer := .setWaiting t n s.futexSeq }
  | .setWaiting t n seq => some { s with consumerWaiting := true, consumer := .futexWait t n seq }
  | .futexWait t n seq =>
      some { s with consumer := if s.futexSeq = seq then .blocked t n else .clearWaiting t n }
  | .blocked _ _ => none
  | .clearWaiting t n =>
      some { s with consumerWaiting := false, consumer := .loadReadIdx (.recheck t) n }

/-- One atomic step of either process. A call begins when its process is idle;
an oversized packet is refused before shared memory is touched. -/
def step (s : State) : Act → Option State
  | .write p => match s.producer with
    | .idle =>
        if g.slotDataSize < p.total then
          some { s with
            producerStats := { s.producerStats with oversizeDrops := s.producerStats.oversizeDrops + 1 } }
        else some { s with producer := .loadWriteIdx p }
    | _ => none
  | .read n => match s.consumer with
    | .idle => some { s with consumer := .loadReadIdx .plain n }
    | _ => none
  | .readWait n t => match s.consumer with
    | .idle => some { s with consumer := .loadReadIdx (.first t) n }
    | _ => none
  | .producer => writerStep g s
  | .consumer => readerStep g s
  | .timeout => match s.consumer with
    | .blocked t n => if 0 < t then some { s with consumer := .clearWaiting t n } else none
    | _ => none

end WaybeamVenc.RingModel
