import WaybeamVenc.ClockOffset
import WaybeamVenc.DirectMapped
import WaybeamVenc.RotatingBuffer
import WaybeamVenc.RunningBest
import WaybeamVenc.SidecarWire

namespace WaybeamVenc.TimingProbe

open BigEndian SidecarWire RotatingBuffer ClockOffset

def subscribeIntervalUs : UInt64 := 2 * 1000000

def syncBurstIntervalUs : UInt64 := 200 * 1000

def syncCoastIntervalUs : UInt64 := 10 * 1000000

def syncBurstCount : UInt32 := 8

def syncFilterSize : Nat := 8

def sidecarCacheSize : Nat := 64

def maxPkt : Nat := 2048

def sizeofSyncResp : Nat := 32

/-! The metadata cache. -/

/-- The place of a frame, which the mask keeps inside the array. -/
def cacheIndex (k : UInt32 × UInt32) : Fin sidecarCacheSize :=
  ⟨((k.1 ^^^ k.2) &&& 63).toNat, Nat.lt_of_le_of_lt (by simpa using Nat.and_le_right) (by decide : 63 < sidecarCacheSize)⟩

def cacheKey (e : CacheEntry) : UInt32 × UInt32 := (e.ssrc, e.rtpTs)

abbrev Cache := DirectMapped.Table (Fin sidecarCacheSize) CacheEntry

def cacheStoreFrame (cache : Cache) (buf : Datagram) (recvUs : UInt64) : Cache :=
  DirectMapped.store cacheIndex cacheKey cache (readFrame buf recvUs)

def cacheLookup (cache : Cache) (ssrc rtpTs : UInt32) : Option CacheEntry :=
  DirectMapped.lookup cacheIndex cacheKey cache (ssrc, rtpTs)

/-! The clock of the sender. -/

structure SyncState where
  rttUs : Vector Int64 syncFilterSize
  offsetUs : Vector Int64 syncFilterSize
  count : UInt32
  next : UInt32
  bestOffsetUs : Int64
  valid : Bool
  pendingT1 : UInt64

def syncEmpty : SyncState := ⟨.replicate _ 0, .replicate _ 0, 0, 0, 0, false, 0⟩

instance : NeZero syncFilterSize := ⟨by decide⟩

/-- A round trip and its offset. -/
def sample (rttUs offsetUs : Vector Int64 syncFilterSize) (j : Nat) : Int64 × Int64 := (slot rttUs j, slot offsetUs j)

def betterOf (rttUs offsetUs : Vector Int64 syncFilterSize) (best : Int64 × Int64) (j : Nat) : Int64 × Int64 :=
  if slot rttUs j < best.1 then sample rttUs offsetUs j else best

/-- The loop over the window, which starts from its first slot. -/
def bestOf (rttUs offsetUs : Vector Int64 syncFilterSize) (n : Nat) : Int64 × Int64 :=
  ((List.range (n - 1)).map (· + 1)).foldl (betterOf rttUs offsetUs) (sample rttUs offsetUs 0)

def syncRecord (ss : SyncState) (t1 t2 t3 t4 : UInt64) : SyncState :=
  let rtt := (t4 - t1).toInt64 - (t3 - t2).toInt64
  let offset := ((t2 - t1).toInt64 + (t3 - t4).toInt64) / 2
  let i := (ss.next &&& 7).toNat
  let rttUs := store ss.rttUs i rtt
  let offsetUs := store ss.offsetUs i offset
  let count := if ss.count < 8 then ss.count + 1 else ss.count
  { ss with
    rttUs := rttUs
    offsetUs := offsetUs
    next := ss.next + 1
    count := count
    bestOffsetUs := (bestOf rttUs offsetUs count.toNat).2
    valid := true }

/-! The main loop, as far as the sidecar goes. -/

structure Probe where
  cache : Cache
  sync : SyncState
  lastSubscribe : UInt64
  lastSync : UInt64

def started : Probe := ⟨fun _ => none, syncEmpty, 0, 0⟩

def subscribeTurn (p : Probe) (now : UInt64) : Probe × List Datagram :=
  if subscribeIntervalUs ≤ now - p.lastSubscribe then ({ p with lastSubscribe := now }, [subscribe]) else (p, [])

def syncTurn (p : Probe) (now t1 : UInt64) : Probe × List Datagram :=
  let syncIvl := if p.sync.count < syncBurstCount then syncBurstIntervalUs else syncCoastIntervalUs
  if syncIvl ≤ now - p.lastSync then
    ({ p with lastSync := now, sync := { p.sync with pendingT1 := t1 } }, [syncReq t1])
  else (p, [])

/-- A packet on the sidecar socket. -/
def receive (p : Probe) (datagram : Datagram) (recvTs : UInt64) : Probe :=
  let buf := datagram.take maxPkt
  match msgType buf with
  | none => p
  | some t =>
    if t = rtpSidecarMsgFrame ∧ sizeofFrame ≤ buf.length then { p with cache := cacheStoreFrame p.cache buf recvTs }
    else if t = rtpSidecarMsgSyncResp ∧ sizeofSyncResp ≤ buf.length ∧ p.sync.pendingT1 ≠ 0 then
      let t1 := UInt64.ofNat (field buf 8 8)
      let t2 := UInt64.ofNat (field buf 16 8)
      let t3 := UInt64.ofNat (field buf 24 8)
      if t1 = p.sync.pendingT1 then { p with sync := { syncRecord p.sync t1 t2 t3 recvTs with pendingT1 := 0 } }
      else p
    else p

/-! What the clock state says about the exchanges that were recorded. -/

def exchange (t1 t2 t3 t4 : UInt64) : Exchange := ⟨t1.toNat, t2.toNat, t3.toNat, t4.toNat⟩

/-- Clock readings that the signed differences have room for. -/
def Readings (e : Exchange) : Prop :=
  (0 ≤ e.t1 ∧ e.t1 < 2 ^ 60) ∧ (0 ≤ e.t2 ∧ e.t2 < 2 ^ 60) ∧ (0 ≤ e.t3 ∧ e.t3 < 2 ^ 60) ∧ 0 ≤ e.t4 ∧ e.t4 < 2 ^ 60

/-- The exchanges that are still in the window. -/
def window (es : List Exchange) : List Exchange := es.drop (es.length - syncFilterSize)

structure Holds (ss : SyncState) (es : List Exchange) : Prop where
  rtt : Written ss.rttUs (es.map fun e => Int64.ofInt e.roundTrip)
  offset : Written ss.offsetUs (es.map fun e => Int64.ofInt e.offset)
  count : ss.count.toNat = min es.length syncFilterSize
  next : ss.next = UInt32.ofNat es.length
  valid : ss.valid = !es.isEmpty
  best : es ≠ [] → ∃ e, Quickest (window es) e ∧ ss.bestOffsetUs = Int64.ofInt e.offset

theorem holds_empty : Holds syncEmpty [] where
  rtt := written_nil _
  offset := written_nil _
  count := rfl
  next := rfl
  valid := rfl
  best h := absurd rfl h

theorem toInt64_eq (x : UInt64) : x.toInt64 = Int64.ofInt x.toNat := by
  rw [Int64.ofInt_eq_ofNat, ← UInt64.toInt64_ofNat', UInt64.ofNat_toNat]

theorem rtt_eq (t1 t2 t3 t4 : UInt64) :
    (t4 - t1).toInt64 - (t3 - t2).toInt64 = Int64.ofInt (exchange t1 t2 t3 t4).roundTrip := by
  simp only [UInt64.toInt64_sub, toInt64_eq t1, toInt64_eq t2, toInt64_eq t3, toInt64_eq t4]
  simp [Exchange.roundTrip, exchange]

theorem offset_eq {t1 t2 t3 t4 : UInt64} (h : Readings (exchange t1 t2 t3 t4)) :
    ((t2 - t1).toInt64 + (t3 - t4).toInt64) / 2 = Int64.ofInt (exchange t1 t2 t3 t4).offset := by
  obtain ⟨⟨-, h1⟩, ⟨-, h2⟩, ⟨-, h3⟩, -, h4⟩ := h
  simp only [exchange] at h1 h2 h3 h4
  have hlow : Int64.minValue.toInt ≤ ((t2.toNat : Int) - t1.toNat) + (t3.toNat - t4.toNat) := by
    simp only [Int64.toInt_minValue]
    omega
  have hhigh : ((t2.toNat : Int) - t1.toNat) + (t3.toNat - t4.toNat) ≤ Int64.maxValue.toInt := by
    simp only [Int64.toInt_maxValue]
    omega
  rw [Exchange.offset, exchange, Int64.ofInt_tdiv hlow hhigh (by decide) (by decide)]
  simp only [UInt64.toInt64_sub, toInt64_eq t1, toInt64_eq t2, toInt64_eq t3, toInt64_eq t4]
  simp

theorem toInt_roundTrip {e : Exchange} (h : Readings e) : (Int64.ofInt e.roundTrip).toInt = e.roundTrip := by
  obtain ⟨h1, h2, h3, h4⟩ := h
  unfold Exchange.roundTrip
  apply Int64.toInt_ofInt_of_le <;> omega

theorem toInt_offset {e : Exchange} (h : Readings e) : (Int64.ofInt e.offset).toInt = e.offset := by
  obtain ⟨h1, h2, h3, h4⟩ := h
  obtain ⟨hlow, hhigh⟩ := Exchange.two_mul_tdiv_two ((e.t2 - e.t1) + (e.t3 - e.t4))
  unfold Exchange.offset
  apply Int64.toInt_ofInt_of_le <;> omega

theorem betterOf_sample (rttUs offsetUs : Vector Int64 syncFilterSize) (best j : Nat) :
    betterOf rttUs offsetUs (sample rttUs offsetUs best) j =
      sample rttUs offsetUs (if (slot rttUs j).toInt < (slot rttUs best).toInt then j else best) := by
  simp only [betterOf, sample, Int64.lt_iff_toInt_lt]
  split <;> rfl

theorem bestOf_least (rttUs offsetUs : Vector Int64 syncFilterSize) {n : Nat} (hn : 0 < n) :
    ∃ j < n, bestOf rttUs offsetUs n = sample rttUs offsetUs j ∧
      ∀ i < n, (slot rttUs j).toInt ≤ (slot rttUs i).toInt := by
  obtain ⟨j, hmem, hfold, hleast⟩ :=
    RunningBest.foldl_least (betterOf_sample rttUs offsetUs) 0 ((List.range (n - 1)).map (· + 1))
  have hall : ∀ i, i ∈ 0 :: (List.range (n - 1)).map (· + 1) ↔ i < n := by
    intro i
    cases i with
    | zero => simpa using hn
    | succ i =>
        simp
        omega
  exact ⟨j, (hall j).mp hmem, hfold, fun i hi => hleast i ((hall i).mpr hi)⟩

/-- The exchanges in the window, by the slots they stand in. -/
theorem exists_slot {len j : Nat} (h : j < min len syncFilterSize) : ∃ i, len - syncFilterSize ≤ i ∧ i < len ∧ i % syncFilterSize = j := by
  unfold syncFilterSize at *
  exact ⟨len - 1 - (len - 1 - j) % 8, by omega, by omega, by omega⟩

/-- The best pair of a window that was written in turn is that of a quickest
exchange. -/
theorem bestOf_quickest {rttUs offsetUs : Vector Int64 syncFilterSize} {es : List Exchange}
    (hrtt : Written rttUs (es.map fun e => Int64.ofInt e.roundTrip))
    (hoffset : Written offsetUs (es.map fun e => Int64.ofInt e.offset)) (hes : es ≠ []) (hin : ∀ e ∈ es, Readings e) :
    ∃ e, Quickest (window es) e ∧ (bestOf rttUs offsetUs (min es.length syncFilterSize)).2 = Int64.ofInt e.offset := by
  have hpos : 0 < min es.length syncFilterSize := Nat.lt_min.mpr ⟨List.length_pos_iff.mpr hes, by decide⟩
  obtain ⟨j, hj, hbest, hleast⟩ := bestOf_least rttUs offsetUs hpos
  have hslot : ∀ i (hi : i < es.length), es.length - syncFilterSize ≤ i →
      slot rttUs (i % syncFilterSize) = Int64.ofInt es[i].roundTrip ∧
        slot offsetUs (i % syncFilterSize) = Int64.ofInt es[i].offset := by
    intro i hi hroom
    have hrtt' := hrtt i (by simpa using hi) (by simp; omega)
    have hoffset' := hoffset i (by simpa using hi) (by simp; omega)
    rw [slot_mod, slot_mod, hrtt', hoffset', List.getElem_map, List.getElem_map]
    exact ⟨rfl, rfl⟩
  obtain ⟨i, hroom, hi, hmod⟩ := exists_slot hj
  have hown := hslot i hi hroom
  rw [hmod] at hown
  refine ⟨es[i], ⟨?_, ?_⟩, ?_⟩
  · exact List.mem_drop_iff_getElem.mpr ⟨i - (es.length - syncFilterSize), by omega, by simp [Nat.add_sub_cancel' hroom]⟩
  · intro e' he'
    obtain ⟨k, hk, rfl⟩ := List.mem_drop_iff_getElem.mp he'
    have hk' : es.length - syncFilterSize + k < es.length := by omega
    have hother := hslot _ hk' (Nat.le_add_right _ _)
    have hlt : (es.length - syncFilterSize + k) % syncFilterSize < min es.length syncFilterSize := by
      unfold syncFilterSize at *
      omega
    have hle := hleast _ hlt
    rw [hown.1, hother.1, toInt_roundTrip (hin _ (List.getElem_mem _)), toInt_roundTrip (hin _ (List.getElem_mem _))] at hle
    exact hle
  · rw [hbest]
    exact hown.2

theorem slot_of_next {next : UInt32} {len : Nat} (h : next = UInt32.ofNat len) : (next &&& 7).toNat = len % syncFilterSize := by
  have hand : (next &&& 7).toNat = next.toNat % 2 ^ 3 := by
    simpa using Nat.and_two_pow_sub_one_eq_mod next.toNat 3
  rw [hand, h, UInt32.toNat_ofNat', syncFilterSize]
  omega

theorem count_record {count : UInt32} {len : Nat} (h : count.toNat = min len syncFilterSize) :
    (if count < 8 then count + 1 else count).toNat = min (len + 1) syncFilterSize := by
  unfold syncFilterSize at *
  split
  next hlt =>
    have hlt' : count.toNat < 8 := UInt32.lt_iff_toNat_lt.mp hlt
    simp only [UInt32.toNat_add, UInt32.reduceToNat]
    omega
  next hge =>
    have hge' : ¬count.toNat < 8 := fun hlt => hge (UInt32.lt_iff_toNat_lt.mpr hlt)
    omega

theorem Holds.record {ss : SyncState} {es : List Exchange} (h : Holds ss es) (hin : ∀ e ∈ es, Readings e)
    {t1 t2 t3 t4 : UInt64} (hnew : Readings (exchange t1 t2 t3 t4)) :
    Holds (syncRecord ss t1 t2 t3 t4) (es ++ [exchange t1 t2 t3 t4]) := by
  have hrtt : Written (syncRecord ss t1 t2 t3 t4).rttUs
      ((es ++ [exchange t1 t2 t3 t4]).map fun e => Int64.ofInt e.roundTrip) := by
    have hpush := h.rtt.push (Int64.ofInt (exchange t1 t2 t3 t4).roundTrip)
    simpa only [syncRecord, slot_of_next h.next, rtt_eq, store_mod, List.map_append, List.map_cons, List.map_nil,
      List.length_map] using hpush
  have hoffset : Written (syncRecord ss t1 t2 t3 t4).offsetUs
      ((es ++ [exchange t1 t2 t3 t4]).map fun e => Int64.ofInt e.offset) := by
    have hpush := h.offset.push (Int64.ofInt (exchange t1 t2 t3 t4).offset)
    simpa only [syncRecord, slot_of_next h.next, offset_eq hnew, store_mod, List.map_append, List.map_cons, List.map_nil,
      List.length_map] using hpush
  have hcount : (syncRecord ss t1 t2 t3 t4).count.toNat = min (es ++ [exchange t1 t2 t3 t4]).length syncFilterSize := by
    simpa [syncRecord] using count_record h.count
  constructor
  · exact hrtt
  · exact hoffset
  · exact hcount
  · simp [syncRecord, h.next]
  · simp [syncRecord]
  · intro hne
    have hall : ∀ e ∈ es ++ [exchange t1 t2 t3 t4], Readings e := by
      simpa [or_imp, forall_and] using ⟨hin, hnew⟩
    obtain ⟨e, hquick, hbest⟩ := bestOf_quickest hrtt hoffset hne hall
    rw [← hcount] at hbest
    exact ⟨e, hquick, hbest⟩

theorem Holds.pending {ss : SyncState} {es : List Exchange} (h : Holds ss es) (t1 : UInt64) :
    Holds { ss with pendingT1 := t1 } es := ⟨h.rtt, h.offset, h.count, h.next, h.valid, h.best⟩

end WaybeamVenc.TimingProbe
