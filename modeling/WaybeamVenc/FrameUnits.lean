import WaybeamVenc.HevcRtp

namespace WaybeamVenc.FrameUnits

open H26x RtpPacketizer HevcRtp

variable {σ : Type}

/-- An entry of a pack: its bytes, none when it is empty or out of range, and
the type that the encoder gives it, if it gives one. -/
structure Entry where
  slice : Option (List UInt8)
  infoType : Option UInt8

/-- A unit to send, the type it is handled by, and whether it is the last entry
of the frame. -/
structure NalUnit where
  nal : List UInt8
  nalType : UInt8
  last : Bool
deriving DecidableEq

def h26xNaluType : PayloadType → List UInt8 → UInt8
  | .h264 => h26xUtilH264NaluType
  | .h265 => h26xUtilHevcNaluType

variable (codec : PayloadType)

def entryUnits (last : Bool) (e : Entry) : List NalUnit :=
  match e.slice with
  | none => []
  | some slice =>
    let nal := h26xUtilStripStartCode slice
    if nal = [] then [] else [⟨nal, e.infoType.getD (h26xNaluType codec nal), last⟩]

def packUnits (lastPack : Bool) : List Entry → List NalUnit
  | [] => []
  | e :: es => entryUnits codec (lastPack && es.isEmpty) e ++ packUnits lastPack es

/-- The units of a frame, the entries that the loop skips left out. -/
def frameUnits : List (List Entry) → List NalUnit
  | [] => []
  | p :: ps => packUnits codec ps.isEmpty p ++ frameUnits ps

variable {codec}

theorem entryUnits_nal_ne_nil {last : Bool} {e : Entry} {u : NalUnit} (h : u ∈ entryUnits codec last e) : u.nal ≠ [] := by
  rw [entryUnits] at h
  split at h
  · cases h
  · dsimp only at h
    split at h
    · cases h
    next hne =>
      rw [List.mem_singleton.1 h]
      exact hne

theorem packUnits_nal_ne_nil {lastPack : Bool} {es : List Entry} {u : NalUnit} (h : u ∈ packUnits codec lastPack es) :
    u.nal ≠ [] := by
  induction es with
  | nil => cases h
  | cons e es ih =>
      rcases List.mem_append.1 h with h | h
      · exact entryUnits_nal_ne_nil h
      · exact ih h

theorem frameUnits_nal_ne_nil {ps : List (List Entry)} {u : NalUnit} (h : u ∈ frameUnits codec ps) : u.nal ≠ [] := by
  induction ps with
  | nil => cases h
  | cons p ps ih =>
      rcases List.mem_append.1 h with h | h
      · exact packUnits_nal_ne_nil h
      · exact ih h

/-! The entries of an H.265 frame of the Star6E backend. -/

def infoEntry (data : List UInt8) (info : MiVencPackInfo) : Entry :=
  ⟨infoSlice data info, some info.h265Nalu.toUInt8⟩

def packEntries (pack : MiVencPack) : List Entry :=
  match pack.data with
  | none => []
  | some data =>
    if 0 < pack.packNum then (pack.packetInfo.toList.take pack.packNum).map (infoEntry data)
    else [⟨if data.length ≤ pack.offset then none else some (data.drop pack.offset), none⟩]

def star6eUnits (packs : List MiVencPack) : List NalUnit := frameUnits .h265 (packs.map packEntries)

def sendUnit (writer : RtpPacketizerWriteFn σ) (maxPayload : Nat) (f : Frame σ) (u : NalUnit) : Frame σ :=
  let params := f.params.map (h26xParamSetsUpdate · .h265 u.nalType u.nal)
  let (prepended, x) :=
    match params with
    | none => (0, f.tx)
    | some params => sendPrependParamSetsHevc writer params u.nalType f.tx maxPayload
  let (sent, x) := sendOrQueueNalRtpHevc writer x u.nal u.last maxPayload
  ⟨f.totalBytes + prepended + sent, x, params⟩

theorem sendSlice_eq (writer : RtpPacketizerWriteFn σ) (maxPayload : Nat) (f : Frame σ) (slice : List UInt8)
    (infoType : Option UInt8) (last : Bool) : sendSlice writer maxPayload f slice infoType last =
      (entryUnits .h265 last ⟨some slice, infoType⟩).foldl (sendUnit writer maxPayload) f := by
  rw [sendSlice]
  dsimp only [entryUnits]
  by_cases hslice : slice.length = 0
  · rw [if_pos hslice, List.eq_nil_of_length_eq_zero hslice]
    rfl
  · rw [if_neg hslice]
    by_cases hnal : h26xUtilStripStartCode slice = []
    · rw [hnal]
      rfl
    · rw [if_neg fun h => hnal (List.eq_nil_of_length_eq_zero h), if_neg hnal]
      rfl

theorem infoLoop_eq (writer : RtpPacketizerWriteFn σ) (maxPayload : Nat) (data : List UInt8) (lastPack : Bool)
    (infos : List MiVencPackInfo) (f : Frame σ) : infoLoop writer maxPayload data lastPack infos f =
      (packUnits .h265 lastPack (infos.map (infoEntry data))).foldl (sendUnit writer maxPayload) f := by
  induction infos generalizing f with
  | nil => rfl
  | cons info infos ih =>
      rw [infoLoop, ih, List.map_cons, packUnits, List.foldl_append, List.isEmpty_map]
      congr 1
      rw [infoEntry]
      cases infoSlice data info with
      | none => rfl
      | some slice => exact sendSlice_eq writer maxPayload f slice _ _

theorem sendPack_eq (writer : RtpPacketizerWriteFn σ) (maxPayload : Nat) (pack : MiVencPack) (lastPack : Bool)
    (f : Frame σ) : sendPack writer maxPayload pack lastPack f =
      (packUnits .h265 lastPack (packEntries pack)).foldl (sendUnit writer maxPayload) f := by
  rw [sendPack, packEntries]
  cases pack.data with
  | none => rfl
  | some data =>
      dsimp only
      by_cases hnum : 0 < pack.packNum
      · rw [if_pos hnum, if_pos hnum]
        exact infoLoop_eq writer maxPayload data lastPack _ f
      · rw [if_neg hnum, if_neg hnum, packUnits, packUnits, List.append_nil, List.isEmpty_nil, Bool.and_true]
        by_cases hoffset : data.length ≤ pack.offset
        · rw [if_pos hoffset, if_pos hoffset]
          rfl
        · rw [if_neg hoffset, if_neg hoffset]
          exact sendSlice_eq writer maxPayload f _ none lastPack

theorem packLoop_eq (writer : RtpPacketizerWriteFn σ) (maxPayload : Nat) (packs : List MiVencPack) (f : Frame σ) :
    packLoop writer maxPayload packs f = (star6eUnits packs).foldl (sendUnit writer maxPayload) f := by
  rw [star6eUnits]
  induction packs generalizing f with
  | nil => rfl
  | cons pack packs ih =>
      rw [packLoop, ih, List.map_cons, frameUnits, List.foldl_append, List.isEmpty_map, sendPack_eq]

end WaybeamVenc.FrameUnits
