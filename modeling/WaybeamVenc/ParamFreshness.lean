import Mathlib.Data.List.Induction
import WaybeamVenc.FrameMarker

namespace WaybeamVenc.ParamFreshness

open H26x RtpPacketizer HevcRtp FrameUnits MarukoVideo MarukoTrials Star6eTrials SendFailures
open HevcRoundTrip (logged)
open PacketTrials (min_rtpBufferMax)

variable {σ : Type}

inductive SetKind
  | vps
  | sps
  | pps
deriving DecidableEq

def kinds : PayloadType → List SetKind
  | .h265 => [.vps, .sps, .pps]
  | .h264 => [.sps, .pps]

def kindType : PayloadType → SetKind → Option UInt8
  | .h265, .vps => some 32
  | .h265, .sps => some 33
  | .h265, .pps => some 34
  | .h264, .vps => none
  | .h264, .sps => some 7
  | .h264, .pps => some 8

def capacity : SetKind → Nat
  | .vps => 256
  | .sps => 512
  | .pps => 512

def ofKind (sets : H26xParamSets) : SetKind → List UInt8
  | .vps => sets.vps
  | .sps => sets.sps
  | .pps => sets.pps

/-- One store: the set of the unit's kind changes when the unit fits. -/
theorem update_ofKind (codec : PayloadType) (sets : H26xParamSets) {u : NalUnit} (hne : u.nal ≠ []) (k : SetKind)
    (hk : k ∈ kinds codec) : ofKind (h26xParamSetsUpdate sets codec u.nalType u.nal) k =
      if kindType codec k = some u.nalType ∧ u.nal.length < capacity k then u.nal else ofKind sets k := by
  have hlen : u.nal.length ≠ 0 := fun h => hne (List.eq_nil_of_length_eq_zero h)
  have hstore : ∀ (cap : Nat) (dst : List UInt8), h26xParamSetsStore cap dst u.nal =
      if u.nal.length < cap then u.nal else dst := by
    intro cap dst
    rw [h26xParamSetsStore]
    by_cases hcap : u.nal.length < cap
    · rw [if_neg (by omega), if_pos hcap]
    · rw [if_pos (by omega), if_neg hcap]
  rw [h26xParamSetsUpdate.eq_def, if_neg hlen]
  cases codec with
  | h265 =>
      dsimp only
      rw [hstore, hstore, hstore]
      cases k with
      | vps =>
          simp only [kindType, ofKind, capacity, Option.some.injEq, eq_comm (a := (32 : UInt8))]
          split_ifs <;> simp_all
      | sps =>
          simp only [kindType, ofKind, capacity, Option.some.injEq, eq_comm (a := (33 : UInt8))]
          split_ifs <;> simp_all
      | pps =>
          simp only [kindType, ofKind, capacity, Option.some.injEq, eq_comm (a := (34 : UInt8))]
          split_ifs <;> simp_all
  | h264 =>
      dsimp only
      rw [hstore, hstore]
      cases k with
      | vps => exact absurd hk (by decide)
      | sps =>
          simp only [kindType, ofKind, capacity, Option.some.injEq, eq_comm (a := (7 : UInt8))]
          split_ifs <;> simp_all
      | pps =>
          simp only [kindType, ofKind, capacity, Option.some.injEq, eq_comm (a := (8 : UInt8))]
          split_ifs <;> simp_all

def latest (codec : PayloadType) (k : SetKind) (us : List NalUnit) : Option (List UInt8) :=
  us.foldl (fun l u => if kindType codec k = some u.nalType then some u.nal else l) none

/-- The most recent unit of a kind among those that fit in the cache. -/
def latestFitting (codec : PayloadType) (k : SetKind) (us : List NalUnit) : Option (List UInt8) :=
  us.foldl (fun l u => if kindType codec k = some u.nalType ∧ u.nal.length < capacity k then some u.nal else l) none

theorem latestFitting_concat (codec : PayloadType) (k : SetKind) (us : List NalUnit) (u : NalUnit) :
    latestFitting codec k (us ++ [u]) =
      if kindType codec k = some u.nalType ∧ u.nal.length < capacity k then some u.nal
      else latestFitting codec k us := by
  rw [latestFitting, List.foldl_append]
  rfl

def noSets : H26xParamSets := ⟨[], [], []⟩

/-- The cache holds the most recent units that fit. -/
theorem cache_latest (codec : PayloadType) {us : List NalUnit} (hne : ∀ u ∈ us, u.nal ≠ []) :
    ∃ sets, cacheAfterUnits codec (some noSets) us = some sets ∧
      ∀ k ∈ kinds codec, ofKind sets k = (latestFitting codec k us).getD [] := by
  induction us using List.reverseRecOn with
  | nil =>
      refine ⟨noSets, rfl, fun k _ => ?_⟩
      cases k <;> rfl
  | append_singleton us u ih =>
      obtain ⟨sets, hsets, hlatest⟩ := ih fun v hv => hne v (List.mem_append_left _ hv)
      have hu := hne u (List.mem_append_right us List.mem_cons_self)
      refine ⟨h26xParamSetsUpdate sets codec u.nalType u.nal, ?_, fun k hk => ?_⟩
      · rw [cacheAfterUnits] at hsets ⊢
        rw [List.foldl_append, hsets]
        rfl
      · rw [update_ofKind codec sets hu k hk, latestFitting_concat, hlatest k hk]
        split <;> rfl

/-! What goes to the packetizer. -/

/-- The sets that are the most recent of their kinds at a key picture. -/
def recentSets (recent : PayloadType → SetKind → List NalUnit → Option (List UInt8)) (codec : PayloadType)
    (seen : List NalUnit) (u : NalUnit) : List (List UInt8) :=
  if isKeyNal codec u.nalType then (kinds codec).filterMap fun k => recent codec k (seen ++ [u]) else []

/-- The units behind those seen, each handed over behind sets that are recent
there, and its last bit. -/
inductive Fresh (recent : PayloadType → SetKind → List NalUnit → Option (List UInt8)) (codec : PayloadType) :
    List NalUnit → List NalUnit → List (List UInt8 × Bool) → Prop
  | none {seen : List NalUnit} : Fresh recent codec seen [] []
  | unit {seen us : List NalUnit} {u : NalUnit} {sets : List (List UInt8)} {hs : List (List UInt8 × Bool)}
      (hsets : sets.Sublist (recentSets recent codec seen u)) (h : Fresh recent codec (seen ++ [u]) us hs) :
      Fresh recent codec seen (u :: us) (sets.map (·, false) ++ (u.nal, u.last) :: hs)

theorem getPrepend_kinds (codec : PayloadType) (sets : H26xParamSets) (nalType : UInt8) :
    h26xParamSetsGetPrepend sets codec nalType 3 =
      if isKeyNal codec nalType then ((kinds codec).map (ofKind sets)).filter (· ≠ []) else [] := by
  rw [getPrepend_cachedFor]
  cases codec <;> rfl

theorem sublist_filterMap {α : Type} (ks : List α) {f : α → List UInt8} {g : α → Option (List UInt8)}
    (h : ∀ k ∈ ks, f k = (g k).getD []) : ((ks.map f).filter (· ≠ [])).Sublist (ks.filterMap g) := by
  induction ks with
  | nil => exact List.Sublist.refl []
  | cons k ks ih =>
      have hrest := ih fun k' hk' => h k' (List.mem_cons_of_mem k hk')
      have hk := h k List.mem_cons_self
      rw [List.map_cons]
      cases hg : g k with
      | none =>
          rw [hg] at hk
          rw [List.filterMap_cons_none hg, List.filter_cons_of_neg (by simp [hk])]
          exact hrest
      | some set =>
          rw [hg, Option.getD_some] at hk
          rw [List.filterMap_cons_some hg, hk]
          by_cases hnil : set = []
          · rw [List.filter_cons_of_neg (by simp [hnil])]
            exact hrest.cons set
          · rw [List.filter_cons_of_pos (by simp [hnil])]
            exact hrest.cons_cons set

theorem setsBefore_recent (codec : PayloadType) {seen : List NalUnit} {u : NalUnit} (hseen : ∀ v ∈ seen, v.nal ≠ [])
    (hu : u.nal ≠ []) : (setsBefore codec (cacheAfterUnits codec (some noSets) seen) u).Sublist
      (recentSets latestFitting codec seen u) := by
  have hall : ∀ v ∈ seen ++ [u], v.nal ≠ [] := by
    intro v hv
    rcases List.mem_append.1 hv with hv | hv
    · exact hseen v hv
    · exact List.mem_singleton.1 hv ▸ hu
  obtain ⟨sets, hsets, hlatest⟩ := cache_latest codec hall
  have hcache : updated codec (cacheAfterUnits codec (some noSets) seen) u = some sets := by
    rw [← hsets, cacheAfterUnits, cacheAfterUnits, List.foldl_append]
    rfl
  rw [setsBefore, hcache]
  dsimp only
  rw [getPrepend_kinds, recentSets]
  split
  · exact sublist_filterMap (kinds codec) hlatest
  · exact List.Sublist.refl []

theorem handed_fresh (codec : PayloadType) {seen us : List NalUnit} (hseen : ∀ u ∈ seen, u.nal ≠ [])
    (hus : ∀ u ∈ us, u.nal ≠ []) :
    Fresh latestFitting codec seen us (handed codec (cacheAfterUnits codec (some noSets) seen) us) := by
  induction us generalizing seen with
  | nil => exact .none
  | cons u us ih =>
      have hu := hus u List.mem_cons_self
      have hnext : ∀ v ∈ seen ++ [u], v.nal ≠ [] := by
        intro v hv
        rcases List.mem_append.1 hv with hv | hv
        · exact hseen v hv
        · exact List.mem_singleton.1 hv ▸ hu
      have hcache : updated codec (cacheAfterUnits codec (some noSets) seen) u =
          cacheAfterUnits codec (some noSets) (seen ++ [u]) := by
        rw [cacheAfterUnits, cacheAfterUnits, List.foldl_append]
        rfl
      rw [handed, hcache, List.append_assoc, List.singleton_append]
      exact .unit (setsBefore_recent codec hseen hu) (ih hnext fun v hv => hus v (List.mem_cons_of_mem u hv))

/-! The frames of a run. -/

/-- A frame that hands these to send_or_queue_nal_rtp_hevc and nothing else. -/
def star6eHand (writer : RtpPacketizerWriteFn σ) (s : Stream σ) (c : FrameCall) (hs : List (List UInt8 × Bool)) : Tx σ :=
  let (_, x) := hevcApFlush writer
    (hs.foldl (handOver writer (min c.maxPayload rtpBufferMax)) ⟨s.sender, hevcApReset, s.stats⟩) true
  { x with
    sender := { x.sender with rtp := { x.sender.rtp with timestamp := x.sender.rtp.timestamp + c.frameTicks } } }

theorem sendFrame_hands (writer : RtpPacketizerWriteFn σ) (s : Stream σ) (c : FrameCall) :
    (star6eHevcRtpSendFrame writer c.packs s.sender c.frameTicks s.params c.maxPayload s.stats).tx =
      star6eHand writer s c (handed .h265 s.params (star6eUnits c.packs)) := by
  rw [star6eHevcRtpSendFrame, min_rtpBufferMax, packLoop_eq, star6eHand]
  dsimp only
  rw [star6eUnits_tx]

/-- Every frame of a run, the sets in front of its units recent there. -/
def Star6eFresh (recent : PayloadType → SetKind → List NalUnit → Option (List UInt8)) (writer : RtpPacketizerWriteFn σ)
    (s₀ : Stream σ) (calls : List FrameCall) : Prop :=
  ∀ front c rest, calls = front ++ c :: rest →
    let s := sendFrames writer s₀ front
    ∃ hs, (star6eHevcRtpSendFrame writer c.packs s.sender c.frameTicks s.params c.maxPayload s.stats).tx =
        star6eHand writer s c hs ∧
      Fresh recent .h265 (front.flatMap (star6eUnits ·.packs)) (star6eUnits c.packs) hs

structure MarukoCall where
  output : MarukoOutput
  packs : List I6cVencPack
  maxPayload : Nat

def marukoFrame (writer : RtpPacketizerWriteFn σ) (codec : PayloadType) (f : MarukoFrame σ) (c : MarukoCall) :
    MarukoFrame σ :=
  marukoSendFrameRtp writer c.output c.packs f.sender f.params codec c.maxPayload

def marukoHand (writer : RtpPacketizerWriteFn σ) (codec : PayloadType) (s : MarukoSender σ) (c : MarukoCall)
    (hs : List (List UInt8 × Bool)) : MarukoSender σ :=
  let s := hs.foldl (fun s h => (marukoSendNal writer c.output codec s h.1 h.2 c.maxPayload).2) s
  { s with rtp := { s.rtp with timestamp := s.rtp.timestamp + s.rtp.frameTicks } }

theorem marukoSendRefs_eq (writer : RtpPacketizerWriteFn σ) (codec : PayloadType) (c : MarukoCall)
    (refs : List (List UInt8)) (s : MarukoSender σ) :
    (marukoSendRefs writer c.output codec c.maxPayload refs s).2 = (refs.map (·, false)).foldl
      (fun s h => (marukoSendNal writer c.output codec s h.1 h.2 c.maxPayload).2) s := by
  induction refs generalizing s with
  | nil => rfl
  | cons ref refs ih => exact ih _

theorem marukoUnits_sender (writer : RtpPacketizerWriteFn σ) (codec : PayloadType) (c : MarukoCall)
    (us : List NalUnit) (f : MarukoFrame σ) :
    (us.foldl (marukoSendUnit writer c.output codec c.maxPayload) f).sender = (handed codec f.params us).foldl
      (fun s h => (marukoSendNal writer c.output codec s h.1 h.2 c.maxPayload).2) f.sender := by
  induction us generalizing f with
  | nil => rfl
  | cons u us ih =>
      obtain ⟨totalBytes, s, params⟩ := f
      rw [List.foldl_cons, ih, handed, List.foldl_append, List.foldl_append]
      cases params with
      | none => rfl
      | some sets =>
          congr 1
          change (marukoSendNal writer c.output codec (marukoSendRefs writer c.output codec c.maxPayload _ s).2 u.nal
            u.last c.maxPayload).2 = _
          rw [marukoSendRefs_eq]
          rfl

theorem marukoFrame_hands (writer : RtpPacketizerWriteFn σ) (codec : PayloadType) (f : MarukoFrame σ) (c : MarukoCall) :
    (marukoFrame writer codec f c).sender =
      marukoHand writer codec f.sender c (handed codec f.params (marukoUnits codec c.packs)) := by
  rw [marukoFrame, marukoSendFrameRtp, marukoPackLoop_eq, marukoHand]
  dsimp only
  rw [marukoUnits_sender]

def MarukoFresh (recent : PayloadType → SetKind → List NalUnit → Option (List UInt8)) (writer : RtpPacketizerWriteFn σ)
    (codec : PayloadType) (s₀ : MarukoFrame σ) (calls : List MarukoCall) : Prop :=
  ∀ front c rest, calls = front ++ c :: rest →
    let f := front.foldl (marukoFrame writer codec) s₀
    ∃ hs, (marukoFrame writer codec f c).sender = marukoHand writer codec f.sender c hs ∧
      Fresh recent codec (front.flatMap (marukoUnits codec ·.packs)) (marukoUnits codec c.packs) hs

theorem star6eCalls_ne_nil (calls : List FrameCall) : ∀ u ∈ calls.flatMap (star6eUnits ·.packs), u.nal ≠ [] := by
  intro u hu
  obtain ⟨c, _, hc⟩ := List.mem_flatMap.1 hu
  exact frameUnits_nal_ne_nil hc

theorem marukoCalls_ne_nil (codec : PayloadType) (calls : List MarukoCall) :
    ∀ u ∈ calls.flatMap (marukoUnits codec ·.packs), u.nal ≠ [] := by
  intro u hu
  obtain ⟨c, _, hc⟩ := List.mem_flatMap.1 hu
  exact frameUnits_nal_ne_nil hc

theorem sendFrames_params (writer : RtpPacketizerWriteFn σ) (s : Stream σ) (calls : List FrameCall) :
    (sendFrames writer s calls).params = cacheAfterUnits .h265 s.params (calls.flatMap (star6eUnits ·.packs)) := by
  induction calls generalizing s with
  | nil => rfl
  | cons c calls ih =>
      rw [List.flatMap_cons, cacheAfterUnits, List.foldl_append]
      change (sendFrames writer (sendFrame writer s c) calls).params = _
      rw [ih, sendFrame_params]
      rfl

theorem marukoFrames_params (writer : RtpPacketizerWriteFn σ) (codec : PayloadType) (f : MarukoFrame σ)
    (calls : List MarukoCall) : (calls.foldl (marukoFrame writer codec) f).params =
      cacheAfterUnits codec f.params (calls.flatMap (marukoUnits codec ·.packs)) := by
  induction calls generalizing f with
  | nil => rfl
  | cons c calls ih =>
      have hparams : (marukoFrame writer codec f c).params =
          cacheAfterUnits codec f.params (marukoUnits codec c.packs) := by
        rw [marukoFrame, marukoSendFrameRtp, marukoPackLoop_eq]
        exact units_params writer c.output codec c.maxPayload _ _
      rw [List.foldl_cons, ih, hparams, List.flatMap_cons, cacheAfterUnits, cacheAfterUnits, cacheAfterUnits,
        List.foldl_append]

/-- In every run over either backend, a set that goes to the packetizer before a
key picture is the most recent unit of its kind among those that fit in the
cache. -/
theorem sets_latest_fitting (writer : RtpPacketizerWriteFn σ) (sender : Sender σ) (stats : Star6eHevcRtpStats)
    (calls : List FrameCall) (codec : PayloadType) (marukoSender : MarukoSender σ) (marukoCalls : List MarukoCall) :
    Star6eFresh latestFitting writer ⟨sender, some noSets, stats⟩ calls ∧
      MarukoFresh latestFitting writer codec ⟨0, marukoSender, some noSets⟩ marukoCalls := by
  constructor
  · intro front c rest _ s
    refine ⟨_, sendFrame_hands writer s c, ?_⟩
    rw [sendFrames_params]
    exact handed_fresh .h265 (star6eCalls_ne_nil front) fun u hu => frameUnits_nal_ne_nil hu
  · intro front c rest _ f
    refine ⟨_, marukoFrame_hands writer codec f c, ?_⟩
    rw [marukoFrames_params]
    exact handed_fresh codec (marukoCalls_ne_nil codec front) fun u hu => frameUnits_nal_ne_nil hu

/-- A short VPS, then one of 300 bytes. -/
def longVpsCalls : List FrameCall :=
  [plainFrame [0x40, 1, 9] 1400, plainFrame ([0x40, 1] ++ List.replicate 298 7) 1400]

def keyCall : FrameCall := plainFrame [0x26, 1, 5] 1400

def firstStream : Stream (Unit × HevcRoundTrip.Log) :=
  ⟨⟨⟨0, 0, 1, 97⟩, ((), [])⟩, some noSets, VideoSender.noStats⟩

/-- The short one goes out again before a key picture. -/
theorem superseded_vps_prepended :
    ¬Star6eFresh latest (logged FrameMarker.takesAll) firstStream (longVpsCalls ++ [keyCall]) := by
  intro hfresh
  have hkey : star6eUnits keyCall.packs = [⟨[0x26, 1, 5], 19, true⟩] := by decide +kernel
  have hrecent : recentSets latest .h265 (longVpsCalls.flatMap (star6eUnits ·.packs)) ⟨[0x26, 1, 5], 19, true⟩ =
      [[0x40, 1] ++ List.replicate 298 7] := by decide +kernel
  -- a frame that sends the long one, or none, puts other bytes on the wire
  have hwire : ∀ sets : List (List UInt8), sets.Sublist [[0x40, 1] ++ List.replicate 298 7] →
      let s := sendFrames (logged FrameMarker.takesAll) firstStream longVpsCalls
      (star6eHevcRtpSendFrame (logged FrameMarker.takesAll) keyCall.packs s.sender keyCall.frameTicks s.params
        keyCall.maxPayload s.stats).tx.sender.out.2 ≠
      (star6eHand (logged FrameMarker.takesAll) s keyCall
        (sets.map (·, false) ++ [([0x26, 1, 5], true)])).sender.out.2 := by
    intro sets hsets
    rcases List.sublist_singleton.1 hsets with rfl | rfl
    · decide +kernel
    · decide +kernel
  obtain ⟨hs, htx, h⟩ := hfresh longVpsCalls keyCall [] rfl
  rw [hkey] at h
  cases h with
  | unit hsets hnone =>
      cases hnone
      rw [hrecent] at hsets
      apply hwire _ hsets
      rw [htx]

end WaybeamVenc.ParamFreshness
