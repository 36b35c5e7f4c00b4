import WaybeamVenc.OutputUri
import WaybeamVenc.Runs
import Mathlib.Order.Nat

namespace WaybeamVenc.DualBitrate

open CNumber Runs

/-- The rate control modes with a rate to set, and any other. -/
inductive RateMode
  | h265Cbr
  | h264Cbr
  | h265Vbr
  | h264Vbr
  | h265Avbr
  | h264Avbr
  | other
deriving DecidableEq

/-- The attributes of ch1; the bitrate is in bits. -/
structure ChnAttr where
  mode : RateMode
  bitrate : UInt32
  gop : UInt32
deriving DecidableEq

def ChnAttr.withBitrate (attr : ChnAttr) (bits : UInt32) : Option ChnAttr :=
  if attr.mode = .other then none else some { attr with bitrate := bits }

def ChnAttr.withGop (attr : ChnAttr) (gop : UInt32) : Option ChnAttr :=
  if attr.mode = .other then none else some { attr with gop := gop }

/-- g_dual of an active channel. -/
structure Dual where
  bitrate : UInt32
  gop : UInt32
  frameLost : Bool
deriving DecidableEq

/-- Where dual_rec_thread_fn is: draining frames, or in dual_rec_reduce_bitrate
before either of its calls. -/
inductive ThreadPhase
  | draining
  | reducing
  | writing (attr : ChnAttr)
deriving DecidableEq

structure RecThread where
  currentKbps : UInt32
  minKbps : UInt32
  behindCount : UInt32
  totalCount : UInt32
  pressureSeconds : UInt32
  phase : ThreadPhase
deriving DecidableEq

inductive DualChange
  | bitrate (kbps : UInt32)
  | gop (frames : UInt32)
deriving DecidableEq

inductive RequestPhase
  | idle
  | called (change : DualChange)
  | writing (change : DualChange) (attr : ChnAttr)
  | written (change : DualChange)
deriving DecidableEq

structure State where
  encoder : ChnAttr
  dual : Dual
  thread : RecThread
  request : RequestPhase
deriving DecidableEq

/-- One drained frame, with another one waiting behind it or not and a second
over or not; a request; and the SDK calls of both, answered with or without an
error. -/
inductive Act
  | frame (behind elapsed : Bool)
  | threadGet (ok : Bool)
  | threadSet (ok : Bool)
  | setBitrate (query : CString)
  | setGop (frames : UInt32)
  | requestGet (ok : Bool)
  | requestSet (ok : Bool)
  | requestDone (ok : Bool)

def maxKbps : UInt32 := 200000

def reducedKbps (currentKbps minKbps : UInt32) : UInt32 :=
  let newKbps := currentKbps * 9 / 10
  if newKbps < minKbps then minKbps else newKbps

def RecThread.evaluate (t : RecThread) : RecThread :=
  let fresh := { t with behindCount := 0, totalCount := 0, pressureSeconds := 0 }
  if 0 < t.totalCount ∧ t.totalCount * 4 / 5 < t.behindCount then
    if 3 ≤ t.pressureSeconds + 1 then { fresh with phase := .reducing }
    else { fresh with pressureSeconds := t.pressureSeconds + 1 }
  else fresh

def RecThread.frame (t : RecThread) (behind elapsed : Bool) : RecThread :=
  let counted := { t with
    totalCount := t.totalCount + 1
    behindCount := if behind then t.behindCount + 1 else t.behindCount }
  if elapsed then counted.evaluate else counted

/-- The bitrate of a request that is not answered 400. -/
def requestedBitrate (query : CString) : Option UInt32 :=
  match (OutputUri.behind "bitrate=".toList query).bind (strtoul 10) with
  | some (val, rest) =>
    if (rest = [] ∨ rest.head? = some '&') ∧ val ≠ 0 ∧ val ≤ maxKbps then some val else none
  | none => none

/-- The attributes dual_apply_bitrate or dual_apply_gop sets. -/
def DualChange.change : DualChange → ChnAttr → Option ChnAttr
  | .bitrate kbps, attr => attr.withBitrate ((if maxKbps < kbps then maxKbps else kbps) * 1024)
  | .gop frames, attr => attr.withGop frames

def DualChange.record : DualChange → Dual → Dual
  | .bitrate kbps, dual => { dual with bitrate := if maxKbps < kbps then maxKbps else kbps }
  | .gop frames, dual => { dual with gop := frames }

/-- A bitrate that the encoder has still needs its frame loss threshold. -/
def DualChange.recorded (dual : Dual) (ok : Bool) : DualChange → Bool
  | .bitrate _ => !dual.frameLost || ok
  | .gop _ => true

def step (s : State) : Act → Option State
  | .frame behind elapsed =>
    if s.thread.phase = .draining then some { s with thread := s.thread.frame behind elapsed } else none
  | .threadGet ok =>
    if s.thread.phase = .reducing then
      let newKbps := reducedKbps s.thread.currentKbps s.thread.minKbps
      let back := some { s with thread := { s.thread with phase := .draining } }
      if ok = false ∨ newKbps = s.thread.currentKbps then back
      else match s.encoder.withBitrate (newKbps * 1024) with
        | some attr => some { s with thread := { s.thread with phase := .writing attr } }
        | none => back
    else none
  | .threadSet ok =>
    match s.thread.phase with
    | .writing attr =>
      if ok then
        some { s with
          encoder := attr
          thread := { s.thread with
            currentKbps := reducedKbps s.thread.currentKbps s.thread.minKbps, phase := .draining } }
      else some { s with thread := { s.thread with phase := .draining } }
    | _ => none
  | .setBitrate query =>
    if s.request = .idle then
      match requestedBitrate query with
      | some kbps => some { s with request := .called (.bitrate kbps) }
      | none => some s
    else none
  | .setGop frames => if s.request = .idle then some { s with request := .called (.gop frames) } else none
  | .requestGet ok =>
    match s.request with
    | .called change =>
      match if ok then change.change s.encoder else none with
      | some attr => some { s with request := .writing change attr }
      | none => some { s with request := .idle }
    | _ => none
  | .requestSet ok =>
    match s.request with
    | .writing change attr =>
      if ok then some { s with encoder := attr, request := .written change } else some { s with request := .idle }
    | _ => none
  | .requestDone ok =>
    match s.request with
    | .written change =>
      some { s with
        dual := if change.recorded s.dual ok then change.record s.dual else s.dual
        request := .idle }
    | _ => none

structure AdmittedKbps where
  kbps : UInt32
  pos : 0 < kbps
  le : kbps ≤ maxKbps

def floorKbps (bitrate : UInt32) : UInt32 := if bitrate / 4 < 1000 then 1000 else bitrate / 4

/-- Right after star6e_pipeline_start_dual, with the thread and the channel
registered. -/
def start (bitrate : AdmittedKbps) (mode : RateMode) (gop : UInt32) (frameLost : Bool) : State where
  encoder := ⟨mode, bitrate.kbps * 1024, gop⟩
  dual := ⟨bitrate.kbps, gop, frameLost⟩
  thread := ⟨bitrate.kbps, floorKbps bitrate.kbps, 0, 0, 0, .draining⟩
  request := .idle

/-- The action by which dual_rec_reduce_bitrate returns zero. -/
def reduces (s : State) : Act → Prop
  | .threadGet ok => ok = true ∧ reducedKbps s.thread.currentKbps s.thread.minKbps = s.thread.currentKbps
  | .threadSet ok => ok = true
  | _ => False

/-- p holds of the states before and after every successful reduction of a run. -/
def AtReductions (p : State → State → Prop) : State → List Act → Prop
  | _, [] => True
  | s, a :: acts => ∀ t, step s a = some t → (reduces s a → p s t) ∧ AtReductions p t acts

/-- The encoder goes no faster than before, and as fast as reported. -/
structure Honest (s t : State) : Prop where
  falls : t.encoder.bitrate ≤ s.encoder.bitrate
  reported : t.encoder.bitrate = t.dual.bitrate * 1024

/-- The conditions on a run: only the rate that is its own floor is reduced, not
in the middle of a request that has set the encoder's rate; and a request whose
rate the encoder took is not given up at the frame loss threshold. -/
def Clean (bitrate : AdmittedKbps) (s : State) (a : Act) : Prop :=
  (reduces s a → bitrate.kbps = 1000 ∧ ∀ kbps, s.request ≠ .written (.bitrate kbps)) ∧
    ∀ ok change, a = .requestDone ok → s.request = .written change → change.recorded s.dual ok = true

/-! Rates. -/

structure InRange (currentKbps minKbps : UInt32) : Prop where
  floor : 1000 ≤ minKbps
  floor_le : minKbps ≤ maxKbps
  current_le : currentKbps ≤ maxKbps

variable {c m : UInt32}

theorem nineTenths (h : c ≤ maxKbps) : (c * 9 / 10).toNat = c.toNat * 9 / 10 := by
  have hc : c.toNat ≤ 200000 := h
  rw [UInt32.toNat_div, UInt32.toNat_mul, Nat.mod_eq_of_lt]
  · rfl
  · change c.toNat * 9 < 2 ^ 32
    omega

theorem reducedKbps_toNat (h : InRange c m) : (reducedKbps c m).toNat = max (c.toNat * 9 / 10) m.toNat := by
  rw [reducedKbps, ← nineTenths h.current_le]
  split
  next hlt => exact (max_eq_right (le_of_lt hlt)).symm
  next hge => exact (max_eq_left (not_lt.1 hge)).symm

theorem reducedKbps_eq_iff (h : InRange c m) : reducedKbps c m = c ↔ c = m := by
  have hm : 1000 ≤ m.toNat := h.floor
  rw [← UInt32.toNat_inj, ← UInt32.toNat_inj, reducedKbps_toNat h]
  omega

theorem reducedKbps_le (h : InRange c m) : reducedKbps c m ≤ maxKbps := by
  have hc : c.toNat ≤ 200000 := h.current_le
  have hm : m.toNat ≤ 200000 := h.floor_le
  have hr := reducedKbps_toNat h
  change (reducedKbps c m).toNat ≤ 200000
  omega

theorem bits_inj {a b : UInt32} (ha : a ≤ maxKbps) (hb : b ≤ maxKbps) : a * 1024 = b * 1024 ↔ a = b := by
  have ha' : a.toNat ≤ 200000 := ha
  have hb' : b.toNat ≤ 200000 := hb
  have hbits : ∀ x : UInt32, (x * 1024).toNat = x.toNat * 1024 % 2 ^ 32 := fun x => UInt32.toNat_mul x 1024
  constructor
  · intro h
    have h' := congrArg UInt32.toNat h
    rw [hbits, hbits] at h'
    apply UInt32.toNat_inj.1
    omega
  · rintro rfl
    rfl

/-! What holds on every run. -/

structure Inv (s : State) : Prop where
  range : InRange s.thread.currentKbps s.thread.minKbps
  dual_le : s.dual.bitrate ≤ maxKbps
  writing : ∀ attr, s.thread.phase = .writing attr →
    attr.bitrate = reducedKbps s.thread.currentKbps s.thread.minKbps * 1024 ∧
      s.thread.currentKbps ≠ s.thread.minKbps

theorem start_inv (bitrate : AdmittedKbps) (mode : RateMode) (gop : UInt32) (frameLost : Bool) :
    Inv (start bitrate mode gop frameLost) := by
  have hb : bitrate.kbps.toNat ≤ 200000 := bitrate.le
  refine ⟨⟨?_, ?_, bitrate.le⟩, bitrate.le, nofun⟩
  · change 1000 ≤ floorKbps bitrate.kbps
    rw [floorKbps]
    split
    next => decide
    next h => exact UInt32.not_lt.1 h
  · change floorKbps bitrate.kbps ≤ maxKbps
    rw [floorKbps]
    split
    next => decide
    next =>
      change (bitrate.kbps / 4).toNat ≤ 200000
      rw [UInt32.toNat_div]
      exact Nat.le_trans (Nat.div_le_self _ _) hb

theorem withBitrate_some {attr attr' : ChnAttr} {bits : UInt32} (h : attr.withBitrate bits = some attr') :
    attr'.bitrate = bits := by
  rw [ChnAttr.withBitrate] at h
  split at h
  · cases h
  · cases h
    rfl

theorem evaluate_rates (t : RecThread) : t.evaluate.currentKbps = t.currentKbps ∧ t.evaluate.minKbps = t.minKbps ∧
    (t.evaluate.phase = t.phase ∨ t.evaluate.phase = .reducing) := by
  rw [RecThread.evaluate]
  split
  · split
    · exact ⟨rfl, rfl, Or.inr rfl⟩
    · exact ⟨rfl, rfl, Or.inl rfl⟩
  · exact ⟨rfl, rfl, Or.inl rfl⟩

theorem frame_rates (t : RecThread) (behind elapsed : Bool) :
    (t.frame behind elapsed).currentKbps = t.currentKbps ∧ (t.frame behind elapsed).minKbps = t.minKbps ∧
      ((t.frame behind elapsed).phase = t.phase ∨ (t.frame behind elapsed).phase = .reducing) := by
  cases elapsed with
  | false => exact ⟨rfl, rfl, Or.inl rfl⟩
  | true => exact evaluate_rates _

theorem record_le {dual : Dual} (h : dual.bitrate ≤ maxKbps) (change : DualChange) :
    (change.record dual).bitrate ≤ maxKbps := by
  cases change with
  | bitrate kbps =>
      change (if maxKbps < kbps then maxKbps else kbps) ≤ maxKbps
      split
      next => exact UInt32.le_refl maxKbps
      next hle => exact UInt32.not_lt.1 hle
  | gop frames => exact h

theorem frame_inv {s : State} (hi : Inv s) (behind elapsed : Bool) (hd : s.thread.phase = .draining) :
    Inv { s with thread := s.thread.frame behind elapsed } := by
  obtain ⟨hc, hm, hp⟩ := frame_rates s.thread behind elapsed
  refine ⟨?_, hi.dual_le, ?_⟩
  · change InRange (s.thread.frame behind elapsed).currentKbps (s.thread.frame behind elapsed).minKbps
    rw [hc, hm]
    exact hi.range
  · intro attr (ha : (s.thread.frame behind elapsed).phase = .writing attr)
    rcases hp with hp | hp
    · rw [hp, hd] at ha
      cases ha
    · rw [hp] at ha
      cases ha

theorem threadGet_inv {s t : State} (hi : Inv s) (ok : Bool) (h : step s (.threadGet ok) = some t) : Inv t := by
  have hback : Inv { s with thread := { s.thread with phase := .draining } } := ⟨hi.range, hi.dual_le, nofun⟩
  simp only [step] at h
  split at h
  · split at h
    · cases h
      exact hback
    next hr =>
      split at h
      next attr ha =>
        cases h
        refine ⟨hi.range, hi.dual_le, ?_⟩
        rintro _ ⟨rfl⟩
        exact ⟨withBitrate_some ha, fun he => hr (Or.inr ((reducedKbps_eq_iff hi.range).2 he))⟩
      next =>
        cases h
        exact hback
  · cases h

theorem threadSet_inv {s t : State} (hi : Inv s) (ok : Bool) (h : step s (.threadSet ok) = some t) : Inv t := by
  simp only [step] at h
  split at h
  · split at h
    · cases h
      exact ⟨⟨hi.range.floor, hi.range.floor_le, reducedKbps_le hi.range⟩, hi.dual_le, nofun⟩
    · cases h
      exact ⟨hi.range, hi.dual_le, nofun⟩
  · cases h

/-- A request touches neither the thread nor, before its end, what is reported. -/
theorem request_inv {s t : State} (hi : Inv s) (ht : t.thread = s.thread)
    (hd : t.dual = s.dual ∨ ∃ change : DualChange, t.dual = change.record s.dual) : Inv t := by
  refine ⟨ht ▸ hi.range, ?_, ht ▸ hi.writing⟩
  rcases hd with hd | ⟨change, hd⟩
  · exact hd ▸ hi.dual_le
  · rw [hd]
    exact record_le hi.dual_le change

theorem step_inv {s t : State} (hi : Inv s) (a : Act) (h : step s a = some t) : Inv t := by
  cases a with
  | frame behind elapsed =>
      simp only [step] at h
      split at h
      next hd =>
        cases h
        exact frame_inv hi behind elapsed hd
      next => cases h
  | threadGet ok => exact threadGet_inv hi ok h
  | threadSet ok => exact threadSet_inv hi ok h
  | setBitrate query =>
      simp only [step] at h
      split at h
      · split at h <;> cases h <;> exact request_inv hi rfl (Or.inl rfl)
      · cases h
  | setGop frames =>
      simp only [step] at h
      split at h
      · cases h
        exact request_inv hi rfl (Or.inl rfl)
      · cases h
  | requestGet ok =>
      simp only [step] at h
      split at h
      · split at h <;> cases h <;> exact request_inv hi rfl (Or.inl rfl)
      · cases h
  | requestSet ok =>
      simp only [step] at h
      split at h
      · split at h <;> cases h <;> exact request_inv hi rfl (Or.inl rfl)
      · cases h
  | requestDone ok =>
      simp only [step] at h
      split at h
      next change _ =>
        cases h
        refine request_inv hi rfl ?_
        dsimp only
        split
        · exact Or.inr ⟨change, rfl⟩
        · exact Or.inl rfl
      next => cases h

/-! Runs in which the thread leaves the encoder alone. -/

theorem floorKbps_eq_iff (bitrate : AdmittedKbps) : floorKbps bitrate.kbps = bitrate.kbps ↔ bitrate.kbps = 1000 := by
  have hpos : 0 < bitrate.kbps.toNat := bitrate.pos
  have hquarter : (bitrate.kbps / 4).toNat = bitrate.kbps.toNat / 4 := UInt32.toNat_div _ _
  have hthousand : (1000 : UInt32).toNat = 1000 := rfl
  rw [floorKbps]
  split
  next => exact eq_comm
  next hlarge =>
    rw [UInt32.lt_iff_toNat_lt, hquarter, hthousand] at hlarge
    rw [← UInt32.toNat_inj, ← UInt32.toNat_inj, hquarter, hthousand]
    omega

/-- g_dual as it will be when the request under way is done. -/
def pending (s : State) : Dual :=
  match s.request with
  | .written change => change.record s.dual
  | _ => s.dual

structure Quiet (bitrate : AdmittedKbps) (s : State) : Prop where
  inv : Inv s
  current : s.thread.currentKbps = bitrate.kbps
  floor : s.thread.minKbps = floorKbps bitrate.kbps
  encoder : s.encoder.bitrate = (pending s).bitrate * 1024
  writing : ∀ change attr, s.request = .writing change attr → attr.bitrate = (change.record s.dual).bitrate * 1024

theorem start_quiet (bitrate : AdmittedKbps) (mode : RateMode) (gop : UInt32) (frameLost : Bool) :
    Quiet bitrate (start bitrate mode gop frameLost) :=
  ⟨start_inv bitrate mode gop frameLost, rfl, rfl, rfl, nofun⟩

/-- A write of the thread starts above the floor. -/
theorem Quiet.above {bitrate : AdmittedKbps} {s : State} (h : Quiet bitrate s) {attr : ChnAttr}
    (hp : s.thread.phase = .writing attr) :
    attr.bitrate = reducedKbps bitrate.kbps (floorKbps bitrate.kbps) * 1024 ∧ bitrate.kbps ≠ 1000 := by
  obtain ⟨hattr, hne⟩ := h.inv.writing attr hp
  rw [h.current, h.floor] at hattr hne
  exact ⟨hattr, fun h1000 => hne ((floorKbps_eq_iff bitrate).2 h1000).symm⟩

theorem Quiet.thread {bitrate : AdmittedKbps} {s : State} (h : Quiet bitrate s) {thread : RecThread}
    (hinv : Inv { s with thread := thread }) (hc : thread.currentKbps = s.thread.currentKbps)
    (hm : thread.minKbps = s.thread.minKbps) : Quiet bitrate { s with thread := thread } :=
  ⟨hinv, hc.trans h.current, hm.trans h.floor, h.encoder, h.writing⟩

theorem change_rate {change : DualChange} {attr attr' : ChnAttr} {dual : Dual} (h : change.change attr = some attr')
    (hattr : attr.bitrate = dual.bitrate * 1024) : attr'.bitrate = (change.record dual).bitrate * 1024 := by
  cases change with
  | bitrate kbps => exact withBitrate_some h
  | gop frames =>
      simp only [DualChange.change, ChnAttr.withGop] at h
      split at h
      · cases h
      · cases h
        exact hattr

theorem Quiet.request {bitrate : AdmittedKbps} {s : State} (h : Quiet bitrate s) {t : State} (hinv : Inv t)
    (ht : t.thread = s.thread) (hencoder : t.encoder.bitrate = (pending t).bitrate * 1024)
    (hwriting : ∀ change attr, t.request = .writing change attr →
      attr.bitrate = (change.record t.dual).bitrate * 1024) : Quiet bitrate t :=
  ⟨hinv, ht ▸ h.current, ht ▸ h.floor, hencoder, hwriting⟩

/-- A step that meets the conditions. -/
theorem step_quiet {bitrate : AdmittedKbps} {s t : State} (h : Quiet bitrate s) (a : Act) (hok : Clean bitrate s a)
    (hs : step s a = some t) : Quiet bitrate t := by
  have hinv := step_inv h.inv a hs
  have hpending : ∀ {r}, s.request = r → (∀ change, r ≠ .written change) → s.encoder.bitrate = s.dual.bitrate * 1024 := by
    intro r hr hne
    have hencoder := h.encoder
    rw [pending, hr] at hencoder
    cases r with
    | written change => exact absurd rfl (hne change)
    | idle | called | writing => exact hencoder
  cases a with
  | frame behind elapsed =>
      simp only [step] at hs
      split at hs
      next =>
        cases hs
        obtain ⟨hc, hm, -⟩ := frame_rates s.thread behind elapsed
        exact h.thread hinv hc hm
      next => cases hs
  | threadGet ok =>
      simp only [step] at hs
      split at hs
      · split at hs
        · cases hs
          exact h.thread hinv rfl rfl
        · split at hs
          · cases hs
            exact h.thread hinv rfl rfl
          · cases hs
            exact h.thread hinv rfl rfl
      · cases hs
  | threadSet ok =>
      simp only [step] at hs
      split at hs
      next attr hp =>
        cases ok with
        | true => exact absurd (hok.1 rfl).1 (h.above hp).2
        | false =>
            cases hs
            exact h.thread hinv rfl rfl
      next => cases hs
  | setBitrate query =>
      simp only [step] at hs
      split at hs
      next hidle =>
        split at hs
        · cases hs
          exact h.request hinv rfl (hpending hidle nofun) nofun
        · cases hs
          exact h
      next => cases hs
  | setGop frames =>
      simp only [step] at hs
      split at hs
      next hidle =>
        cases hs
        exact h.request hinv rfl (hpending hidle nofun) nofun
      next => cases hs
  | requestGet ok =>
      simp only [step] at hs
      split at hs
      next change hcalled =>
        have hrate := hpending hcalled nofun
        split at hs
        next attr hattr =>
          cases hs
          refine h.request hinv rfl hrate ?_
          rintro _ _ ⟨rfl, rfl⟩
          cases ok with
          | true => exact change_rate hattr hrate
          | false => cases hattr
        next =>
          cases hs
          exact h.request hinv rfl hrate nofun
      next => cases hs
  | requestSet ok =>
      simp only [step] at hs
      split at hs
      next change attr hwriting =>
        cases ok with
        | true =>
            cases hs
            exact h.request hinv rfl (h.writing change attr hwriting) nofun
        | false =>
            cases hs
            exact h.request hinv rfl (hpending hwriting nofun) nofun
      next => cases hs
  | requestDone ok =>
      simp only [step] at hs
      split at hs
      next change hwritten =>
        have hrecorded := hok.2 ok change rfl hwritten
        have hencoder := h.encoder
        rw [pending, hwritten] at hencoder
        cases hs
        refine h.request hinv rfl ?_ nofun
        dsimp only [pending]
        rw [if_pos hrecorded]
        exact hencoder
      next => cases hs

theorem reduction_honest {bitrate : AdmittedKbps} {s t : State} (h : Quiet bitrate s) (a : Act)
    (hok : Clean bitrate s a) (hs : step s a = some t) (hr : reduces s a) : Honest s t := by
  obtain ⟨h1000, hrequest⟩ := hok.1 hr
  cases a with
  | threadGet ok =>
      have ht : t.encoder = s.encoder ∧ t.dual = s.dual := by
        simp only [step] at hs
        split at hs
        · rw [if_pos (Or.inr hr.2)] at hs
          cases hs
          exact ⟨rfl, rfl⟩
        · cases hs
      have hpending : (pending s).bitrate = s.dual.bitrate := by
        rw [pending]
        split
        next change hwritten =>
          cases change with
          | bitrate kbps => exact absurd hwritten (hrequest kbps)
          | gop frames => rfl
        next => rfl
      refine ⟨?_, ?_⟩
      · rw [ht.1]
        exact UInt32.le_refl _
      · rw [ht.1, ht.2, h.encoder, hpending]
  | threadSet ok =>
      simp only [step] at hs
      split at hs
      next attr hp => exact absurd h1000 (h.above hp).2
      next => cases hs
  | frame | setBitrate | setGop | requestGet | requestSet | requestDone => exact hr.elim

theorem run_honest {bitrate : AdmittedKbps} {s : State} (h : Quiet bitrate s) {acts : List Act}
    (hok : Meets step (Clean bitrate) s acts) : AtReductions Honest s acts := by
  induction acts generalizing s with
  | nil => trivial
  | cons a acts ih =>
      intro t hs
      obtain ⟨hclean, hrest⟩ := hok t hs
      exact ⟨reduction_honest h a hclean hs, ih (step_quiet h a hclean hs) hrest⟩

/-! Runs without a request for a rate. -/

/-- No request under way is about the rate. -/
def NoRate (s : State) : Prop :=
  ∀ change, (s.request = .called change ∨ (∃ attr, s.request = .writing change attr) ∨ s.request = .written change) →
    ∃ frames, change = .gop frames

structure Unasked (bitrate : AdmittedKbps) (s : State) : Prop where
  reported : s.dual.bitrate = bitrate.kbps
  request : NoRate s

theorem step_unasked {bitrate : AdmittedKbps} {s t : State} (h : Unasked bitrate s) (a : Act)
    (ha : ∀ query, a ≠ .setBitrate query) (hs : step s a = some t) : Unasked bitrate t := by
  obtain ⟨hreported, hrequest⟩ := h
  have hidle : ∀ t : State, t.request = .idle → NoRate t := by
    intro t ht change hchange
    rw [ht] at hchange
    rcases hchange with h | ⟨attr, h⟩ | h <;> cases h
  cases a with
  | frame behind elapsed =>
      simp only [step] at hs
      split at hs
      · cases hs
        exact ⟨hreported, hrequest⟩
      · cases hs
  | threadGet ok =>
      simp only [step] at hs
      split at hs
      · split at hs
        · cases hs
          exact ⟨hreported, hrequest⟩
        · split at hs <;> cases hs <;> exact ⟨hreported, hrequest⟩
      · cases hs
  | threadSet ok =>
      simp only [step] at hs
      split at hs
      · split at hs <;> cases hs <;> exact ⟨hreported, hrequest⟩
      · cases hs
  | setBitrate query => exact absurd rfl (ha query)
  | setGop frames =>
      simp only [step] at hs
      split at hs
      · cases hs
        refine ⟨hreported, ?_⟩
        rintro change (⟨⟨rfl⟩⟩ | ⟨attr, h⟩ | h)
        · exact ⟨frames, rfl⟩
        · cases h
        · cases h
      · cases hs
  | requestGet ok =>
      simp only [step] at hs
      split at hs
      next change hcalled =>
        split at hs
        · cases hs
          refine ⟨hreported, ?_⟩
          rintro change' (h | ⟨attr, ⟨rfl, rfl⟩⟩ | h)
          · cases h
          · exact hrequest change (.inl hcalled)
          · cases h
        · cases hs
          exact ⟨hreported, hidle _ rfl⟩
      next => cases hs
  | requestSet ok =>
      simp only [step] at hs
      split at hs
      next change attr hwriting =>
        split at hs
        · cases hs
          refine ⟨hreported, ?_⟩
          rintro change' (h | ⟨attr, h⟩ | ⟨⟨rfl⟩⟩)
          · cases h
          · cases h
          · exact hrequest change (.inr (.inl ⟨attr, hwriting⟩))
        · cases hs
          exact ⟨hreported, hidle _ rfl⟩
      next => cases hs
  | requestDone ok =>
      simp only [step] at hs
      split at hs
      next change hwritten =>
        obtain ⟨frames, rfl⟩ := hrequest change (.inr (.inr hwritten))
        cases hs
        refine ⟨?_, hidle _ rfl⟩
        dsimp only
        split <;> exact hreported
      next => cases hs

/-- A reduction that reports the rate it was given is none. -/
theorem clean_of_honest {bitrate : AdmittedKbps} {s t : State} (hq : Quiet bitrate s) (hu : Unasked bitrate s) (a : Act)
    (hs : step s a = some t) (hh : reduces s a → Honest s t) : Clean bitrate s a := by
  constructor
  · intro hr
    refine ⟨?_, ?_⟩
    · by_contra hne
      have hrange := hq.inv.range
      rw [hq.current, hq.floor] at hrange
      have hkept : reducedKbps bitrate.kbps (floorKbps bitrate.kbps) = bitrate.kbps := by
        cases a with
        | threadGet ok =>
            have hsame := hr.2
            rw [hq.current, hq.floor] at hsame
            exact hsame
        | threadSet ok =>
            have hreported := (hh hr).reported
            cases (show ok = true from hr)
            simp only [step] at hs
            split at hs
            next attr hp =>
              cases hs
              rw [(hq.above hp).1, hu.reported] at hreported
              exact (bits_inj (reducedKbps_le hrange) bitrate.le).1 hreported
            next => cases hs
        | frame | setBitrate | setGop | requestGet | requestSet | requestDone => exact hr.elim
      exact hne ((floorKbps_eq_iff bitrate).1 ((reducedKbps_eq_iff hrange).1 hkept).symm)
    · intro kbps hwritten
      obtain ⟨frames, h⟩ := hu.request _ (.inr (.inr hwritten))
      cases h
  · rintro ok change - hwritten
    obtain ⟨frames, rfl⟩ := hu.request change (.inr (.inr hwritten))
    rfl

theorem run_clean {bitrate : AdmittedKbps} {s : State} (hq : Quiet bitrate s) (hu : Unasked bitrate s) {acts : List Act}
    (hacts : ∀ query, Act.setBitrate query ∉ acts) (hh : AtReductions Honest s acts) :
    Meets step (Clean bitrate) s acts := by
  induction acts generalizing s with
  | nil => trivial
  | cons a acts ih =>
      intro t hs
      obtain ⟨hone, hrest⟩ := hh t hs
      have hclean := clean_of_honest hq hu a hs hone
      have ha : ∀ query, a ≠ .setBitrate query := fun query h => hacts query (h ▸ List.mem_cons_self)
      exact ⟨hclean, ih (step_quiet hq a hclean hs) (step_unasked hu a ha hs)
        (fun query h => hacts query (List.mem_cons_of_mem a h)) hrest⟩

/-- A run that meets the conditions is honest, and without a request for a rate
no other run is. -/
theorem bitrate_honest (bitrate : AdmittedKbps) (mode : RateMode) (gop : UInt32) (frameLost : Bool)
    (acts : List Act) :
    (Meets step (Clean bitrate) (start bitrate mode gop frameLost) acts →
      AtReductions Honest (start bitrate mode gop frameLost) acts) ∧
    ((∀ query, Act.setBitrate query ∉ acts) → AtReductions Honest (start bitrate mode gop frameLost) acts →
      Meets step (Clean bitrate) (start bitrate mode gop frameLost) acts) := by
  have hq := start_quiet bitrate mode gop frameLost
  have hu : Unasked bitrate (start bitrate mode gop frameLost) := by
    refine ⟨rfl, ?_⟩
    rintro change (h | ⟨attr, h⟩ | h) <;> cases h
  exact ⟨run_honest hq, run_clean hq hu⟩

def kbps1000 : AdmittedKbps := ⟨1000, by decide, by decide⟩

/-- A request for 2000 kbps, then the thread at its floor of 1000. -/
def floorRun : List Act :=
  [.setBitrate "bitrate=2000".toList, .requestGet true, .requestSet true, .requestDone true,
    .frame true true, .frame true true, .frame true true, .threadGet true]

theorem bitrate_honest_floor : AtReductions Honest (start kbps1000 .h265Cbr 30 false) floorRun := by
  refine (bitrate_honest kbps1000 .h265Cbr 30 false floorRun).1 ?_
  have hquiet : ∀ (s : State) (a : Act), ¬reduces s a → (∀ ok, a ≠ .requestDone ok) → Clean kbps1000 s a :=
    fun s a hr hd => ⟨fun h => absurd h hr, fun ok _ h => absurd h (hd ok)⟩
  have hset : step (start kbps1000 .h265Cbr 30 false) (.setBitrate "bitrate=2000".toList) =
      some { start kbps1000 .h265Cbr 30 false with request := .called (.bitrate 2000) } := by decide +kernel
  rintro s hs
  cases hset.symm.trans hs
  refine ⟨hquiet _ _ id nofun, ?_⟩
  rintro _ ⟨⟩
  refine ⟨hquiet _ _ id nofun, ?_⟩
  rintro _ ⟨⟩
  refine ⟨hquiet _ _ id nofun, ?_⟩
  rintro _ ⟨⟩
  refine ⟨⟨fun h => h.elim, ?_⟩, ?_⟩
  · rintro _ _ ⟨rfl⟩ ⟨rfl⟩
    rfl
  rintro _ ⟨⟩
  refine ⟨hquiet _ _ id nofun, ?_⟩
  rintro _ ⟨⟩
  refine ⟨hquiet _ _ id nofun, ?_⟩
  rintro _ ⟨⟩
  refine ⟨hquiet _ _ id nofun, ?_⟩
  rintro _ ⟨⟩
  exact ⟨⟨fun _ => ⟨rfl, nofun⟩, nofun⟩, trivial⟩

def kbps500 : AdmittedKbps := ⟨500, by decide, by decide⟩

def pressed : List Act := [.frame true true, .frame true true, .frame true true, .threadGet true, .threadSet true]

/-- Below its floor of 1000 kbps the thread doubles the bitrate. -/
theorem reduction_doubles :
    ¬∀ (bitrate : AdmittedKbps) (mode : RateMode) (gop : UInt32) (frameLost : Bool) (acts : List Act),
      AtReductions Honest (start bitrate mode gop frameLost) acts := by
  intro h
  have hpressed := h kbps500 .h265Cbr 30 false pressed
  have hwriting := ((((hpressed _ rfl).2 _ rfl).2 _ rfl).2 _ rfl).2
  exact absurd ((hwriting _ rfl).1 rfl).falls (by decide)

end WaybeamVenc.DualBitrate
