import WaybeamVenc.SceneUpdate

namespace WaybeamVenc.SceneSpikes

open IdrAgreement Runs SceneUpdate

/-- A frame that is no IDR and large against the average; the first frame has
nothing to be compared with. -/
def isSpike (sd : SceneDetector) (s : Stream) : Bool :=
  decide (streamType s ≠ encFrameIdr) && decide (counted sd ≠ 1) && decide (sd.threshold.toUInt32 ≤ frameRatio sd s)

/-- The frame sets spike_pending. -/
def Arms (sd : SceneDetector) (s : Stream) : Prop := sd.spikePending = false ∧ (update sd s).1.spikePending = true

instance (sd : SceneDetector) (s : Stream) : Decidable (Arms sd s) := instDecidableAnd

/-- A detector, and which of its frames were spikes, the newest one first. -/
structure Watched where
  sd : SceneDetector
  spikes : List Bool
deriving DecidableEq

def start (threshold : UInt16) (holdoff : UInt8) : Watched := ⟨sceneInit threshold holdoff, []⟩

def step (w : Watched) (s : Stream) : Option Watched := some ⟨(update w.sd s).1, isSpike w.sd s :: w.spikes⟩

/-- A counter that is left over from a spike that has ended is not counted on:
the frame is no spike. -/
def Cleared (w : Watched) (s : Stream) : Prop :=
  w.sd.spikePending = false ∧ w.sd.holdoff ≤ w.sd.consecutiveSpikes ∧ w.sd.consecutiveSpikes ≠ 255 →
    isSpike w.sd s = false

instance (w : Watched) (s : Stream) : Decidable (Cleared w s) := inferInstanceAs (Decidable (_ → _))

def LastSpikes (n : Nat) (spikes : List Bool) : Prop := spikes.take n = List.replicate n true

theorem LastSpikes.cons {n : Nat} {spikes : List Bool} (h : LastSpikes n spikes) : LastSpikes (n + 1) (true :: spikes) := by
  rw [LastSpikes, List.take_succ_cons, h, List.replicate_succ]

structure Inv (threshold : UInt16) (holdoff : UInt8) (w : Watched) : Prop where
  threshold_eq : w.sd.threshold = (sceneInit threshold holdoff).threshold
  holdoff_eq : w.sd.holdoff = (sceneInit threshold holdoff).holdoff
  warm : w.sd.warmupDone = true → w.sd.frameCount ≠ 0
  active : w.sd.consecutiveSpikes ≠ 0 ∨ w.sd.spikePending = true → Active w.sd
  pending : w.sd.spikePending = true → w.sd.holdoff ≤ w.sd.consecutiveSpikes
  counted : w.sd.spikePending = false → w.sd.consecutiveSpikes < w.sd.holdoff →
    LastSpikes w.sd.consecutiveSpikes.toNat w.spikes

theorem counted_ne_zero (sd : SceneDetector) : SceneUpdate.counted sd ≠ 0 := by
  have hcount : SceneUpdate.counted sd = if sd.frameCount < 4294967295 then sd.frameCount + 1 else sd.frameCount := rfl
  rw [hcount]
  split
  · grind
  · grind

theorem counted_ne_one {sd : SceneDetector} (h : sd.frameCount ≠ 0) : SceneUpdate.counted sd ≠ 1 := by
  have hcount : SceneUpdate.counted sd = if sd.frameCount < 4294967295 then sd.frameCount + 1 else sd.frameCount := rfl
  rw [hcount]
  split
  · grind
  · grind

theorem start_inv (threshold : UInt16) (holdoff : UInt8) : Inv threshold holdoff (start threshold holdoff) where
  threshold_eq := rfl
  holdoff_eq := rfl
  warm := by simp [start, sceneInit]
  active := by simp [start, sceneInit]
  pending := by simp [start, sceneInit]
  counted _ _ := rfl

theorem holdoff_pos (threshold : UInt16) (holdoff : UInt8) : 0 < (sceneInit threshold holdoff).holdoff := by
  simp only [sceneInit]
  split
  next hpos => exact hpos
  next => decide

theorem toNat_succ {c : UInt8} (h : c ≠ 255) : (c + 1).toNat = c.toNat + 1 := by
  have hne : c.toNat ≠ 255 := fun heq => h (UInt8.toNat_inj.mp heq)
  have hlt : c.toNat < 256 := c.toNat_lt
  rw [UInt8.toNat_add]
  exact Nat.mod_eq_of_lt (by change c.toNat + 1 < 256; omega)

theorem isSpike_eq {sd : SceneDetector} {s : Stream} (hidr : streamType s ≠ encFrameIdr) (hfirst : SceneUpdate.counted sd ≠ 1)
    (hratio : sd.threshold.toUInt32 ≤ frameRatio sd s) : isSpike sd s = true := by
  simp [isSpike, hidr, hfirst, hratio]

/-- A detector that counts nothing leaves nothing to be shown. -/
theorem inv_quiet {threshold : UInt16} {holdoff : UInt8} {w : Watched} (h : Inv threshold holdoff w) {s : Stream}
    {x : SceneDetector} (hx : Noted w.sd s x) {t : SceneDetector} {spikes : List Bool}
    (hkept : t.threshold = x.threshold ∧ t.holdoff = x.holdoff ∧ t.frameCount = x.frameCount)
    (hnone : t.spikePending = false ∧ t.consecutiveSpikes = 0) : Inv threshold holdoff ⟨t, spikes⟩ where
  threshold_eq := hkept.1.trans (hx.threshold.trans h.threshold_eq)
  holdoff_eq := hkept.2.1.trans (hx.holdoff.trans h.holdoff_eq)
  warm := by
    intro _
    dsimp only
    rw [hkept.2.2, hx.frameCount]
    exact counted_ne_zero w.sd
  active := by simp [hnone]
  pending := by simp [hnone]
  counted := by
    intro _ _
    dsimp only
    rw [hnone.2]
    rfl

/-- An active detector stays one. -/
theorem inv_active {threshold : UInt16} {holdoff : UInt8} {w : Watched} (h : Inv threshold holdoff w) {s : Stream}
    {x : SceneDetector} (hx : Noted w.sd s x) {t : SceneDetector} {spikes : List Bool}
    (hkept : t.threshold = x.threshold ∧ t.holdoff = x.holdoff ∧ t.frameCount = x.frameCount) (hactive : Active t)
    (hpending : t.spikePending = true → w.sd.holdoff ≤ t.consecutiveSpikes)
    (hcounted : t.spikePending = false → t.consecutiveSpikes < w.sd.holdoff → LastSpikes t.consecutiveSpikes.toNat spikes) :
    Inv threshold holdoff ⟨t, spikes⟩ where
  threshold_eq := hkept.1.trans (hx.threshold.trans h.threshold_eq)
  holdoff_eq := hkept.2.1.trans (hx.holdoff.trans h.holdoff_eq)
  warm := by
    intro _
    dsimp only
    rw [hkept.2.2, hx.frameCount]
    exact counted_ne_zero w.sd
  active _ := hactive
  pending := by
    dsimp only
    rw [hkept.2.1, hx.holdoff]
    exact hpending
  counted := by
    dsimp only
    rw [hkept.2.1, hx.holdoff]
    exact hcounted

/-- A detector that is not active has nothing pending or counted. -/
theorem Inv.idle {threshold : UInt16} {holdoff : UInt8} {w : Watched} (h : Inv threshold holdoff w)
    (hnot : ¬Active w.sd) : w.sd.spikePending = false ∧ w.sd.consecutiveSpikes = 0 := by
  constructor
  · exact Bool.eq_false_of_not_eq_true fun hon => hnot (h.active (.inr hon))
  · exact not_not.mp fun hsome => hnot (h.active (.inl hsome))

/-- No counter is left in front of a spike. -/
theorem Cleared.of_spike {w : Watched} {s : Stream} (hs : Cleared w s) (hspike : isSpike w.sd s = true) :
    ¬(w.sd.spikePending = false ∧ w.sd.holdoff ≤ w.sd.consecutiveSpikes ∧ w.sd.consecutiveSpikes ≠ 255) :=
  fun hleft => Bool.false_ne_true ((hs hleft).symm.trans hspike)

/-- A frame that is no IDR, in front of an idle detector or an active one. -/
theorem other_inv {threshold : UInt16} {holdoff : UInt8} {w : Watched} (h : Inv threshold holdoff w) {s : Stream}
    (hs : Cleared w s) (hidr : streamType s ≠ encFrameIdr) (hfirst : SceneUpdate.counted w.sd ≠ 1) {x : SceneDetector}
    (hx : Noted w.sd s x) {r : SceneDetector × Bool} (hdetects : Detects x (frameRatio w.sd s) r) :
    Inv threshold holdoff ⟨r.1, isSpike w.sd s :: w.spikes⟩ := by
  obtain ⟨hpending, hcount, hcool⟩ := hx.other hidr
  have hidle : ¬Active x → x.spikePending = false ∧ x.consecutiveSpikes = 0 := by
    intro hnot
    have hback : Active w.sd → Active x := fun ha =>
      ⟨hx.warmupDone.trans ha.warm, hx.idrEnabled.trans ha.enabled, hcool.trans ha.cool⟩
    rw [hpending, hcount]
    exact h.idle fun ha => hnot (hback ha)
  have hleft : x.spikePending = true → w.sd.holdoff ≤ x.consecutiveSpikes := by
    intro hon
    rw [hcount]
    exact h.pending (hpending.symm.trans hon)
  cases hdetects with
  | warmup hwarm => exact inv_quiet h hx ⟨rfl, rfl, rfl⟩ (hidle fun ha => Bool.false_ne_true (hwarm.symm.trans ha.warm))
  | disabled hoff => exact inv_quiet h hx ⟨rfl, rfl, rfl⟩ (hidle fun ha => Bool.false_ne_true (hoff.symm.trans ha.enabled))
  | cooldown hcooling =>
      refine inv_quiet h hx ⟨rfl, rfl, rfl⟩ (hidle ?_)
      intro ha
      rw [ha.cool] at hcooling
      exact absurd hcooling (by decide)
  | settled hactive hon | expired hactive hon =>
      refine inv_active h hx ⟨rfl, rfl, rfl⟩ ⟨hactive.warm, hactive.enabled, hactive.cool⟩ (by simp) ?_
      intro _ hless
      exact absurd (hleft hon) (by grind)
  | waiting hactive hon =>
      refine inv_active h hx ⟨rfl, rfl, rfl⟩ ⟨hactive.warm, hactive.enabled, hactive.cool⟩ (fun _ => hleft hon) ?_
      intro hoff
      exact absurd (hon.symm.trans hoff) Bool.false_ne_true.symm
  | spike hactive hoff hratio =>
      rw [hx.threshold] at hratio
      have hspike := isSpike_eq hidr hfirst hratio
      have hclear := hs.of_spike hspike
      rw [hpending] at hoff
      refine inv_active h hx ⟨rfl, rfl, rfl⟩ ⟨hactive.warm, hactive.enabled, hactive.cool⟩ ?_ ?_
      · intro hon
        rw [← hx.holdoff]
        exact of_decide_eq_true hon
      · intro _ hless
        dsimp only at hless ⊢
        rw [hcount] at hless ⊢
        rw [hspike]
        by_cases hlast : w.sd.consecutiveSpikes = 255
        · rw [hlast]
          rfl
        · have hbelow : w.sd.consecutiveSpikes < w.sd.holdoff := by grind
          rw [toNat_succ hlast]
          exact (h.counted hoff hbelow).cons
  | calm hactive hoff => exact inv_quiet h hx ⟨rfl, rfl, rfl⟩ ⟨hoff, rfl⟩

theorem step_inv {threshold : UInt16} {holdoff : UInt8} {w : Watched} (h : Inv threshold holdoff w) {s : Stream}
    (hs : Cleared w s) : Inv threshold holdoff ⟨(update w.sd s).1, isSpike w.sd s :: w.spikes⟩ := by
  rcases update_cases w.sd s with ⟨hfirst, x, hx, -, hupdate⟩ | ⟨hfirst, x, hx, -, hdetects⟩
  · rw [hupdate]
    refine inv_quiet h hx ⟨rfl, rfl, rfl⟩ ?_
    by_cases hidr : streamType s = encFrameIdr
    · exact ⟨(hx.idr hidr).1, (hx.idr hidr).2.1⟩
    · have hnot : ¬Active w.sd := fun ha => counted_ne_one (h.warm ha.warm) hfirst
      rw [(hx.other hidr).1, (hx.other hidr).2.1]
      exact h.idle hnot
  · by_cases hidr : streamType s = encFrameIdr
    · obtain ⟨hpending, hcount, hcool⟩ := hx.idr hidr
      have hbusy : ¬Active x := fun ha => absurd (hcool.symm.trans ha.cool) (by decide)
      generalize update w.sd s = r at hdetects
      cases hdetects with
      | warmup | disabled | cooldown => exact inv_quiet h hx ⟨rfl, rfl, rfl⟩ ⟨hpending, hcount⟩
      | settled hactive | expired hactive | waiting hactive | spike hactive | calm hactive => exact absurd hactive hbusy
    · exact other_inv h hs hidr hfirst hx hdetects

/-- A frame that arms the detector is the last of as many spikes as are asked
for, as long as no counter is counted on that a spike before has left. -/
theorem armed_after_holdoff {threshold : UInt16} {holdoff : UInt8} {w : Watched}
    (h : Path step Cleared (start threshold holdoff) w) {s : Stream} (hs : Cleared w s) (harms : Arms w.sd s) :
    w.sd.threshold = (sceneInit threshold holdoff).threshold ∧
      LastSpikes (sceneInit threshold holdoff).holdoff.toNat (isSpike w.sd s :: w.spikes) := by
  have hinv : Inv threshold holdoff w := by
    refine h.invariant (Inv threshold holdoff) (start_inv threshold holdoff) ?_
    intro t a u ht hok hstep
    obtain rfl := Option.some.inj hstep
    exact step_inv ht hok
  refine ⟨hinv.threshold_eq, ?_⟩
  obtain ⟨hoff, hon⟩ := harms
  rw [← hinv.holdoff_eq]
  have hpos := holdoff_pos threshold holdoff
  rw [← hinv.holdoff_eq] at hpos
  rcases update_cases w.sd s with ⟨hfirst, x, hx, -, hupdate⟩ | ⟨hfirst, x, hx, -, hdetects⟩
  · rw [hupdate] at hon
    by_cases hidr : streamType s = encFrameIdr
    · exact absurd (hon.symm.trans (hx.idr hidr).1) Bool.false_ne_true.symm
    · exact absurd (hon.symm.trans ((hx.other hidr).1.trans hoff)) Bool.false_ne_true.symm
  · have hbefore : x.spikePending = false := by
      by_cases hidr : streamType s = encFrameIdr
      · exact (hx.idr hidr).1
      · exact (hx.other hidr).1.trans hoff
    generalize update w.sd s = r at hdetects hon
    cases hdetects with
    | warmup | disabled | cooldown => exact absurd (hon.symm.trans hbefore) Bool.false_ne_true.symm
    | settled | expired => cases hon
    | waiting => exact absurd (hon.symm.trans hbefore) Bool.false_ne_true.symm
    | calm => exact absurd (hon.symm.trans hbefore) Bool.false_ne_true.symm
    | spike hactive _ hratio =>
        have hidr : streamType s ≠ encFrameIdr := by
          intro hidr
          exact absurd ((hx.idr hidr).2.2.symm.trans hactive.cool) (by decide)
        obtain ⟨-, hcount, -⟩ := hx.other hidr
        rw [hx.threshold] at hratio
        have hspike := isSpike_eq hidr hfirst hratio
        have hclear := hs.of_spike hspike
        have henough : w.sd.holdoff ≤ w.sd.consecutiveSpikes + 1 := by
          rw [← hx.holdoff, ← hcount]
          exact of_decide_eq_true hon
        have hbelow : w.sd.consecutiveSpikes < w.sd.holdoff := by grind
        have hlast : w.sd.consecutiveSpikes ≠ 255 := by grind
        have hholdoff : w.sd.holdoff.toNat = w.sd.consecutiveSpikes.toNat + 1 := by
          rw [UInt8.le_iff_toNat_le, toNat_succ hlast] at henough
          rw [UInt8.lt_iff_toNat_lt] at hbelow
          omega
        rw [hspike, hholdoff]
        exact (hinv.counted hoff hbelow).cons

/-- A quiet scene, up to the end of the warm-up. -/
def quiet : List Stream := List.replicate 10 (pFrame 1000)

theorem armed_after_holdoff_two : ∃ w, Path step Cleared (start 150 2) w ∧
    w.sd.threshold = (sceneInit 150 2).threshold ∧
    LastSpikes (sceneInit 150 2).holdoff.toNat (isSpike w.sd (pFrame 4000) :: w.spikes) := by
  have hrun : ∃ w, runIf step (fun w s => decide (Cleared w s)) (start 150 2) (quiet ++ [pFrame 4000]) = some w ∧
      Cleared w (pFrame 4000) ∧ Arms w.sd (pFrame 4000) := ⟨_, rfl, by decide +kernel, by decide +kernel⟩
  obtain ⟨w, hw, hs, harms⟩ := hrun
  have hpath : Path step Cleared (start 150 2) w := path_of_runIf _ (fun w s => of_decide_eq_true) hw
  exact ⟨w, hpath, armed_after_holdoff hpath hs harms⟩

/-- Two spikes arm the detector and it settles; the next spike arms it alone. -/
theorem armed_alone : ∃ w, Reaches step (start 150 2) w ∧ Arms w.sd (pFrame 4000) ∧
    ¬LastSpikes (sceneInit 150 2).holdoff.toNat (isSpike w.sd (pFrame 4000) :: w.spikes) := by
  have hrun : ∃ w, run step (start 150 2) (quiet ++ [pFrame 4000, pFrame 4000, pFrame 1000]) = some w ∧
      Arms w.sd (pFrame 4000) ∧
      (isSpike w.sd (pFrame 4000) :: w.spikes).take 2 ≠ [true, true] := ⟨_, rfl, by decide +kernel, by decide +kernel⟩
  obtain ⟨w, hw, harms, hspikes⟩ := hrun
  exact ⟨w, reaches_of_run _ hw, harms, hspikes⟩

end WaybeamVenc.SceneSpikes
