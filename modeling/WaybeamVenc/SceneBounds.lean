import Mathlib.Data.List.Induction
import Mathlib.Order.MinMax
import WaybeamVenc.SceneUpdate

namespace WaybeamVenc.SceneBounds

open IdrAgreement SceneUpdate

/-! Operations that are exact. -/

theorem add_checked {x y : UInt32} (h : x.toNat + y.toNat < 2 ^ 32) : Word.add (m := Option) x y = some (x + y) :=
  if_pos h

theorem sub_checked {x y : UInt32} (h : y ≤ x) : Word.sub (m := Option) x y = some (x - y) := if_pos h

theorem mul_checked {x y : UInt32} (h : x.toNat * y.toNat < 2 ^ 32) : Word.mul (m := Option) x y = some (x * y) :=
  if_pos h

theorem div_checked {x y : UInt32} (h : y ≠ 0) : Word.div (m := Option) x y = some (x / y) := if_neg h

theorem toUInt8_checked {x : UInt32} (h : x < 256) : Word.toUInt8 (m := Option) x = some x.toUInt8 := if_pos h

theorem shiftRight_four (x : UInt32) : (x >>> 4).toNat = x.toNat / 16 := by
  rw [UInt32.toNat_shiftRight]
  exact Nat.shiftRight_eq_div_pow x.toNat 4

theorem emaOf_eq (ema sizeFp8 : UInt32) : emaOf ema sizeFp8 =
    if ema < sizeFp8 then ema + ((sizeFp8 - ema) >>> 4) else ema - ((ema - sizeFp8) >>> 4) := by
  rw [emaOf, emaStep]
  split <;> rfl

/-- The average goes a sixteenth of the way to the new size, with no result out
of range. -/
theorem emaStep_checked (ema sizeFp8 : UInt32) : emaStep (m := Option) ema sizeFp8 = some (emaOf ema sizeFp8) := by
  rw [emaOf_eq, emaStep]
  split
  next hless =>
    have hle : ema ≤ sizeFp8 := UInt32.le_of_lt hless
    have hdiff := UInt32.toNat_sub_of_le _ _ hle
    have hhigh := sizeFp8.toNat_lt
    rw [sub_checked hle]
    rw [UInt32.lt_iff_toNat_lt] at hless
    exact add_checked (by rw [shiftRight_four, hdiff]; omega)
  next hnot =>
    have hle : sizeFp8 ≤ ema := UInt32.not_lt.mp hnot
    have hdiff := UInt32.toNat_sub_of_le _ _ hle
    rw [sub_checked hle]
    refine sub_checked ?_
    rw [UInt32.le_iff_toNat_le, shiftRight_four, hdiff]
    omega

theorem emaOf_between (ema sizeFp8 : UInt32) :
    min ema.toNat sizeFp8.toNat ≤ (emaOf ema sizeFp8).toNat ∧
      (emaOf ema sizeFp8).toNat ≤ max ema.toNat sizeFp8.toNat := by
  rw [emaOf_eq]
  split
  next hless =>
    have hle : ema ≤ sizeFp8 := UInt32.le_of_lt hless
    have hdiff := UInt32.toNat_sub_of_le _ _ hle
    have hhigh := sizeFp8.toNat_lt
    rw [UInt32.lt_iff_toNat_lt] at hless
    have hsum : (ema + ((sizeFp8 - ema) >>> 4)).toNat = ema.toNat + (sizeFp8.toNat - ema.toNat) / 16 := by
      rw [UInt32.toNat_add, shiftRight_four, hdiff]
      exact Nat.mod_eq_of_lt (by omega)
    omega
  next hnot =>
    have hle : sizeFp8 ≤ ema := UInt32.not_lt.mp hnot
    have hdiff := UInt32.toNat_sub_of_le _ _ hle
    have hpart : (ema - sizeFp8) >>> 4 ≤ ema := by
      rw [UInt32.le_iff_toNat_le, shiftRight_four, hdiff]
      omega
    have hsub : (ema - ((ema - sizeFp8) >>> 4)).toNat = ema.toNat - (ema.toNat - sizeFp8.toNat) / 16 := by
      rw [UInt32.toNat_sub_of_le _ _ hpart, shiftRight_four, hdiff]
    rw [UInt32.le_iff_toNat_le] at hle
    omega

/-- The largest size a frame is taken for. -/
def sizeMax : Nat := 4294967

theorem clampSize_toNat (size : UInt32) : (clampSize size).toNat = min size.toNat sizeMax := by
  have hmax : (4294967295 / 1000 : UInt32).toNat = sizeMax := by decide
  rw [clampSize]
  split
  next hlarge =>
    rw [UInt32.lt_iff_toNat_lt, hmax] at hlarge
    omega
  next hsmall =>
    rw [UInt32.lt_iff_toNat_lt, hmax] at hsmall
    omega

theorem shiftLeft_eight {size : UInt32} (h : size.toNat ≤ sizeMax) : (size <<< 8).toNat = size.toNat * 256 := by
  rw [sizeMax] at h
  rw [UInt32.toNat_shiftLeft]
  change size.toNat <<< 8 % 2 ^ 32 = _
  rw [Nat.shiftLeft_eq]
  exact Nat.mod_eq_of_lt (by omega)

theorem shiftLeft_checked {size : UInt32} (h : size.toNat ≤ sizeMax) :
    Word.shiftLeft (m := Option) size 8 = some (size <<< 8) := by
  rw [sizeMax] at h
  exact if_pos (by change size.toNat * 2 ^ 8 < _; omega)

theorem ratioX100_checked {size : UInt32} (h : size.toNat ≤ sizeMax) (emaSize : UInt32) :
    ratioX100 (m := Option) size emaSize = some (ratioOf size emaSize) := by
  have hratio : ratioOf size emaSize = if 0 < emaSize then size * 100 / emaSize else 100 := by
    rw [ratioOf, ratioX100]
    split <;> rfl
  rw [hratio, ratioX100, sizeMax] at *
  split
  next hpos =>
    rw [mul_checked (by change size.toNat * 100 < _; omega)]
    refine div_checked ?_
    rintro rfl
    exact absurd hpos (by decide)
  next => rfl

theorem complexity_checked (ratio : UInt32) : complexity (m := Option) ratio = some (complexityOf ratio) := by
  have hcomplexity : complexityOf ratio = if ratio ≤ 50 then (ratio * 128 / 100).toUInt8
      else if 300 ≤ ratio then 255 else (64 + (ratio - 50) * 191 / 250).toUInt8 := by
    rw [complexityOf, complexity]
    split
    · rfl
    · split <;> rfl
  rw [hcomplexity, complexity]
  split
  next hlow =>
    rw [UInt32.le_iff_toNat_le] at hlow
    change ratio.toNat ≤ 50 at hlow
    have hmul : (ratio * 128).toNat = ratio.toNat * 128 := by
      rw [UInt32.toNat_mul]
      exact Nat.mod_eq_of_lt (by change ratio.toNat * 128 < _; omega)
    have hsmall : ratio * 128 / 100 < 256 := by
      rw [UInt32.lt_iff_toNat_lt, UInt32.toNat_div, hmul]
      change ratio.toNat * 128 / 100 < 256
      omega
    have hexact : ratio.toNat * (128 : UInt32).toNat < 2 ^ 32 := by
      change ratio.toNat * 128 < _
      omega
    have hhundred : (100 : UInt32) ≠ 0 := by decide
    simp only [mul_checked hexact, div_checked hhundred, toUInt8_checked hsmall, Option.bind_eq_bind, Option.bind_some]
  next hnot =>
    split
    next => rfl
    next hbelow =>
      rw [UInt32.le_iff_toNat_le] at hnot hbelow
      change ¬ratio.toNat ≤ 50 at hnot
      change ¬300 ≤ ratio.toNat at hbelow
      have hsub : (ratio - 50).toNat = ratio.toNat - 50 := by
        rw [UInt32.toNat_sub_of_le]
        · rfl
        · rw [UInt32.le_iff_toNat_le]
          change 50 ≤ ratio.toNat
          omega
      have hmul : ((ratio - 50) * 191).toNat = (ratio.toNat - 50) * 191 := by
        rw [UInt32.toNat_mul, hsub]
        exact Nat.mod_eq_of_lt (by change (ratio.toNat - 50) * 191 < _; omega)
      have hpart : ((ratio - 50) * 191 / 250).toNat = (ratio.toNat - 50) * 191 / 250 := by
        rw [UInt32.toNat_div, hmul]
        rfl
      have hsum : (64 + (ratio - 50) * 191 / 250).toNat = 64 + (ratio.toNat - 50) * 191 / 250 := by
        rw [UInt32.toNat_add, hpart]
        exact Nat.mod_eq_of_lt (by change 64 + _ < _; omega)
      have hsmall : 64 + (ratio - 50) * 191 / 250 < 256 := by
        rw [UInt32.lt_iff_toNat_lt, hsum]
        change _ < 256
        omega
      have habove : (50 : UInt32) ≤ ratio := by
        rw [UInt32.le_iff_toNat_le]
        change 50 ≤ ratio.toNat
        omega
      have hexact : (ratio - 50).toNat * (191 : UInt32).toNat < 2 ^ 32 := by
        rw [hsub]
        change (ratio.toNat - 50) * 191 < _
        omega
      have hrange : (64 : UInt32).toNat + ((ratio - 50) * 191 / 250).toNat < 2 ^ 32 := by
        rw [hpart]
        change 64 + _ < _
        omega
      have hdivisor : (250 : UInt32) ≠ 0 := by decide
      simp only [sub_checked habove, mul_checked hexact, div_checked hdivisor, add_checked hrange,
        toUInt8_checked hsmall, Option.bind_eq_bind, Option.bind_some]

theorem countFrame_checked (n : UInt32) : countFrame (m := Option) n = some (countFrame (m := Id) n) := by
  rw [countFrame, countFrame]
  split
  next hless =>
    rw [UInt32.lt_iff_toNat_lt] at hless
    change n.toNat < 4294967295 at hless
    exact add_checked (by change n.toNat + 1 < _; omega)
  next => rfl

/-! The size of a frame. -/

def packLengths (s : Stream) : List Nat := (s.packet.getD []).map (·.length.toNat)

theorem foldlM_checked (packs : List ScenePack) (t : UInt32)
    (h : t.toNat + (packs.map (·.length.toNat)).sum < 2 ^ 32) :
    packs.foldlM (fun t pack => Word.add (m := Option) t pack.length) t =
      some (packs.foldlM (fun t pack => Word.add (m := Id) t pack.length) t) ∧
    (packs.foldlM (fun t pack => Word.add (m := Id) t pack.length) t).toNat =
      t.toNat + (packs.map (·.length.toNat)).sum := by
  induction packs generalizing t with
  | nil => exact ⟨rfl, rfl⟩
  | cons pack packs ih =>
      rw [List.map_cons, List.sum_cons] at h ⊢
      have hsum : (t + pack.length).toNat = t.toNat + pack.length.toNat := by
        rw [UInt32.toNat_add]
        exact Nat.mod_eq_of_lt (by omega)
      obtain ⟨hchecked, hvalue⟩ := ih (t + pack.length) (by rw [hsum]; omega)
      constructor
      · rw [List.foldlM_cons, add_checked (by omega)]
        exact hchecked
      · rw [hsum, Nat.add_assoc] at hvalue
        exact hvalue

theorem sceneFrameSize_checked {s : Stream} (h : (packLengths s).sum < 2 ^ 32) :
    sceneFrameSize (m := Option) s = some (sceneFrameSize (m := Id) s) ∧
      (sceneFrameSize (m := Id) s).toNat = (packLengths s).sum := by
  rw [sceneFrameSize, sceneFrameSize]
  rw [packLengths] at h ⊢
  cases hpacket : s.packet with
  | none => exact ⟨rfl, rfl⟩
  | some packs =>
      rw [hpacket] at h
      have hall := foldlM_checked packs 0 (by change 0 + _ < _; rw [Nat.zero_add]; exact h)
      exact ⟨hall.1, hall.2.trans (Nat.zero_add _)⟩

theorem frameSize_le (s : Stream) : (frameSize s).toNat ≤ sizeMax := by
  rw [frameSize, clampSize_toNat]
  exact Nat.min_le_right _ _

/-- One update stays in range, whatever the state. -/
theorem update_checked (sd : SceneDetector) {s : Stream} (h : (packLengths s).sum < 2 ^ 32) :
    sceneUpdate (m := Option) sd s = some (update sd s) := by
  have hcompare : ∀ x : SceneDetector, compareFrame (m := Option) x (frameSize s) (frameSize s <<< 8) =
      some (compareFrame (m := Id) x (frameSize s) (frameSize s <<< 8)) := by
    intro x
    rw [compareFrame_eq, compareFrame, emaStep_checked]
    change (ratioX100 (m := Option) (frameSize s) (emaOf x.emaSizeFp8 (frameSize s <<< 8) >>> 8)).bind _ = _
    rw [ratioX100_checked (frameSize_le s)]
    change (complexity (m := Option) (ratioOf (frameSize s) (emaOf x.emaSizeFp8 (frameSize s <<< 8) >>> 8))).bind _ = _
    rw [complexity_checked]
    rfl
  have hrun : update sd s = if (noted sd s).frameCount = 1 then ({ noted sd s with emaSizeFp8 := frameSize s <<< 8 }, false)
      else compareFrame (m := Id) (noted sd s) (frameSize s) (frameSize s <<< 8) := rfl
  rw [sceneUpdate, (sceneFrameSize_checked h).1]
  change (Word.shiftLeft (m := Option) (frameSize s) 8).bind _ = _
  rw [shiftLeft_checked (frameSize_le s)]
  change (countFrame (m := Option) sd.frameCount).bind _ = _
  rw [countFrame_checked, hrun]
  change (if (noted sd s).frameCount = 1 then _ else compareFrame (m := Option) (noted sd s) (frameSize s) (frameSize s <<< 8)) = _
  rw [hcompare]
  split <;> rfl

/-! Runs. -/

def watch (threshold : UInt16) (holdoff : UInt8) (frames : List Stream) : SceneDetector :=
  frames.foldl (fun sd s => (update sd s).1) (sceneInit threshold holdoff)

theorem watch_snoc (threshold : UInt16) (holdoff : UInt8) (frames : List Stream) (s : Stream) :
    watch threshold holdoff (frames ++ [s]) = (update (watch threshold holdoff frames) s).1 := by
  rw [watch, List.foldl_append]
  rfl

def Idr (s : Stream) : Prop := streamType s = encFrameIdr

/-- What is left of the fields that decide about a request, after an update. -/
structure Left (sd : SceneDetector) (s : Stream) (t : SceneDetector) : Prop where
  idrEnabled : t.idrEnabled = sd.idrEnabled
  frameCount : t.frameCount = counted sd
  warm : t.warmupDone = true → sd.warmupDone = true ∨ 8 < counted sd
  idr : Idr s → 29 ≤ t.cooldown.toNat
  other : ¬Idr s → sd.cooldown.toNat ≤ t.cooldown.toNat + 1

theorem noted_left {sd : SceneDetector} {s : Stream} {x : SceneDetector} (hx : Noted sd s x) : Left sd s x where
  idrEnabled := hx.idrEnabled
  frameCount := hx.frameCount
  warm := by
    rw [hx.warmupDone]
    exact .inl
  idr h := by
    rw [(hx.idr h).2.2]
    decide
  other h := by
    rw [(hx.other h).2.2]
    exact Nat.le_succ _

theorem update_left (sd : SceneDetector) (s : Stream) : Left sd s (update sd s).1 := by
  rcases update_cases sd s with ⟨-, x, hx, -, hupdate⟩ | ⟨-, x, hx, -, hdetects⟩
  · rw [hupdate]
    exact noted_left hx
  · have hleft := noted_left hx
    generalize update sd s = r at hdetects
    cases hdetects with
    | disabled | settled | expired | waiting | spike | calm =>
        exact ⟨hleft.idrEnabled, hleft.frameCount, hleft.warm, hleft.idr, hleft.other⟩
    | warmup =>
        refine ⟨hleft.idrEnabled, hleft.frameCount, ?_, hleft.idr, hleft.other⟩
        intro hwarm
        rw [← hx.frameCount]
        exact .inr (of_decide_eq_true hwarm)
    | cooldown hcooling =>
        have hone : (1 : UInt16) ≤ x.cooldown := by grind
        have hsub : (x.cooldown - 1).toNat = x.cooldown.toNat - 1 := UInt16.toNat_sub_of_le _ _ hone
        refine ⟨hleft.idrEnabled, hleft.frameCount, hleft.warm, ?_, ?_⟩
        · intro hidr
          dsimp only
          rw [hsub, (hx.idr hidr).2.2]
          decide
        · intro hother
          dsimp only
          rw [hsub, (hx.other hother).2.2]
          omega

/-- An IDR is requested by an active detector, on a frame that is none. -/
theorem request_active {sd : SceneDetector} {s : Stream} (h : (update sd s).2 = true) :
    sd.warmupDone = true ∧ sd.idrEnabled = true ∧ sd.cooldown = 0 ∧ ¬Idr s := by
  rcases update_cases sd s with ⟨-, x, hx, -, hupdate⟩ | ⟨-, x, hx, -, hdetects⟩
  · rw [hupdate] at h
    cases h
  · generalize update sd s = r at hdetects h
    cases hdetects with
    | warmup | disabled | cooldown | expired | waiting | spike | calm => cases h
    | settled hactive =>
        have hother : ¬Idr s := fun hidr => absurd ((hx.idr hidr).2.2.symm.trans hactive.cool) (by decide)
        exact ⟨hx.warmupDone ▸ hactive.warm, hx.idrEnabled ▸ hactive.enabled,
          (hx.other hother).2.2 ▸ hactive.cool, hother⟩

/-- The average of an update lies between the one before and the new size, or is
the first size. -/
theorem update_ema (sd : SceneDetector) (s : Stream) :
    (counted sd = 1 ∧ (update sd s).1.emaSizeFp8.toNat = (frameSize s).toNat * 256) ∨
      counted sd ≠ 1 ∧ min sd.emaSizeFp8.toNat ((frameSize s).toNat * 256) ≤ (update sd s).1.emaSizeFp8.toNat ∧
        (update sd s).1.emaSizeFp8.toNat ≤ max sd.emaSizeFp8.toNat ((frameSize s).toNat * 256) := by
  have hshift := shiftLeft_eight (frameSize_le s)
  rcases update_cases sd s with ⟨hfirst, x, -, hema, hupdate⟩ | ⟨hfirst, x, -, hema, hdetects⟩
  · rw [hupdate]
    dsimp only
    rw [hema]
    exact .inl ⟨hfirst, hshift⟩
  · have hbetween := emaOf_between sd.emaSizeFp8 (frameSize s <<< 8)
    rw [hshift] at hbetween
    have hkept : (update sd s).1.emaSizeFp8 = emaOf sd.emaSizeFp8 (frameSize s <<< 8) := by
      generalize update sd s = r at hdetects
      cases hdetects with
      | warmup | disabled | cooldown | settled | expired | waiting | spike | calm => exact hema
    rw [hkept]
    exact .inr ⟨hfirst, hbetween⟩

structure Inv (threshold : UInt16) (frames : List Stream) (sd : SceneDetector) : Prop where
  enabled : sd.idrEnabled = decide (0 < threshold)
  counted : sd.frameCount.toNat ≤ frames.length
  started : sd.frameCount = 0 ↔ frames = []
  warm : sd.warmupDone = true → 9 ≤ frames.length
  cooling : ∀ k, ∀ g ∈ frames.drop (frames.length - k), Idr g → 30 ≤ sd.cooldown.toNat + k
  average : frames ≠ [] → ∃ lo ∈ frames, ∃ hi ∈ frames,
    (frameSize lo).toNat * 256 ≤ sd.emaSizeFp8.toNat ∧ sd.emaSizeFp8.toNat ≤ (frameSize hi).toNat * 256

theorem counted_toNat (sd : SceneDetector) :
    (SceneUpdate.counted sd).toNat ≤ sd.frameCount.toNat + 1 ∧ SceneUpdate.counted sd ≠ 0 ∧
      (SceneUpdate.counted sd = 1 ↔ sd.frameCount = 0) := by
  have hcount : SceneUpdate.counted sd = if sd.frameCount < 4294967295 then sd.frameCount + 1 else sd.frameCount := rfl
  rw [hcount]
  split
  next hless =>
    refine ⟨?_, by grind, by grind⟩
    rw [UInt32.toNat_add]
    exact Nat.mod_le _ _
  next hlast => exact ⟨Nat.le_succ _, by grind, by grind⟩

theorem step_inv {threshold : UInt16} {frames : List Stream} {sd : SceneDetector} (h : Inv threshold frames sd)
    (s : Stream) : Inv threshold (frames ++ [s]) (update sd s).1 := by
  have hleft := update_left sd s
  obtain ⟨hcount, hpos, hfirst⟩ := counted_toNat sd
  have hlen : (frames ++ [s]).length = frames.length + 1 := by rw [List.length_append, List.length_singleton]
  constructor
  · exact hleft.idrEnabled.trans h.enabled
  · rw [hleft.frameCount, hlen]
    exact Nat.le_trans hcount (Nat.succ_le_succ h.counted)
  · rw [hleft.frameCount]
    exact iff_of_false hpos (by simp)
  · intro hwarm
    rw [hlen]
    rcases hleft.warm hwarm with hbefore | hnow
    · exact Nat.le_succ_of_le (h.warm hbefore)
    · rw [UInt32.lt_iff_toNat_lt] at hnow
      change 8 < _ at hnow
      have hframes := h.counted
      omega
  · intro k g hg hidr
    cases k with
    | zero => simp at hg
    | succ k =>
        rw [hlen, Nat.add_sub_add_right, List.drop_append_of_le_length (Nat.sub_le _ _)] at hg
        by_cases hs : Idr s
        · have hcool := hleft.idr hs
          omega
        · have hcool := hleft.other hs
          rcases List.mem_append.mp hg with hold | hnew
          · have hbefore := h.cooling k g hold hidr
            omega
          · rw [List.mem_singleton.mp hnew] at hidr
            exact absurd hidr hs
  · intro _
    have hs : s ∈ frames ++ [s] := List.mem_append_right _ (List.mem_singleton_self s)
    rcases update_ema sd s with ⟨-, hsize⟩ | ⟨hlater, hlow, hhigh⟩
    · exact ⟨s, hs, s, hs, le_of_eq hsize.symm, le_of_eq hsize⟩
    · have hsome : frames ≠ [] := fun hnil => hlater (hfirst.mpr (h.started.mpr hnil))
      obtain ⟨lo, hlo, hi, hhi, hlow', hhigh'⟩ := h.average hsome
      have hlow'' : ∃ g ∈ frames ++ [s], (frameSize g).toNat * 256 ≤ (update sd s).1.emaSizeFp8.toNat := by
        rcases min_le_iff.mp hlow with hold | hnew
        · exact ⟨lo, List.mem_append_left _ hlo, Nat.le_trans hlow' hold⟩
        · exact ⟨s, hs, hnew⟩
      have hhigh'' : ∃ g ∈ frames ++ [s], (update sd s).1.emaSizeFp8.toNat ≤ (frameSize g).toNat * 256 := by
        rcases le_max_iff.mp hhigh with hold | hnew
        · exact ⟨hi, List.mem_append_left _ hhi, Nat.le_trans hold hhigh'⟩
        · exact ⟨s, hs, hnew⟩
      obtain ⟨g, hg, hlow⟩ := hlow''
      obtain ⟨g', hg', hhigh⟩ := hhigh''
      exact ⟨g, hg, g', hg', hlow, hhigh⟩

theorem watch_inv (threshold : UInt16) (holdoff : UInt8) (frames : List Stream) :
    Inv threshold frames (watch threshold holdoff frames) := by
  induction frames using List.reverseRecOn with
  | nil =>
      refine ⟨rfl, Nat.le_refl _, by simp [watch, sceneInit], ?_, by simp, by simp⟩
      simp [watch, sceneInit]
  | append_singleton frames s ih =>
      rw [watch_snoc]
      exact step_inv ih s

/-- No IDR is requested where none is wanted, every operation of an update is
exact, and the average lies between the sizes seen. -/
theorem scene_bounds (threshold : UInt16) (holdoff : UInt8) (frames : List Stream) (s : Stream)
    (h : ∀ g ∈ frames ++ [s], (packLengths g).sum < 2 ^ 32) :
    let sd := watch threshold holdoff frames
    ((update sd s).2 = true →
      threshold ≠ 0 ∧ 9 ≤ frames.length ∧ ¬Idr s ∧ ∀ g ∈ frames.drop (frames.length - 29), ¬Idr g) ∧
    sceneUpdate (m := Option) sd s = some (update sd s) ∧
    (∀ g ∈ frames ++ [s], (frameSize g).toNat = min (packLengths g).sum 4294967) ∧
    (∃ lo ∈ frames ++ [s], (frameSize lo).toNat * 256 ≤ (update sd s).1.emaSizeFp8.toNat) ∧
    ∃ hi ∈ frames ++ [s], (update sd s).1.emaSizeFp8.toNat ≤ (frameSize hi).toNat * 256 := by
  intro sd
  have hinv := watch_inv threshold holdoff frames
  obtain ⟨lo, hlo, hi, hhi, hlow, hhigh⟩ := (step_inv hinv s).average (by simp)
  refine ⟨?_, update_checked sd (h s (by simp)), ?_, ⟨lo, hlo, hlow⟩, hi, hhi, hhigh⟩
  · intro hrequest
    obtain ⟨hwarm, henabled, hcool, hother⟩ := request_active hrequest
    have hthreshold := of_decide_eq_true (hinv.enabled.symm.trans henabled)
    refine ⟨by grind, hinv.warm hwarm, hother, ?_⟩
    intro g hg hidr
    have hcooling := hinv.cooling 29 g hg hidr
    rw [hcool] at hcooling
    exact absurd hcooling (by decide)
  · intro g hg
    rw [frameSize, clampSize_toNat, (sceneFrameSize_checked (h g hg)).2]
    rfl

theorem scene_bounds_quiet :
    sceneUpdate (m := Option) (watch 150 2 [pFrame 1000]) (pFrame 4000) =
      some (update (watch 150 2 [pFrame 1000]) (pFrame 4000)) :=
  (scene_bounds 150 2 [pFrame 1000] (pFrame 4000) (by decide)).2.1

end WaybeamVenc.SceneBounds
