import WaybeamVenc.IdrAgreement
import WaybeamVenc.Runs

namespace WaybeamVenc.SceneUpdate

open RtpPacketizer H26x IdrAgreement Runs

/-- The operations on 32-bit words, with what becomes of a result that is none. -/
class Word (m : Type → Type) where
  add : UInt32 → UInt32 → m UInt32
  sub : UInt32 → UInt32 → m UInt32
  mul : UInt32 → UInt32 → m UInt32
  div : UInt32 → UInt32 → m UInt32
  shiftLeft : UInt32 → UInt32 → m UInt32
  toUInt8 : UInt32 → m UInt8

/-- As the machine does them. -/
instance : Word Id where
  add x y := x + y
  sub x y := x - y
  mul x y := x * y
  div x y := x / y
  shiftLeft x k := x <<< k
  toUInt8 x := x.toUInt8

/-- Only as far as they are exact. -/
instance : Word Option where
  add x y := if x.toNat + y.toNat < 2 ^ 32 then some (x + y) else none
  sub x y := if y ≤ x then some (x - y) else none
  mul x y := if x.toNat * y.toNat < 2 ^ 32 then some (x * y) else none
  div x y := if y = 0 then none else some (x / y)
  shiftLeft x k := if x.toNat * 2 ^ k.toNat < 2 ^ 32 then some (x <<< k) else none
  toUInt8 x := if x < 256 then some x.toUInt8 else none

structure ScenePack extends StreamPack where
  length : UInt32

/-- The stream of one frame, none where it has no packets. -/
structure Stream where
  packet : Option (List ScenePack)
  codec : PayloadType

structure SceneDetector where
  emaSizeFp8 : UInt32
  frameCount : UInt32
  lastFrameSize : UInt32
  lastFrameType : UInt8
  cooldown : UInt16
  settleCount : UInt16
  spikePending : Bool
  idrInserted : Bool
  complexity : UInt8
  sceneChange : Bool
  framesSinceIdr : UInt16
  threshold : UInt16
  holdoff : UInt8
  consecutiveSpikes : UInt8
  idrEnabled : Bool
  warmupDone : Bool
deriving DecidableEq

def sceneInit (threshold : UInt16) (holdoff : UInt8) : SceneDetector where
  emaSizeFp8 := 0
  frameCount := 0
  lastFrameSize := 0
  lastFrameType := 0
  cooldown := 0
  settleCount := 0
  spikePending := false
  idrInserted := false
  complexity := 0
  sceneChange := false
  framesSinceIdr := 0
  threshold := if 0 < threshold then threshold else 150
  holdoff := if 0 < holdoff then holdoff else 2
  consecutiveSpikes := 0
  idrEnabled := decide (0 < threshold)
  warmupDone := false

section

variable {m : Type → Type} [Monad m] [Word m]

def sceneFrameSize (s : Stream) : m UInt32 :=
  match s.packet with
  | none => pure 0
  | some packs => packs.foldlM (fun t pack => Word.add t pack.length) 0

def emaStep (ema sizeFp8 : UInt32) : m UInt32 :=
  if ema < sizeFp8 then do
    let diff ← Word.sub sizeFp8 ema
    Word.add ema (diff >>> 4)
  else do
    let diff ← Word.sub ema sizeFp8
    Word.sub ema (diff >>> 4)

def ratioX100 (size emaSize : UInt32) : m UInt32 :=
  if 0 < emaSize then do
    let scaled ← Word.mul size 100
    Word.div scaled emaSize
  else pure 100

def complexity (ratio : UInt32) : m UInt8 :=
  if ratio ≤ 50 then do
    let scaled ← Word.mul ratio 128
    let c ← Word.div scaled 100
    Word.toUInt8 c
  else if 300 ≤ ratio then Word.toUInt8 255
  else do
    let above ← Word.sub ratio 50
    let scaled ← Word.mul above 191
    let part ← Word.div scaled 250
    let c ← Word.add 64 part
    Word.toUInt8 c

end

def streamType (s : Stream) : UInt8 := sceneFrameType ((s.packet.getD []).map (·.toStreamPack)) s.codec

def clampSize (size : UInt32) : UInt32 := if 4294967295 / 1000 < size then 4294967295 / 1000 else size

/-- What an update does before it looks at the sizes. -/
def noteFrame (sd : SceneDetector) (size : UInt32) (ftype : UInt8) (frameCount : UInt32) : SceneDetector :=
  let sd := { sd with
    lastFrameSize := size
    lastFrameType := ftype
    frameCount := frameCount
    idrInserted := false
    sceneChange := false }
  if ftype = encFrameIdr then
    { sd with framesSinceIdr := 0, spikePending := false, settleCount := 0, consecutiveSpikes := 0, cooldown := 30 }
  else { sd with framesSinceIdr := if sd.framesSinceIdr < 65535 then sd.framesSinceIdr + 1 else sd.framesSinceIdr }

/-- The rest of an update, once the ratio is there, and whether it requests an
IDR. -/
def detect (sd : SceneDetector) (ratio : UInt32) : SceneDetector × Bool :=
  if ¬sd.warmupDone then ({ sd with warmupDone := decide (8 < sd.frameCount) }, false)
  else if ¬sd.idrEnabled then (sd, false)
  else if 0 < sd.cooldown then ({ sd with cooldown := sd.cooldown - 1 }, false)
  else if sd.spikePending then
    if ratio ≤ 120 then
      ({ sd with spikePending := false, settleCount := 0, sceneChange := true, idrInserted := true }, true)
    else
      let settleCount := sd.settleCount + 1
      if 30 < settleCount then ({ sd with spikePending := false, settleCount := 0 }, false)
      else ({ sd with settleCount := settleCount }, false)
  else if sd.threshold.toUInt32 ≤ ratio then
    let consecutiveSpikes := sd.consecutiveSpikes + 1
    ({ sd with
        consecutiveSpikes := consecutiveSpikes
        spikePending := decide (sd.holdoff ≤ consecutiveSpikes) }, false)
  else ({ sd with consecutiveSpikes := 0 }, false)

section

variable {m : Type → Type} [Monad m] [Word m]

def countFrame (frameCount : UInt32) : m UInt32 :=
  if frameCount < 4294967295 then Word.add frameCount 1 else pure frameCount

def compareFrame (sd : SceneDetector) (size sizeFp8 : UInt32) : m (SceneDetector × Bool) := do
  let ema ← emaStep sd.emaSizeFp8 sizeFp8
  let ratio ← ratioX100 size (ema >>> 8)
  let c ← complexity ratio
  pure (detect { sd with emaSizeFp8 := ema, complexity := c } ratio)

/-- The new detector, and whether MI_VENC_RequestIdr was called. -/
def sceneUpdate (sd : SceneDetector) (s : Stream) : m (SceneDetector × Bool) := do
  let total ← sceneFrameSize s
  let size := clampSize total
  let sizeFp8 ← Word.shiftLeft size 8
  let frameCount ← countFrame sd.frameCount
  let sd := noteFrame sd size (streamType s) frameCount
  if sd.frameCount = 1 then pure ({ sd with emaSizeFp8 := sizeFp8 }, false) else compareFrame sd size sizeFp8

end

/-! One update on the machine. -/

def frameSize (s : Stream) : UInt32 := clampSize (sceneFrameSize (m := Id) s)

def counted (sd : SceneDetector) : UInt32 := countFrame (m := Id) sd.frameCount

def noted (sd : SceneDetector) (s : Stream) : SceneDetector := noteFrame sd (frameSize s) (streamType s) (counted sd)

def emaOf (ema sizeFp8 : UInt32) : UInt32 := emaStep (m := Id) ema sizeFp8

def ratioOf (size emaSize : UInt32) : UInt32 := ratioX100 (m := Id) size emaSize

def complexityOf (ratio : UInt32) : UInt8 := complexity (m := Id) ratio

def newEma (sd : SceneDetector) (s : Stream) : UInt32 := emaOf sd.emaSizeFp8 (frameSize s <<< 8)

def frameRatio (sd : SceneDetector) (s : Stream) : UInt32 := ratioOf (frameSize s) (newEma sd s >>> 8)

def update (sd : SceneDetector) (s : Stream) : SceneDetector × Bool := sceneUpdate (m := Id) sd s

theorem noteFrame_emaSizeFp8 (sd : SceneDetector) (size : UInt32) (ftype : UInt8) (frameCount : UInt32) :
    (noteFrame sd size ftype frameCount).emaSizeFp8 = sd.emaSizeFp8 := by
  rw [noteFrame]
  split <;> rfl

theorem noteFrame_frameCount (sd : SceneDetector) (size : UInt32) (ftype : UInt8) (frameCount : UInt32) :
    (noteFrame sd size ftype frameCount).frameCount = frameCount := by
  rw [noteFrame]
  split <;> rfl

theorem compareFrame_eq (sd : SceneDetector) (size sizeFp8 : UInt32) :
    compareFrame (m := Id) sd size sizeFp8 =
      let ratio := ratioOf size (emaOf sd.emaSizeFp8 sizeFp8 >>> 8)
      detect { sd with emaSizeFp8 := emaOf sd.emaSizeFp8 sizeFp8, complexity := complexityOf ratio } ratio := rfl

/-- The first frame starts the average, every other one is compared with it. -/
theorem update_eq (sd : SceneDetector) (s : Stream) : update sd s =
    if counted sd = 1 then ({ noted sd s with emaSizeFp8 := frameSize s <<< 8 }, false)
    else detect { noted sd s with
      emaSizeFp8 := newEma sd s, complexity := complexityOf (frameRatio sd s) } (frameRatio sd s) := by
  have hrun : update sd s = if (noted sd s).frameCount = 1 then ({ noted sd s with emaSizeFp8 := frameSize s <<< 8 }, false)
      else compareFrame (m := Id) (noted sd s) (frameSize s) (frameSize s <<< 8) := rfl
  have hema : (noted sd s).emaSizeFp8 = sd.emaSizeFp8 := noteFrame_emaSizeFp8 _ _ _ _
  have hframes : (noted sd s).frameCount = counted sd := noteFrame_frameCount _ _ _ _
  rw [hrun, hframes, compareFrame_eq, hema]
  rfl

def pFrame (length : UInt32) : Stream where
  packet := some [{
    data := none
    offset := 0
    packNum := 0
    packetInfo := Vector.replicate 8 ⟨1, 0, 0⟩
    naluType := 1
    length := length }]
  codec := .h265

/-! What an update can do. -/

/-- Neither warm-up nor cooldown, and IDRs are to be requested. -/
structure Active (sd : SceneDetector) : Prop where
  warm : sd.warmupDone = true
  enabled : sd.idrEnabled = true
  cool : sd.cooldown = 0

/-- The rest of an update, by its branches. -/
inductive Detects (sd : SceneDetector) (ratio : UInt32) : SceneDetector × Bool → Prop
  | warmup (h : sd.warmupDone = false) : Detects sd ratio ({ sd with warmupDone := decide (8 < sd.frameCount) }, false)
  | disabled (h : sd.idrEnabled = false) : Detects sd ratio (sd, false)
  | cooldown (h : 0 < sd.cooldown) : Detects sd ratio ({ sd with cooldown := sd.cooldown - 1 }, false)
  | settled (hactive : Active sd) (hpending : sd.spikePending = true) :
      Detects sd ratio
        ({ sd with spikePending := false, settleCount := 0, sceneChange := true, idrInserted := true }, true)
  | expired (hactive : Active sd) (hpending : sd.spikePending = true) :
      Detects sd ratio ({ sd with spikePending := false, settleCount := 0 }, false)
  | waiting (hactive : Active sd) (hpending : sd.spikePending = true) :
      Detects sd ratio ({ sd with settleCount := sd.settleCount + 1 }, false)
  | spike (hactive : Active sd) (hpending : sd.spikePending = false) (hratio : sd.threshold.toUInt32 ≤ ratio) :
      Detects sd ratio ({ sd with
        consecutiveSpikes := sd.consecutiveSpikes + 1
        spikePending := decide (sd.holdoff ≤ sd.consecutiveSpikes + 1) }, false)
  | calm (hactive : Active sd) (hpending : sd.spikePending = false) :
      Detects sd ratio ({ sd with consecutiveSpikes := 0 }, false)

theorem detect_detects (sd : SceneDetector) (ratio : UInt32) : Detects sd ratio (detect sd ratio) := by
  rw [detect]
  by_cases hwarm : sd.warmupDone
  · rw [if_neg (not_not_intro hwarm)]
    by_cases henabled : sd.idrEnabled
    · rw [if_neg (not_not_intro henabled)]
      by_cases hcool : 0 < sd.cooldown
      · rw [if_pos hcool]
        exact .cooldown hcool
      · rw [if_neg hcool]
        have hzero : sd.cooldown = 0 := by
          rw [UInt16.lt_iff_toNat_lt] at hcool
          exact UInt16.toNat_inj.mp (Nat.eq_zero_of_not_pos hcool)
        have hactive : Active sd := ⟨hwarm, henabled, hzero⟩
        by_cases hpending : sd.spikePending
        · rw [if_pos hpending]
          split
          · exact .settled hactive hpending
          · dsimp only
            split
            · exact .expired hactive hpending
            · exact .waiting hactive hpending
        · rw [if_neg hpending]
          split
          next hratio => exact .spike hactive (Bool.eq_false_of_not_eq_true hpending) hratio
          next => exact .calm hactive (Bool.eq_false_of_not_eq_true hpending)
    · rw [if_pos henabled]
      exact .disabled (Bool.eq_false_of_not_eq_true henabled)
  · rw [if_pos hwarm]
    exact .warmup (Bool.eq_false_of_not_eq_true hwarm)

/-- A detector as an update finds it when it looks at the sizes. -/
structure Noted (sd : SceneDetector) (s : Stream) (x : SceneDetector) : Prop where
  threshold : x.threshold = sd.threshold
  holdoff : x.holdoff = sd.holdoff
  idrEnabled : x.idrEnabled = sd.idrEnabled
  warmupDone : x.warmupDone = sd.warmupDone
  frameCount : x.frameCount = counted sd
  idr : streamType s = encFrameIdr → x.spikePending = false ∧ x.consecutiveSpikes = 0 ∧ x.cooldown = 30
  other : streamType s ≠ encFrameIdr →
    x.spikePending = sd.spikePending ∧ x.consecutiveSpikes = sd.consecutiveSpikes ∧ x.cooldown = sd.cooldown

theorem noted_spec (sd : SceneDetector) (s : Stream) : Noted sd s (noted sd s) := by
  rw [noted, noteFrame]
  split
  next hidr => exact ⟨rfl, rfl, rfl, rfl, rfl, fun _ => ⟨rfl, rfl, rfl⟩, fun h => absurd hidr h⟩
  next hother => exact ⟨rfl, rfl, rfl, rfl, rfl, fun h => absurd h hother, fun _ => ⟨rfl, rfl, rfl⟩⟩

theorem Noted.withEma {sd : SceneDetector} {s : Stream} {x : SceneDetector} (h : Noted sd s x) (ema : UInt32) (c : UInt8) :
    Noted sd s { x with emaSizeFp8 := ema, complexity := c } :=
  ⟨h.threshold, h.holdoff, h.idrEnabled, h.warmupDone, h.frameCount, h.idr, h.other⟩

/-- The first frame changes no more than what is noted, every other one is
looked at. -/
theorem update_cases (sd : SceneDetector) (s : Stream) :
    (counted sd = 1 ∧ ∃ x, Noted sd s x ∧ x.emaSizeFp8 = frameSize s <<< 8 ∧ update sd s = (x, false)) ∨
      counted sd ≠ 1 ∧ ∃ x, Noted sd s x ∧ x.emaSizeFp8 = newEma sd s ∧ Detects x (frameRatio sd s) (update sd s) := by
  rw [update_eq]
  by_cases hfirst : counted sd = 1
  · rw [if_pos hfirst]
    exact .inl ⟨hfirst, _, (noted_spec sd s).withEma _ (noted sd s).complexity, rfl, rfl⟩
  · rw [if_neg hfirst]
    exact .inr ⟨hfirst, _, (noted_spec sd s).withEma _ _, rfl, detect_detects _ _⟩

end WaybeamVenc.SceneUpdate
