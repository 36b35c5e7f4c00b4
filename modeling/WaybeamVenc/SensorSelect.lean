import Mathlib.Data.Int.ConditionallyCompleteOrder
import Mathlib.Data.List.MinMax
import Mathlib.Data.Prod.Lex
import WaybeamVenc.GopTiming
import WaybeamVenc.PipelineGeometry
import WaybeamVenc.RunningBest

namespace WaybeamVenc.SensorSelect

open GopTiming (SensorMode sensorModeFpsSupported)
open PipelineGeometry (Rect Dim)

/-- MI_SNR_Res_t without its description. -/
structure SnrRes where
  crop : Rect
  output : Dim
  rates : SensorMode
deriving DecidableEq

structure SensorSelectConfig where
  forcedPad : Int32
  forcedMode : Int32
  targetWidth : UInt32
  targetHeight : UInt32
  targetFps : UInt32
deriving DecidableEq

/-- What MI_SNR_QueryResCount and MI_SNR_GetRes answer; none where they fail. -/
structure Sensors where
  queryResCount : Nat → Option UInt32
  getRes : Nat → Nat → Option SnrRes

def sensorModeScore (mode : SnrRes) (targetW targetH targetFps : UInt32) : Int :=
  let fit := targetW ≤ mode.crop.width.toUInt32 ∧ targetH ≤ mode.crop.height.toUInt32
  let fpsOk := sensorModeFpsSupported mode.rates targetFps
  if fpsOk ∧ fit then 3 else if fpsOk then 2 else if fit then 1 else 0

def gap (size : UInt16) (target : UInt32) : UInt64 :=
  if target < size.toUInt32 then (size.toUInt32 - target).toUInt64 else (target - size.toUInt32).toUInt64

def sensorModeCost (mode : SnrRes) (targetW targetH targetFps : UInt32) : UInt64 :=
  let dw := gap mode.crop.width targetW
  let dh := gap mode.crop.height targetH
  let resCost := dw * dw + dh * dh
  let fpsExcess := if 0 < targetFps ∧ targetFps < mode.rates.maxFps then (mode.rates.maxFps - targetFps).toUInt64 else 0
  (fpsExcess <<< 32) ||| (resCost &&& 0xFFFFFFFF)

/-- A mode that could be read, and where. -/
structure Candidate where
  pad : Nat
  index : Nat
  res : SnrRes
deriving DecidableEq

/-- The variables of the selection loop. -/
structure Best where
  bestClass : Int
  bestCost : UInt64
  bestPad : Nat
  bestIndex : Int32
  bestMode : SnrRes
deriving DecidableEq

def noMode : SnrRes := ⟨⟨0, 0, 0, 0⟩, ⟨0, 0⟩, ⟨0, 0⟩⟩

def unset : Best := ⟨-1, ~~~0, 0, -1, noMode⟩

section Loop

variable (cfg : SensorSelectConfig) (sensors : Sensors)

def scoreOf (mode : SnrRes) : Int := sensorModeScore mode cfg.targetWidth cfg.targetHeight cfg.targetFps

def costOf (mode : SnrRes) : UInt64 := sensorModeCost mode cfg.targetWidth cfg.targetHeight cfg.targetFps

def consider (best : Best) (c : Candidate) : Best :=
  let cls := scoreOf cfg c.res
  let cost := costOf cfg c.res
  if best.bestClass < cls ∨ cls = best.bestClass ∧ cost < best.bestCost then
    ⟨cls, cost, c.pad, Int32.ofNat c.index, c.res⟩
  else best

def visitMode (pad : Nat) (best : Best) (idx : Nat) : Best :=
  if 0 ≤ cfg.forcedMode ∧ Int32.ofNat idx ≠ cfg.forcedMode then best
  else
    match sensors.getRes pad idx with
    | none => best
    | some res => consider cfg best ⟨pad, idx, res⟩

def visitPad (best : Best) (pad : Nat) : Best :=
  match sensors.queryResCount pad with
  | none => best
  | some count => if count = 0 then best else (List.range count.toNat).foldl (visitMode cfg sensors pad) best

def pads : List Nat :=
  if 0 ≤ cfg.forcedPad ∧ cfg.forcedPad ≤ 3 then [cfg.forcedPad.toInt.toNat] else [0, 1, 2, 3]

/-- The pad, index and mode that find_best_mode hands out, none for its -1. -/
def findBestMode : Option (Nat × Int32 × SnrRes) :=
  let best := (pads cfg).foldl (visitPad cfg sensors) unset
  if best.bestIndex < 0 then none else some (best.bestPad, best.bestIndex, best.bestMode)

/-- The modes that can be read under the forced pad and mode. -/
structure Readable (c : Candidate) : Prop where
  pad_le : c.pad ≤ 3
  counted : ∃ count, sensors.queryResCount c.pad = some count ∧ c.index < count.toNat
  read : sensors.getRes c.pad c.index = some c.res
  forcedPad : 0 ≤ cfg.forcedPad → cfg.forcedPad ≤ 3 → (c.pad : Int) = cfg.forcedPad.toInt
  forcedMode : 0 ≤ cfg.forcedMode → (c.index : Int) = cfg.forcedMode.toInt

/-- How far maxFps is above the target; no target, no excess. -/
def excess (mode : SnrRes) : Nat := if cfg.targetFps = 0 then 0 else mode.rates.maxFps.toNat - cfg.targetFps.toNat

def distance (mode : SnrRes) : Nat :=
  ((mode.crop.width.toNat : Int) - cfg.targetWidth.toNat).natAbs ^ 2 +
    ((mode.crop.height.toNat : Int) - cfg.targetHeight.toNat).natAbs ^ 2

def Candidate.position (c : Candidate) : Nat ×ₗ Nat := toLex (c.pad, c.index)

/-- The two modes are alike in score and excess. -/
def Alike (c d : Candidate) : Prop := scoreOf cfg d.res = scoreOf cfg c.res ∧ excess cfg d.res = excess cfg c.res

structure Optimal (c : Candidate) : Prop where
  readable : Readable cfg sensors c
  best_score : ∀ d, Readable cfg sensors d → scoreOf cfg d.res ≤ scoreOf cfg c.res
  least_excess : ∀ d, Readable cfg sensors d → scoreOf cfg d.res = scoreOf cfg c.res → excess cfg c.res ≤ excess cfg d.res
  nearest : ∀ d, Readable cfg sensors d → Alike cfg c d → distance cfg c.res ≤ distance cfg d.res
  first : ∀ d, Readable cfg sensors d → Alike cfg c d → distance cfg d.res = distance cfg c.res → c.position ≤ d.position

end Loop

theorem gap_toNat (size : UInt16) (target : UInt32) :
    (gap size target).toNat = ((size.toNat : Int) - target.toNat).natAbs := by
  have hsize : size.toUInt32.toNat = size.toNat := rfl
  rw [gap]
  split_ifs with hlt
  · rw [UInt32.lt_iff_toNat_lt] at hlt
    rw [UInt32.toNat_toUInt64, UInt32.toNat_sub_of_le _ _ (UInt32.le_iff_toNat_le.mpr (by omega))]
    omega
  · rw [UInt32.lt_iff_toNat_lt] at hlt
    rw [UInt32.toNat_toUInt64, UInt32.toNat_sub_of_le _ _ (UInt32.le_iff_toNat_le.mpr (by omega))]
    omega

/-- The cost is the excess above the low 32 bits of the squared distance. -/
theorem costOf_toNat (cfg : SensorSelectConfig) (mode : SnrRes) :
    (costOf cfg mode).toNat = excess cfg mode * 4294967296 + distance cfg mode % 4294967296 := by
  have hexcess : (if 0 < cfg.targetFps ∧ cfg.targetFps < mode.rates.maxFps then
      (mode.rates.maxFps - cfg.targetFps).toUInt64 else 0).toNat = excess cfg mode := by
    have hzero : cfg.targetFps = 0 ↔ cfg.targetFps.toNat = 0 := UInt32.toNat_inj.symm
    rw [excess]
    simp only [UInt32.lt_iff_toNat_lt, hzero]
    split_ifs with habove hnone hnone
    · have hpos : 0 < cfg.targetFps.toNat := habove.1
      omega
    · rw [UInt32.toNat_toUInt64, UInt32.toNat_sub_of_le _ _ (UInt32.le_iff_toNat_le.mpr (Nat.le_of_lt habove.2))]
    · rfl
    · have hpos : (0 : UInt32).toNat = 0 := rfl
      have hnot : ¬ cfg.targetFps.toNat < mode.rates.maxFps.toNat := fun h => habove ⟨by omega, h⟩
      change 0 = _
      omega
  have hbound : excess cfg mode < 4294967296 := by
    have hmax : mode.rates.maxFps.toNat < 4294967296 := mode.rates.maxFps.toNat_lt
    rw [excess]
    split_ifs <;> omega
  rw [costOf, sensorModeCost]
  simp only [UInt64.toNat_or, UInt64.toNat_shiftLeft, hexcess, UInt64.toNat_and, UInt64.toNat_add, UInt64.toNat_mul, gap_toNat]
  rw [show (0xFFFFFFFF : UInt64).toNat = 2 ^ 32 - 1 by rfl, Nat.and_two_pow_sub_one_eq_mod,
    show (32 : UInt64).toNat % 64 = 32 by rfl]
  have hlow : ∀ n : Nat, n % 2 ^ 32 < 2 ^ 32 := fun n => Nat.mod_lt _ (by decide)
  have hshift : excess cfg mode <<< 32 % 2 ^ 64 = excess cfg mode <<< 32 := by
    rw [Nat.shiftLeft_eq]
    omega
  rw [hshift, ← Nat.shiftLeft_add_eq_or_of_lt (hlow _), Nat.shiftLeft_eq, distance, Nat.pow_two, Nat.pow_two]
  omega

theorem scoreOf_nonneg (cfg : SensorSelectConfig) (mode : SnrRes) : 0 ≤ scoreOf cfg mode := by
  rw [scoreOf, sensorModeScore]
  split_ifs <;> decide

section Candidates

variable (cfg : SensorSelectConfig) (sensors : Sensors)

def modeAt (pad idx : Nat) : Option Candidate :=
  if 0 ≤ cfg.forcedMode ∧ Int32.ofNat idx ≠ cfg.forcedMode then none
  else (sensors.getRes pad idx).map fun res => ⟨pad, idx, res⟩

def modesOf (pad : Nat) : List Candidate :=
  match sensors.queryResCount pad with
  | none => []
  | some count => (List.range count.toNat).filterMap (modeAt cfg sensors pad)

/-- The modes that the loop considers, in its order. -/
def candidates : List Candidate := (pads cfg).flatMap (modesOf cfg sensors)

theorem visitMode_eq (pad : Nat) (best : Best) (idx : Nat) :
    visitMode cfg sensors pad best idx =
      match modeAt cfg sensors pad idx with
      | some c => consider cfg best c
      | none => best := by
  rw [visitMode, modeAt]
  split_ifs with hskip
  · rfl
  · cases sensors.getRes pad idx with
    | none => rfl
    | some res => rfl

theorem visitPad_eq (best : Best) (pad : Nat) :
    visitPad cfg sensors best pad = (modesOf cfg sensors pad).foldl (consider cfg) best := by
  rw [visitPad, modesOf]
  cases sensors.queryResCount pad with
  | none => rfl
  | some count =>
      simp only [List.foldl_filterMap]
      split_ifs with hzero
      · rw [hzero]
        rfl
      · congr 1
        funext best idx
        rw [visitMode_eq]
        cases modeAt cfg sensors pad idx with
        | none => rfl
        | some c => rfl

/-- The variables of the loop when the best mode so far is known. -/
def showing : Option Candidate → Best
  | none => unset
  | some c => ⟨scoreOf cfg c.res, costOf cfg c.res, c.pad, Int32.ofNat c.index, c.res⟩

def rank (c : Candidate) : Int ×ₗ Nat := toLex (-scoreOf cfg c.res, (costOf cfg c.res).toNat)

theorem rank_lt_iff (c d : Candidate) :
    rank cfg c < rank cfg d ↔ scoreOf cfg d.res < scoreOf cfg c.res ∨
      scoreOf cfg c.res = scoreOf cfg d.res ∧ costOf cfg c.res < costOf cfg d.res := by
  rw [rank, rank, Prod.Lex.toLex_lt_toLex, UInt64.lt_iff_toNat_lt]
  simp only [neg_lt_neg_iff, neg_inj]

theorem loop_eq : (pads cfg).foldl (visitPad cfg sensors) unset =
    showing cfg ((candidates cfg sensors).argmin (rank cfg)) := by
  have hpads : visitPad cfg sensors = fun best pad => (modesOf cfg sensors pad).foldl (consider cfg) best := by
    funext best pad
    exact visitPad_eq cfg sensors best pad
  rw [hpads, ← List.foldl_flatMap]
  refine @RunningBest.foldl_eq_argmin _ _ _ _ (rank cfg) (showing cfg) (consider cfg) ?_ ?_ _
  · intro x
    have hscore : (-1 : Int) < scoreOf cfg x.res := lt_of_lt_of_le (by decide) (scoreOf_nonneg cfg x.res)
    exact if_pos (.inl hscore)
  · intro best x
    by_cases hlt : rank cfg x < rank cfg best
    · rw [if_pos hlt]
      exact if_pos ((rank_lt_iff cfg x best).mp hlt)
    · rw [if_neg hlt]
      exact if_neg fun h => hlt ((rank_lt_iff cfg x best).mpr h)

theorem mem_pads (pad : Nat) :
    pad ∈ pads cfg ↔ pad ≤ 3 ∧ (0 ≤ cfg.forcedPad → cfg.forcedPad ≤ 3 → (pad : Int) = cfg.forcedPad.toInt) := by
  rw [pads]
  simp only [Int32.le_iff_toInt_le, Int32.toInt_zero, show (3 : Int32).toInt = 3 by rfl]
  split_ifs with hforced
  · rw [List.mem_singleton]
    omega
  · simp only [List.mem_cons, List.not_mem_nil, or_false]
    omega

theorem ofNat_toInt {idx : Nat} (h : idx < 4294967296) :
    (Int32.ofNat idx).toInt = if idx < 2147483648 then (idx : Int) else idx - 4294967296 := by
  rw [Int32.toInt_ofNat']
  change Int.bmod idx 4294967296 = _
  rw [Int.bmod_def]
  split_ifs <;> omega

theorem ofNat_negative_iff {idx : Nat} (h : idx < 4294967296) : Int32.ofNat idx < 0 ↔ 2147483648 ≤ idx := by
  rw [Int32.lt_iff_toInt_lt, ofNat_toInt h, Int32.toInt_zero]
  split_ifs <;> omega

theorem forced_iff {forced : Int32} {idx : Nat} (h : idx < 4294967296) :
    ¬ (0 ≤ forced ∧ Int32.ofNat idx ≠ forced) ↔ (0 ≤ forced → (idx : Int) = forced.toInt) := by
  rw [Int32.le_iff_toInt_le, Int32.toInt_zero, ne_eq, ← Int32.toInt_inj, ofNat_toInt h]
  have hlt := forced.toInt_lt
  split_ifs <;> omega

theorem mem_candidates (c : Candidate) : c ∈ candidates cfg sensors ↔ Readable cfg sensors c := by
  rw [candidates, List.mem_flatMap]
  constructor
  · rintro ⟨pad, hpad, hmode⟩
    rw [modesOf] at hmode
    cases hcount : sensors.queryResCount pad with
    | none =>
        rw [hcount] at hmode
        cases hmode
    | some count =>
        rw [hcount] at hmode
        obtain ⟨idx, hidx, hat⟩ := List.mem_filterMap.mp hmode
        have hlt := List.mem_range.mp hidx
        have hbound : count.toNat < 4294967296 := count.toNat_lt
        rw [modeAt] at hat
        split_ifs at hat with hskip
        obtain ⟨res, hres, rfl⟩ := Option.map_eq_some_iff.mp hat
        obtain ⟨hle, hforced⟩ := (mem_pads cfg pad).mp hpad
        exact ⟨hle, ⟨count, hcount, hlt⟩, hres, hforced, (forced_iff (lt_trans hlt hbound)).mp hskip⟩
  · intro h
    obtain ⟨count, hcount, hlt⟩ := h.counted
    have hbound : count.toNat < 4294967296 := count.toNat_lt
    refine ⟨c.pad, (mem_pads cfg c.pad).mpr ⟨h.pad_le, h.forcedPad⟩, ?_⟩
    rw [modesOf, hcount]
    refine List.mem_filterMap.mpr ⟨c.index, List.mem_range.mpr hlt, ?_⟩
    rw [modeAt, if_neg ((forced_iff (by omega)).mpr h.forcedMode), h.read]
    rfl

theorem modeAt_position {pad idx : Nat} {c : Candidate} (h : modeAt cfg sensors pad idx = some c) :
    c.pad = pad ∧ c.index = idx := by
  rw [modeAt] at h
  split_ifs at h
  obtain ⟨res, -, rfl⟩ := Option.map_eq_some_iff.mp h
  exact ⟨rfl, rfl⟩

theorem modesOf_pad {pad : Nat} {c : Candidate} (h : c ∈ modesOf cfg sensors pad) : c.pad = pad := by
  rw [modesOf] at h
  cases hcount : sensors.queryResCount pad with
  | none =>
      rw [hcount] at h
      cases h
  | some count =>
      rw [hcount] at h
      obtain ⟨idx, -, hat⟩ := List.mem_filterMap.mp h
      exact (modeAt_position cfg sensors hat).1

theorem candidates_sorted : (candidates cfg sensors).Pairwise fun c d => c.position < d.position := by
  rw [candidates, List.pairwise_flatMap]
  constructor
  · intro pad _
    rw [modesOf]
    cases sensors.queryResCount pad with
    | none => exact List.Pairwise.nil
    | some count =>
        refine List.pairwise_filterMap.mpr (List.pairwise_lt_range.imp ?_)
        intro i j hij c hc d hd
        obtain ⟨hcpad, hcidx⟩ := modeAt_position cfg sensors hc
        obtain ⟨hdpad, hdidx⟩ := modeAt_position cfg sensors hd
        refine Prod.Lex.toLex_lt_toLex.mpr (.inr ⟨hcpad.trans hdpad.symm, ?_⟩)
        rw [hcidx, hdidx]
        exact hij
  · have hpads : (pads cfg).Pairwise (· < ·) := by
      rw [pads]
      split_ifs <;> simp
    refine hpads.imp ?_
    intro p q hpq c hc d hd
    refine Prod.Lex.toLex_lt_toLex.mpr (.inl ?_)
    rw [modesOf_pad cfg sensors hc, modesOf_pad cfg sensors hd]
    exact hpq

/-- The preference that the selection is for, with exact distances. -/
def preference (c : Candidate) : Int ×ₗ Nat ×ₗ Nat :=
  toLex (-scoreOf cfg c.res, toLex (excess cfg c.res, distance cfg c.res))

theorem preference_lt_iff (c d : Candidate) :
    preference cfg c < preference cfg d ↔ scoreOf cfg d.res < scoreOf cfg c.res ∨
      scoreOf cfg c.res = scoreOf cfg d.res ∧
        (excess cfg c.res < excess cfg d.res ∨
          excess cfg c.res = excess cfg d.res ∧ distance cfg c.res < distance cfg d.res) := by
  rw [preference, preference, Prod.Lex.toLex_lt_toLex, Prod.Lex.toLex_lt_toLex]
  simp only [neg_lt_neg_iff, neg_inj]

theorem preference_eq_iff (c d : Candidate) :
    preference cfg c = preference cfg d ↔ scoreOf cfg c.res = scoreOf cfg d.res ∧
      excess cfg c.res = excess cfg d.res ∧ distance cfg c.res = distance cfg d.res := by
  rw [preference, preference, toLex_inj, Prod.mk.injEq, toLex_inj, Prod.mk.injEq, neg_inj]

theorem optimal_iff (c : Candidate) :
    Optimal cfg sensors c ↔ c ∈ (candidates cfg sensors).argmin (preference cfg) := by
  rw [RunningBest.mem_argmin_iff_sorted (candidates_sorted cfg sensors)]
  simp only [mem_candidates, preference_lt_iff, preference_eq_iff]
  constructor
  · intro h
    refine ⟨h.readable, fun d hd => ?_⟩
    rcases lt_or_eq_of_le (h.best_score d hd) with hscore | hscore
    · exact .inl (.inl hscore)
    rcases lt_or_eq_of_le (h.least_excess d hd hscore) with hexcess | hexcess
    · exact .inl (.inr ⟨hscore.symm, .inl hexcess⟩)
    rcases lt_or_eq_of_le (h.nearest d hd ⟨hscore, hexcess.symm⟩) with hdistance | hdistance
    · exact .inl (.inr ⟨hscore.symm, .inr ⟨hexcess, hdistance⟩⟩)
    · exact .inr ⟨⟨hscore.symm, hexcess, hdistance⟩, h.first d hd ⟨hscore, hexcess.symm⟩ hdistance.symm⟩
  · rintro ⟨hread, hleast⟩
    constructor
    · exact hread
    · intro d hd
      have h := hleast d hd
      omega
    · intro d hd hscore
      have h := hleast d hd
      omega
    · rintro d hd ⟨hscore, hexcess⟩
      have h := hleast d hd
      omega
    · rintro d hd ⟨hscore, hexcess⟩ hdistance
      rcases hleast d hd with hlt | heq
      · omega
      · exact heq.2

theorem Optimal.unique {c d : Candidate} (hc : Optimal cfg sensors c) (hd : Optimal cfg sensors d) : c = d :=
  Option.mem_unique ((optimal_iff cfg sensors c).mp hc) ((optimal_iff cfg sensors d).mp hd)

/-- The optimum is what the loop ends with when no mode alike undercuts it in
the low 32 bits of the squared distance. -/
theorem kept_iff {c : Candidate} (h : Optimal cfg sensors c) :
    c ∈ (candidates cfg sensors).argmin (rank cfg) ↔
      ∀ d, Readable cfg sensors d → Alike cfg c d →
        distance cfg c.res % 4294967296 < distance cfg d.res % 4294967296 ∨
          distance cfg c.res % 4294967296 = distance cfg d.res % 4294967296 ∧ c.position ≤ d.position := by
  rw [RunningBest.mem_argmin_iff_sorted (candidates_sorted cfg sensors)]
  simp only [mem_candidates, rank_lt_iff, UInt64.lt_iff_toNat_lt, costOf_toNat]
  have hrank : ∀ d, rank cfg c = rank cfg d ↔ scoreOf cfg c.res = scoreOf cfg d.res ∧
      excess cfg c.res * 4294967296 + distance cfg c.res % 4294967296 =
        excess cfg d.res * 4294967296 + distance cfg d.res % 4294967296 := by
    intro d
    rw [rank, rank, toLex_inj, Prod.mk.injEq, neg_inj, costOf_toNat, costOf_toNat]
  have hlow : ∀ d : Candidate, distance cfg d.res % 4294967296 < 4294967296 := fun d => Nat.mod_lt _ (by decide)
  constructor
  · rintro ⟨-, hleast⟩ d hd ⟨hscore, hexcess⟩
    rcases hleast d hd with hlt | ⟨heq, hfirst⟩
    · rw [hscore, hexcess] at hlt
      exact .inl (by omega)
    · rw [hrank, hexcess] at heq
      exact .inr ⟨by omega, hfirst⟩
  · intro hleast
    refine ⟨h.readable, fun d hd => ?_⟩
    rcases lt_or_eq_of_le (h.best_score d hd) with hscore | hscore
    · exact .inl (.inl hscore)
    have hc := hlow c
    have hd' := hlow d
    rcases lt_or_eq_of_le (h.least_excess d hd hscore) with hexcess | hexcess
    · exact .inl (.inr ⟨hscore.symm, by omega⟩)
    rcases hleast d hd ⟨hscore, hexcess.symm⟩ with hlt | ⟨heq, hfirst⟩
    · exact .inl (.inr ⟨hscore.symm, by omega⟩)
    · exact .inr ⟨(hrank d).mpr ⟨hscore.symm, by omega⟩, hfirst⟩

theorem findBestMode_of_none (h : (candidates cfg sensors).argmin (rank cfg) = none) :
    findBestMode cfg sensors = none := by
  have hunset : (-1 : Int32) < 0 := by decide
  rw [findBestMode, loop_eq, h]
  exact if_pos hunset

theorem findBestMode_of_some {c : Candidate} (h : (candidates cfg sensors).argmin (rank cfg) = some c) :
    findBestMode cfg sensors =
      if c.index < 2147483648 then some (c.pad, Int32.ofNat c.index, c.res) else none := by
  obtain ⟨count, -, hlt⟩ := ((mem_candidates cfg sensors c).mp (List.argmin_mem h)).counted
  have hsize : c.index < 4294967296 := lt_trans hlt count.toNat_lt
  rw [findBestMode, loop_eq, h]
  simp only [showing, ofNat_negative_iff hsize]
  split_ifs with hneg hpos hpos
  · omega
  · rfl
  · rfl
  · omega

/-- find_best_mode fails exactly without a readable mode, and hands out the
optimum otherwise. -/
def Selects : Option (Nat × Int32 × SnrRes) → Prop
  | none => ∀ c, ¬ Readable cfg sensors c
  | some (pad, index, mode) => ∃ c, Optimal cfg sensors c ∧ pad = c.pad ∧ index.toInt = c.index ∧ mode = c.res

/-- The index is an int, and no mode alike undercuts this one once squared
distances lose what is above their low 32 bits. -/
structure Unwrapped (c : Candidate) : Prop where
  index_lt : c.index < 2147483648
  least : ∀ d, Readable cfg sensors d → Alike cfg c d →
    distance cfg c.res % 4294967296 < distance cfg d.res % 4294967296 ∨
      distance cfg c.res % 4294967296 = distance cfg d.res % 4294967296 ∧ c.position ≤ d.position

theorem optimal_exists {c : Candidate} (h : Readable cfg sensors c) : ∃ d, Optimal cfg sensors d := by
  cases hmin : (candidates cfg sensors).argmin (preference cfg) with
  | none =>
      rw [List.argmin_eq_none] at hmin
      have hmem := (mem_candidates cfg sensors c).mpr h
      rw [hmin] at hmem
      cases hmem
  | some d => exact ⟨d, (optimal_iff cfg sensors d).mpr hmin⟩

/-- The selection is right exactly when the optimum, if there is one, is not
undercut by a wrapped distance and has an index that an int can hold. -/
theorem selects_iff :
    Selects cfg sensors (findBestMode cfg sensors) ↔ ∀ c, Optimal cfg sensors c → Unwrapped cfg sensors c := by
  constructor
  · intro hselects c hc
    have hreadable := (mem_candidates cfg sensors c).mpr hc.readable
    cases hmin : (candidates cfg sensors).argmin (rank cfg) with
    | none =>
        rw [List.argmin_eq_none] at hmin
        rw [hmin] at hreadable
        cases hreadable
    | some kept =>
        rw [findBestMode_of_some cfg sensors hmin] at hselects
        split_ifs at hselects with hindex
        · obtain ⟨d, hd, hpad, hidx, hres⟩ := hselects
          have hkept : kept = d := by
            rw [Int32.toInt_ofNat_of_lt hindex] at hidx
            cases kept
            cases d
            simp only [Candidate.mk.injEq]
            exact ⟨hpad, Int.ofNat_inj.mp hidx, hres⟩
          have hsame : kept = c := hkept.trans (Optimal.unique cfg sensors hd hc)
          rw [hsame] at hmin hindex
          exact ⟨hindex, (kept_iff cfg sensors hc).mp hmin⟩
        · exact absurd hc.readable (hselects c)
  · intro hunwrapped
    by_cases hany : ∃ c, Readable cfg sensors c
    · obtain ⟨c, hc⟩ := hany
      obtain ⟨d, hd⟩ := optimal_exists cfg sensors hc
      have hkept := (kept_iff cfg sensors hd).mpr (hunwrapped d hd).least
      rw [findBestMode_of_some cfg sensors hkept, if_pos (hunwrapped d hd).index_lt]
      exact ⟨d, hd, rfl, Int32.toInt_ofNat_of_lt (hunwrapped d hd).index_lt, rfl⟩
    · have hnone : (candidates cfg sensors).argmin (rank cfg) = none := by
        rw [List.argmin_eq_none, List.eq_nil_iff_forall_not_mem]
        exact fun c hc => hany ⟨c, (mem_candidates cfg sensors c).mp hc⟩
      rw [findBestMode_of_none cfg sensors hnone]
      exact fun c hc => hany ⟨c, hc⟩

end Candidates

def mode (width : UInt16) : SnrRes := ⟨⟨0, 0, width, 1080⟩, ⟨width, 1080⟩, ⟨1, 30⟩⟩

/-- One pad with a mode of 1920 and one of 3840 columns. -/
def twoModes : Sensors :=
  ⟨fun pad => if pad = 0 then some 2 else none, fun _ idx => some (mode (if idx = 0 then 1920 else 3840))⟩

def wideTarget : SensorSelectConfig := ⟨-1, -1, 67456, 1080, 30⟩

/-- 65536 columns short of the target, the narrow mode costs nothing. -/
theorem distance_wraps :
    findBestMode wideTarget twoModes = some (0, 0, mode 1920) ∧
      distance wideTarget (mode 3840) < distance wideTarget (mode 1920) ∧
      ¬ Selects wideTarget twoModes (findBestMode wideTarget twoModes) := by
  have hfound : findBestMode wideTarget twoModes = some (0, 0, mode 1920) := by decide
  have hnearer : distance wideTarget (mode 3840) < distance wideTarget (mode 1920) := by decide
  refine ⟨hfound, hnearer, ?_⟩
  rw [hfound]
  rintro ⟨c, hc, -, -, hres⟩
  have hread : Readable wideTarget twoModes ⟨0, 1, mode 3840⟩ :=
    ⟨by decide, ⟨2, rfl, by decide⟩, rfl, fun h => absurd h (by decide), fun h => absurd h (by decide)⟩
  have hle := hc.nearest ⟨0, 1, mode 3840⟩ hread
  rw [Alike, ← hres] at hle
  exact absurd hnearer (not_lt_of_ge (hle (by decide)))

end WaybeamVenc.SensorSelect
