import Mathlib.Tactic.SplitIfs
import Mathlib.Tactic.Tauto

namespace WaybeamVenc.H26x

inductive PayloadType
  | h264
  | h265
deriving DecidableEq

/-- The first loop of h26x_util_strip_start_code. -/
def stripLong : List UInt8 → List UInt8
  | 0x00 :: 0x00 :: 0x00 :: 0x01 :: data => stripLong data
  | data => data

/-- Its second loop. -/
def stripShort : List UInt8 → List UInt8
  | 0x00 :: 0x00 :: 0x01 :: data => stripShort data
  | data => data

def h26xUtilStripStartCode (data : List UInt8) : List UInt8 := stripShort (stripLong data)

def h26xUtilH264NaluType : List UInt8 → UInt8
  | [] => 0
  | b0 :: _ => b0 &&& 0x1F

def h26xUtilHevcNaluType : List UInt8 → UInt8
  | [] => 0
  | b0 :: _ => (b0 >>> 1) &&& 0x3F

def h26xUtilHevcGetLayerId : List UInt8 → UInt8
  | b0 :: b1 :: _ => ((b0 &&& 0x01) <<< 5) ||| (b1 >>> 3)
  | _ => 0

def h26xUtilHevcGetTidPlus1 : List UInt8 → UInt8
  | _ :: b1 :: _ => b1 &&& 0x07
  | _ => 1

/-- The cached parameter sets; an empty one is not cached. -/
structure H26xParamSets where
  vps : List UInt8
  sps : List UInt8
  pps : List UInt8
deriving DecidableEq

def h26xParamSetsStore (cap : Nat) (dst src : List UInt8) : List UInt8 :=
  if src.length = 0 ∨ cap ≤ src.length then dst else src

def h26xParamSetsUpdate (sets : H26xParamSets) (codec : PayloadType) (nalType : UInt8) (nal : List UInt8) :
    H26xParamSets :=
  if nal.length = 0 then sets
  else
    match codec with
    | .h265 =>
      if nalType = 32 then { sets with vps := h26xParamSetsStore 256 sets.vps nal }
      else if nalType = 33 then { sets with sps := h26xParamSetsStore 512 sets.sps nal }
      else if nalType = 34 then { sets with pps := h26xParamSetsStore 512 sets.pps nal }
      else sets
    | .h264 =>
      if nalType = 7 then { sets with sps := h26xParamSetsStore 512 sets.sps nal }
      else if nalType = 8 then { sets with pps := h26xParamSetsStore 512 sets.pps nal }
      else sets

/-- One reference more, if the set is cached and there is room for it. -/
def addRef (refs : List (List UInt8)) (set : List UInt8) (maxRefs : Nat) : List (List UInt8) :=
  if set.length ≠ 0 ∧ refs.length < maxRefs then refs ++ [set] else refs

def h26xParamSetsGetPrepend (sets : H26xParamSets) (codec : PayloadType) (nalType : UInt8) (maxRefs : Nat) :
    List (List UInt8) :=
  if maxRefs = 0 then []
  else
    match codec with
    | .h265 =>
      if nalType = 19 ∨ nalType = 20 then
        addRef (addRef (addRef [] sets.vps maxRefs) sets.sps maxRefs) sets.pps maxRefs
      else []
    | .h264 => if nalType = 5 then addRef (addRef [] sets.sps maxRefs) sets.pps maxRefs else []

def H26xParamSets.cached (sets : H26xParamSets) : List (List UInt8) :=
  [sets.vps, sets.sps, sets.pps].filter (· ≠ [])

theorem addRef_eq (refs : List (List UInt8)) (set : List UInt8) {maxRefs : Nat} (h : refs.length < maxRefs) :
    addRef refs set maxRefs = refs ++ [set].filter (· ≠ []) := by
  cases set with
  | nil => simp [addRef]
  | cons b set => simp [addRef, h]

/-- Every cached set goes before a key picture and nothing before any other. -/
theorem getPrepend_eq (sets : H26xParamSets) (nalType : UInt8) :
    h26xParamSetsGetPrepend sets .h265 nalType 3 = if nalType = 19 ∨ nalType = 20 then sets.cached else [] := by
  have hfilter (set : List UInt8) : ([set].filter (· ≠ [])).length ≤ 1 := List.length_filter_le _ [set]
  have hvps : addRef [] sets.vps 3 = [sets.vps].filter (· ≠ []) := addRef_eq [] sets.vps (by decide)
  have hsps : addRef ([sets.vps].filter (· ≠ [])) sets.sps 3 =
      [sets.vps].filter (· ≠ []) ++ [sets.sps].filter (· ≠ []) :=
    addRef_eq _ sets.sps (Nat.lt_of_le_of_lt (hfilter sets.vps) (by decide))
  have hroom : ([sets.vps].filter (· ≠ []) ++ [sets.sps].filter (· ≠ [])).length < 3 := by
    have h1 := hfilter sets.vps
    have h2 := hfilter sets.sps
    rw [List.length_append]
    omega
  have hpps := addRef_eq ([sets.vps].filter (· ≠ []) ++ [sets.sps].filter (· ≠ [])) sets.pps hroom
  rw [h26xParamSetsGetPrepend, if_neg (by decide)]
  change (if nalType = 19 ∨ nalType = 20 then _ else _) = _
  rw [hvps, hsps, hpps, ← List.filter_append, ← List.filter_append]
  rfl

theorem mem_cached {sets : H26xParamSets} {set : List UInt8} :
    set ∈ sets.cached ↔ (set = sets.vps ∨ set = sets.sps ∨ set = sets.pps) ∧ set ≠ [] := by
  simp [H26xParamSets.cached]

theorem store_eq (cap : Nat) (dst src : List UInt8) :
    h26xParamSetsStore cap dst src = dst ∨ h26xParamSetsStore cap dst src = src := by
  rw [h26xParamSetsStore]
  split
  · exact Or.inl rfl
  · exact Or.inr rfl

/-- What is cached after an update was cached before or is the unit itself. -/
theorem update_cached {sets : H26xParamSets} {nalType : UInt8} {nal set : List UInt8}
    (h : set ∈ (h26xParamSetsUpdate sets .h265 nalType nal).cached) : set ∈ sets.cached ∨ set = nal := by
  by_cases hnal : nal.length = 0
  · rw [h26xParamSetsUpdate, if_pos hnal] at h
    exact Or.inl h
  · rw [h26xParamSetsUpdate, if_neg hnal] at h
    simp only [mem_cached] at h ⊢
    obtain ⟨hset, hne⟩ := h
    split_ifs at hset with hvps hsps hpps
    · rcases store_eq 256 sets.vps nal with heq | heq <;> rw [heq] at hset <;> tauto
    · rcases store_eq 512 sets.sps nal with heq | heq <;> rw [heq] at hset <;> tauto
    · rcases store_eq 512 sets.pps nal with heq | heq <;> rw [heq] at hset <;> tauto
    · exact Or.inl ⟨hset, hne⟩

def isKeyNal (codec : PayloadType) (nalType : UInt8) : Prop :=
  match codec with
  | .h265 => nalType = 19 ∨ nalType = 20
  | .h264 => nalType = 5

instance (codec : PayloadType) (nalType : UInt8) : Decidable (isKeyNal codec nalType) := by
  cases codec
  · exact inferInstanceAs (Decidable (nalType = 5))
  · exact inferInstanceAs (Decidable (nalType = 19 ∨ nalType = 20))

def H26xParamSets.cachedFor (sets : H26xParamSets) : PayloadType → List (List UInt8)
  | .h265 => sets.cached
  | .h264 => [sets.sps, sets.pps].filter (· ≠ [])

theorem getPrepend_cachedFor (sets : H26xParamSets) (codec : PayloadType) (nalType : UInt8) :
    h26xParamSetsGetPrepend sets codec nalType 3 = if isKeyNal codec nalType then sets.cachedFor codec else [] := by
  cases codec with
  | h265 => exact getPrepend_eq sets nalType
  | h264 =>
      have hsps : addRef [] sets.sps 3 = [sets.sps].filter (· ≠ []) := addRef_eq [] sets.sps (by decide)
      have hroom : ([sets.sps].filter (· ≠ [])).length < 3 :=
        Nat.lt_of_le_of_lt (List.length_filter_le _ [sets.sps]) (show 1 < 3 by decide)
      rw [h26xParamSetsGetPrepend, if_neg (by decide)]
      change (if nalType = 5 then _ else _) = _
      rw [hsps, addRef_eq _ sets.pps hroom, ← List.filter_append]
      rfl

theorem mem_cachedFor {sets : H26xParamSets} {codec : PayloadType} {set : List UInt8} (h : set ∈ sets.cachedFor codec) :
    set ≠ [] := by
  cases codec with
  | h265 => exact (mem_cached.1 h).2
  | h264 => exact of_decide_eq_true (List.mem_filter.1 h).2

theorem update_cachedFor {sets : H26xParamSets} {codec : PayloadType} {nalType : UInt8} {nal set : List UInt8}
    (h : set ∈ (h26xParamSetsUpdate sets codec nalType nal).cachedFor codec) :
    set ∈ sets.cachedFor codec ∨ set = nal := by
  cases codec with
  | h265 => exact update_cached h
  | h264 =>
      by_cases hnal : nal.length = 0
      · rw [h26xParamSetsUpdate, if_pos hnal] at h
        exact Or.inl h
      · rw [h26xParamSetsUpdate, if_neg hnal] at h
        simp only [H26xParamSets.cachedFor, List.mem_filter, List.mem_cons, List.not_mem_nil, or_false,
          decide_eq_true_eq] at h ⊢
        obtain ⟨hset, hne⟩ := h
        split_ifs at hset with hsps hpps
        · rcases store_eq 512 sets.sps nal with heq | heq <;> rw [heq] at hset <;> tauto
        · rcases store_eq 512 sets.pps nal with heq | heq <;> rw [heq] at hset <;> tauto
        · exact Or.inl ⟨hset, hne⟩

end WaybeamVenc.H26x
