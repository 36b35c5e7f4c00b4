import Mathlib.Data.List.Basic

namespace WaybeamVenc.DirectMapped

variable {K V I : Type}

/-- A table with one place for each index. -/
abbrev Table (I V : Type) := I → Option V

variable (index : K → I) (key : V → K)

def store [DecidableEq I] (t : Table I V) (v : V) : Table I V := fun i => if i = index (key v) then some v else t i

def lookup [DecidableEq K] (t : Table I V) (k : K) : Option V := (t (index k)).filter fun v => key v = k

/-- A place holds the last value that was stored there. -/
theorem foldl_store [DecidableEq I] (vs : List V) (t : Table I V) (i : I) :
    vs.foldl (store index key) t i = ((vs.filter fun v => index (key v) = i).getLast?).or (t i) := by
  induction vs generalizing t with
  | nil => rfl
  | cons v vs ih =>
      simp only [List.foldl_cons, ih, store]
      by_cases h : index (key v) = i
      · simp only [List.filter_cons, h, decide_true, if_true, List.getLast?_cons]
        cases (vs.filter fun v => index (key v) = i).getLast? <;> simp
      · simp [h, Ne.symm h]

/-- What is found for a key is the last value stored in its place, if that one
has the key. -/
theorem lookup_foldl_store [DecidableEq K] [DecidableEq I] (vs : List V) (k : K) :
    lookup index key (vs.foldl (store index key) fun _ => none) k =
      ((vs.filter fun v => index (key v) = index k).getLast?).filter fun v => key v = k := by
  rw [lookup, foldl_store, Option.or_none]

theorem key_of_lookup [DecidableEq K] {t : Table I V} {k : K} {v : V} (h : lookup index key t k = some v) : key v = k := by
  simpa using (Option.filter_eq_some_iff.mp h).2

end WaybeamVenc.DirectMapped
