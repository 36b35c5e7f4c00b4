import Mathlib.Data.List.Basic

namespace WaybeamVenc.Search

variable {α : Type} [DecidableEq α]

def search (pat : List α) : List α → Option Nat
  | [] => if pat = [] then some 0 else none
  | a :: s => if pat <+: a :: s then some 0 else (search pat s).map (· + 1)

variable {pat s : List α} {k : Nat}

theorem search_at (h : search pat s = some k) : pat <+: s.drop k := by
  induction s generalizing k with
  | nil =>
    rw [search] at h
    split at h
    · next hnil =>
      rw [hnil]
      exact List.nil_prefix
    · cases h
  | cons a s ih =>
    rw [search] at h
    split at h
    · next hfound =>
      cases h
      exact hfound
    · obtain ⟨j, hj, rfl⟩ := Option.map_eq_some_iff.1 h
      exact ih hj

theorem search_length (h : search pat s = some k) : k + pat.length ≤ s.length := by
  induction s generalizing k with
  | nil =>
    rw [search] at h
    split at h
    · next hnil =>
      cases h
      rw [hnil]
      exact Nat.le_refl 0
    · cases h
  | cons a s ih =>
    rw [search] at h
    split at h
    · next hfound =>
      cases h
      rw [Nat.zero_add]
      exact hfound.length_le
    · obtain ⟨j, hj, rfl⟩ := Option.map_eq_some_iff.1 h
      have hlen := ih hj
      rw [List.length_cons]
      omega

theorem search_first (h : pat <+: s.drop k) : ∃ j, j ≤ k ∧ search pat s = some j := by
  induction s generalizing k with
  | nil =>
    rw [List.drop_nil] at h
    refine ⟨0, Nat.zero_le k, ?_⟩
    rw [search, if_pos (List.prefix_nil.1 h)]
  | cons a s ih =>
    rw [search]
    by_cases hfound : pat <+: a :: s
    · exact ⟨0, Nat.zero_le k, if_pos hfound⟩
    · rw [if_neg hfound]
      cases k with
      | zero => exact absurd h hfound
      | succ k =>
        obtain ⟨j, hj, hsearch⟩ := ih h
        exact ⟨j + 1, Nat.succ_le_succ hj, by rw [hsearch]; rfl⟩

theorem search_append (h : search pat s = some k) (t : List α) : search pat (s ++ t) = some k := by
  have hlen := search_length h
  have hplace : pat <+: (s ++ t).drop k := by
    rw [List.drop_append_of_le_length (by omega)]
    exact (search_at h).trans (List.prefix_append _ t)
  obtain ⟨j, hj, hfound⟩ := search_first hplace
  have hback : pat <+: s.drop j := by
    have hlong := search_at hfound
    rw [List.drop_append_of_le_length (by omega)] at hlong
    apply List.prefix_of_prefix_length_le hlong (List.prefix_append _ t)
    rw [List.length_drop]
    omega
  obtain ⟨i, hi, hfirst⟩ := search_first hback
  obtain rfl := Option.some.inj (h.symm.trans hfirst)
  rw [hfound, Nat.le_antisymm hj hi]

theorem search_take {n : Nat} (h : search pat s = some k) (hn : k + pat.length ≤ n) : search pat (s.take n) = some k := by
  have hplace : pat <+: (s.take n).drop k := by
    rw [List.drop_take]
    exact List.prefix_take_iff.2 ⟨search_at h, by omega⟩
  obtain ⟨j, -, hfound⟩ := search_first hplace
  have hwhole := search_append hfound (s.drop n)
  rw [List.take_append_drop] at hwhole
  rw [hfound, ← hwhole, h]

theorem search_drop {m : Nat} (h : search pat s = some k) (hm : m ≤ k) : search pat (s.drop m) = some (k - m) := by
  induction m generalizing s k with
  | zero => exact h
  | succ m ih =>
    cases s with
    | nil =>
      have hlen := search_length h
      rw [List.length_nil] at hlen
      omega
    | cons a s =>
      rw [search] at h
      split at h
      · cases h
        omega
      · obtain ⟨j, hj, rfl⟩ := Option.map_eq_some_iff.1 h
        rw [List.drop_succ_cons, ih hj (Nat.le_of_succ_le_succ hm), Nat.succ_sub_succ]

theorem search_part {m n : Nat} (h : search pat ((s.take n).drop m) = some k) :
    ∃ j, j ≤ m + k ∧ search pat s = some j := by
  have hplace : pat <+: (s.take n).drop (m + k) := by
    rw [← List.drop_drop]
    exact search_at h
  rw [List.drop_take] at hplace
  exact search_first (hplace.trans (List.take_prefix _ _))

end WaybeamVenc.Search
