import Mathlib.Data.List.MinMax

namespace WaybeamVenc.RunningBest

variable {A B K P : Type} [LinearOrder K] [LinearOrder P]

/-- A loop that keeps the best element so far in variables of its own ends with
the first of the least keys. -/
theorem foldl_eq_argmin {key : A → K} {shows : Option A → B} {step : B → A → B}
    (hfirst : ∀ x, step (shows none) x = shows (some x))
    (hnext : ∀ best x, step (shows (some best)) x = shows (if key x < key best then some x else some best))
    (xs : List A) : xs.foldl step (shows none) = shows (xs.argmin key) := by
  induction xs using List.reverseRecOn with
  | nil => rfl
  | append_singleton xs x ih =>
      rw [List.foldl_append, ih, List.argmin_concat]
      cases xs.argmin key with
      | none => exact hfirst x
      | some best => exact hnext best x

/-- The same for a loop that starts with an element at hand. -/
theorem foldl_least {key : A → K} {shows : A → B} {step : B → A → B}
    (hnext : ∀ best x, step (shows best) x = shows (if key x < key best then x else best)) (first : A) (xs : List A) :
    ∃ m ∈ first :: xs, xs.foldl step (shows first) = shows m ∧ ∀ a ∈ first :: xs, key m ≤ key a := by
  induction xs generalizing first with
  | nil => exact ⟨first, by simp⟩
  | cons x xs ih =>
      obtain ⟨m, hmem, hfold, hleast⟩ := ih (if key x < key first then x else first)
      rw [← hnext] at hfold
      refine ⟨m, ?_, hfold, ?_⟩
      · rcases List.mem_cons.mp hmem with rfl | hmem
        · split <;> simp
        · simp [hmem]
      · obtain ⟨hhead, htail⟩ := List.forall_mem_cons.mp hleast
        simp only [List.forall_mem_cons]
        split at hhead
        next hlt => exact ⟨hhead.trans hlt.le, hhead, htail⟩
        next hge => exact ⟨hhead, hhead.trans (not_lt.mp hge), htail⟩

theorem idxOf_le_iff [DecidableEq A] {pos : A → P} {xs : List A} (hsorted : xs.Pairwise fun a b => pos a < pos b)
    {a b : A} (ha : a ∈ xs) (hb : b ∈ xs) : xs.idxOf a ≤ xs.idxOf b ↔ pos a ≤ pos b := by
  induction xs with
  | nil => cases ha
  | cons x xs ih =>
      obtain ⟨hhead, htail⟩ := List.pairwise_cons.mp hsorted
      rcases List.mem_cons.mp ha with rfl | ha'
      · rw [List.idxOf_cons_self]
        rcases List.mem_cons.mp hb with rfl | hb'
        · exact ⟨fun _ => le_refl _, fun _ => Nat.zero_le _⟩
        · exact ⟨fun _ => le_of_lt (hhead b hb'), fun _ => Nat.zero_le _⟩
      · have hax : x ≠ a := fun h => lt_irrefl _ (h ▸ hhead a ha')
        rw [List.idxOf_cons_ne _ hax]
        rcases List.mem_cons.mp hb with rfl | hb'
        · rw [List.idxOf_cons_self]
          constructor
          · intro h
            cases h
          · intro h
            exact absurd (hhead a ha') (not_lt_of_ge h)
        · have hbx : x ≠ b := fun h => lt_irrefl _ (h ▸ hhead b hb')
          rw [List.idxOf_cons_ne _ hbx, Nat.succ_le_succ_iff]
          exact ih htail ha' hb'

/-- In a list sorted by position, the first of the least keys is the least by
key and then by position. -/
theorem mem_argmin_iff_sorted {key : A → K} {pos : A → P} {xs : List A}
    (hsorted : xs.Pairwise fun a b => pos a < pos b) {m : A} :
    m ∈ xs.argmin key ↔ m ∈ xs ∧ ∀ a ∈ xs, key m < key a ∨ key m = key a ∧ pos m ≤ pos a := by
  classical
  rw [List.mem_argmin_iff]
  refine and_congr_right fun hm => ?_
  constructor
  · rintro ⟨hleast, hfirst⟩ a ha
    rcases lt_or_eq_of_le (hleast a ha) with hlt | heq
    · exact .inl hlt
    · exact .inr ⟨heq, (idxOf_le_iff hsorted hm ha).mp (hfirst a ha heq.ge)⟩
  · intro h
    constructor
    · intro a ha
      exact (h a ha).elim le_of_lt fun heq => heq.1.le
    · intro a ha hle
      have heq := (h a ha).resolve_left (not_lt_of_ge hle)
      exact (idxOf_le_iff hsorted hm ha).mpr heq.2

end WaybeamVenc.RunningBest
