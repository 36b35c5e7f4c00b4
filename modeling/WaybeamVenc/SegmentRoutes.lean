import Mathlib.Data.List.Basic
import Mathlib.Data.List.Infix

namespace WaybeamVenc.SegmentRoutes

variable {α : Type}

/-- A path that starts with whole segments of another and ends there or goes on
with a separator. -/
def Under (sep : α → Prop) (pre path : List α) : Prop :=
  ∃ rest, path = pre ++ rest ∧ ∀ c ∈ rest.head?, sep c

variable {sep : α → Prop} {pre pre' path : List α}

theorem Under.isPrefix (h : Under sep pre path) : pre <+: path := by
  obtain ⟨rest, rfl, _⟩ := h
  exact List.prefix_append pre rest

theorem under_iff : Under sep pre path ↔ pre <+: path ∧ ∀ c ∈ (path.drop pre.length).head?, sep c := by
  constructor
  · rintro ⟨rest, rfl, hsep⟩
    simpa using hsep
  · rintro ⟨⟨rest, rfl⟩, hsep⟩
    refine ⟨rest, rfl, ?_⟩
    simpa using hsep

/-- Of two prefixes of one path the shorter is one of the longer. -/
theorem Under.shorter (h : Under sep pre path) (h' : Under sep pre' path) (hlen : pre.length ≤ pre'.length) :
    Under sep pre pre' := by
  obtain ⟨mid, rfl⟩ := List.prefix_of_prefix_length_le h.isPrefix h'.isPrefix hlen
  obtain ⟨rest, rfl, _⟩ := h'
  obtain ⟨_, hsep⟩ := under_iff.1 h
  refine ⟨mid, rfl, ?_⟩
  cases mid with
  | nil => simp
  | cons c mid => simpa using hsep

theorem Under.same_length (h : Under sep pre path) (h' : Under sep pre' path) (hlen : pre.length = pre'.length) :
    pre = pre' :=
  (List.prefix_of_prefix_length_le h.isPrefix h'.isPrefix (Nat.le_of_eq hlen)).eq_of_length hlen

/-! Tables of routes that a search goes through from the front. -/

variable {R P : Type} {table : List R} {serves : R → P → Prop} {size : R → ℕ}

/-- A route that stands before another is not less specific where both serve. -/
def SpecificFirst (serves : R → P → Prop) (size : R → ℕ) (table : List R) : Prop :=
  table.Pairwise fun a b => ∀ p, serves a p → serves b p → size b ≤ size a

variable [∀ r p, Decidable (serves r p)] {p : P}

theorem first_most_specific (htable : SpecificFirst serves size table) {r : R}
    (h : table.find? (fun r => decide (serves r p)) = some r) {other : R} (hmem : other ∈ table) (hserves : serves other p) :
    size other ≤ size r := by
  induction table with
  | nil => cases hmem
  | cons a table ih =>
      obtain ⟨hhead, htail⟩ := List.pairwise_cons.1 htable
      by_cases ha : serves a p
      · have hr : a = r := by simpa [ha] using h
        rcases List.mem_cons.1 hmem with rfl | hlater
        · rw [hr]
        · exact hr ▸ hhead other hlater p ha hserves
      · have hrest : table.find? (fun r => decide (serves r p)) = some r := by simpa [ha] using h
        rcases List.mem_cons.1 hmem with rfl | hlater
        · exact absurd hserves ha
        · exact ih htail hrest hlater

theorem first_serves {r : R} (h : table.find? (fun r => decide (serves r p)) = some r) : r ∈ table ∧ serves r p :=
  ⟨List.mem_of_find?_eq_some h, by simpa using List.find?_some h⟩

/-- The first route that serves is the most specific one, where the routes that
serve differ in size. -/
theorem first_iff (htable : SpecificFirst serves size table)
    (hsize : ∀ a ∈ table, ∀ b ∈ table, serves a p → serves b p → size a = size b → a = b) (r : R) :
    table.find? (fun r => decide (serves r p)) = some r ↔
      r ∈ table ∧ serves r p ∧ ∀ other ∈ table, serves other p → other ≠ r → size other < size r := by
  constructor
  · intro h
    obtain ⟨hmem, hserves⟩ := first_serves h
    refine ⟨hmem, hserves, fun other hother hserves' hne => ?_⟩
    apply Nat.lt_of_le_of_ne (first_most_specific htable h hother hserves')
    exact fun heq => hne (hsize other hother r hmem hserves' hserves heq)
  · rintro ⟨hmem, hserves, hmost⟩
    have hfound : (table.find? fun r => decide (serves r p)).isSome := by
      rw [List.find?_isSome]
      exact ⟨r, hmem, by simpa using hserves⟩
    obtain ⟨found, hfirst⟩ := Option.isSome_iff_exists.1 hfound
    obtain ⟨hmem', hserves'⟩ := first_serves hfirst
    by_cases hsame : found = r
    · rw [hfirst, hsame]
    · have hless := hmost found hmem' hserves' hsame
      exact absurd (first_most_specific htable hfirst hmem hserves) (Nat.not_le_of_lt hless)

end WaybeamVenc.SegmentRoutes
