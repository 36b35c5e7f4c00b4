import Mathlib.Data.List.Basic

namespace WaybeamVenc.Reassembly

variable {G P N β : Type}

/-- A receiver gets a packet after what it holds: what it holds now and the
units that are complete, or nothing for a packet it cannot take. -/
abbrev Receiver (G P N : Type) := G → P → Option (G × List N)

def feed (receive : Receiver G P N) : G → List P → Option (G × List N)
  | g, [] => some (g, [])
  | g, p :: ps => (receive g p).bind fun r => (feed receive r.1 ps).map fun q => (q.1, r.2 ++ q.2)

theorem feed_append {receive : Receiver G P N} {g g' g'' : G} {ps qs : List P} {ns ns' : List N}
    (h : feed receive g ps = some (g', ns)) (k : feed receive g' qs = some (g'', ns')) :
    feed receive g (ps ++ qs) = some (g'', ns ++ ns') := by
  induction ps generalizing g ns with
  | nil =>
      cases h
      exact k
  | cons p ps ih =>
      rw [List.cons_append, feed]
      rw [feed] at h
      obtain ⟨r, hr, hmap⟩ := Option.bind_eq_some_iff.1 h
      obtain ⟨⟨g₁, ns₁⟩, hrest, hns⟩ := Option.map_eq_some_iff.1 hmap
      cases hns
      rw [hr, Option.bind_some, ih hrest, Option.map_some, List.append_assoc]

theorem feed_one {receive : Receiver G P N} {g g' : G} {p : P} {ns : List N} (h : receive g p = some (g', ns)) :
    feed receive g [p] = some (g', ns) := by
  rw [feed, h, Option.bind_some, feed, Option.map_some, List.append_nil]

/-- The units of a whole sequence of packets, if it stops between two units. -/
def reassemble (receive : Receiver (Option G) P N) (ps : List P) : Option (List N) :=
  match feed receive none ps with
  | some (none, ns) => some ns
  | _ => none

theorem reassemble_of_feed {receive : Receiver (Option G) P N} {ps : List P} {ns : List N}
    (h : feed receive none ps = some (none, ns)) : reassemble receive ps = some ns := by
  rw [reassemble, h]

/-- A unit cut into fragments, each with whether it is the first and the last.
Every turn takes at least one element, so fuel of the length suffices. -/
def fragments (maxFragment : Nat) : Nat → List β → Bool → List (Bool × Bool × List β)
  | 0, _, _ => []
  | fuel + 1, rest, start =>
    if rest.length = 0 then []
    else
      let chunk := if maxFragment < rest.length then maxFragment else rest.length
      (start, decide (rest.length = chunk), rest.take chunk) :: fragments maxFragment fuel (rest.drop chunk) false

/-- One turn of the cutting: the last fragment, or one with more behind it. -/
theorem fragments_cases {maxFragment fuel : Nat} {rest : List β} (start : Bool) (hmax : 0 < maxFragment)
    (hne : rest ≠ []) (hfuel : rest.length ≤ fuel + 1) :
    (rest.length ≤ maxFragment ∧ fragments maxFragment (fuel + 1) rest start = [(start, true, rest)]) ∨
      (maxFragment < rest.length ∧ rest.take maxFragment ≠ [] ∧ rest.drop maxFragment ≠ [] ∧
        (rest.drop maxFragment).length ≤ fuel ∧ fragments maxFragment (fuel + 1) rest start =
          (start, false, rest.take maxFragment) :: fragments maxFragment fuel (rest.drop maxFragment) false) := by
  have hpos : rest.length ≠ 0 := fun h => hne (List.eq_nil_of_length_eq_zero h)
  rw [fragments, if_neg hpos]
  by_cases hlong : maxFragment < rest.length
  · right
    have hnot : rest.length ≠ maxFragment := by omega
    refine ⟨hlong, ?_, ?_, ?_, ?_⟩
    · rw [Ne, List.take_eq_nil_iff]
      exact fun h => h.elim (by omega) hne
    · rw [Ne, List.drop_eq_nil_iff]
      omega
    · rw [List.length_drop]
      omega
    · simp only [if_pos hlong, decide_eq_false hnot]
  · left
    have hnil : fragments maxFragment fuel ([] : List β) false = [] := by cases fuel <;> rfl
    simp only [if_neg hlong, List.take_length, List.drop_length, hnil, decide_true, and_true]
    omega

theorem fragments_flatten {maxFragment : Nat} (hmax : 0 < maxFragment) {fuel : Nat} {rest : List β}
    (hfuel : rest.length ≤ fuel) (start : Bool) :
    ((fragments maxFragment fuel rest start).map fun f => f.2.2).flatten = rest := by
  induction fuel generalizing rest start with
  | zero =>
      rw [List.eq_nil_of_length_eq_zero (Nat.le_zero.1 hfuel)]
      rfl
  | succ fuel ih =>
      by_cases hne : rest = []
      · rw [hne]
        rfl
      · rcases fragments_cases start hmax hne hfuel with ⟨_, h⟩ | ⟨_, _, _, hlen, h⟩
        · rw [h, List.map_singleton, List.flatten_singleton]
        · rw [h, List.map_cons, List.flatten_cons, ih hlen false, List.take_append_drop]

theorem fragments_short {maxFragment : Nat} (hmax : 0 < maxFragment) {fuel : Nat} {rest : List β}
    (hfuel : rest.length ≤ fuel) (start : Bool) :
    ∀ f ∈ fragments maxFragment fuel rest start, f.2.2.length ≤ maxFragment := by
  induction fuel generalizing rest start with
  | zero => exact fun f hf => absurd hf List.not_mem_nil
  | succ fuel ih =>
      intro f hf
      by_cases hne : rest = []
      · rw [hne] at hf
        exact absurd hf List.not_mem_nil
      · rcases fragments_cases start hmax hne hfuel with ⟨hle, h⟩ | ⟨_, _, _, hlen, h⟩
        · rw [h] at hf
          rw [List.mem_singleton.1 hf]
          exact hle
        · rw [h] at hf
          rcases List.mem_cons.1 hf with rfl | hrest
          · exact List.length_take_le _ _
          · exact ih hlen false f hrest

/-- Only the last fragment of a unit is marked as the last one. -/
theorem fragments_last {maxFragment : Nat} (hmax : 0 < maxFragment) {fuel : Nat} {rest : List β}
    (hfuel : rest.length ≤ fuel) (start : Bool) (i : Nat) (h : i < (fragments maxFragment fuel rest start).length) :
    (fragments maxFragment fuel rest start)[i].2.1 = decide (i + 1 = (fragments maxFragment fuel rest start).length) := by
  induction fuel generalizing rest start i with
  | zero => exact absurd h (Nat.not_lt_zero i)
  | succ fuel ih =>
      by_cases hne : rest = []
      · subst hne
        exact absurd h (Nat.not_lt_zero i)
      · rcases fragments_cases start hmax hne hfuel with ⟨_, heq⟩ | ⟨_, _, hrest, hlen, heq⟩
        · simp only [heq, List.length_singleton] at h ⊢
          have hi : i = 0 := by omega
          subst hi
          rfl
        · have hsome : 0 < (fragments maxFragment fuel (rest.drop maxFragment) false).length := by
            apply List.length_pos_of_ne_nil
            intro hnil
            have hall := fragments_flatten hmax hlen false
            rw [hnil] at hall
            exact hrest hall.symm
          simp only [heq, List.length_cons] at h ⊢
          cases i with
          | zero =>
              symm
              exact decide_eq_false (by omega)
          | succ i =>
              have hlast := ih hlen false i (by omega)
              rw [List.getElem_cons_succ, hlast]
              simp

/-- A receiver that builds a unit up from packets made of its fragments: the
first one opens it with a head, the last one completes it. -/
structure Builds (receive : Receiver (Option (List β)) P (List β)) (pack : Bool → Bool → List β → P)
    (head : List β) (opens : Option (List β) → Prop) : Prop where
  first : ∀ got chunk, opens got → chunk ≠ [] →
    receive got (pack true false chunk) = some (some (head ++ chunk), [])
  later : ∀ unit chunk last, chunk ≠ [] → receive (some unit) (pack false last chunk) =
    some (if last then (none, [unit ++ chunk]) else (some (unit ++ chunk), []))

variable {receive : Receiver (Option (List β)) P (List β)} {pack : Bool → Bool → List β → P} {head : List β}
  {opens : Option (List β) → Prop}

/-- The fragments behind the first one, however many of them arrive. -/
theorem Builds.feed_later (hb : Builds receive pack head opens) {maxFragment : Nat} (hmax : 0 < maxFragment)
    (fuel : Nat) (rest unit : List β) (n : Nat) (hne : rest ≠ []) (hfuel : rest.length ≤ fuel) :
    let ps := (fragments maxFragment fuel rest false).map fun f => pack f.1 f.2.1 f.2.2
    (ps.length ≤ n ∧ feed receive (some unit) (ps.take n) = some (none, [unit ++ rest])) ∨
      (n < ps.length ∧ ∃ got, feed receive (some unit) (ps.take n) = some (got, [])) := by
  induction fuel generalizing rest unit n with
  | zero => exact absurd (List.eq_nil_of_length_eq_zero (Nat.le_zero.1 hfuel)) hne
  | succ fuel ih =>
      intro ps
      cases n with
      | zero =>
          right
          refine ⟨?_, some unit, rfl⟩
          rcases fragments_cases false hmax hne hfuel with ⟨_, h⟩ | ⟨_, _, _, _, h⟩
          · simp only [ps, h, List.map_cons, List.length_cons]
            omega
          · simp only [ps, h, List.map_cons, List.length_cons]
            omega
      | succ n =>
          rcases fragments_cases false hmax hne hfuel with ⟨_, h⟩ | ⟨_, hchunk, hrest, hlen, h⟩
          · left
            have hps : ps = [pack false true rest] := by simp only [ps, h, List.map_cons, List.map_nil]
            rw [hps, List.take_of_length_le (Nat.le_add_left 1 n)]
            exact ⟨Nat.le_add_left 1 n, feed_one (hb.later unit rest true hne)⟩
          · have hps : ps = pack false false (rest.take maxFragment) ::
                (fragments maxFragment fuel (rest.drop maxFragment) false).map fun f => pack f.1 f.2.1 f.2.2 := by
              simp only [ps, h, List.map_cons]
            have hfirst := feed_one (hb.later unit (rest.take maxFragment) false hchunk)
            rw [hps, List.take_succ_cons, List.length_cons]
            rcases ih (rest.drop maxFragment) (unit ++ rest.take maxFragment) n hrest hlen with ⟨hn, hall⟩ | ⟨hn, got, hsome⟩
            · left
              refine ⟨by omega, ?_⟩
              rw [List.append_assoc, List.take_append_drop] at hall
              exact feed_append hfirst hall
            · right
              exact ⟨by omega, got, feed_append hfirst hsome⟩

/-- Some fragments of a unit: not all of them, or the unit comes out. -/
theorem Builds.feed_fragments (hb : Builds receive pack head opens) {maxFragment : Nat} (hmax : 0 < maxFragment)
    {rest : List β} (hlong : maxFragment < rest.length) {got : Option (List β)} (hgot : opens got) (n : Nat) :
    let ps := (fragments maxFragment rest.length rest true).map fun f => pack f.1 f.2.1 f.2.2
    (ps.length ≤ n + 1 ∧ feed receive got (ps.take (n + 1)) = some (none, [head ++ rest])) ∨
      (n + 1 < ps.length ∧ ∃ got', feed receive got (ps.take (n + 1)) = some (got', [])) := by
  intro ps
  have hne : rest ≠ [] := by
    rintro rfl
    exact Nat.not_lt_zero _ hlong
  have hfuel : rest.length ≤ (rest.length - 1) + 1 := by omega
  rcases fragments_cases true hmax hne hfuel with ⟨h, _⟩ | ⟨_, hchunk, hrest, hlen, h⟩
  · omega
  · have hps : ps = pack true false (rest.take maxFragment) ::
          (fragments maxFragment (rest.length - 1) (rest.drop maxFragment) false).map fun f => pack f.1 f.2.1 f.2.2 := by
      rw [show rest.length - 1 + 1 = rest.length by omega] at h
      simp only [ps, h, List.map_cons]
    have hfirst := feed_one (hb.first got (rest.take maxFragment) hgot hchunk)
    rw [hps, List.take_succ_cons, List.length_cons]
    rcases hb.feed_later hmax _ (rest.drop maxFragment) (head ++ rest.take maxFragment) n hrest hlen with
      ⟨hn, hall⟩ | ⟨hn, got', hsome⟩
    · left
      refine ⟨by omega, ?_⟩
      rw [List.append_assoc, List.take_append_drop] at hall
      exact feed_append hfirst hall
    · right
      exact ⟨by omega, got', feed_append hfirst hsome⟩

theorem Builds.feed_all (hb : Builds receive pack head opens) {maxFragment : Nat} (hmax : 0 < maxFragment)
    {rest : List β} (hlong : maxFragment < rest.length) {got : Option (List β)} (hgot : opens got) :
    feed receive got ((fragments maxFragment rest.length rest true).map fun f => pack f.1 f.2.1 f.2.2) =
      some (none, [head ++ rest]) := by
  rcases hb.feed_fragments hmax hlong hgot
    ((fragments maxFragment rest.length rest true).map fun f => pack f.1 f.2.1 f.2.2).length with ⟨_, h⟩ | ⟨h, _⟩
  · rw [List.take_of_length_le (by omega)] at h
    exact h
  · omega

end WaybeamVenc.Reassembly
