import Mathlib.Algebra.GroupWithZero.Nat
import Mathlib.Data.List.Basic

namespace WaybeamVenc.RotatingBuffer

variable {α : Type} {n : Nat} [NeZero n]

def slot (buf : Vector α n) (i : Nat) : α := buf.get (Fin.ofNat n i)

def store (buf : Vector α n) (i : Nat) (x : α) : Vector α n := buf.set (i % n) x (Nat.mod_lt i (Nat.pos_of_neZero n))

theorem slot_congr (buf : Vector α n) {i j : Nat} (h : i % n = j % n) : slot buf i = slot buf j :=
  congrArg buf.get (Fin.ext h)

@[simp] theorem slot_mod (buf : Vector α n) (i : Nat) : slot buf (i % n) = slot buf i :=
  slot_congr buf (Nat.mod_mod i n)

@[simp] theorem store_mod (buf : Vector α n) (i : Nat) (x : α) : store buf (i % n) x = store buf i x := by
  simp only [store, Nat.mod_mod]

theorem slot_store (buf : Vector α n) (i j : Nat) (x : α) :
    slot (store buf i x) j = if i % n = j % n then x else slot buf j :=
  Vector.getElem_set _ _

/-- Slots that were written in turn: each holds the last of the writes that came
to it. -/
def Written (buf : Vector α n) (writes : List α) : Prop :=
  ∀ j (h : j < writes.length), writes.length ≤ j + n → slot buf j = writes[j]

theorem written_nil (buf : Vector α n) : Written buf [] := by
  intro j hj
  cases hj

theorem Written.push {buf : Vector α n} {writes : List α} (h : Written buf writes) (x : α) :
    Written (store buf writes.length x) (writes ++ [x]) := by
  intro j hj hroom
  rw [List.length_append, List.length_singleton] at hj hroom
  rw [slot_store]
  split
  next heq =>
    -- among the last n writes only the new one goes to this slot
    have hlast : j = writes.length := by
      have hmod : (writes.length - j) % n = 0 := Nat.sub_mod_eq_zero_of_mod_eq heq
      have hsmall : writes.length - j < n := by omega
      rw [Nat.mod_eq_of_lt hsmall] at hmod
      omega
    subst hlast
    rw [List.getElem_concat_length rfl]
  next hne =>
    have hlt : j < writes.length := by
      rcases Nat.lt_or_ge j writes.length with hlt | hge
      · exact hlt
      · have hlast : j = writes.length := by omega
        exact absurd (congrArg (· % n) hlast.symm) hne
    rw [List.getElem_append_left hlt]
    exact h j hlt (by omega)

/-- So many of the last writes, read from their slots. -/
theorem Written.newest {buf : Vector α n} {writes : List α} (h : Written buf writes) {k : Nat}
    (hk : k ≤ writes.length) (hn : k ≤ n) :
    (List.range k).map (fun i => slot buf (writes.length - k + i)) = writes.drop (writes.length - k) := by
  apply List.ext_getElem
  · rw [List.length_map, List.length_range, List.length_drop]
    omega
  · intro i hi hi'
    rw [List.length_map, List.length_range] at hi
    rw [List.getElem_map, List.getElem_range, List.getElem_drop]
    exact h _ (by omega) (by omega)

end WaybeamVenc.RotatingBuffer
