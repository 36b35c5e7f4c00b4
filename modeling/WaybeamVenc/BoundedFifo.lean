import WaybeamVenc.Runs
import Mathlib.Data.List.Basic

namespace WaybeamVenc.BoundedFifo

open Runs

variable {α : Type}

/-- A queue of bounded capacity, seen through its history: everything that was
ever put in and everything that was ever taken out. -/
structure Fifo (α : Type) where
  put : List α
  taken : List α

inductive Op (α : Type)
  | push (x : α)
  | pop

def empty : Fifo α := ⟨[], []⟩

/-- A push needs room, a pop needs an element and removes the oldest one. -/
def move (capacity : Nat) (q : Fifo α) : Op α → Option (Fifo α)
  | .push x => if q.put.length < q.taken.length + capacity then some { q with put := q.put ++ [x] } else none
  | .pop => match q.put.drop q.taken.length with
    | [] => none
    | x :: _ => some { q with taken := q.taken ++ [x] }

def Ordered (capacity : Nat) (q : Fifo α) : Prop :=
  q.taken <+: q.put ∧ q.put.length ≤ q.taken.length + capacity

theorem prefix_snoc_of_drop {xs ys rest : List α} {y : α} (h : xs <+: ys)
    (hd : ys.drop xs.length = y :: rest) : xs ++ [y] <+: ys := by
  obtain ⟨zs, rfl⟩ := h
  rw [List.drop_left] at hd
  exact ⟨rest, by simp [hd]⟩

theorem move_ordered {capacity : Nat} {q r : Fifo α} (op : Op α) (hq : Ordered capacity q)
    (h : move capacity q op = some r) : Ordered capacity r := by
  obtain ⟨hpre, hroom⟩ := hq
  cases op with
  | push x =>
      simp only [move, Option.ite_none_right_eq_some, Option.some.injEq] at h
      obtain ⟨hlt, rfl⟩ := h
      exact ⟨hpre.trans (List.prefix_append _ _), by simp only [List.length_append, List.length_singleton]; omega⟩
  | pop =>
      cases hd : q.put.drop q.taken.length with
      | nil => simp [move, hd] at h
      | cons x rest =>
          simp only [move, hd, Option.some.injEq] at h
          subst h
          exact ⟨prefix_snoc_of_drop hpre hd, by simp only [List.length_append, List.length_singleton]; omega⟩

/-- Whatever the order of pushes and pops, elements come out once each, in the
order they went in, and no more than capacity of them are inside. -/
theorem reaches_ordered {capacity : Nat} {q : Fifo α} (h : Reaches (move capacity) empty q) :
    Ordered capacity q :=
  h.invariant (Ordered capacity) ⟨List.nil_prefix, Nat.zero_le _⟩
    (fun _ a _ hq _ hs => move_ordered a hq hs)

end WaybeamVenc.BoundedFifo
