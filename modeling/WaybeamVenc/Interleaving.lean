import Mathlib.Data.List.Nodup
import WaybeamVenc.Resumption
import WaybeamVenc.Runs

namespace WaybeamVenc.Interleaving

open Resumption Prog Runs

variable {K C Q : Type}

/-- The programs of the operations. Those of the main thread leave the mutex
alone, the others touch the cell under the mutex only. -/
structure Code (K C Q : Type) where
  prog : K → Prog C Q Unit
  main : K → Bool
  plain : ∀ k, main k = true → Plain (prog k)
  guarded : ∀ k, main k = false → Guarded (prog k)

/-- An operation that was started: what is left of it, the outcomes of its
calls, whether it has taken a step, and what had ended when it started. -/
structure Op (K C Q : Type) where
  kind : K
  rest : Prog C Q Unit
  answers : List Bool
  begun : Bool
  after : List Nat

def Op.ended (op : Op K C Q) : Bool := op.rest.ended

def Op.underWay (op : Op K C Q) : Bool := op.begun && !op.ended

structure Sys (K C Q : Type) where
  cell : C
  owner : Option Nat
  ops : List (Op K C Q)

def start (c : C) : Sys K C Q := ⟨c, none, []⟩

def Sys.endedOps (s : Sys K C Q) : List Nat :=
  (List.range s.ops.length).filter fun i => (s.ops[i]?).any Op.ended

inductive Act (K : Type)
  | start (k : K)
  | move (i : Nat) (answer : Bool)

/-- The owner of the mutex after a step of an operation, none when it has to
wait. -/
def ownerAfter (i : Nat) (owner : Option Nat) : Prog C Q Unit → Option (Option Nat)
  | .lock _ => if owner = none then some (some i) else none
  | .unlock _ => some none
  | _ => some owner

def takesMutex : Prog C Q Unit → Bool
  | .lock _ => true
  | _ => false

def mainBusy (code : Code K C Q) (s : Sys K C Q) : Bool := s.ops.any fun op => code.main op.kind && !op.ended

/-- Any operation may start and any one may move; the main thread runs one at a
time. -/
def step (code : Code K C Q) (s : Sys K C Q) : Act K → Option (Sys K C Q)
  | .start k =>
    if code.main k && mainBusy code s then none
    else some { s with ops := s.ops ++ [⟨k, code.prog k, [], false, s.endedOps⟩] }
  | .move i b => do
    let op ← s.ops[i]?
    let (rest, cell, used) ← op.rest.step b s.cell
    let owner ← ownerAfter i s.owner op.rest
    pure ⟨cell, owner, s.ops.set i { op with rest := rest, answers := op.answers ++ used, begun := true }⟩

/-- The operations in a sequence, each with the outcomes its calls had. -/
def sequential (code : Code K C Q) (ops : List (Op K C Q)) : List Nat → C → Option C
  | [], c => some c
  | i :: order, c => do
    let op ← ops[i]?
    let r ← (code.prog op.kind).replay c op.answers
    sequential code ops order r.2

/-- Nothing that had ended before another operation started comes behind it. -/
def RealTime (s : Sys K C Q) (order : List Nat) : Prop :=
  order.Pairwise fun i j => ∀ op, s.ops[i]? = some op → j ∉ op.after

def EndedAt (s : Sys K C Q) (i : Nat) : Prop := ∃ op, s.ops[i]? = some op ∧ op.ended = true

/-- The cell is as if the operations that ended had run in a sequence that
agrees with real time. -/
def Linearizable (code : Code K C Q) (c₀ : C) (s : Sys K C Q) : Prop :=
  ∃ order : List Nat, order.Nodup ∧ (∀ i, i ∈ order ↔ EndedAt s i) ∧ RealTime s order ∧
    sequential code s.ops order c₀ = some s.cell

def Idle (s : Sys K C Q) : Prop := ∀ op ∈ s.ops, op.underWay = false

/-- The main thread moves only while the mutex is free, and the mutex is taken
only while the main thread has nothing under way. -/
def Exclusive (code : Code K C Q) (s : Sys K C Q) : Act K → Prop
  | .start _ => True
  | .move i _ => ∀ op, s.ops[i]? = some op →
      (code.main op.kind = true → s.owner = none) ∧
      (takesMutex op.rest = true → ∀ op' ∈ s.ops, code.main op'.kind = true → op'.underWay = false)

variable {code : Code K C Q} {c₀ base : C} {s : Sys K C Q}

theorem sequential_append (ops : List (Op K C Q)) (order order' : List Nat) (c : C) :
    sequential code ops (order ++ order') c = (sequential code ops order c).bind (sequential code ops order') := by
  induction order generalizing c with
  | nil => rfl
  | cons i order ih =>
      rw [List.cons_append, sequential, sequential]
      cases ops[i]? with
      | none => rfl
      | some op =>
          simp only [Option.bind_eq_bind, Option.bind_some]
          cases (code.prog op.kind).replay c op.answers with
          | none => rfl
          | some r => exact ih r.2

theorem sequential_congr {ops ops' : List (Op K C Q)} {order : List Nat} {c b : C}
    (h : ∀ i ∈ order, ∀ op, ops[i]? = some op →
      ∃ op', ops'[i]? = some op' ∧ op'.kind = op.kind ∧ op'.answers = op.answers)
    (hs : sequential code ops order c = some b) : sequential code ops' order c = some b := by
  induction order generalizing c with
  | nil => exact hs
  | cons i order ih =>
      obtain ⟨op, hop, hs⟩ := Option.bind_eq_some_iff.1 hs
      obtain ⟨r, hr, hs⟩ := Option.bind_eq_some_iff.1 hs
      obtain ⟨op', hop', hk, ha⟩ := h i List.mem_cons_self op hop
      rw [sequential, hop']
      simp only [Option.bind_eq_bind, Option.bind_some, hk, ha, hr]
      exact ih (fun j hj => h j (List.mem_cons_of_mem i hj)) hs

theorem mem_endedOps {i : Nat} : i ∈ s.endedOps ↔ EndedAt s i := by
  rw [Sys.endedOps, EndedAt]
  rw [List.mem_filter, List.mem_range]
  constructor
  · rintro ⟨_, h⟩
    cases hop : s.ops[i]? with
    | none =>
        rw [hop] at h
        cases h
    | some op =>
        rw [hop] at h
        exact ⟨op, rfl, h⟩
  · rintro ⟨op, hop, he⟩
    refine ⟨(List.getElem?_eq_some_iff.1 hop).1, ?_⟩
    rw [hop]
    exact he

/-- The one operation that is inside, in the shape its side gives it. -/
def Shape (code : Code K C Q) (k : Nat) (kind : K) (owner : Option Nat) (rest : Prog C Q Unit) : Prop :=
  (code.main kind = true ∧ Plain rest ∧ owner = none) ∨
    (code.main kind = false ∧ Holding rest ∧ owner = some k)

/-- Nobody is inside, or one operation is, with the base as the cell it found. -/
inductive Inside (code : Code K C Q) (s : Sys K C Q) (base : C) : Prop
  | idle (howner : s.owner = none) (hcell : s.cell = base) (hidle : Idle s)
  | under (k : Nat) (op : Op K C Q) (hk : s.ops[k]? = some op) (hunder : op.underWay = true)
      (honly : ∀ i op', s.ops[i]? = some op' → op'.underWay = true → i = k)
      (hshape : Shape code k op.kind s.owner op.rest)
      (hreplay : ∀ l, op.rest.replay s.cell l = (code.prog op.kind).replay base (op.answers ++ l))

structure Inv (code : Code K C Q) (c₀ : C) (s : Sys K C Q) (order : List Nat) (base : C) : Prop where
  nodup : order.Nodup
  mem : ∀ i, i ∈ order ↔ EndedAt s i
  realTime : RealTime s order
  after : ∀ (j : Nat) (op : Op K C Q), s.ops[j]? = some op → ∀ i ∈ op.after, i ∈ order
  seq : sequential code s.ops order c₀ = some base
  fresh : ∀ (i : Nat) (op : Op K C Q), s.ops[i]? = some op → op.begun = false → op.rest = code.prog op.kind ∧ op.answers = []
  mainOne : ∀ (i : Nat) (op : Op K C Q) (j : Nat) (op' : Op K C Q), s.ops[i]? = some op → s.ops[j]? = some op' → code.main op.kind = true →
    code.main op'.kind = true → op.ended = false → op'.ended = false → i = j
  inside : Inside code s base

theorem Inv.start (c₀ : C) : Inv code c₀ (start c₀) [] c₀ := by
  constructor
  · exact List.nodup_nil
  · intro i
    simp [EndedAt, Interleaving.start]
  · exact List.Pairwise.nil
  · intro j op hj
    simp [Interleaving.start] at hj
  · rfl
  · intro i op hi
    simp [Interleaving.start] at hi
  · intro i op j op' hi
    simp [Interleaving.start] at hi
  · exact .idle rfl rfl (by simp [Idle, Interleaving.start])

/-- A step changes one operation, which had not ended, and keeps what it is. -/
structure Changes (s s' : Sys K C Q) (i : Nat) (new : Op K C Q) : Prop where
  other : ∀ j, j ≠ i → s'.ops[j]? = s.ops[j]?
  same : s'.ops[i]? = some new
  live : ¬EndedAt s i

variable {s' : Sys K C Q} {order : List Nat} {base' : C} {i : Nat} {new : Op K C Q}

theorem Changes.of_mem (hc : Changes s s' i new) (h : Inv code c₀ s order base) {j : Nat} (hj : j ∈ order) :
    s'.ops[j]? = s.ops[j]? := by
  apply hc.other
  rintro rfl
  exact hc.live ((h.mem j).1 hj)

/-- An operation after the step: the changed one, or one that was there. -/
theorem Changes.get (hc : Changes s s' i new) {j : Nat} {op : Op K C Q} (hj : s'.ops[j]? = some op) :
    (j = i ∧ op = new) ∨ (j ≠ i ∧ s.ops[j]? = some op) := by
  by_cases hji : j = i
  · subst hji
    exact .inl ⟨rfl, Option.some.inj (hj.symm.trans hc.same)⟩
  · rw [hc.other j hji] at hj
    exact .inr ⟨hji, hj⟩

theorem Changes.endedAt (hc : Changes s s' i new) (j : Nat) :
    EndedAt s' j ↔ EndedAt s j ∨ (j = i ∧ new.ended = true) := by
  constructor
  · rintro ⟨op, hop, he⟩
    rcases hc.get hop with ⟨rfl, rfl⟩ | ⟨_, hop⟩
    · exact .inr ⟨rfl, he⟩
    · exact .inl ⟨op, hop, he⟩
  · rintro (⟨op, hop, he⟩ | ⟨rfl, he⟩)
    · refine ⟨op, ?_, he⟩
      rw [hc.other j fun hj => hc.live (hj ▸ ⟨op, hop, he⟩), hop]
    · exact ⟨new, hc.same, he⟩

/-- The order after a step: an operation takes its place at the end of it when
it ends. -/
def orderAfter (order : List Nat) (i : Nat) (new : Op K C Q) : List Nat :=
  if new.ended = true then order ++ [i] else order

theorem mem_orderAfter {j : Nat} : j ∈ orderAfter order i new ↔ j ∈ order ∨ (j = i ∧ new.ended = true) := by
  rw [orderAfter]
  split
  next he => simp [he]
  next he => simp [he]

theorem Changes.nodup (hc : Changes s s' i new) (h : Inv code c₀ s order base) :
    (orderAfter order i new).Nodup := by
  have hi : i ∉ order := fun hi => hc.live ((h.mem i).1 hi)
  rw [orderAfter]
  split
  · rw [List.nodup_append']
    exact ⟨h.nodup, List.nodup_singleton i, by simpa using hi⟩
  · exact h.nodup

theorem Changes.realTime (hc : Changes s s' i new) (h : Inv code c₀ s order base) :
    RealTime s' (orderAfter order i new) := by
  have hi : i ∉ order := fun hi => hc.live ((h.mem i).1 hi)
  have hord : RealTime s' order := by
    apply List.Pairwise.imp_of_mem _ h.realTime
    intro j k hj _ hjk op hop
    rw [hc.of_mem h hj] at hop
    exact hjk op hop
  rw [orderAfter]
  split
  · rw [RealTime]
    rw [List.pairwise_append]
    refine ⟨hord, List.pairwise_singleton _ i, ?_⟩
    intro j hj k hk op hop hkj
    rw [hc.of_mem h hj] at hop
    rw [List.mem_singleton.1 hk] at hkj
    exact hi (h.after j op hop i hkj)
  · exact hord

theorem Changes.seq (hc : Changes s s' i new) (h : Inv code c₀ s order base)
    (hend : new.ended = true → (code.prog new.kind).replay base new.answers = some ((), base'))
    (hgo : new.ended = false → base' = base) :
    sequential code s'.ops (orderAfter order i new) c₀ = some base' := by
  have hseq : sequential code s'.ops order c₀ = some base := by
    apply sequential_congr _ h.seq
    intro j hj op hop
    exact ⟨op, by rw [hc.of_mem h hj, hop], rfl, rfl⟩
  rw [orderAfter]
  split
  next he =>
    rw [sequential_append, hseq, Option.bind_some, sequential, hc.same]
    simp only [Option.bind_eq_bind, Option.bind_some, hend he, sequential]
  next he =>
    rw [hgo (by simpa using he)]
    exact hseq

/-- A step of one operation keeps the invariant, given what it leaves inside. -/
theorem Changes.inv (hc : Changes s s' i new) (h : Inv code c₀ s order base)
    (hafter : ∀ j ∈ new.after, j ∈ order)
    (hfresh : new.begun = false → new.rest = code.prog new.kind ∧ new.answers = [])
    (hmain : code.main new.kind = true → new.ended = false → ∀ j op', j ≠ i → s.ops[j]? = some op' →
      code.main op'.kind = true → op'.ended = true)
    (hend : new.ended = true → (code.prog new.kind).replay base new.answers = some ((), base'))
    (hgo : new.ended = false → base' = base)
    (hin : Inside code s' base') : Inv code c₀ s' (orderAfter order i new) base' := by
  constructor
  · exact hc.nodup h
  · intro j
    rw [mem_orderAfter, hc.endedAt, h.mem]
  · exact hc.realTime h
  · intro j op hop k hk
    refine mem_orderAfter.2 (.inl ?_)
    rcases hc.get hop with ⟨rfl, rfl⟩ | ⟨_, hop⟩
    · exact hafter k hk
    · exact h.after j op hop k hk
  · exact hc.seq h hend hgo
  · intro j op hop hb
    rcases hc.get hop with ⟨rfl, rfl⟩ | ⟨_, hop⟩
    · exact hfresh hb
    · exact h.fresh j op hop hb
  · intro j op k op' hj hk hm hm' he he'
    rcases hc.get hj with ⟨rfl, rfl⟩ | ⟨hji, hj⟩
    · rcases hc.get hk with ⟨rfl, _⟩ | ⟨hkj, hk⟩
      · rfl
      · rw [hmain hm he k op' hkj hk hm'] at he'
        cases he'
    · rcases hc.get hk with ⟨rfl, rfl⟩ | ⟨_, hk⟩
      · rw [hmain hm' he' j op hji hj hm] at he
        cases he
      · exact h.mainOne j op k op' hj hk hm hm' he he'
  · exact hin

theorem Inv.start_step {k : K} (h : Inv code c₀ s order base) (hs : step code s (.start k) = some s') :
    ∃ order' base', Inv code c₀ s' order' base' := by
  rw [step] at hs
  split at hs
  · cases hs
  next hbusy =>
    cases hs
    have hother : ∀ j, j ≠ s.ops.length →
        (s.ops ++ [⟨k, code.prog k, [], false, s.endedOps⟩])[j]? = s.ops[j]? := by
      intro j hj
      rcases Nat.lt_or_ge j s.ops.length with hlt | hge
      · exact List.getElem?_append_left hlt
      · rw [List.getElem?_eq_none (by simp; omega), List.getElem?_eq_none hge]
    have hc : Changes s { s with ops := s.ops ++ [⟨k, code.prog k, [], false, s.endedOps⟩] } s.ops.length
        ⟨k, code.prog k, [], false, s.endedOps⟩ := by
      refine ⟨hother, by simp, ?_⟩
      rintro ⟨op, hop, _⟩
      simp at hop
    refine ⟨_, base, hc.inv h ?_ (fun _ => ⟨rfl, rfl⟩) ?_ (fun he => replay_ended he base) (fun _ => rfl) ?_⟩
    · intro j hj
      exact (h.mem j).2 (mem_endedOps.1 hj)
    · intro hm _ j op' _ hj hm'
      simp only [Bool.and_eq_true, not_and, Bool.not_eq_true] at hbusy
      have hb := hbusy hm
      rw [mainBusy] at hb
      rw [List.any_eq_false] at hb
      have := hb op' (List.mem_of_getElem? hj)
      simpa [hm'] using this
    · have hnew : ∀ (j : Nat) (op : Op K C Q), (s.ops ++ [⟨k, code.prog k, [], false, s.endedOps⟩])[j]? = some op →
          op.underWay = true → s.ops[j]? = some op := by
        intro j op hop hu
        rcases hc.get hop with ⟨_, rfl⟩ | ⟨_, hop⟩
        · cases hu
        · exact hop
      cases h.inside with
      | idle howner hcell hidle =>
          refine .idle howner hcell ?_
          intro op hop
          by_contra hu
          obtain ⟨j, hj⟩ := List.mem_iff_getElem?.1 hop
          have hu' : op.underWay = true := by simpa using hu
          exact hu (hidle op (List.mem_of_getElem? (hnew j op hj hu')))
      | under j op hj hu honly hshape hreplay =>
          have hlt := (List.getElem?_eq_some_iff.1 hj).1
          refine .under j op ?_ hu (fun j' op' hj' hu' => honly j' op' (hnew j' op' hj' hu') hu') hshape hreplay
          exact (hother j (by omega)).trans hj

/-- What a step of an operation finds: it is alone inside, with what it has done
so far, and its step leaves it inside or at its end. -/
structure Ready (code : Code K C Q) (s : Sys K C Q) (base : C) (i : Nat) (op : Op K C Q)
    (owner' : Option Nat) (rest' : Prog C Q Unit) : Prop where
  only : ∀ j op', s.ops[j]? = some op' → op'.underWay = true → j = i
  replay : ∀ l, op.rest.replay s.cell l = (code.prog op.kind).replay base (op.answers ++ l)
  ended : rest'.ended = true → owner' = none
  shape : rest'.ended = false → Shape code i op.kind owner' rest'

theorem plain_step {b : Bool} {p p' : Prog C Q Unit} {c c' : C} {used : List Bool} {owner owner' : Option Nat}
    (hp : Plain p) (h : p.step b c = some (p', c', used)) (ho : ownerAfter i owner p = some owner') :
    Plain p' ∧ owner' = owner := by
  cases hp with
  | ret a => cases h
  | load hk =>
      cases h
      cases ho
      exact ⟨hk c, rfl⟩
  | modify hq =>
      cases h
      cases ho
      exact ⟨hq, rfl⟩
  | ask hk =>
      cases h
      cases ho
      exact ⟨hk b, rfl⟩

theorem holding_step {b : Bool} {p p' : Prog C Q Unit} {c c' : C} {used : List Bool} {owner owner' : Option Nat}
    (hp : Holding p) (h : p.step b c = some (p', c', used)) (ho : ownerAfter i owner p = some owner') :
    (Holding p' ∧ owner' = owner) ∨ (p'.ended = true ∧ owner' = none) := by
  cases hp with
  | load hk =>
      cases h
      cases ho
      exact .inl ⟨hk c, rfl⟩
  | modify hq =>
      cases h
      cases ho
      exact .inl ⟨hq, rfl⟩
  | ask hk =>
      cases h
      cases ho
      exact .inl ⟨hk b, rfl⟩
  | unlock a =>
      cases h
      cases ho
      exact .inr ⟨rfl, rfl⟩

theorem Inv.ready_of_underWay {b : Bool} {op : Op K C Q} {rest' : Prog C Q Unit} {cell' : C} {used : List Bool}
    {owner' : Option Nat} (h : Inv code c₀ s order base) (hop : s.ops[i]? = some op) (hu : op.underWay = true)
    (hstep : op.rest.step b s.cell = some (rest', cell', used))
    (howner : ownerAfter i s.owner op.rest = some owner') : Ready code s base i op owner' rest' := by
  cases h.inside with
  | idle _ _ hidle =>
      rw [hidle op (List.mem_of_getElem? hop)] at hu
      cases hu
  | under k opk hk _ honly hshape hreplay =>
      obtain rfl := honly i op hop hu
      cases hop.symm.trans hk
      refine ⟨honly, hreplay, ?_, ?_⟩
      · intro he
        rcases hshape with ⟨_, hp, ho⟩ | ⟨_, hp, ho⟩
        · rw [(plain_step hp hstep howner).2, ho]
        · rcases holding_step hp hstep howner with ⟨hp', _⟩ | ⟨_, ho'⟩
          · rw [hp'.not_ended] at he
            cases he
          · exact ho'
      · intro he
        rcases hshape with ⟨hm, hp, ho⟩ | ⟨hm, hp, ho⟩
        · obtain ⟨hp', ho'⟩ := plain_step hp hstep howner
          exact .inl ⟨hm, hp', ho'.trans ho⟩
        · rcases holding_step hp hstep howner with ⟨hp', ho'⟩ | ⟨he', _⟩
          · exact .inr ⟨hm, hp', ho'.trans ho⟩
          · rw [he'] at he
            cases he

theorem Op.live_of_step {b : Bool} {op : Op K C Q} {c : C} {r : Prog C Q Unit × C × List Bool}
    (h : op.rest.step b c = some r) : op.ended = false := by
  rw [Op.ended]
  cases hr : op.rest with
  | ret a =>
      rw [hr] at h
      cases h
  | load _ | modify _ _ | ask _ _ | lock _ | unlock _ => rfl

theorem Op.live_of_underWay {op : Op K C Q} (h : op.underWay = true) : op.ended = false := by
  rw [Op.underWay, Bool.and_eq_true] at h
  simpa using h.2

/-- Nobody is inside when an operation of the main thread takes its first step:
the one that is would be of the main thread too, or own the mutex. -/
theorem Inv.idle_of_main {op : Op K C Q} (h : Inv code c₀ s order base) (hop : s.ops[i]? = some op)
    (hfresh : op.begun = false) (hlive : op.ended = false) (hm : code.main op.kind = true)
    (hfree : s.owner = none) : s.cell = base ∧ Idle s := by
  cases h.inside with
  | idle _ hcell hidle => exact ⟨hcell, hidle⟩
  | under k opk hk hu _ hshape _ =>
      rcases hshape with ⟨hmk, _, _⟩ | ⟨_, _, ho⟩
      · obtain rfl := h.mainOne i op k opk hop hk hm hmk hlive (Op.live_of_underWay hu)
        cases hop.symm.trans hk
        simp [Op.underWay, hfresh] at hu
      · rw [hfree] at ho
        cases ho

/-- Nobody is inside when the mutex is free and the main thread has nothing
under way. -/
theorem Inv.idle_of_free (h : Inv code c₀ s order base) (hfree : s.owner = none)
    (hmain : ∀ op ∈ s.ops, code.main op.kind = true → op.underWay = false) : s.cell = base ∧ Idle s := by
  cases h.inside with
  | idle _ hcell hidle => exact ⟨hcell, hidle⟩
  | under k opk hk hu _ hshape _ =>
      rcases hshape with ⟨hmk, _, _⟩ | ⟨_, _, ho⟩
      · rw [hmain opk (List.mem_of_getElem? hk) hmk] at hu
        cases hu
      · rw [hfree] at ho
        cases ho

theorem guarded_step {b : Bool} {p p' : Prog C Q Unit} {c c' : C} {used : List Bool} {owner owner' : Option Nat}
    (hp : Guarded p) (h : p.step b c = some (p', c', used)) (ho : ownerAfter i owner p = some owner') :
    takesMutex p = true ∧ owner = none ∧ owner' = some i ∧ Holding p' := by
  cases hp with
  | ret a => cases h
  | lock hp' =>
      cases h
      change (if owner = none then some (some i) else none) = some owner' at ho
      split at ho
      next hnone =>
        cases ho
        exact ⟨rfl, hnone, rfl, hp'⟩
      next => cases ho

theorem Inv.ready_of_fresh {b : Bool} {op : Op K C Q} {rest' : Prog C Q Unit} {cell' : C} {used : List Bool}
    {owner' : Option Nat} (h : Inv code c₀ s order base) (hex : Exclusive code s (.move i b))
    (hop : s.ops[i]? = some op) (hfresh : op.begun = false)
    (hstep : op.rest.step b s.cell = some (rest', cell', used))
    (howner : ownerAfter i s.owner op.rest = some owner') : Ready code s base i op owner' rest' := by
  obtain ⟨hmainFree, hlockFree⟩ := hex op hop
  obtain ⟨hrest, hans⟩ := h.fresh i op hop hfresh
  have hside : (s.cell = base ∧ Idle s) ∧ (rest'.ended = true → owner' = none) ∧
      (rest'.ended = false → Shape code i op.kind owner' rest') := by
    cases hm : code.main op.kind with
    | true =>
        have hp := code.plain op.kind hm
        rw [← hrest] at hp
        obtain ⟨hp', ho'⟩ := plain_step hp hstep howner
        have ho : owner' = none := ho'.trans (hmainFree hm)
        exact ⟨h.idle_of_main hop hfresh (Op.live_of_step hstep) hm (hmainFree hm), fun _ => ho,
          fun _ => .inl ⟨hm, hp', ho⟩⟩
    | false =>
        have hg := code.guarded op.kind hm
        rw [← hrest] at hg
        obtain ⟨htakes, hnone, ho', hp'⟩ := guarded_step hg hstep howner
        refine ⟨h.idle_of_free hnone (hlockFree htakes), ?_, fun _ => .inr ⟨hm, hp', ho'⟩⟩
        intro he
        rw [hp'.not_ended] at he
        cases he
  obtain ⟨⟨hcell, hidle⟩, hended, hshape⟩ := hside
  refine ⟨?_, ?_, hended, hshape⟩
  · intro j op' hj hu
    rw [hidle op' (List.mem_of_getElem? hj)] at hu
    cases hu
  · intro l
    rw [hrest, hans, hcell, List.nil_append]

/-- What the step leaves inside: the operation that took it, or nobody when it
ended. -/
theorem Ready.inside {op : Op K C Q} {owner' : Option Nat} {rest' : Prog C Q Unit} {used : List Bool}
    (hready : Ready code s base i op owner' rest') (hc : Changes s s' i new) (howner : s'.owner = owner')
    (hnew : new = { op with rest := rest', answers := op.answers ++ used, begun := true })
    (hreplay : ∀ l, rest'.replay s'.cell l = (code.prog op.kind).replay base (op.answers ++ used ++ l)) :
    Inside code s' (if rest'.ended = true then s'.cell else base) := by
  subst hnew
  have honly : ∀ (j : Nat) (op' : Op K C Q), j ≠ i → s.ops[j]? = some op' → op'.underWay = false := by
    intro j op' hj hop'
    by_contra hu
    exact hj (hready.only j op' hop' (by simpa using hu))
  cases he : rest'.ended with
  | true =>
      refine .idle (howner.trans (hready.ended he)) rfl ?_
      intro op' hop'
      obtain ⟨j, hj⟩ := List.mem_iff_getElem?.1 hop'
      rcases hc.get hj with ⟨_, rfl⟩ | ⟨hji, hj⟩
      · simp [Op.underWay, Op.ended, he]
      · exact honly j op' hji hj
  | false =>
      refine .under i _ hc.same (by simp [Op.underWay, Op.ended, he]) ?_ ?_ hreplay
      · intro j op' hj hu
        rcases hc.get hj with ⟨rfl, _⟩ | ⟨hji, hj⟩
        · rfl
        · rw [honly j op' hji hj] at hu
          cases hu
      · rw [howner]
        exact hready.shape he

theorem Inv.move_step {b : Bool} (h : Inv code c₀ s order base) (hex : Exclusive code s (.move i b))
    (hs : step code s (.move i b) = some s') : ∃ order' base', Inv code c₀ s' order' base' := by
  obtain ⟨op, hop, hs⟩ := Option.bind_eq_some_iff.1 hs
  obtain ⟨⟨rest', cell', used⟩, hstep, hs⟩ := Option.bind_eq_some_iff.1 hs
  obtain ⟨owner', howner, hs⟩ := Option.bind_eq_some_iff.1 hs
  cases hs
  have hlt := (List.getElem?_eq_some_iff.1 hop).1
  have hlive := Op.live_of_step hstep
  have hready : Ready code s base i op owner' rest' := by
    cases hb : op.begun with
    | false => exact h.ready_of_fresh hex hop hb hstep howner
    | true => exact h.ready_of_underWay hop (by simp [Op.underWay, hb, hlive]) hstep howner
  have hc : Changes s ⟨cell', owner', s.ops.set i { op with rest := rest', answers := op.answers ++ used, begun := true }⟩
      i { op with rest := rest', answers := op.answers ++ used, begun := true } := by
    refine ⟨fun j hj => List.getElem?_set_ne (Ne.symm hj), by simp [hlt], ?_⟩
    rintro ⟨op', hop', he⟩
    cases hop.symm.trans hop'
    rw [hlive] at he
    cases he
  have hreplay : ∀ l, rest'.replay cell' l = (code.prog op.kind).replay base (op.answers ++ used ++ l) := by
    intro l
    rw [step_replay hstep, hready.replay, List.append_assoc]
  refine ⟨_, if rest'.ended = true then cell' else base, hc.inv h (h.after i op hop) ?_ ?_ ?_ ?_
    (hready.inside hc rfl rfl hreplay)⟩
  · intro hb
    cases hb
  · intro hm _ j op' hj hop' hm'
    by_contra he
    exact hj (h.mainOne j op' i op hop' hop hm' hm (by simpa using he) hlive)
  · intro he
    have he' : rest'.ended = true := he
    have hnil := hreplay []
    rw [List.append_nil, replay_ended he' cell'] at hnil
    rw [if_pos he']
    exact hnil.symm
  · intro he
    exact if_neg (Bool.eq_false_iff.1 he)

/-- Operations that keep out of each other's way are linearizable. -/
theorem linearizable_of_exclusive (h : Path (step code) (Exclusive code) (start c₀) s) (hidle : Idle s) :
    Linearizable code c₀ s := by
  have hinv : ∃ order base, Inv code c₀ s order base := by
    refine h.invariant (fun s => ∃ order base, Inv code c₀ s order base) ⟨[], c₀, Inv.start c₀⟩ ?_
    rintro t (k | ⟨i, b⟩) u ⟨order, base, hi⟩ hok hstep
    · exact hi.start_step hstep
    · exact hi.move_step hok hstep
  obtain ⟨order, base, hi⟩ := hinv
  refine ⟨order, hi.nodup, hi.mem, hi.realTime, ?_⟩
  cases hi.inside with
  | idle _ hcell _ => rw [hi.seq, hcell]
  | under k op hk hu _ _ _ =>
      rw [hidle op (List.mem_of_getElem? hk)] at hu
      cases hu

end WaybeamVenc.Interleaving
