import Mathlib.Init

namespace WaybeamVenc.Resumption

variable {C Q α β : Type}

/-- A program over one shared cell, one step at a time. It may ask its
environment for the outcome of a call, and hold a mutex. -/
inductive Prog (C Q α : Type)
  | ret (a : α)
  | load (k : C → Prog C Q α)
  | modify (f : C → C) (p : Prog C Q α)
  | ask (q : Q) (k : Bool → Prog C Q α)
  | lock (p : Prog C Q α)
  | unlock (p : Prog C Q α)

namespace Prog

def bind : Prog C Q α → (α → Prog C Q β) → Prog C Q β
  | .ret a, k => k a
  | .load p, k => .load fun c => (p c).bind k
  | .modify f p, k => .modify f (p.bind k)
  | .ask q p, k => .ask q fun b => (p b).bind k
  | .lock p, k => .lock (p.bind k)
  | .unlock p, k => .unlock (p.bind k)

instance : Monad (Prog C Q) where
  pure := .ret
  bind := bind

def get : Prog C Q C := .load .ret

def set (c : C) : Prog C Q Unit := .modify (fun _ => c) (.ret ())

def call (q : Q) : Prog C Q Bool := .ask q .ret

/-- The calls in order, up to the first one that fails. -/
def callAll : List Q → Prog C Q Bool
  | [] => pure true
  | q :: qs => do
    if ← call q then callAll qs else pure false

def acquire : Prog C Q Unit := .lock (.ret ())

def release : Prog C Q Unit := .unlock (.ret ())

/-- The program on its own from a cell and a log of calls. A call's outcome may
depend on the log before it. -/
def exec (answer : List (Q × Bool) → Q → Bool) : Prog C Q α → C → List (Q × Bool) → α × C × List (Q × Bool)
  | .ret a, c, l => (a, c, l)
  | .load k, c, l => (k c).exec answer c l
  | .modify f p, c, l => p.exec answer (f c) l
  | .ask q k, c, l => (k (answer l q)).exec answer c (l ++ [(q, answer l q)])
  | .lock p, c, l => p.exec answer c l
  | .unlock p, c, l => p.exec answer c l

/-- What the program can return and leave in the cell, with the calls it makes
and their outcomes. -/
inductive Run : Prog C Q α → C → List (Q × Bool) → α → C → Prop
  | ret (a : α) (c : C) : Run (.ret a) c [] a c
  | load {k : C → Prog C Q α} {c c' : C} {l : List (Q × Bool)} {a : α} (h : Run (k c) c l a c') :
      Run (.load k) c l a c'
  | modify {f : C → C} {p : Prog C Q α} {c c' : C} {l : List (Q × Bool)} {a : α} (h : Run p (f c) l a c') :
      Run (.modify f p) c l a c'
  | ask {q : Q} {k : Bool → Prog C Q α} {b : Bool} {c c' : C} {l : List (Q × Bool)} {a : α}
      (h : Run (k b) c l a c') : Run (.ask q k) c ((q, b) :: l) a c'
  | lock {p : Prog C Q α} {c c' : C} {l : List (Q × Bool)} {a : α} (h : Run p c l a c') : Run (.lock p) c l a c'
  | unlock {p : Prog C Q α} {c c' : C} {l : List (Q × Bool)} {a : α} (h : Run p c l a c') :
      Run (.unlock p) c l a c'

theorem exec_run (answer : List (Q × Bool) → Q → Bool) (p : Prog C Q α) (c : C) (l : List (Q × Bool)) :
    ∃ l', (p.exec answer c l).2.2 = l ++ l' ∧ Run p c l' (p.exec answer c l).1 (p.exec answer c l).2.1 := by
  induction p generalizing c l with
  | ret a => exact ⟨[], (List.append_nil l).symm, .ret a c⟩
  | load k ih =>
      obtain ⟨l', h, hr⟩ := ih c c l
      exact ⟨l', h, .load hr⟩
  | modify f p ih =>
      obtain ⟨l', h, hr⟩ := ih (f c) l
      exact ⟨l', h, .modify hr⟩
  | ask q k ih =>
      obtain ⟨l', h, hr⟩ := ih (answer l q) c (l ++ [(q, answer l q)])
      refine ⟨(q, answer l q) :: l', ?_, .ask hr⟩
      rw [exec, h, List.append_assoc]
      rfl
  | lock p ih =>
      obtain ⟨l', h, hr⟩ := ih c l
      exact ⟨l', h, .lock hr⟩
  | unlock p ih =>
      obtain ⟨l', h, hr⟩ := ih c l
      exact ⟨l', h, .unlock hr⟩

variable {c c' : C} {l : List (Q × Bool)}

theorem Run.of_bind {p : Prog C Q α} {k : α → Prog C Q β} {b : β} (h : Run (p >>= k) c l b c') :
    ∃ l₁ l₂ a c₁, l = l₁ ++ l₂ ∧ Run p c l₁ a c₁ ∧ Run (k a) c₁ l₂ b c' := by
  change Run (p.bind k) c l b c' at h
  induction p generalizing c l with
  | ret a => exact ⟨[], l, a, c, rfl, .ret a c, h⟩
  | load p ih =>
      cases h with
      | load h =>
          obtain ⟨l₁, l₂, a, c₁, hl, hp, hk⟩ := ih _ h
          exact ⟨l₁, l₂, a, c₁, hl, .load hp, hk⟩
  | modify f p ih =>
      cases h with
      | modify h =>
          obtain ⟨l₁, l₂, a, c₁, hl, hp, hk⟩ := ih h
          exact ⟨l₁, l₂, a, c₁, hl, .modify hp, hk⟩
  | ask q p ih =>
      cases h with
      | @ask _ _ o _ _ l _ h =>
          obtain ⟨l₁, l₂, a, c₁, hl, hp, hk⟩ := ih _ h
          exact ⟨(q, o) :: l₁, l₂, a, c₁, by rw [hl]; rfl, .ask hp, hk⟩
  | lock p ih =>
      cases h with
      | lock h =>
          obtain ⟨l₁, l₂, a, c₁, hl, hp, hk⟩ := ih h
          exact ⟨l₁, l₂, a, c₁, hl, .lock hp, hk⟩
  | unlock p ih =>
      cases h with
      | unlock h =>
          obtain ⟨l₁, l₂, a, c₁, hl, hp, hk⟩ := ih h
          exact ⟨l₁, l₂, a, c₁, hl, .unlock hp, hk⟩

@[simp] theorem run_pure {a b : α} :
    Run (pure a : Prog C Q α) c l b c' ↔ l = [] ∧ b = a ∧ c' = c := by
  constructor
  · intro h
    cases h
    exact ⟨rfl, rfl, rfl⟩
  · rintro ⟨rfl, rfl, rfl⟩
    exact .ret b c'

@[simp] theorem run_get_bind {k : C → Prog C Q β} {b : β} : Run (get >>= k) c l b c' ↔ Run (k c) c l b c' := by
  constructor
  · rintro (_ | ⟨h⟩)
    exact h
  · exact .load

@[simp] theorem run_set_bind {d : C} {k : Unit → Prog C Q β} {b : β} :
    Run (set d >>= k) c l b c' ↔ Run (k ()) d l b c' := by
  constructor
  · rintro (_ | _ | ⟨h⟩)
    exact h
  · exact fun h => .modify h

@[simp] theorem run_acquire_bind {k : Unit → Prog C Q β} {b : β} :
    Run (acquire >>= k) c l b c' ↔ Run (k ()) c l b c' := by
  constructor
  · rintro (_ | _ | _ | _ | ⟨h⟩)
    exact h
  · exact .lock

@[simp] theorem run_release_bind {k : Unit → Prog C Q β} {b : β} :
    Run (release >>= k) c l b c' ↔ Run (k ()) c l b c' := by
  constructor
  · rintro (_ | _ | _ | _ | _ | ⟨h⟩)
    exact h
  · exact .unlock

/-- A program under the mutex runs as it does without. -/
theorem run_locked {p : Prog C Q α} {a : α} (h : Run (do acquire; let a ← p; release; pure a) c l a c') :
    Run p c l a c' := by
  rw [run_acquire_bind] at h
  obtain ⟨l₁, l₂, o, c₁, rfl, hp, hr⟩ := h.of_bind
  have hu := run_release_bind.1 hr
  obtain ⟨rfl, rfl, rfl⟩ := run_pure.1 hu
  rwa [List.append_nil]

theorem Run.of_call {q : Q} {b : Bool} (h : Run (call q : Prog C Q Bool) c l b c') : l = [(q, b)] ∧ c' = c := by
  cases h with
  | ask h =>
      obtain ⟨rfl, rfl, rfl⟩ := run_pure.1 h
      exact ⟨rfl, rfl⟩

/-- The calls all succeed, or they succeed up to one that fails. -/
theorem Run.of_callAll {qs : List Q} {b : Bool} (h : Run (callAll qs : Prog C Q Bool) c l b c') :
    c' = c ∧ ((b = true ∧ l = qs.map (·, true)) ∨
      (b = false ∧ ∃ pre q post, qs = pre ++ q :: post ∧ l = pre.map (·, true) ++ [(q, false)])) := by
  induction qs generalizing c l with
  | nil =>
      obtain ⟨rfl, rfl, rfl⟩ := run_pure.1 h
      exact ⟨rfl, .inl ⟨rfl, rfl⟩⟩
  | cons q qs ih =>
      obtain ⟨l₁, l₂, o, c₁, rfl, hq, hr⟩ := h.of_bind
      obtain ⟨rfl, rfl⟩ := hq.of_call
      cases o with
      | false =>
          obtain ⟨rfl, rfl, rfl⟩ := run_pure.1 (by simpa using hr)
          exact ⟨rfl, .inr ⟨rfl, [], q, qs, rfl, rfl⟩⟩
      | true =>
          obtain ⟨rfl, ⟨rfl, rfl⟩ | ⟨rfl, pre, q', post, rfl, rfl⟩⟩ := ih (by simpa using hr)
          · exact ⟨rfl, .inl ⟨rfl, rfl⟩⟩
          · exact ⟨rfl, .inr ⟨rfl, q :: pre, q', post, rfl, rfl⟩⟩

/-- The program on its own with given outcomes of its calls, if they are as
many as it makes. -/
def replay : Prog C Q α → C → List Bool → Option (α × C)
  | .ret a, c, [] => some (a, c)
  | .ret _, _, _ :: _ => none
  | .load k, c, l => (k c).replay c l
  | .modify f p, c, l => p.replay (f c) l
  | .ask _ _, _, [] => none
  | .ask _ k, c, b :: l => (k b).replay c l
  | .lock p, c, l => p.replay c l
  | .unlock p, c, l => p.replay c l

theorem Run.replay {p : Prog C Q α} {a : α} (h : Run p c l a c') : p.replay c (l.map Prod.snd) = some (a, c') := by
  induction h with
  | ret a c => rfl
  | load _ ih | modify _ ih | ask _ ih | lock _ ih | unlock _ ih => exact ih

/-- One step with an outcome for a call, and the outcomes it used. Whether the
mutex is free is not a matter of the program. -/
def step (b : Bool) : Prog C Q α → C → Option (Prog C Q α × C × List Bool)
  | .ret _, _ => none
  | .load k, c => some (k c, c, [])
  | .modify f p, c => some (p, f c, [])
  | .ask _ k, c => some (k b, c, [b])
  | .lock p, c => some (p, c, [])
  | .unlock p, c => some (p, c, [])

theorem step_replay {b : Bool} {p p' : Prog C Q α} {used : List Bool} (h : p.step b c = some (p', c', used))
    (l : List Bool) : p'.replay c' l = p.replay c (used ++ l) := by
  cases p <;> cases h <;> rfl

def ended : Prog C Q α → Bool
  | .ret _ => true
  | _ => false

theorem replay_ended {p : Prog C Q Unit} (h : p.ended = true) (c : C) : p.replay c [] = some ((), c) := by
  cases p with
  | ret a => rfl
  | _ => cases h

inductive Plain : Prog C Q α → Prop
  | ret (a : α) : Plain (.ret a)
  | load {k : C → Prog C Q α} (h : ∀ c, Plain (k c)) : Plain (.load k)
  | modify {f : C → C} {p : Prog C Q α} (h : Plain p) : Plain (.modify f p)
  | ask {q : Q} {k : Bool → Prog C Q α} (h : ∀ b, Plain (k b)) : Plain (.ask q k)

/-- A program that holds the mutex and releases it as its last step. -/
inductive Holding : Prog C Q α → Prop
  | load {k : C → Prog C Q α} (h : ∀ c, Holding (k c)) : Holding (.load k)
  | modify {f : C → C} {p : Prog C Q α} (h : Holding p) : Holding (.modify f p)
  | ask {q : Q} {k : Bool → Prog C Q α} (h : ∀ b, Holding (k b)) : Holding (.ask q k)
  | unlock (a : α) : Holding (.unlock (.ret a))

/-- A program that touches the cell under the mutex only, or not at all. -/
inductive Guarded : Prog C Q α → Prop
  | ret (a : α) : Guarded (.ret a)
  | lock {p : Prog C Q α} (h : Holding p) : Guarded (.lock p)

theorem Holding.not_ended {p : Prog C Q α} (h : Holding p) : p.ended = false := by
  cases h <;> rfl

theorem Plain.bind {p : Prog C Q α} {k : α → Prog C Q β} (hp : Plain p) (hk : ∀ a, Plain (k a)) :
    Plain (p >>= k) := by
  change Plain (p.bind k)
  induction hp with
  | ret a => exact hk a
  | load _ ih => exact .load ih
  | modify _ ih => exact .modify ih
  | ask _ ih => exact .ask ih

theorem Holding.map {p : Prog C Q α} (f : α → β) (hp : Holding p) : Holding (p >>= fun a => pure (f a)) := by
  change Holding (p.bind fun a => .ret (f a))
  induction hp with
  | load _ ih => exact .load ih
  | modify _ ih => exact .modify ih
  | ask _ ih => exact .ask ih
  | unlock a => exact .unlock (f a)

theorem Guarded.map {p : Prog C Q α} (f : α → β) (hp : Guarded p) : Guarded (p >>= fun a => pure (f a)) := by
  cases hp with
  | ret a => exact .ret (f a)
  | lock h => exact .lock (h.map f)

theorem Plain.guarded {p : Prog C Q α} (hp : Plain p) :
    Guarded (do acquire; let a ← p; release; pure a) := by
  apply Guarded.lock
  change Holding (p.bind fun a => .unlock (.ret a))
  induction hp with
  | ret a => exact .unlock a
  | load _ ih => exact .load ih
  | modify _ ih => exact .modify ih
  | ask _ ih => exact .ask ih

theorem plain_get : Plain (get : Prog C Q C) := .load fun c => .ret c

theorem plain_set (d : C) : Plain (set d : Prog C Q Unit) := .modify (.ret ())

theorem plain_callAll (qs : List Q) : Plain (callAll qs : Prog C Q Bool) := by
  induction qs with
  | nil => exact .ret true
  | cons q qs ih =>
      apply Plain.ask
      intro b
      cases b with
      | true => exact ih
      | false => exact .ret false

end Prog

end WaybeamVenc.Resumption
