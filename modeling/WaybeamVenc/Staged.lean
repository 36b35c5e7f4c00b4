import Mathlib.Logic.Basic

namespace WaybeamVenc.Staged

variable {S : Type}

/-- A routine leaves a state behind, and says whether it succeeded. -/
abbrev Routine (S : Type) := S → Bool × S

/-- A routine that cannot fail. -/
def always (f : S → S) : Routine S := fun s => (true, f s)

def refuse : Routine S := fun s => (false, s)

/-- The second runs where the first succeeds. -/
def andThen (r q : Routine S) : Routine S := fun s =>
  match r s with
  | (true, t) => q t
  | (false, t) => (false, t)

/-- What is put back where the routine fails. -/
def undoing (r : Routine S) (f : S → S) : Routine S := fun s =>
  match r s with
  | (true, t) => (true, t)
  | (false, t) => (false, f t)

/-- A routine on a part of the state. -/
def within {T : Type} (get : S → T) (set : T → S → S) (r : Routine T) : Routine S := fun s =>
  match r (get s) with
  | (ok, t) => (ok, set t s)

@[simp] theorem always_fst (f : S → S) (s : S) : (always f s).1 = true := rfl

@[simp] theorem andThen_fst (r q : Routine S) (s : S) : (andThen r q s).1 = ((r s).1 && (q (r s).2).1) := by
  rw [andThen]
  split <;> simp [*]

@[simp] theorem within_fst {T : Type} (get : S → T) (set : T → S → S) (r : Routine T) (s : S) :
    (within get set r s).1 = (r (get s)).1 := rfl

@[simp] theorem within_snd {T : Type} (get : S → T) (set : T → S → S) (r : Routine T) (s : S) :
    (within get set r s).2 = set (r (get s)).2 s := rfl

@[simp] theorem always_andThen (f : S → S) (q : Routine S) (s : S) : andThen (always f) q s = q (f s) := rfl

@[simp] theorem undoing_fst (r : Routine S) (f : S → S) (s : S) : (undoing r f s).1 = (r s).1 := by
  rw [undoing]
  split <;> simp [*]

/-- From every state in pre the routine succeeds in good or fails in bad. -/
def Ends (pre : S → Prop) (r : Routine S) (good bad : S → Prop) : Prop :=
  ∀ s, pre s → (∃ t, r s = (true, t) ∧ good t) ∨ ∃ t, r s = (false, t) ∧ bad t

variable {pre mid good bad good' bad' : S → Prop} {r q : Routine S} {f : S → S}

theorem Ends.always (h : ∀ s, pre s → good (f s)) : Ends pre (always f) good bad :=
  fun s hs => .inl ⟨f s, rfl, h s hs⟩

theorem Ends.refuse (h : ∀ s, pre s → bad s) : Ends pre refuse good bad :=
  fun s hs => .inr ⟨s, rfl, h s hs⟩

theorem Ends.andThen (h : Ends pre r mid bad) (k : Ends mid q good bad) : Ends pre (andThen r q) good bad := by
  intro s hs
  rw [Staged.andThen]
  rcases h s hs with ⟨t, ht, hmid⟩ | ⟨t, ht, hbad⟩
  · rw [ht]
    exact k t hmid
  · rw [ht]
    exact .inr ⟨t, rfl, hbad⟩

theorem Ends.undoing (h : Ends pre r good mid) (k : ∀ t, mid t → bad (f t)) : Ends pre (undoing r f) good bad := by
  intro s hs
  rw [Staged.undoing]
  rcases h s hs with ⟨t, ht, hgood⟩ | ⟨t, ht, hmid⟩
  · rw [ht]
    exact .inl ⟨t, rfl, hgood⟩
  · rw [ht]
    exact .inr ⟨f t, rfl, k t hmid⟩

theorem Ends.always_eq {s : S} (h : good (f s)) : Ends (Eq s) (Staged.always f) good bad :=
  .always fun _ hs => hs ▸ h

theorem Ends.always_then {s : S} (h : Ends (Eq (f s)) q good bad) :
    Ends (Eq s) (Staged.andThen (Staged.always f) q) good bad :=
  .andThen (.always_eq rfl) h

theorem Ends.undoing_eq {s t : S} (h : Ends (Eq s) r good (Eq t)) (k : bad (f t)) :
    Ends (Eq s) (Staged.undoing r f) good bad :=
  .undoing h fun _ ht => ht ▸ k

theorem Ends.of_eq {s t : S} (h : t = s) (k : Ends (Eq t) r good bad) : Ends (Eq s) r good bad := h ▸ k

/-- What is acquired first is put back when the rest fails. -/
theorem Ends.acquire {s t : S} {back : S → S → Prop} (h : Ends (Eq s) r (Eq t) (back s))
    (k : Ends (Eq t) q good (back t)) (hback : ∀ u, back t u → back s (f u)) :
    Ends (Eq s) (Staged.andThen r (Staged.undoing q f)) good (back s) :=
  .andThen h (.undoing k hback)

theorem Ends.weaken (h : Ends pre r good bad) (hgood : ∀ t, good t → good' t) (hbad : ∀ t, bad t → bad' t) :
    Ends pre r good' bad' := by
  intro s hs
  rcases h s hs with ⟨t, ht, hg⟩ | ⟨t, ht, hb⟩
  · exact .inl ⟨t, ht, hgood t hg⟩
  · exact .inr ⟨t, ht, hbad t hb⟩

theorem Ends.within {T : Type} {get : S → T} {set : T → S → S} {part : Routine T} {goodPart badPart : T → Prop} {s : S}
    (h : Ends (Eq (get s)) part goodPart badPart) (hgood : ∀ t, goodPart t → good (set t s))
    (hbad : ∀ t, badPart t → bad (set t s)) : Ends (Eq s) (Staged.within get set part) good bad := by
  rintro _ rfl
  rw [Staged.within]
  rcases h (get s) rfl with ⟨t, ht, hg⟩ | ⟨t, ht, hb⟩
  · rw [ht]
    exact .inl ⟨_, rfl, hgood t hg⟩
  · rw [ht]
    exact .inr ⟨_, rfl, hbad t hb⟩

/-! Two routines of which a view of the state does not tell which one ran. -/

def Agree {V : Type} (view : S → V) (r q : Routine S) : Prop :=
  ∀ s t, view s = view t → (r s).1 = (q t).1 ∧ view (r s).2 = view (q t).2

section

variable {V : Type} {view : S → V} {r' q' : Routine S} {f g : S → S}

theorem Agree.always (h : ∀ s t, view s = view t → view (f s) = view (g t)) : Agree view (always f) (always g) :=
  fun s t hst => ⟨rfl, h s t hst⟩

theorem Agree.refuse : Agree view refuse refuse := fun _ _ hst => ⟨rfl, hst⟩

theorem Agree.andThen (h : Agree view r r') (k : Agree view q q') : Agree view (andThen r q) (andThen r' q') := by
  intro s t hst
  obtain ⟨hok, hview⟩ := h s t hst
  rw [Staged.andThen, Staged.andThen]
  generalize r s = x at hok hview
  generalize r' t = y at hok hview
  obtain ⟨ok, u⟩ := x
  obtain ⟨ok', u'⟩ := y
  obtain rfl : ok = ok' := hok
  cases ok with
  | true => exact k u u' hview
  | false => exact ⟨rfl, hview⟩

theorem Agree.undoing (h : Agree view r r') (hf : ∀ s t, view s = view t → view (f s) = view (g t)) :
    Agree view (undoing r f) (undoing r' g) := by
  intro s t hst
  obtain ⟨hok, hview⟩ := h s t hst
  rw [Staged.undoing, Staged.undoing]
  generalize r s = x at hok hview
  generalize r' t = y at hok hview
  obtain ⟨ok, u⟩ := x
  obtain ⟨ok', u'⟩ := y
  obtain rfl : ok = ok' := hok
  cases ok with
  | true => exact ⟨rfl, hview⟩
  | false => exact ⟨rfl, hf u u' hview⟩

theorem Agree.within {T W : Type} {get : S → T} {set : T → S → S} {part : T → W} {x y : Routine T} (h : Agree part x y)
    (hget : ∀ s t, view s = view t → part (get s) = part (get t))
    (hset : ∀ s t u v, view s = view t → part u = part v → view (set u s) = view (set v t)) :
    Agree view (within get set x) (within get set y) := by
  intro s t hst
  obtain ⟨hok, hpart⟩ := h _ _ (hget s t hst)
  exact ⟨hok, hset s t _ _ hst hpart⟩

end

end WaybeamVenc.Staged
