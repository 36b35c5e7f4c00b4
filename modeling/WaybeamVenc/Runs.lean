import Mathlib.Logic.Basic

namespace WaybeamVenc.Runs

variable {S A T B : Type}

/-- The states a partial step function reaches from s when every action taken
is admitted by ok in the state before it. -/
inductive Path (step : S → A → Option S) (ok : S → A → Prop) (s : S) : S → Prop
  | refl : Path step ok s s
  | next {t u : S} (a : A) (h : Path step ok s t) (hok : ok t a) (hstep : step t a = some u) :
      Path step ok s u

def anyAction : S → A → Prop := fun _ _ => True

abbrev Reaches (step : S → A → Option S) : S → S → Prop := Path step anyAction

/-- A whole list of actions, executable on concrete states. -/
def run (step : S → A → Option S) : S → List A → Option S
  | s, [] => some s
  | s, a :: as => (step s a).bind (fun t => run step t as)

/-- The same with the guard checked on the way. -/
def runIf (step : S → A → Option S) (ok : S → A → Bool) : S → List A → Option S
  | s, [] => some s
  | s, a :: as => if ok s a then (step s a).bind (fun t => runIf step ok t as) else none

theorem Path.trans {step : S → A → Option S} {ok : S → A → Prop} {s t u : S}
    (h : Path step ok s t) (k : Path step ok t u) : Path step ok s u := by
  induction k with
  | refl => exact h
  | next a _ hok hstep ih => exact .next a ih hok hstep

theorem Path.mono {step : S → A → Option S} {ok ok' : S → A → Prop} {s t : S}
    (himp : ∀ t a, ok t a → ok' t a) (h : Path step ok s t) : Path step ok' s t := by
  induction h with
  | refl => exact .refl
  | next a _ hok hstep ih => exact .next a ih (himp _ _ hok) hstep

/-- Induction over a run: what the start satisfies and every admitted step
preserves holds wherever the run arrives. -/
theorem Path.invariant {step : S → A → Option S} {ok : S → A → Prop} {s t : S}
    (inv : S → Prop) (hstart : inv s)
    (hpres : ∀ t a u, inv t → ok t a → step t a = some u → inv u)
    (h : Path step ok s t) : inv t := by
  induction h with
  | refl => exact hstart
  | next a _ hok hstep ih => exact hpres _ a _ ih hok hstep

theorem Path.head {step : S → A → Option S} {ok : S → A → Prop} {s t u : S} (a : A)
    (hok : ok s a) (hstep : step s a = some t) (h : Path step ok t u) : Path step ok s u :=
  (Path.next a .refl hok hstep).trans h

theorem reaches_of_run {step : S → A → Option S} {s t : S} (as : List A)
    (h : run step s as = some t) : Reaches step s t := by
  induction as generalizing s with
  | nil => cases h; exact .refl
  | cons a as ih =>
      obtain ⟨u, hu, hrest⟩ := Option.bind_eq_some_iff.mp h
      exact .head a trivial hu (ih hrest)

theorem path_of_runIf {step : S → A → Option S} {ok : S → A → Prop} {okb : S → A → Bool} {s t : S}
    (as : List A) (hok : ∀ s a, okb s a = true → ok s a) (h : runIf step okb s as = some t) :
    Path step ok s t := by
  induction as generalizing s with
  | nil => cases h; exact .refl
  | cons a as ih =>
      rw [runIf] at h
      split at h
      · next hb =>
        obtain ⟨u, hu, hrest⟩ := Option.bind_eq_some_iff.mp h
        exact .head a (hok s a hb) hu (ih hrest)
      · cases h

/-- The states a list of actions goes through, up to the first one that cannot
be taken. -/
def states (step : S → A → Option S) : S → List A → List S
  | _, [] => []
  | s, a :: as =>
    match step s a with
    | none => []
    | some t => t :: states step t as

/-- Every action on the way meets a condition in the state before it. -/
def Meets (step : S → A → Option S) (ok : S → A → Prop) : S → List A → Prop
  | _, [] => True
  | s, a :: as => ∀ t, step s a = some t → ok s a ∧ Meets step ok t as

theorem meets_true (step : S → A → Option S) (s : S) (as : List A) : Meets step (fun _ _ => True) s as := by
  induction as generalizing s with
  | nil => trivial
  | cons a as ih => exact fun t _ => ⟨trivial, ih t⟩

/-- A step that is judged from a state where something holds leaves it right
exactly under a condition: so does a run, if what is right is enough for that. -/
theorem forall_states_iff_while {step : S → A → Option S} {fits ok : S → A → Prop} {P Q : S → Prop}
    (hkeep : ∀ t, P t → Q t) (hstep : ∀ s a t, Q s → fits s a → step s a = some t → (P t ↔ ok s a)) {s : S} {as : List A}
    (hs : Q s) (hfits : Meets step fits s as) : (∀ t ∈ states step s as, P t) ↔ Meets step ok s as := by
  induction as generalizing s with
  | nil =>
      constructor
      · exact fun _ => trivial
      · intro _ t ht
        cases ht
  | cons a as ih =>
      rw [states, Meets]
      cases hnext : step s a with
      | none =>
          constructor
          · intro _ t ht
            cases ht
          · intro _ t ht
            cases ht
      | some t =>
          obtain ⟨hfit, hrest⟩ := hfits t hnext
          have hone := hstep s a t hs hfit hnext
          simp only [List.forall_mem_cons, Option.some.injEq, forall_eq']
          rw [hone]
          exact and_congr_right fun hok => ih (hkeep t (hone.mpr hok)) hrest

/-- What every single step leaves right exactly under a condition, a run leaves
right all the way exactly when its actions meet the condition. -/
theorem forall_states_iff {step : S → A → Option S} {fits ok : S → A → Prop} {P : S → Prop}
    (hstep : ∀ s a t, fits s a → step s a = some t → (P t ↔ ok s a)) {s : S} {as : List A}
    (hfits : Meets step fits s as) : (∀ t ∈ states step s as, P t) ↔ Meets step ok s as :=
  @forall_states_iff_while _ _ step fits ok P (fun _ => True) (fun _ _ => trivial) (fun s a t _ => hstep s a t) s as
    trivial hfits

/-- The same where a step is only judged from a state that is right: from such a
start, the first step off the condition is the first state that is wrong. -/
theorem forall_states_iff_of_start {step : S → A → Option S} {ok : S → A → Prop} {P : S → Prop}
    (hstep : ∀ s a t, P s → step s a = some t → (P t ↔ ok s a)) {s : S} {as : List A} (hs : P s) :
    (∀ t ∈ states step s as, P t) ↔ Meets step ok s as :=
  forall_states_iff_while (fun _ h => h) (fun s a t hp _ => hstep s a t hp) hs (meets_true step s as)

/-- Forward simulation under an invariant of the concrete system: related
states stay related when the abstract system answers with a run of its own. -/
theorem Path.simulates {step : S → A → Option S} {ok : S → A → Prop}
    {step' : T → B → Option T} {ok' : T → B → Prop} {s t : S} {x : T}
    (rel : S → T → Prop) (hstart : rel s x)
    (hsim : ∀ t a u y, rel t y → ok t a → step t a = some u →
      ∃ z, rel u z ∧ Path step' ok' y z)
    (h : Path step ok s t) : ∃ z, rel t z ∧ Path step' ok' x z := by
  induction h with
  | refl => exact ⟨x, hstart, .refl⟩
  | next a _ hok hstep ih =>
      obtain ⟨y, hy, hpath⟩ := ih
      obtain ⟨z, hz, hmore⟩ := hsim _ a _ y hy hok hstep
      exact ⟨z, hz, hpath.trans hmore⟩

end WaybeamVenc.Runs
