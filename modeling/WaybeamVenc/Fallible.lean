import Mathlib.Data.List.Basic

namespace WaybeamVenc.Fallible

/-! Computations that can fail. -/

theorem bind_ok {ε α β : Type} {x : Except ε α} {f : α → Except ε β} {b : β} (h : (x >>= f) = .ok b) :
    ∃ a, x = .ok a ∧ f a = .ok b := by
  cases x with
  | error e => cases h
  | ok a => exact ⟨a, rfl, h⟩

theorem bind_error {ε α β : Type} {x : Except ε α} {f : α → Except ε β} {e : ε} (h : (x >>= f) = .error e) :
    x = .error e ∨ ∃ a, x = .ok a ∧ f a = .error e := by
  cases x with
  | error e' =>
      cases h
      exact .inl rfl
  | ok a => exact .inr ⟨a, rfl, h⟩

theorem foldlM_error {ε α β : Type} {f : β → α → Except ε β} {bad : ε → Prop}
    (step : ∀ b a e, f b a = .error e → bad e) {l : List α} {b : β} {e : ε} (h : l.foldlM f b = .error e) :
    bad e := by
  induction l generalizing b with
  | nil => cases h
  | cons a l ih =>
      rw [List.foldlM_cons] at h
      rcases bind_error h with h | ⟨b', _, h⟩
      · exact step b a e h
      · exact ih h

/-- An invariant of a fold over what it has read, when no step fails. -/
theorem foldlM_ok {ε α β : Type} {f : β → α → Except ε β} (inv : List α → β → Prop) {l : List α} {b r : β}
    (step : ∀ pre a b b', a ∈ l → inv pre b → f b a = .ok b' → inv (pre ++ [a]) b') (hb : inv [] b)
    (h : l.foldlM f b = .ok r) : inv l r := by
  have run : ∀ (post pre : List α) (b : β), (∀ a ∈ post, a ∈ l) → inv pre b → post.foldlM f b = .ok r →
      inv (pre ++ post) r := by
    intro post
    induction post with
    | nil =>
        intro pre b _ hb h
        cases h
        rwa [List.append_nil]
    | cons a post ih =>
        intro pre b hl hb h
        rw [List.foldlM_cons] at h
        obtain ⟨b', hb', h⟩ := bind_ok h
        have := ih (pre ++ [a]) b' (fun a ha => hl a (List.mem_cons_of_mem _ ha))
          (step pre a b b' (hl a List.mem_cons_self) hb hb') h
        rwa [List.append_assoc] at this
  exact run l [] b (fun _ ha => ha) hb h

/-! Lists of results. -/

theorem mapM_cons_some {α β : Type} {f : α → Option β} {a : α} {as : List α} {b : β} {bs : List β}
    (hhead : f a = some b) (htail : as.mapM f = some bs) : (a :: as).mapM f = some (b :: bs) := by
  simp [List.mapM_cons, hhead, htail]

theorem mapM_append_some {α β : Type} {f : α → Option β} {as as' : List α} {bs bs' : List β}
    (h : as.mapM f = some bs) (h' : as'.mapM f = some bs') : (as ++ as').mapM f = some (bs ++ bs') := by
  simp [List.mapM_append, h, h']

theorem mapM_length {α β : Type} {f : α → Option β} {as : List α} {bs : List β} (h : as.mapM f = some bs) :
    as.length = bs.length := by
  induction as generalizing bs with
  | nil =>
      cases h
      rfl
  | cons a as ih =>
      simp only [List.mapM_cons, Option.bind_eq_bind, Option.bind_eq_some_iff] at h
      obtain ⟨b, -, bs', hbs, heq⟩ := h
      cases heq
      rw [List.length_cons, List.length_cons, ih hbs]

/-- What a list is mapped to has an element for each of its elements. -/
theorem mem_of_mapM {α β : Type} {g : α → Option β} {as : List α} {bs : List β} (h : as.mapM g = some bs) {a : α}
    (ha : a ∈ as) : ∃ b ∈ bs, g a = some b := by
  induction as generalizing bs with
  | nil => cases ha
  | cons a' as ih =>
      rw [List.mapM_cons] at h
      obtain ⟨b, hb, h⟩ := Option.bind_eq_some_iff.1 h
      obtain ⟨bs', hbs, h⟩ := Option.bind_eq_some_iff.1 h
      obtain rfl := Option.some.inj h
      rcases List.mem_cons.1 ha with rfl | ha
      · exact ⟨b, List.mem_cons_self, hb⟩
      · obtain ⟨b', hb', hg⟩ := ih hbs ha
        exact ⟨b', List.mem_cons_of_mem b hb', hg⟩

end WaybeamVenc.Fallible
