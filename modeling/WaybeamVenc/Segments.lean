import Mathlib.Data.List.Basic

namespace WaybeamVenc.Segments

variable {α : Type} (full : List α → Bool)

/-- A text read from the left, with what is open of it: a segment ends where
it is full, and the last one with the text. -/
def cut : List α → List α → List (List α)
  | acc, [] => if acc.isEmpty then [] else [acc]
  | acc, c :: s => if full (acc ++ [c]) then (acc ++ [c]) :: cut [] s else cut (acc ++ [c]) s

/-- No part from the front on is full. -/
def Growing (acc : List α) : Prop := ∀ p c, p ++ [c] <+: acc → full (p ++ [c]) = false

/-- Segments as cutting leaves them. -/
inductive Segmented : List (List α) → Prop
  | nil : Segmented []
  | last {p : List α} : p ≠ [] → Growing full p → Segmented [p]
  | more {q : List α} {c : α} {ps : List (List α)} :
      Growing full q → full (q ++ [c]) = true → Segmented ps → Segmented ((q ++ [c]) :: ps)

theorem growing_nil : Growing full [] := by
  intro p c h
  have hnil : p ++ [c] = [] := List.prefix_nil.1 h
  exact absurd hnil (List.concat_ne_nil c p)

variable {full}

theorem Growing.snoc {acc : List α} {c : α} (h : Growing full acc) (hc : full (acc ++ [c]) = false) :
    Growing full (acc ++ [c]) := by
  intro p d hp
  rcases List.prefix_concat_iff.1 hp with heq | hle
  · rw [heq]
    exact hc
  · exact h p d hle

theorem cut_flatten (acc s : List α) : (cut full acc s).flatten = acc ++ s := by
  induction s generalizing acc with
  | nil =>
      rw [cut]
      split
      next h => rw [List.isEmpty_iff.1 h]; rfl
      next h => simp
  | cons c s ih =>
      rw [cut]
      split
      · rw [List.flatten_cons, ih, List.append_assoc]
        rfl
      · rw [ih, List.append_assoc]
        rfl

theorem cut_segmented {acc : List α} (h : Growing full acc) (s : List α) : Segmented full (cut full acc s) := by
  induction s generalizing acc with
  | nil =>
      rw [cut]
      split
      next => exact .nil
      next hne => exact .last (fun he => hne (List.isEmpty_iff.2 he)) h
  | cons c s ih =>
      rw [cut]
      split
      next hfull => exact .more h hfull (ih (growing_nil full))
      next hopen => exact ih (h.snoc (Bool.eq_false_iff.2 hopen))

/-- What is not full on the way stays open. -/
theorem cut_growing {acc t : List α} (h : Growing full (acc ++ t)) (s : List α) :
    cut full acc (t ++ s) = cut full (acc ++ t) s := by
  induction t generalizing acc with
  | nil => rw [List.nil_append, List.append_nil]
  | cons c t ih =>
      have hsplit : acc ++ c :: t = (acc ++ [c]) ++ t := by rw [List.append_assoc]; rfl
      rw [hsplit] at h
      have hopen := h acc c (List.prefix_append _ _)
      rw [List.cons_append, cut, hopen, hsplit]
      exact ih h

theorem cut_start {t : List α} (h : Growing full t) (s : List α) : cut full [] (t ++ s) = cut full t s :=
  @cut_growing α full [] t h s

theorem cut_whole {s : List α} (hne : s ≠ []) (h : Growing full s.dropLast) : cut full [] s = [s] := by
  have hcut := cut_start h [s.getLast hne]
  rw [List.dropLast_append_getLast, cut, List.dropLast_append_getLast] at hcut
  rw [hcut]
  split
  · rfl
  · rw [cut, if_neg fun he => hne (List.isEmpty_iff.1 he)]

/-- Segments that have been put together are cut where they were. -/
theorem Segmented.cut_eq {ps : List (List α)} (h : Segmented full ps) : cut full [] ps.flatten = ps := by
  induction h with
  | nil => rfl
  | @last p hne h =>
      rw [List.flatten_cons, List.flatten_nil, cut_start h, cut, if_neg (fun he => hne (List.isEmpty_iff.1 he))]
  | @more q c ps h hfull _ ih =>
      rw [List.flatten_cons, List.append_assoc, cut_start h, List.singleton_append, cut, hfull, ih]
      rfl

theorem Segmented.filter {ps : List (List α)} (h : Segmented full ps) (keep : List α → Bool) :
    Segmented full (ps.filter keep) := by
  induction h with
  | nil => exact .nil
  | @last p hne h =>
      rw [List.filter_cons]
      split
      · exact .last hne h
      · exact .nil
  | @more q c ps h hfull _ ih =>
      rw [List.filter_cons]
      split
      · exact .more h hfull ih
      · exact ih

/-- Nothing before the last character of a segment is full. -/
theorem Segmented.mem {ps : List (List α)} (h : Segmented full ps) {p : List α} (hp : p ∈ ps) :
    p ≠ [] ∧ Growing full p.dropLast := by
  induction h with
  | nil => cases hp
  | @last q hne h =>
      rw [List.mem_singleton.1 hp]
      exact ⟨hne, fun r c hr => h r c (hr.trans (List.dropLast_prefix q))⟩
  | @more q c ps h _ _ ih =>
      rcases List.mem_cons.1 hp with rfl | hp
      · rw [List.dropLast_concat]
        exact ⟨List.concat_ne_nil c q, h⟩
      · exact ih hp

/-- A selection of the segments of a text is the segments of what it says. -/
theorem cut_filter (keep : List α → Bool) (s : List α) :
    cut full [] ((cut full [] s).filter keep).flatten = (cut full [] s).filter keep :=
  ((cut_segmented (growing_nil full) s).filter keep).cut_eq

/-! Lines, and a cut that ends at least where they do. -/

variable {ends : α → Bool}

def endsLine (ends : α → Bool) (p : List α) : Bool := p.getLast?.any ends

theorem endsLine_snoc (p : List α) (c : α) : endsLine ends (p ++ [c]) = ends c := by
  rw [endsLine, List.getLast?_concat]
  rfl

theorem growing_line {p : List α} (h : ∀ c ∈ p, ends c = false) : Growing (endsLine ends) p := by
  intro q c hq
  rw [endsLine_snoc]
  exact h c (hq.subset (List.mem_append_right q (List.mem_singleton_self c)))

theorem cut_lines_aux (hfiner : ∀ p c, ends c = true → full (p ++ [c]) = true) (s : List α) :
    ∀ acc open_ ps, (∀ t, cut full [] (acc ++ t) = ps ++ cut full open_ t) →
      (cut (endsLine ends) acc s).flatMap (cut full []) = ps ++ cut full open_ s := by
  induction s with
  | nil =>
      intro acc open_ ps h
      rw [cut, ← h [], List.append_nil]
      split
      next he => rw [List.isEmpty_iff.1 he]; rfl
      next => exact List.flatMap_singleton _ _
  | cons c s ih =>
      intro acc open_ ps h
      have hnext (t : List α) : cut full [] (acc ++ [c] ++ t) = ps ++ cut full open_ (c :: t) := by
        rw [← h (c :: t), List.append_assoc, List.singleton_append]
      rw [cut, endsLine_snoc]
      cases hend : ends c with
      | true =>
          -- the line ends, and with it the segment
          have hfull := hfiner open_ c hend
          have hline : cut full [] (acc ++ [c]) = ps ++ [open_ ++ [c]] := by
            rw [← List.append_nil (acc ++ [c]), hnext [], cut, hfull]
            rfl
          have hrest : cut full open_ (c :: s) = (open_ ++ [c]) :: cut full [] s := by rw [cut, hfull, if_pos rfl]
          rw [if_pos rfl, List.flatMap_cons, hline, ih [] [] [] fun _ => rfl, hrest, List.append_assoc]
          rfl
      | false =>
          rw [if_neg (by decide), cut]
          cases hfull : full (open_ ++ [c]) with
          | true =>
              rw [if_pos rfl]
              have hseg (t : List α) : cut full [] (acc ++ [c] ++ t) = (ps ++ [open_ ++ [c]]) ++ cut full [] t := by
                rw [hnext, cut, hfull, if_pos rfl, List.append_assoc, List.singleton_append]
              rw [ih _ _ _ hseg, List.append_assoc, List.singleton_append]
          | false =>
              rw [if_neg (by decide)]
              refine ih _ _ _ fun t => ?_
              rw [hnext, cut, hfull, if_neg (by decide)]

/-- The segments of a text are those of its lines. -/
theorem cut_lines (hfiner : ∀ p c, ends c = true → full (p ++ [c]) = true) (s : List α) :
    cut full [] s = (cut (endsLine ends) [] s).flatMap (cut full []) :=
  (cut_lines_aux hfiner s [] [] [] fun _ => rfl).symm

/-! Selecting segments instead of lines. -/

variable {keep : List α → Bool}

theorem flatMap_selected {ls : List (List α)} {f : List α → List (List α)}
    (h : ∀ l ∈ ls, ∀ p ∈ f l, keep p = keep l) :
    ls.flatMap (fun l => (f l).filter keep) = (ls.filter keep).flatMap f := by
  induction ls with
  | nil => rfl
  | cons l ls ih =>
      rw [List.flatMap_cons, ih fun k hk => h k (List.mem_cons_of_mem l hk), List.filter_cons]
      have hl := h l List.mem_cons_self
      cases hkeep : keep l with
      | true =>
          rw [if_pos rfl, List.flatMap_cons, List.filter_eq_self.2 fun p hp => by rw [hl p hp, hkeep]]
      | false =>
          rw [if_neg (by decide), List.filter_eq_nil_iff.2 fun p hp => by rw [hl p hp, hkeep]; decide, List.nil_append]

/-- If the kept lines keep all their segments, and there is no other segment
kept, every segment fares as its line does. -/
theorem selected_agree {ls : List (List α)} {f : List α → List (List α)}
    (hkept : ∀ l ∈ ls, keep l = true → ∀ p ∈ f l, keep p = true)
    (h : (ls.flatMap fun l => (f l).filter keep).length = ((ls.filter keep).flatMap f).length) :
    ∀ l ∈ ls, ∀ p ∈ f l, keep p = keep l := by
  have hle : ∀ ks : List (List α), (∀ l ∈ ks, keep l = true → ∀ p ∈ f l, keep p = true) →
      ((ks.filter keep).flatMap f).length ≤ (ks.flatMap fun l => (f l).filter keep).length := by
    intro ks
    induction ks with
    | nil => intro _; exact Nat.le_refl 0
    | cons k ks ih =>
        intro hks
        have hrest := ih fun l hl => hks l (List.mem_cons_of_mem k hl)
        rw [List.flatMap_cons, List.filter_cons, List.length_append]
        split
        next hk =>
          rw [List.flatMap_cons, List.length_append, List.filter_eq_self.2 (hks k List.mem_cons_self hk)]
          exact Nat.add_le_add_left hrest _
        next => exact Nat.le_trans hrest (Nat.le_add_left _ _)
  induction ls with
  | nil => intro l hl; cases hl
  | cons l ls ih =>
      have htail : ∀ k ∈ ls, keep k = true → ∀ p ∈ f k, keep p = true :=
        fun k hk => hkept k (List.mem_cons_of_mem l hk)
      have hrest := hle ls htail
      rw [List.flatMap_cons, List.filter_cons, List.length_append] at h
      cases hkeep : keep l with
      | true =>
          have hall := hkept l List.mem_cons_self hkeep
          rw [hkeep, if_pos rfl, List.flatMap_cons, List.length_append, List.filter_eq_self.2 hall] at h
          intro k hk p hp
          rcases List.mem_cons.1 hk with rfl | hk
          · rw [hall p hp, hkeep]
          · exact ih htail (by omega) k hk p hp
      | false =>
          rw [hkeep, if_neg (by decide)] at h
          have hnone : ((f l).filter keep).length = 0 := by omega
          intro k hk p hp
          rcases List.mem_cons.1 hk with rfl | hk
          · rw [hkeep]
            exact Bool.eq_false_iff.2 (List.filter_eq_nil_iff.1 (List.length_eq_zero_iff.1 hnone) p hp)
          · exact ih htail (by omega) k hk p hp

/-- Selecting among the segments says what selecting among the lines does
exactly when every segment fares as its line. -/
theorem filter_segments_iff (hfiner : ∀ p c, ends c = true → full (p ++ [c]) = true) (s : List α) :
    ((cut full [] s).filter keep).flatten = ((cut (endsLine ends) [] s).filter keep).flatten ↔
      ∀ l ∈ cut (endsLine ends) [] s, ∀ p ∈ cut full [] l, keep p = keep l := by
  have hpieces : (cut full [] s).filter keep =
      (cut (endsLine ends) [] s).flatMap fun l => (cut full [] l).filter keep := by
    rw [cut_lines hfiner, List.filter_flatMap]
  constructor
  · intro h
    -- what was written is cut again, once as it was and once along the lines
    have hcut : (cut full [] s).filter keep = ((cut (endsLine ends) [] s).filter keep).flatMap (cut full []) := by
      rw [← cut_filter keep s, h, cut_lines hfiner, cut_filter]
    refine selected_agree (fun l hl hkeep p hp => ?_) (by rw [← hpieces, hcut])
    have hmem : p ∈ (cut full [] s).filter keep := by
      rw [hcut]
      exact List.mem_flatMap.2 ⟨l, List.mem_filter.2 ⟨hl, hkeep⟩, hp⟩
    exact (List.mem_filter.1 hmem).2
  · intro h
    rw [hpieces, flatMap_selected h]
    have hflat : ∀ ls : List (List α), (ls.flatMap (cut full [])).flatten = ls.flatten := by
      intro ls
      induction ls with
      | nil => rfl
      | cons l ls ih => rw [List.flatMap_cons, List.flatten_append, ih, cut_flatten, List.nil_append, List.flatten_cons]
    exact hflat _

end WaybeamVenc.Segments
