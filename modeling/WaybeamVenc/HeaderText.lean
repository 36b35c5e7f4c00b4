import WaybeamVenc.Search

namespace WaybeamVenc.HeaderText

open Search

variable {α : Type} [DecidableEq α]

/-- Lines that each end with r and n, and an empty one behind them. -/
def writeHead (r n : α) : List (List α) → List α
  | [] => [r, n]
  | line :: lines => line ++ r :: n :: writeHead r n lines

def readLine (r n : α) (s : List α) : Option (List α × List α) :=
  (search [r, n] s).map fun k => (s.take k, s.drop (k + 2))

/-- The lines in front of the first empty one, and what is behind it. -/
def readHead (r n : α) : ℕ → List α → Option (List (List α) × List α)
  | 0, _ => none
  | fuel + 1, s =>
    match readLine r n s with
    | none => none
    | some ([], rest) => some ([], rest)
    | some (c :: line, rest) => (readHead r n fuel rest).map fun h => ((c :: line) :: h.1, h.2)

/-- A line that no reader takes for more or less than one. -/
structure Line (r : α) (line : List α) : Prop where
  ne : line ≠ []
  clean : r ∉ line

variable {r n : α}

theorem search_skip {pat x : List α} (hx : r ∉ x) (s : List α) :
    search (r :: pat) (x ++ s) = (search (r :: pat) s).map (· + x.length) := by
  induction x with
  | nil => simp
  | cons c x ih =>
      obtain ⟨hc, hx⟩ := not_or.1 (List.mem_cons.not.1 hx)
      have hno : ¬ r :: pat <+: c :: (x ++ s) := by simp [List.cons_prefix_cons, hc]
      rw [List.cons_append, search, if_neg hno, ih hx, Option.map_map]
      congr 1

theorem search_here {pat s : List α} {a : α} (h : pat <+: a :: s) : search pat (a :: s) = some 0 := by
  rw [search, if_pos h]

omit [DecidableEq α] in
/-- A pattern without r at the front of a text ends before the text's first r. -/
theorem prefix_apart {pat x s : List α} (hr : r ∉ pat) (h : pat <+: x ++ r :: s) : pat <+: x := by
  rcases List.prefix_or_prefix_of_prefix h (List.prefix_append x (r :: s)) with hin | ⟨rest, rfl⟩
  · exact hin
  · cases rest with
    | nil => simp
    | cons c rest =>
        obtain ⟨more, hmore⟩ := h
        simp only [List.append_assoc, List.cons_append, List.append_cancel_left_eq, List.cons.injEq] at hmore
        exact absurd (by simp [hmore.1]) hr

theorem search_apart {pat x : List α} (hr : r ∉ pat) (hne : pat ≠ []) (hx : search pat x = none) (s : List α) :
    search pat (x ++ r :: s) = (search pat s).map (· + (x.length + 1)) := by
  induction x with
  | nil =>
      have hno : ¬ pat <+: r :: s := fun h => hne (List.prefix_nil.1 (prefix_apart (x := []) hr h))
      rw [List.nil_append, search, if_neg hno]
      rfl
  | cons c x ih =>
      rw [search] at hx
      split at hx
      · cases hx
      next hno =>
        have hno' : ¬ pat <+: c :: (x ++ r :: s) := fun h => hno (prefix_apart (x := c :: x) hr h)
        rw [List.cons_append, search, if_neg hno', ih (Option.map_eq_none_iff.1 hx), Option.map_map]
        congr 1

theorem search_line {line : List α} (hline : r ∉ line) (s : List α) :
    search [r, n] (line ++ r :: n :: s) = some line.length := by
  have hhere : search [r, n] (r :: n :: s) = some 0 := search_here ⟨s, rfl⟩
  simp [search_skip hline, hhere]

theorem readLine_written {line : List α} (hline : r ∉ line) (s : List α) :
    readLine r n (line ++ r :: n :: s) = some (line, s) := by
  simp [readLine, search_line hline]

theorem readLine_append {s t line rest : List α} (h : readLine r n s = some (line, rest)) :
    readLine r n (s ++ t) = some (line, rest ++ t) := by
  obtain ⟨k, hk, hfound⟩ := Option.map_eq_some_iff.1 h
  obtain ⟨rfl, rfl⟩ := Prod.mk.inj hfound
  have hlen := search_length hk
  have htwo : ([r, n] : List α).length = 2 := rfl
  rw [readLine, search_append hk, Option.map_some, List.take_append_of_le_length (by omega),
    List.drop_append_of_le_length (by omega)]

theorem readHead_written {lines : List (List α)} (hlines : ∀ line ∈ lines, Line r line) (rest : List α) {fuel : ℕ}
    (hfuel : lines.length < fuel) : readHead r n fuel (writeHead r n lines ++ rest) = some (lines, rest) := by
  induction lines generalizing fuel with
  | nil =>
      obtain ⟨fuel, rfl⟩ : ∃ k, fuel = k + 1 := ⟨fuel - 1, by omega⟩
      have hread : readLine r n (r :: n :: rest) = some ([], rest) := readLine_written List.not_mem_nil rest
      simp [writeHead, readHead, hread]
  | cons line lines ih =>
      obtain ⟨hfirst, hrest⟩ := List.forall_mem_cons.1 hlines
      rw [List.length_cons] at hfuel
      obtain ⟨fuel, rfl⟩ : ∃ k, fuel = k + 1 := ⟨fuel - 1, by omega⟩
      have hread : readLine r n (line ++ r :: n :: (writeHead r n lines ++ rest)) = some (line, writeHead r n lines ++ rest) :=
        readLine_written hfirst.clean _
      have hmore := ih hrest (show lines.length < fuel by omega)
      have htext : writeHead r n (line :: lines) ++ rest = line ++ r :: n :: (writeHead r n lines ++ rest) := by
        simp [writeHead]
      cases line with
      | nil => exact absurd rfl hfirst.ne
      | cons c line =>
          rw [htext, readHead, hread]
          dsimp only
          rw [hmore, Option.map_some]

omit [DecidableEq α] in
theorem writeHead_append (lines lines' : List (List α)) :
    writeHead r n (lines ++ lines') = lines.flatMap (· ++ [r, n]) ++ writeHead r n lines' := by
  induction lines with
  | nil => rfl
  | cons line lines ih => simp [writeHead, ih]

/-- A head that is read stays what it is when more arrives. -/
theorem readHead_append {s t rest : List α} {lines : List (List α)} {fuel fuel' : ℕ} (hfuel : fuel ≤ fuel')
    (h : readHead r n fuel s = some (lines, rest)) : readHead r n fuel' (s ++ t) = some (lines, rest ++ t) := by
  induction fuel generalizing fuel' s lines with
  | zero => cases h
  | succ fuel ih =>
      obtain ⟨fuel', rfl⟩ : ∃ k, fuel' = k + 1 := ⟨fuel' - 1, by omega⟩
      cases hread : readLine r n s with
      | none => simp [readHead, hread] at h
      | some found =>
          obtain ⟨line, behind⟩ := found
          have hmore : readLine r n (s ++ t) = some (line, behind ++ t) := readLine_append hread
          cases line with
          | nil =>
              obtain ⟨rfl, rfl⟩ : lines = [] ∧ rest = behind := by simpa [readHead, hread, eq_comm] using h
              simp [readHead, hmore]
          | cons c line =>
              rw [readHead, hread] at h
              obtain ⟨⟨tail, rest'⟩, htail, heq⟩ := Option.map_eq_some_iff.1 h
              obtain ⟨rfl, rfl⟩ := Prod.mk.inj heq
              rw [readHead, hmore]
              dsimp only
              rw [ih (by omega) htail, Option.map_some]

/-! Where the pieces of a head are found. -/

omit [DecidableEq α] in
theorem length_writeHead (lines : List (List α)) : lines.length < (writeHead r n lines).length := by
  induction lines with
  | nil => simp [writeHead]
  | cons line lines ih =>
      simp only [writeHead, List.length_append, List.length_cons]
      omega

/-- The place of the last line's end. -/
theorem search_blank (hne : r ≠ n) {line : List α} {lines : List (List α)} (hline : r ∉ line)
    (hlines : ∀ l ∈ lines, Line r l) (rest : List α) :
    search [r, n, r, n] (writeHead r n (line :: lines) ++ rest) = some ((writeHead r n (line :: lines)).length - 4) := by
  induction lines generalizing line with
  | nil =>
      have hhere : search [r, n, r, n] (r :: n :: r :: n :: rest) = some 0 := search_here ⟨rest, rfl⟩
      simp [writeHead, search_skip hline, hhere]
  | cons l lines ih =>
      obtain ⟨hl, hmore⟩ := List.forall_mem_cons.1 hlines
      have hnext := ih hl.clean hmore
      have hlen : 4 ≤ (writeHead r n (l :: lines)).length := by
        have hrest : lines.length < (writeHead r n lines).length := length_writeHead lines
        simp only [writeHead, List.length_append, List.length_cons]
        cases lines with
        | nil => simp [writeHead]
        | cons _ _ => simp only [List.length_cons] at hrest; omega
      obtain ⟨c, l', rfl⟩ := List.exists_cons_of_ne_nil hl.ne
      have hc : r ≠ c := fun h => hl.clean (h ▸ List.mem_cons_self)
      have htext : writeHead r n (line :: (c :: l') :: lines) ++ rest =
          line ++ (r :: n :: (writeHead r n ((c :: l') :: lines) ++ rest)) := by
        simp [writeHead]
      have hcons : writeHead r n ((c :: l') :: lines) ++ rest =
          c :: (l' ++ r :: n :: (writeHead r n lines ++ rest)) := by
        simp [writeHead]
      have hfirst : ¬ [r, n, r, n] <+: r :: n :: (writeHead r n ((c :: l') :: lines) ++ rest) := by
        simp [hcons, List.cons_prefix_cons, hc]
      have hsecond : ¬ [r, n, r, n] <+: n :: (writeHead r n ((c :: l') :: lines) ++ rest) := by
        simp [List.cons_prefix_cons, hne]
      rw [htext, search_skip hline, search, if_neg hfirst, search, if_neg hsecond, hnext]
      simp only [Option.map_some, Option.some.injEq]
      rw [show writeHead r n (line :: (c :: l') :: lines) = line ++ r :: n :: writeHead r n ((c :: l') :: lines) from rfl]
      simp only [List.length_append, List.length_cons]
      omega

end WaybeamVenc.HeaderText
