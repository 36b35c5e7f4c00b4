import Mathlib.Data.List.TakeDrop
import WaybeamVenc.Segments

namespace WaybeamVenc.StdoutFilter

open Segments

def esc : UInt8 := 0x1B

def newline : UInt8 := 0x0A

/-- sizeof(line) - 1, which lpos does not pass. -/
def lineRoom : Nat := 1023

/-- The line buffer up to lpos, and the bytes of each call of write. -/
structure Filter where
  line : List UInt8
  written : List (List UInt8)

/-- Discards a line that begins with ESC and writes any other. -/
def flushLine (line : List UInt8) (written : List (List UInt8)) : List (List UInt8) :=
  match line with
  | [] => written
  | b :: rest => if b ≠ esc then written ++ [b :: rest] else written

def takeByte (s : Filter) (c : UInt8) : Filter :=
  let line := if s.line.length < lineRoom then s.line ++ [c] else s.line
  if c = newline ∨ line.length = lineRoom then ⟨[], flushLine line s.written⟩ else { s with line }

/-- What each read returns, until one returns nothing. -/
def readLoop (s : Filter) : List (List UInt8) → Filter
  | [] => s
  | [] :: _ => s
  | chunk :: reads => readLoop (chunk.foldl takeByte s) reads

/-- The bytes that stdout_filter_fn hands to write, call by call. -/
def stdoutFilterFn (reads : List (List UInt8)) : List (List UInt8) :=
  let s := readLoop ⟨[], []⟩ reads
  flushLine s.line s.written

/-- A stream as read() may return it: never nothing before the end, and never
more than the buffer takes. -/
structure Reads (stream : List UInt8) where
  chunks : List (List UInt8)
  nonempty : ∀ chunk ∈ chunks, chunk ≠ []
  fits : ∀ chunk ∈ chunks, chunk.length ≤ 1024
  whole : chunks.flatten = stream

/-- The lines of a stream with their newlines, the last one possibly without. -/
def lines (stream : List UInt8) : List (List UInt8) := cut (endsLine (· == newline)) [] stream

def kept (line : List UInt8) : Bool := line.head? != some esc

/-- The concatenation of the lines that do not begin with ESC. -/
def forwarded (stream : List UInt8) : List UInt8 := ((lines stream).filter kept).flatten

/-- Where the buffer is flushed. -/
def flushed (p : List UInt8) : Bool := p.getLast? == some newline || p.length == lineRoom

theorem flushed_snoc (p : List UInt8) (c : UInt8) :
    flushed (p ++ [c]) = true ↔ c = newline ∨ (p ++ [c]).length = lineRoom := by
  rw [flushed, List.getLast?_concat, Bool.or_eq_true, beq_iff_eq, beq_iff_eq, Option.some.injEq]

theorem flushLine_eq {line : List UInt8} (h : line ≠ []) (written : List (List UInt8)) :
    flushLine line written = written ++ [line].filter kept := by
  obtain ⟨b, rest, rfl⟩ := List.exists_cons_of_ne_nil h
  rw [flushLine, List.filter_cons, List.filter_nil]
  by_cases hb : b = esc
  · have hdropped : kept (b :: rest) = false := by
      rw [hb]
      rfl
    rw [if_neg (not_not.2 hb), hdropped, if_neg (by decide), List.append_nil]
  · have hkept : kept (b :: rest) = true := bne_iff_ne.2 fun he => hb (Option.some.inj he)
    rw [if_pos hb, hkept, if_pos rfl]

/-- A byte at a time, the filter writes the segments that do not begin with
ESC and holds the open one. -/
theorem run_cut (stream : List UInt8) (s : Filter) (h : s.line.length < lineRoom) :
    flushLine (stream.foldl takeByte s).line (stream.foldl takeByte s).written =
      s.written ++ (cut flushed s.line stream).filter kept := by
  induction stream generalizing s with
  | nil =>
      rw [List.foldl_nil, cut]
      split
      next hnil => rw [List.isEmpty_iff.1 hnil, flushLine, List.filter_nil, List.append_nil]
      next hne => exact flushLine_eq (fun he => hne (List.isEmpty_iff.2 he)) s.written
  | cons c stream ih =>
      rw [List.foldl_cons, cut]
      cases hfull : flushed (s.line ++ [c]) with
      | true =>
          have hstep : takeByte s c = ⟨[], s.written ++ [s.line ++ [c]].filter kept⟩ := by
            rw [takeByte, if_pos h, if_pos ((flushed_snoc s.line c).1 hfull), flushLine_eq (List.concat_ne_nil c s.line)]
          rw [hstep, ih ⟨[], _⟩ (show 0 < lineRoom by decide), if_pos rfl, List.append_assoc, ← List.filter_append]
          rfl
      | false =>
          have hopen : ¬ (c = newline ∨ (s.line ++ [c]).length = lineRoom) := by
            rw [← flushed_snoc, hfull]
            decide
          have hstep : takeByte s c = { s with line := s.line ++ [c] } := by
            rw [takeByte, if_pos h, if_neg hopen]
          have hroom : (s.line ++ [c]).length < lineRoom := by
            have hne : (s.line ++ [c]).length ≠ lineRoom := fun he => hopen (.inr he)
            rw [List.length_append, List.length_singleton] at hne ⊢
            omega
          rw [hstep, ih _ hroom, if_neg (by decide)]

theorem readLoop_eq (chunks : List (List UInt8)) (h : ∀ chunk ∈ chunks, chunk ≠ []) (s : Filter) :
    readLoop s chunks = chunks.flatten.foldl takeByte s := by
  induction chunks generalizing s with
  | nil => rfl
  | cons chunk chunks ih =>
      obtain ⟨b, rest, rfl⟩ := List.exists_cons_of_ne_nil (h chunk List.mem_cons_self)
      rw [readLoop, ih fun k hk => h k (List.mem_cons_of_mem _ hk), List.flatten_cons, List.foldl_append]
      exact List.cons_ne_nil b rest

/-- However the stream is read, its segments are selected. -/
theorem filter_cut {stream : List UInt8} (reads : Reads stream) :
    stdoutFilterFn reads.chunks = (cut flushed [] stream).filter kept := by
  rw [stdoutFilterFn, readLoop_eq reads.chunks reads.nonempty, reads.whole, run_cut stream _ (by decide)]
  rfl

/-! The segments of a line. -/

theorem growing_short {q : List UInt8} (hline : newline ∉ q) (hroom : q.length < lineRoom) : Growing flushed q := by
  intro p c hp
  have hc : c ≠ newline := fun he => hline (he ▸ hp.subset List.mem_concat_self)
  have hlen : (p ++ [c]).length ≠ lineRoom := Nat.ne_of_lt (Nat.lt_of_le_of_lt hp.length_le hroom)
  rw [Bool.eq_false_iff, ne_eq, flushed_snoc]
  exact not_or.2 ⟨hc, hlen⟩

theorem cut_short {line : List UInt8} (hne : line ≠ []) (hline : newline ∉ line.dropLast) (hroom : line.length ≤ lineRoom) :
    cut flushed [] line = [line] := by
  refine cut_whole hne (growing_short hline ?_)
  have hpos := List.length_pos_iff.2 hne
  rw [List.length_dropLast]
  omega

theorem cut_long {row : List UInt8} (hline : newline ∉ row.dropLast) (hroom : lineRoom < row.length) :
    cut flushed [] row = row.take lineRoom :: cut flushed [] (row.drop lineRoom) := by
  have hlast : 1022 < row.length := Nat.lt_of_succ_lt hroom
  have hgrow : Growing flushed (row.take 1022) := by
    refine growing_short (fun hmem => hline ?_) (Nat.lt_of_le_of_lt (List.length_take_le 1022 row) (by decide))
    rw [List.dropLast_eq_take]
    exact (List.take_prefix_take_left (show 1022 ≤ row.length - 1 by omega)).subset hmem
  have hhead : row.take lineRoom = row.take 1022 ++ [row[1022]] := List.take_succ_eq_append_getElem hlast
  have hsplit : row = row.take 1022 ++ row[1022] :: row.drop lineRoom := by
    have hdrop : row.drop 1022 = row[1022] :: row.drop lineRoom := List.drop_eq_getElem_cons hlast
    rw [← hdrop, List.take_append_drop]
  have hflush : flushed (row.take 1022 ++ [row[1022]]) = true := by
    rw [flushed_snoc, ← hhead, List.length_take]
    exact .inr (Nat.min_eq_left (Nat.le_of_lt hroom))
  have hcut := cut_start hgrow (row[1022] :: row.drop lineRoom)
  rw [← hsplit, cut, hflush, if_pos rfl, ← hhead] at hcut
  exact hcut

/-- A line is written lineRoom bytes at a time. -/
theorem mem_cut_line {line : List UInt8} (hne : line ≠ []) (hline : newline ∉ line.dropLast) (p : List UInt8) :
    p ∈ cut flushed [] line ↔ ∃ k, lineRoom * k < line.length ∧ p = (line.drop (lineRoom * k)).take lineRoom := by
  induction hn : line.length using Nat.strongRecOn generalizing line with
  | _ n ih =>
      subst hn
      have hpos := List.length_pos_iff.2 hne
      by_cases hshort : line.length ≤ lineRoom
      · rw [cut_short hne hline hshort, List.mem_singleton]
        constructor
        · rintro rfl
          refine ⟨0, hpos, ?_⟩
          rw [Nat.mul_zero, List.drop_zero, List.take_of_length_le hshort]
        · rintro ⟨k, hk, rfl⟩
          cases k with
          | zero => rw [Nat.mul_zero, List.drop_zero, List.take_of_length_le hshort]
          | succ k => rw [Nat.mul_succ] at hk; omega
      · have hlong : lineRoom < line.length := Nat.lt_of_not_le hshort
        have hrest : line.drop lineRoom ≠ [] := by
          rw [ne_eq, List.drop_eq_nil_iff]
          exact hshort
        have hrestLine : newline ∉ (line.drop lineRoom).dropLast := by
          rw [List.dropLast_drop_eq_drop_dropLast]
          exact fun hmem => hline (List.mem_of_mem_drop hmem)
        have hless : (line.drop lineRoom).length < line.length := by
          rw [List.length_drop]
          exact Nat.sub_lt hpos (by decide)
        rw [cut_long hline hlong, List.mem_cons, ih _ hless hrest hrestLine rfl, List.length_drop]
        constructor
        · rintro (rfl | ⟨k, hk, rfl⟩)
          · exact ⟨0, hpos, rfl⟩
          · refine ⟨k + 1, by rw [Nat.mul_succ]; omega, ?_⟩
            rw [List.drop_drop, Nat.mul_succ, Nat.add_comm]
        · rintro ⟨k, hk, rfl⟩
          cases k with
          | zero => exact .inl rfl
          | succ k =>
              rw [Nat.mul_succ] at hk
              refine .inr ⟨k, by omega, ?_⟩
              rw [List.drop_drop, Nat.mul_succ, Nat.add_comm]

/-- Wherever the buffer fills within the line, the next byte is ESC if the
line begins with one, and only then. -/
def Uniform (row : List UInt8) : Prop :=
  ∀ k, lineRoom * k < row.length → (row[lineRoom * k]? = some esc ↔ row.head? = some esc)

theorem kept_eq_iff (p q : List UInt8) : kept p = kept q ↔ (p.head? = some esc ↔ q.head? = some esc) := by
  rw [Bool.eq_iff_iff, kept, kept, bne_iff_ne, bne_iff_ne, ne_eq, ne_eq, not_iff_not]

theorem uniform_iff {row : List UInt8} (hne : row ≠ []) (hline : newline ∉ row.dropLast) :
    (∀ p ∈ cut flushed [] row, kept p = kept row) ↔ Uniform row := by
  have hhead (k : Nat) : ((row.drop (lineRoom * k)).take lineRoom).head? = row[lineRoom * k]? := by
    rw [List.head?_take, if_neg (by decide), List.head?_drop]
  constructor
  · intro h k hk
    rw [← hhead, ← kept_eq_iff]
    exact h _ ((mem_cut_line hne hline _).2 ⟨k, hk, rfl⟩)
  · intro h p hp
    obtain ⟨k, hk, rfl⟩ := (mem_cut_line hne hline p).1 hp
    rw [kept_eq_iff, hhead]
    exact h k hk

theorem mem_lines {stream line : List UInt8} (h : line ∈ lines stream) : line ≠ [] ∧ newline ∉ line.dropLast := by
  obtain ⟨hne, hgrow⟩ := (cut_segmented (growing_nil _) stream).mem h
  refine ⟨hne, fun hmem => ?_⟩
  obtain ⟨p, rest, hsplit⟩ := List.append_of_mem hmem
  have hopen := hgrow p newline ⟨rest, by rw [hsplit, List.append_assoc]; rfl⟩
  rw [endsLine_snoc] at hopen
  exact absurd hopen (by decide)

theorem lines_single {line : List UInt8} (hne : line ≠ []) (hline : newline ∉ line.dropLast) : lines line = [line] :=
  cut_whole hne (growing_line fun _ hc => beq_eq_false_iff_ne.2 fun he => hline (he ▸ hc))

/-- However a stream is read, the filter writes the lines that do not begin
with ESC and nothing else exactly when every line is uniform. -/
theorem filter_forwards_iff (stream : List UInt8) (reads : Reads stream) :
    (stdoutFilterFn reads.chunks).flatten = forwarded stream ↔ ∀ line ∈ lines stream, Uniform line := by
  have hfiner : ∀ (p : List UInt8) (c : UInt8), (c == newline) = true → flushed (p ++ [c]) = true :=
    fun p c hc => (flushed_snoc p c).2 (.inl (beq_iff_eq.1 hc))
  rw [filter_cut, forwarded, lines, filter_segments_iff hfiner]
  constructor
  · intro h line hmem
    obtain ⟨hne, hline⟩ := mem_lines hmem
    exact (uniform_iff hne hline).1 (h line hmem)
  · intro h line hmem
    obtain ⟨hne, hline⟩ := mem_lines hmem
    exact (uniform_iff hne hline).2 (h line hmem)

/-- One line of the library's, 1025 bytes with its newline. -/
def longNoise : List UInt8 := esc :: List.replicate 1022 0x6D ++ [0x61, newline]

def readLongNoise : Reads longNoise where
  chunks := [esc :: List.replicate 1022 0x6D, [0x61, newline]]
  nonempty := by decide
  fits := by decide +kernel
  whole := by decide +kernel

/-- The end of an overlong line that begins with ESC comes through. -/
theorem noise_forwarded :
    (stdoutFilterFn readLongNoise.chunks).flatten = [0x61, newline] ∧ lines longNoise = [longNoise] ∧
      forwarded longNoise = [] := by
  have hne : longNoise ≠ [] := List.cons_ne_nil _ _
  have hline : newline ∉ longNoise.dropLast := by decide +kernel
  have hlines : lines longNoise = [longNoise] := lines_single hne hline
  have hcut : cut flushed [] longNoise = [longNoise.take lineRoom, [0x61, newline]] := by
    have hrest : longNoise.drop lineRoom = [0x61, newline] :=
      List.drop_left' (by rw [List.length_cons, List.length_replicate]; rfl)
    rw [cut_long hline (by decide +kernel), hrest, cut_short (List.cons_ne_nil _ _) (by decide) (by decide)]
  refine ⟨?_, hlines, ?_⟩
  · rw [filter_cut, hcut]
    rfl
  · rw [forwarded, hlines]
    rfl

end WaybeamVenc.StdoutFilter
