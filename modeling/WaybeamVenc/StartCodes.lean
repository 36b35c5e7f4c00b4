import WaybeamVenc.H26x
import Mathlib.Data.List.Basic

namespace WaybeamVenc.StartCodes

open H26x

def shortCode : List UInt8 := [0x00, 0x00, 0x01]

def longCode : List UInt8 := [0x00, 0x00, 0x00, 0x01]

/-- A number of start codes of either length has been taken off the front. -/
inductive Stripped : List UInt8 → List UInt8 → Prop
  | none (data : List UInt8) : Stripped data data
  | short {data rest : List UInt8} : Stripped data rest → Stripped (shortCode ++ data) rest
  | long {data rest : List UInt8} : Stripped data rest → Stripped (longCode ++ data) rest

def BeginsWithCode (data : List UInt8) : Prop := shortCode <+: data ∨ longCode <+: data

instance (data : List UInt8) : Decidable (BeginsWithCode data) :=
  inferInstanceAs (Decidable (shortCode <+: data ∨ longCode <+: data))

/-- A run of one start code. -/
def run (code : List UInt8) (n : Nat) : List UInt8 := (List.replicate n code).flatten

/-- A short code, with any number of codes before it as the two loops take
them, and a long code right behind. -/
def LongBehindShort (data : List UInt8) : Prop :=
  ∃ a b rest, data = run longCode a ++ (run shortCode (b + 1) ++ (longCode ++ rest))

theorem run_succ (code : List UInt8) (n : Nat) : run code (n + 1) = code ++ run code n := by
  rw [run, List.replicate_succ, List.flatten_cons, run]

theorem Stripped.suffix {data rest : List UInt8} (h : Stripped data rest) : rest <:+ data := by
  induction h with
  | none data => exact List.suffix_refl data
  | short _ ih => exact List.suffix_append_of_suffix ih
  | long _ ih => exact List.suffix_append_of_suffix ih

theorem Stripped.trans {data mid rest : List UInt8} (h : Stripped data mid) (k : Stripped mid rest) :
    Stripped data rest := by
  induction h with
  | none _ => exact k
  | short _ ih => exact .short (ih k)
  | long _ ih => exact .long (ih k)

/-- The first loop takes off every long code at the front. -/
theorem stripLong_spec (data : List UInt8) :
    ∃ n, data = run longCode n ++ stripLong data ∧ ¬ longCode <+: stripLong data := by
  induction data using stripLong.induct with
  | case1 data ih =>
      obtain ⟨n, heq, hstop⟩ := ih
      refine ⟨n + 1, ?_, hstop⟩
      rw [run_succ, List.append_assoc, stripLong, ← heq]
      rfl
  | case2 data hne =>
      have hsame : stripLong data = data := by
        rw [stripLong]
        exact hne
      refine ⟨0, hsame.symm, ?_⟩
      rw [hsame]
      rintro ⟨rest, rfl⟩
      exact hne rest rfl

/-- The second loop takes off every short code that is at the front then. -/
theorem stripShort_spec (data : List UInt8) :
    ∃ n, data = run shortCode n ++ stripShort data ∧ ¬ shortCode <+: stripShort data := by
  induction data using stripShort.induct with
  | case1 data ih =>
      obtain ⟨n, heq, hstop⟩ := ih
      refine ⟨n + 1, ?_, hstop⟩
      rw [run_succ, List.append_assoc, stripShort, ← heq]
      rfl
  | case2 data hne =>
      have hsame : stripShort data = data := by
        rw [stripShort]
        exact hne
      refine ⟨0, hsame.symm, ?_⟩
      rw [hsame]
      rintro ⟨rest, rfl⟩
      exact hne rest rfl

theorem stripped_run {code : List UInt8}
    (hcode : ∀ {data rest}, Stripped data rest → Stripped (code ++ data) rest) (n : Nat) (data : List UInt8) :
    Stripped (run code n ++ data) data := by
  induction n with
  | zero => exact .none data
  | succ n ih =>
      rw [run_succ, List.append_assoc]
      exact hcode ih

theorem strip_stripped (data : List UInt8) : Stripped data (h26xUtilStripStartCode data) := by
  obtain ⟨a, hlong, -⟩ := stripLong_spec data
  obtain ⟨b, hshort, -⟩ := stripShort_spec (stripLong data)
  have h := stripped_run .long a (stripLong data)
  have k := stripped_run .short b (stripShort (stripLong data))
  rw [← hlong] at h
  rw [← hshort] at k
  exact h.trans k

theorem stripLong_done {data : List UInt8} (h : ¬ longCode <+: data) : stripLong data = data := by
  rw [stripLong]
  intro rest heq
  exact h ⟨rest, heq.symm⟩

theorem stripShort_done {data : List UInt8} (h : ¬ shortCode <+: data) : stripShort data = data := by
  rw [stripShort]
  intro rest heq
  exact h ⟨rest, heq.symm⟩

theorem strip_done {data : List UInt8} (h : ¬ BeginsWithCode data) : h26xUtilStripStartCode data = data := by
  rw [h26xUtilStripStartCode, stripLong_done (fun k => h (.inr k)), stripShort_done (fun k => h (.inl k))]

theorem strip_run (strip : List UInt8 → List UInt8) {code : List UInt8}
    (hcode : ∀ data, strip (code ++ data) = strip data) (n : Nat) (data : List UInt8) :
    strip (run code n ++ data) = strip data := by
  induction n with
  | zero => rfl
  | succ n ih => rw [run_succ, List.append_assoc, hcode, ih]

theorem short_not_long (data : List UInt8) : ¬ longCode <+: shortCode ++ data := by
  rintro ⟨rest, heq⟩
  cases heq

theorem long_not_short (data : List UInt8) : ¬ shortCode <+: longCode ++ data := by
  rintro ⟨rest, heq⟩
  cases heq

theorem strip_mixed (a b : Nat) (rest : List UInt8) :
    h26xUtilStripStartCode (run longCode a ++ (run shortCode (b + 1) ++ (longCode ++ rest))) = longCode ++ rest := by
  have hlong : ¬ longCode <+: run shortCode (b + 1) ++ (longCode ++ rest) := by
    rw [run_succ, List.append_assoc]
    exact short_not_long _
  rw [h26xUtilStripStartCode, strip_run stripLong (fun _ => rfl), stripLong_done hlong,
    strip_run stripShort (fun _ => rfl), stripShort_done (long_not_short rest)]

theorem begins_iff (data : List UInt8) : BeginsWithCode (h26xUtilStripStartCode data) ↔ LongBehindShort data := by
  constructor
  · intro h
    obtain ⟨a, hlong, hnolong⟩ := stripLong_spec data
    obtain ⟨b, hshort, hnoshort⟩ := stripShort_spec (stripLong data)
    obtain ⟨rest, hrest⟩ := h.resolve_left hnoshort
    cases b with
    | zero =>
        -- without a short code the first loop would have gone on
        have hsame : stripLong data = stripShort (stripLong data) := hshort
        exact absurd ⟨rest, hrest.trans hsame.symm⟩ hnolong
    | succ b =>
        refine ⟨a, b, rest, ?_⟩
        have hrest' : longCode ++ rest = stripShort (stripLong data) := hrest
        rw [hrest', ← hshort, ← hlong]
  · rintro ⟨a, b, rest, rfl⟩
    rw [strip_mixed]
    exact .inr ⟨rest, rfl⟩

/-- What is left is the input without a number of start codes in front. It
begins with none, and stripping it again changes nothing, exactly when no long
code follows a short one where the loops come to it. -/
theorem strip_complete_iff (data : List UInt8) :
    (Stripped data (h26xUtilStripStartCode data) ∧ h26xUtilStripStartCode data <:+ data ∧
        ¬ BeginsWithCode (h26xUtilStripStartCode data) ∧
        h26xUtilStripStartCode (h26xUtilStripStartCode data) = h26xUtilStripStartCode data) ↔
      ¬ LongBehindShort data := by
  rw [← begins_iff]
  constructor
  · intro h
    exact h.2.2.1
  · intro h
    exact ⟨strip_stripped data, (strip_stripped data).suffix, h, strip_done h⟩

/-- A short code and a long one: the long one is left in front of the unit. -/
theorem strip_leaves_code :
    h26xUtilStripStartCode [0, 0, 1, 0, 0, 0, 1, 0x26, 0x01] = [0, 0, 0, 1, 0x26, 0x01] ∧
      BeginsWithCode (h26xUtilStripStartCode [0, 0, 1, 0, 0, 0, 1, 0x26, 0x01]) ∧
      h26xUtilStripStartCode (h26xUtilStripStartCode [0, 0, 1, 0, 0, 0, 1, 0x26, 0x01]) = [0x26, 0x01] := by
  decide

end WaybeamVenc.StartCodes
