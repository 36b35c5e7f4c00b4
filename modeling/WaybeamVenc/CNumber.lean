import Mathlib.Algebra.Group.Int.Defs
import Mathlib.Algebra.Group.Nat.Defs
import Mathlib.Data.List.TakeWhile

namespace WaybeamVenc.CNumber

/-- A C string, its terminator left out. -/
abbrev CString := List Char

def isSpace (c : Char) : Bool := c = ' ' || (9 ≤ c.toNat && c.toNat ≤ 13)

def skipSpace : CString → CString
  | [] => []
  | c :: s => if isSpace c then skipSpace s else c :: s

def takeSign : CString → Bool × CString
  | '-' :: s => (true, s)
  | '+' :: s => (false, s)
  | s => (false, s)

def digit (base : Nat) (c : Char) : Option Nat :=
  let n := c.toNat
  let d :=
    if 48 ≤ n ∧ n ≤ 57 then n - 48
    else if 97 ≤ n ∧ n ≤ 122 then n - 87
    else if 65 ≤ n ∧ n ≤ 90 then n - 55
    else base
  if d < base then some d else none

/-- The digits at the front, none when there is not one. -/
def takeDigits (base : Nat) : Option Nat → CString → Option Nat × CString
  | acc, [] => (acc, [])
  | acc, c :: s =>
    match digit base c with
    | some d => takeDigits base (some (acc.getD 0 * base + d)) s
    | none => (acc, c :: s)

/-- The base that base 0 stands for, and the digits. -/
def detectBase : CString → Nat × CString
  | '0' :: x :: d :: s =>
    if (x = 'x' ∨ x = 'X') ∧ (digit 16 d).isSome then (16, d :: s) else (8, '0' :: x :: d :: s)
  | '0' :: s => (8, '0' :: s)
  | s => (10, s)

/-- strtoul with a long of 32 bits and the text it stopped at; none when there
is no number. Base 0 detects the base. -/
def strtoul (base : Nat) (s : CString) : Option (UInt32 × CString) :=
  let (negative, s) := takeSign (skipSpace s)
  let (base, s) := if base = 0 then detectBase s else (base, s)
  match takeDigits base none s with
  | (none, _) => none
  | (some n, rest) =>
    some (if 2 ^ 32 ≤ n then 0xFFFFFFFF else if negative then -UInt32.ofNat n else UInt32.ofNat n, rest)

def strtol (s : CString) : Option (Int32 × CString) :=
  let (negative, s) := takeSign (skipSpace s)
  match takeDigits 10 none s with
  | (none, _) => none
  | (some n, rest) =>
    some (if negative then if 2 ^ 31 ≤ n then Int32.minValue else -Int32.ofNat n
      else if 2 ^ 31 ≤ n then Int32.maxValue else Int32.ofNat n, rest)

/-- sscanf with "%ux%u" when both numbers are there. -/
def scanSize (s : CString) : Option (UInt32 × UInt32) :=
  match strtoul 10 s with
  | some (w, 'x' :: rest) => (strtoul 10 rest).map fun r => (w, r.1)
  | _ => none

/-- What strlen and snprintf leave of a string in a buffer with room for n
bytes and the terminator. -/
def clip (n : Nat) (s : CString) : { s : CString // s.length ≤ n } := ⟨s.take n, List.length_take_le n s⟩

theorem clip_of_le {n : Nat} {s : CString} (h : s.length ≤ n) : clip n s = ⟨s, h⟩ :=
  Subtype.ext (List.take_of_length_le h)

/-! A string up to a character. -/

theorem ne_of_missing {ch : Char} {s : CString} (h : ch ∉ s) : ∀ d ∈ s, decide (d ≠ ch) = true :=
  fun _ hd => decide_eq_true fun he => h (he ▸ hd)

theorem takeWhile_found {ch : Char} {front : CString} (h : ch ∉ front) (rest : CString) :
    (front ++ ch :: rest).takeWhile (· ≠ ch) = front := by
  rw [List.takeWhile_append_of_pos (ne_of_missing h), List.takeWhile_cons_of_neg (by simp), List.append_nil]

theorem dropWhile_found {ch : Char} {front : CString} (h : ch ∉ front) (rest : CString) :
    (front ++ ch :: rest).dropWhile (· ≠ ch) = ch :: rest := by
  rw [List.dropWhile_append_of_pos (ne_of_missing h), List.dropWhile_cons_of_neg (by simp)]

theorem takeWhile_missing {ch : Char} {s : CString} (h : ch ∉ s) : s.takeWhile (· ≠ ch) = s :=
  List.takeWhile_eq_self_iff.2 (ne_of_missing h)

theorem dropWhile_missing {ch : Char} {s : CString} (h : ch ∉ s) : s.dropWhile (· ≠ ch) = [] :=
  List.dropWhile_eq_nil_iff.2 (ne_of_missing h)

/-! A number read from a text that goes on. -/

theorem skipSpace_append {x : CString} (h : skipSpace x ≠ []) (y : CString) : skipSpace (x ++ y) = skipSpace x ++ y := by
  induction x with
  | nil => exact absurd rfl h
  | cons c x ih =>
    rw [List.cons_append]
    rw [skipSpace] at h ⊢
    split at h
    · next hspace => rw [skipSpace, if_pos hspace, if_pos hspace, ih h]
    · next hspace => rw [skipSpace, if_neg hspace, if_neg hspace, List.cons_append]

theorem skipSpace_blank {x : CString} (h : skipSpace x = []) (y : CString) : skipSpace (x ++ y) = skipSpace y := by
  induction x with
  | nil => rfl
  | cons c x ih =>
    rw [skipSpace] at h
    split at h
    · next hspace => rw [List.cons_append, skipSpace, if_pos hspace, ih h]
    · cases h

theorem takeSign_append {x : CString} (h : x ≠ []) (y : CString) :
    takeSign (x ++ y) = ((takeSign x).1, (takeSign x).2 ++ y) := by
  obtain ⟨c, s, rfl⟩ := List.exists_cons_of_ne_nil h
  by_cases hminus : c = '-'
  · subst hminus
    rfl
  · by_cases hplus : c = '+'
    · subst hplus
      rfl
    · simp [takeSign, hminus, hplus]

/-- Digits that are followed by more of them make a number that is no less. -/
theorem takeDigits_append {base : Nat} (hbase : 0 < base) {x : CString} {acc : Option Nat} {n : Nat} {rest : CString}
    (h : takeDigits base acc x = (some n, rest)) (y : CString) :
    ∃ m, n ≤ m ∧ (takeDigits base acc (x ++ y)).1 = some m := by
  induction x generalizing acc with
  | nil =>
    obtain ⟨rfl, -⟩ := Prod.mk.inj h
    rw [List.nil_append]
    clear h
    induction y generalizing n with
    | nil => exact ⟨n, Nat.le_refl n, rfl⟩
    | cons c y ih =>
      rw [takeDigits]
      cases digit base c with
      | none => exact ⟨n, Nat.le_refl n, rfl⟩
      | some d =>
        obtain ⟨m, hm, htake⟩ := @ih (n * base + d)
        have hn : n ≤ n * base := Nat.le_mul_of_pos_right n hbase
        exact ⟨m, by omega, htake⟩
  | cons c x ih =>
    rw [takeDigits] at h
    rw [List.cons_append, takeDigits]
    revert h
    cases digit base c with
    | none =>
      intro h
      obtain ⟨rfl, -⟩ := Prod.mk.inj h
      exact ⟨n, Nat.le_refl n, rfl⟩
    | some d => exact ih

/-- Digits that something else ends are no more if the text goes on. -/
theorem takeDigits_ended {base : Nat} {x : CString} {acc a : Option Nat} {c : Char} {rest : CString}
    (h : takeDigits base acc x = (a, c :: rest)) (y : CString) :
    takeDigits base acc (x ++ y) = (a, c :: (rest ++ y)) := by
  induction x generalizing acc with
  | nil => cases (Prod.mk.inj h).2
  | cons d x ih =>
    rw [takeDigits] at h
    rw [List.cons_append, takeDigits]
    revert h
    cases digit base d with
    | none =>
      intro h
      obtain ⟨rfl, hrest⟩ := Prod.mk.inj h
      rw [← List.cons_append, hrest, List.cons_append]
    | some v => exact ih

/-- Behind a character that is no digit nothing is read. -/
theorem takeDigits_stop {base : Nat} {c : Char} (hc : digit base c = none) (acc : Option Nat) (x y : CString) :
    (takeDigits base acc (x ++ c :: y)).1 = (takeDigits base acc x).1 := by
  induction x generalizing acc with
  | nil => rw [List.nil_append, takeDigits, takeDigits, hc]
  | cons d x ih =>
      rw [List.cons_append, takeDigits, takeDigits]
      cases digit base d with
      | none => rfl
      | some v => exact ih _

end WaybeamVenc.CNumber
