import Mathlib.Data.Int.Init
import WaybeamVenc.CNumber

namespace WaybeamVenc.IntegerText

open CNumber

/-- The integer at the front of a text, of whatever size, and what is behind it. -/
def readInteger (base : ℕ) (s : CString) : Option (ℤ × CString) :=
  let (negative, s) := takeSign (skipSpace s)
  let (base, s) := if base = 0 then detectBase s else (base, s)
  match takeDigits base none s with
  | (none, _) => none
  | (some n, rest) => some (if negative then -n else n, rest)

/-! What a word keeps of an integer. -/

/-- A word that an integer was written to: it has something of its range, and
the integer itself if that is in the range. -/
structure Keeps (low high z x : ℤ) : Prop where
  low_le : low ≤ x
  le_high : x ≤ high
  exact : low ≤ z → z ≤ high → x = z

def Between (y z : ℤ) : Prop := 0 ≤ y ∧ y ≤ z ∨ z ≤ y ∧ y ≤ 0

variable {low high x y z : ℤ}

/-- If a word keeps an integer that another one exceeds, it is equal to the
other one only where the two are the same and in its range. -/
theorem Keeps.eq_iff_of_between (h : Keeps low high y x) (hlow : low ≤ 0) (hhigh : 0 ≤ high) (hyz : Between y z) :
    x = z ↔ y = z ∧ low ≤ z ∧ z ≤ high := by
  constructor
  · rintro rfl
    have hl := h.low_le
    have hh := h.le_high
    have hy : low ≤ y ∧ y ≤ high := by
      rcases hyz with hyz | hyz <;> omega
    exact ⟨(h.exact hy.1 hy.2).symm, hl, hh⟩
  · rintro ⟨rfl, hl, hh⟩
    exact h.exact hl hh

/-- A word that holds something small keeps as much as a narrower one. -/
theorem Keeps.narrow (h : Keeps low high z x) {high' : ℤ} (hle : high' ≤ high) (hx : x ≤ high') :
    Keeps low high' z x :=
  ⟨h.low_le, hx, fun hl hh => h.exact hl (Int.le_trans hh hle)⟩

theorem strtoul_keeps {base : ℕ} {s rest : CString} {v : UInt32} (h : strtoul base s = some (v, rest)) :
    ∃ z, readInteger base s = some (z, rest) ∧ Keeps 0 (2 ^ 32 - 1) z v.toNat := by
  rw [strtoul] at h
  rw [readInteger]
  dsimp only at h ⊢
  generalize takeDigits (if base = 0 then detectBase (takeSign (skipSpace s)).2 else
    (base, (takeSign (skipSpace s)).2)).1 none (if base = 0 then detectBase (takeSign (skipSpace s)).2 else
      (base, (takeSign (skipSpace s)).2)).2 = digits at h ⊢
  rcases digits with ⟨_ | n, rest'⟩
  · cases h
  · obtain ⟨rfl, rfl⟩ := Prod.mk.inj (Option.some.inj h)
    refine ⟨_, rfl, by omega, ?_, ?_⟩
    · have hlt := UInt32.toNat_lt (if 2 ^ 32 ≤ n then 0xFFFFFFFF else if (takeSign (skipSpace s)).1 then
        -UInt32.ofNat n else UInt32.ofNat n)
      omega
    · intro hlow hhigh
      cases hsign : (takeSign (skipSpace s)).1 with
      | true =>
          rw [hsign, if_pos rfl] at hlow
          obtain rfl : n = 0 := by omega
          rfl
      | false =>
          rw [hsign, if_neg Bool.false_ne_true] at hhigh
          have hn : n < 2 ^ 32 := by omega
          rw [if_neg (Nat.not_le.2 hn), if_neg Bool.false_ne_true, if_neg Bool.false_ne_true,
            UInt32.toNat_ofNat_of_lt' hn]

theorem strtol_keeps {s rest : CString} {v : Int32} (h : strtol s = some (v, rest)) :
    ∃ z, readInteger 10 s = some (z, rest) ∧ Keeps (-2 ^ 31) (2 ^ 31 - 1) z v.toInt := by
  rw [strtol] at h
  rw [readInteger]
  dsimp only at h ⊢
  rw [if_neg (by decide)]
  generalize takeDigits 10 none (takeSign (skipSpace s)).2 = digits at h ⊢
  rcases digits with ⟨_ | n, rest'⟩
  · cases h
  · obtain ⟨rfl, rfl⟩ := Prod.mk.inj (Option.some.inj h)
    refine ⟨_, rfl, Int32.le_toInt _, ?_, ?_⟩
    · have hlt := Int32.toInt_lt (if (takeSign (skipSpace s)).1 then if 2 ^ 31 ≤ n then Int32.minValue
        else -Int32.ofNat n else if 2 ^ 31 ≤ n then Int32.maxValue else Int32.ofNat n)
      omega
    · intro hlow hhigh
      cases hsign : (takeSign (skipSpace s)).1 with
      | true =>
          rw [hsign, if_pos rfl] at hlow
          rw [if_pos rfl, if_pos rfl]
          by_cases hn : 2 ^ 31 ≤ n
          · obtain rfl : n = 2 ^ 31 := by omega
            rfl
          · rw [if_neg hn, Int32.neg_ofNat]
            exact Int32.toInt_ofInt_of_le (by omega) (by omega)
      | false =>
          rw [hsign, if_neg Bool.false_ne_true] at hhigh
          have hn : n < 2 ^ 31 := by omega
          rw [if_neg Bool.false_ne_true, if_neg Bool.false_ne_true, if_neg (Nat.not_le.2 hn)]
          exact Int32.toInt_ofNat_of_lt hn

/-! Texts that go on. -/

/-- The digits that a text is read by, behind its blanks and its sign. -/
def digitsPart (base : ℕ) (s : CString) : ℕ × CString :=
  if base = 0 then detectBase (takeSign (skipSpace s)).2 else (base, (takeSign (skipSpace s)).2)

theorem readInteger_some {base : ℕ} {s rest : CString} (h : readInteger base s = some (z, rest)) :
    ∃ n : ℕ, takeDigits (digitsPart base s).1 none (digitsPart base s).2 = (some n, rest) ∧
      z = if (takeSign (skipSpace s)).1 then -(n : ℤ) else n := by
  rw [readInteger] at h
  dsimp only at h
  split at h
  · cases h
  next n rest' hdigits =>
    obtain ⟨rfl, rfl⟩ := Prod.mk.inj (Option.some.inj h)
    exact ⟨n, hdigits, rfl⟩

theorem readInteger_of_digits {base n : ℕ} {s rest : CString}
    (h : takeDigits (digitsPart base s).1 none (digitsPart base s).2 = (some n, rest)) :
    readInteger base s = some (if (takeSign (skipSpace s)).1 then -(n : ℤ) else n, rest) := by
  rw [digitsPart] at h
  rw [readInteger]
  dsimp only
  rw [h]

/-- The blanks and the sign of a text with a number stay where it goes on. -/
theorem takeSign_goes_on {base n : ℕ} {x rest : CString}
    (h : takeDigits (digitsPart base x).1 none (digitsPart base x).2 = (some n, rest)) (y : CString) :
    (takeSign (skipSpace x)).2 ≠ [] ∧
      takeSign (skipSpace (x ++ y)) = ((takeSign (skipSpace x)).1, (takeSign (skipSpace x)).2 ++ y) := by
  have hne : (takeSign (skipSpace x)).2 ≠ [] := by
    intro hnil
    rw [digitsPart, hnil] at h
    split at h <;> cases (Prod.mk.inj h).1
  have hspace : skipSpace x ≠ [] := by
    intro hnil
    rw [hnil] at hne
    exact hne rfl
  refine ⟨hne, ?_⟩
  rw [skipSpace_append hspace, takeSign_append hspace]

/-- A base that is detected stays where the text goes on, behind a number that
is not just a zero. -/
theorem detectBase_append {s : CString} {n : ℕ} (hne : s ≠ [])
    (h : takeDigits (detectBase s).1 none (detectBase s).2 = (some n, [])) (y : CString) :
    n = 0 ∨ detectBase (s ++ y) = ((detectBase s).1, (detectBase s).2 ++ y) := by
  obtain ⟨c, s, rfl⟩ := List.exists_cons_of_ne_nil hne
  by_cases hc : c = '0'
  · subst hc
    rcases s with _ | ⟨x, _ | ⟨d, s⟩⟩
    · exact .inl (Option.some.inj (Prod.mk.inj h).1).symm
    · right
      have hx : ¬(x = 'x' ∨ x = 'X') := by
        rintro (rfl | rfl) <;> cases (Prod.mk.inj h).2
      rcases y with _ | ⟨d, y⟩
      · rfl
      · exact if_neg fun hx' => hx hx'.1
    · right
      simp only [List.cons_append, detectBase]
      split <;> rfl
  · right
    have hten : ∀ t : CString, detectBase (c :: t) = (10, c :: t) := by
      intro t
      unfold detectBase
      split
      · next heq => exact absurd (List.cons.inj heq).1 hc
      · next heq => exact absurd (List.cons.inj heq).1 hc
      · rfl
    rw [List.cons_append, hten, hten, List.cons_append]

theorem detectBase_pos (s : CString) : 0 < (detectBase s).1 := by
  unfold detectBase
  split
  · split
    · exact Nat.succ_pos 15
    · exact Nat.succ_pos 7
  · exact Nat.succ_pos 7
  · exact Nat.succ_pos 9

theorem base_pos (base : ℕ) (s : CString) : 0 < (digitsPart base s).1 := by
  rw [digitsPart]
  split
  · exact detectBase_pos _
  · exact Nat.pos_of_ne_zero ‹_›

theorem between_of_le {n m : ℕ} (h : n ≤ m) (negative : Bool) :
    Between (if negative then -(n : ℤ) else n) (if negative then -(m : ℤ) else m) := by
  cases negative with
  | true => exact .inr ⟨by simpa using h, by simp⟩
  | false => exact .inl ⟨by simp, by simpa using h⟩

/-- A text that is a number and goes on is read as one that exceeds it. -/
theorem between_of_append {base : ℕ} {x t rest : CString} (hx : readInteger base x = some (y, []))
    (ht : readInteger base (x ++ t) = some (z, rest)) : Between y z := by
  obtain ⟨n, hn, rfl⟩ := readInteger_some hx
  obtain ⟨m, hm, rfl⟩ := readInteger_some ht
  obtain ⟨hne, hsign⟩ := takeSign_goes_on hn t
  rw [hsign]
  apply between_of_le
  have hdigits : n = 0 ∨ digitsPart base (x ++ t) = ((digitsPart base x).1, (digitsPart base x).2 ++ t) := by
    rw [digitsPart] at hn
    rw [digitsPart, digitsPart, hsign]
    split at hn
    next hbase =>
      rw [if_pos hbase, if_pos hbase]
      exact detectBase_append hne hn t
    next hbase =>
      rw [if_neg hbase, if_neg hbase]
      exact .inr rfl
  rcases hdigits with rfl | hdigits
  · exact Nat.zero_le m
  · obtain ⟨k, hk, htake⟩ := takeDigits_append (base_pos base x) hn t
    rw [hdigits] at hm
    obtain rfl := Option.some.inj (htake.symm.trans (congrArg Prod.fst hm))
    exact hk

/-- A decimal that something else ends is the same if the text goes on. -/
theorem readInteger_ended {x rest : CString} {c : Char} (h : readInteger 10 x = some (z, c :: rest)) (t : CString) :
    readInteger 10 (x ++ t) = some (z, c :: (rest ++ t)) := by
  obtain ⟨n, hn, rfl⟩ := readInteger_some h
  obtain ⟨-, hsign⟩ := takeSign_goes_on hn t
  have hdigits : takeDigits (digitsPart 10 (x ++ t)).1 none (digitsPart 10 (x ++ t)).2 = (some n, c :: (rest ++ t)) := by
    have happend : digitsPart 10 (x ++ t) = (10, (digitsPart 10 x).2 ++ t) := by
      simp only [digitsPart, hsign, if_neg (show (10 : ℕ) ≠ 0 by decide)]
    rw [happend]
    exact takeDigits_ended hn t
  rw [readInteger_of_digits hdigits, hsign]

end WaybeamVenc.IntegerText
