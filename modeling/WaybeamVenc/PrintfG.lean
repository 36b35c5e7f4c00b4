import Mathlib.Data.Int.Log
import Mathlib.Data.List.DropRight
import Mathlib.Data.NNRat.Floor
import Mathlib.Tactic.FieldSimp
import Mathlib.Tactic.Ring
import WaybeamVenc.JsonNumber

namespace WaybeamVenc.PrintfG

open JsonNumber

/-- What a floating-point number is. -/
inductive Double
  | finite (negative : Bool) (magnitude : ℚ≥0)
  | inf (negative : Bool)
  | nan (negative : Bool)

def signed (negative : Bool) (q : ℚ) : ℚ := if negative then -q else q

/-- The number it stands for, if it does. -/
def Double.value? : Double → Option ℚ
  | .finite negative magnitude => some (signed negative magnitude)
  | _ => none

/-! Rounding to significant digits. -/

/-- The nearest whole number, of two the even one. -/
def roundHalfEven (q : ℚ≥0) : ℕ :=
  let n := ⌊q⌋₊
  if (n : ℚ≥0) + 1 / 2 < q ∨ (n : ℚ≥0) + 1 / 2 = q ∧ n % 2 = 1 then n + 1 else n

/-- So many significant digits of a number, and the exponent of the first. -/
def sigDigits (p : ℕ) (q : ℚ≥0) : ℕ × ℤ :=
  if q = 0 then (0, 0)
  else
    let x := Int.log 10 q
    let m := roundHalfEven (q * 10 ^ ((p : ℤ) - 1 - x))
    if m = 10 ^ p then (10 ^ (p - 1), x + 1) else (m, x)

def roundSig (p : ℕ) (q : ℚ≥0) : ℚ := (sigDigits p q).1 * 10 ^ ((sigDigits p q).2 - ((p : ℤ) - 1))

/-! Writing the digits. -/

/-- The last k decimal digits. -/
def fixedDigits : ℕ → ℕ → List Char
  | 0, _ => []
  | k + 1, m => fixedDigits k (m / 10) ++ [(m % 10).digitChar]

def stripZeros (ds : List Char) : List Char := ds.rdropWhile (· = '0')

theorem isDigit_digitChar {d : ℕ} (h : d < 10) : d.digitChar.isDigit = true := by
  revert d
  decide

theorem fixedDigits_digits (k m : ℕ) : ∀ c ∈ fixedDigits k m, c.isDigit = true := by
  induction k generalizing m with
  | zero =>
      intro c hc
      cases hc
  | succ k ih =>
      intro c hc
      rw [fixedDigits] at hc
      rcases List.mem_append.1 hc with hc | hc
      · exact ih (m / 10) c hc
      · rw [List.mem_singleton.1 hc]
        exact isDigit_digitChar (Nat.mod_lt m (by decide))

theorem stripZeros_digits {ds : List Char} (h : ∀ c ∈ ds, c.isDigit = true) :
    ∀ c ∈ stripZeros ds, c.isDigit = true := fun c hc => h c ((List.rdropWhile_prefix _ _).subset hc)

/-- A whole number over a power of ten, without the zeros at its end. -/
def scaled (negative : Bool) (m k : ℕ) (exp : Option ℤ) : Number :=
  ⟨negative, m / 10 ^ k, stripZeros (fixedDigits k m), exp, stripZeros_digits (fixedDigits_digits k m)⟩

/-- printf with "%.*g" for a finite number. -/
def formatG (p : ℕ) (negative : Bool) (magnitude : ℚ≥0) : Number :=
  let d := sigDigits p magnitude
  if -4 ≤ d.2 ∧ d.2 < p then scaled negative d.1 ((p : ℤ) - 1 - d.2).toNat none
  else scaled negative d.1 (p - 1) (some d.2)

def printfG (p : ℕ) : Double → List Char
  | .finite negative magnitude => (formatG p negative magnitude).text
  | .inf negative => (if negative then ['-'] else []) ++ "inf".toList
  | .nan negative => (if negative then ['-'] else []) ++ "nan".toList

example : printfG 6 (.finite false (1 / 4)) = "0.25".toList := by decide +kernel

example : printfG 6 (.finite true 123456789) = "-1.23457e+08".toList := by decide +kernel

/-! The value of what is written. -/

def fracValue (ds : List Char) : ℚ := (Nat.ofDigitChars 10 ds 0 : ℕ) / 10 ^ ds.length

theorem length_fixedDigits (k m : ℕ) : (fixedDigits k m).length = k := by
  induction k generalizing m with
  | zero => rfl
  | succ k ih => rw [fixedDigits, List.length_append, ih, List.length_singleton]

theorem ofDigitChars_fixedDigits (k m : ℕ) : Nat.ofDigitChars 10 (fixedDigits k m) 0 = m % 10 ^ k := by
  induction k generalizing m with
  | zero => rw [fixedDigits, Nat.ofDigitChars_nil, pow_zero, Nat.mod_one]
  | succ k ih =>
      rw [fixedDigits, Nat.ofDigitChars_append, ih,
        Nat.ofDigitChars_cons_digitChar_of_lt_ten (Nat.mod_lt m (by decide)), Nat.ofDigitChars_nil, pow_succ',
        Nat.mod_mul, Nat.add_comm]

theorem fracValue_stripZeros (ds : List Char) : fracValue (stripZeros ds) = fracValue ds := by
  induction ds using List.reverseRecOn with
  | nil => rfl
  | append_singleton ds c ih =>
      by_cases hc : c = '0'
      · subst hc
        have hzero : fracValue (ds ++ ['0']) = fracValue ds := by
          rw [fracValue, fracValue, Nat.ofDigitChars_append, Nat.ofDigitChars_cons, Nat.ofDigitChars_nil,
            List.length_append, List.length_singleton, pow_succ]
          have hlast : 10 * Nat.ofDigitChars 10 ds 0 + ('0'.toNat - '0'.toNat) = Nat.ofDigitChars 10 ds 0 * 10 := by
            rw [Nat.sub_self, Nat.add_zero, Nat.mul_comm]
          rw [hlast, Nat.cast_mul, Nat.cast_ofNat, mul_div_mul_right _ _ (by norm_num)]
        have hstrip : stripZeros (ds ++ ['0']) = stripZeros ds :=
          List.rdropWhile_concat_pos (fun c => decide (c = '0')) ds '0' (by simp)
        rw [hzero, hstrip, ih]
      · rw [stripZeros, List.rdropWhile_concat_neg _ _ _ (by simp [hc])]

theorem value_scaled (negative : Bool) (m k : ℕ) (exp : Option ℤ) :
    (scaled negative m k exp).value = signed negative (m * 10 ^ (exp.getD 0 - k)) := by
  have hk : (10 : ℚ) ^ k ≠ 0 := pow_ne_zero k (by norm_num)
  have hfrac : fracValue (stripZeros (fixedDigits k m)) = (m % 10 ^ k : ℕ) / 10 ^ k := by
    rw [fracValue_stripZeros, fracValue, ofDigitChars_fixedDigits, length_fixedDigits]
  have hsum : ((m / 10 ^ k : ℕ) : ℚ) + fracValue (stripZeros (fixedDigits k m)) = m / 10 ^ k := by
    have hdiv : ((m % 10 ^ k : ℕ) : ℚ) + 10 ^ k * (m / 10 ^ k : ℕ) = m := by exact_mod_cast Nat.mod_add_div m (10 ^ k)
    rw [hfrac, ← hdiv]
    field_simp
    ring
  rw [fracValue] at hsum
  rw [Number.value, scaled]
  dsimp only
  rw [hsum, signed, zpow_sub₀ (by norm_num), zpow_natCast]
  cases negative with
  | true =>
      rw [if_pos rfl, if_pos rfl]
      ring
  | false =>
      rw [if_neg Bool.false_ne_true, if_neg Bool.false_ne_true]
      ring

/-- What is written is the number rounded to its significant digits. -/
theorem value_formatG {p : ℕ} (hp : 0 < p) (negative : Bool) (magnitude : ℚ≥0) :
    (formatG p negative magnitude).value = signed negative (roundSig p magnitude) := by
  rw [formatG, roundSig]
  split
  · next hfixed =>
    have hk : (((p : ℤ) - 1 - (sigDigits p magnitude).2).toNat : ℤ) = (p : ℤ) - 1 - (sigDigits p magnitude).2 := by
      omega
    rw [value_scaled, hk, Option.getD_none]
    congr 3
    ring
  · rw [value_scaled, Option.getD_some, Nat.cast_sub hp, Nat.cast_one]

/-! Numbers with few digits. -/

theorem roundHalfEven_natCast (n : ℕ) : roundHalfEven (n : ℚ≥0) = n := by
  have hlt : ¬((n : ℚ≥0) + 1 / 2 < n) := not_lt.2 (le_add_of_nonneg_right (by positivity))
  have hne : ¬((n : ℚ≥0) + 1 / 2 = n ∧ n % 2 = 1) := by
    rintro ⟨h, -⟩
    exact absurd (add_eq_left.1 h) (by norm_num)
  rw [roundHalfEven, Nat.floor_natCast]
  exact if_neg (not_or.2 ⟨hlt, hne⟩)

/-- A number with so many digits is rounded to itself. -/
theorem roundSig_digits {p m : ℕ} (hm : m < 10 ^ p) (e : ℤ) :
    roundSig p ((m : ℚ≥0) * 10 ^ e) = (m : ℚ) * 10 ^ e := by
  rcases Nat.eq_zero_or_pos m with rfl | hpos
  · simp [roundSig, sigDigits]
  · have hten : (1 : ℚ≥0) < 10 := by norm_num
    have hne : (10 : ℚ≥0) ≠ 0 := by norm_num
    have hpow : ∀ k : ℤ, (0 : ℚ≥0) < 10 ^ k := fun k => zpow_pos (by norm_num) k
    have hq : 0 < (m : ℚ≥0) * 10 ^ e := mul_pos (Nat.cast_pos.2 hpos) (hpow e)
    obtain ⟨x, hx⟩ : ∃ x, Int.log 10 ((m : ℚ≥0) * 10 ^ e) = x := ⟨_, rfl⟩
    have hlow := Int.zpow_log_le_self (b := 10) (by norm_num) hq
    have hhigh := Int.lt_zpow_succ_log_self (b := 10) (by norm_num) ((m : ℚ≥0) * 10 ^ e)
    rw [hx, Nat.cast_ofNat] at hlow hhigh
    have hexp : x < p + e := by
      have hmq : (m : ℚ≥0) < 10 ^ (p : ℤ) := by
        rw [zpow_natCast]
        exact_mod_cast hm
      have hbound : (m : ℚ≥0) * 10 ^ e < 10 ^ (p + e) := by
        rw [zpow_add₀ hne]
        exact mul_lt_mul_of_pos_right hmq (hpow e)
      exact (zpow_lt_zpow_iff_right₀ hten).1 (lt_of_le_of_lt hlow hbound)
    obtain ⟨k, hk⟩ : ∃ k : ℕ, (k : ℤ) = e + ((p : ℤ) - 1 - x) := ⟨(e + ((p : ℤ) - 1 - x)).toNat, by omega⟩
    have hscaled : (m : ℚ≥0) * 10 ^ e * 10 ^ ((p : ℤ) - 1 - x) = ((m * 10 ^ k : ℕ) : ℚ≥0) := by
      rw [mul_assoc, ← zpow_add₀ hne, ← hk, zpow_natCast]
      push_cast
      rfl
    have hless : m * 10 ^ k < 10 ^ p := by
      have hcast : ((m * 10 ^ k : ℕ) : ℚ≥0) < ((10 ^ p : ℕ) : ℚ≥0) := by
        rw [← hscaled]
        calc (m : ℚ≥0) * 10 ^ e * 10 ^ ((p : ℤ) - 1 - x)
            < 10 ^ (x + 1) * 10 ^ ((p : ℤ) - 1 - x) := mul_lt_mul_of_pos_right hhigh (hpow _)
          _ = ((10 ^ p : ℕ) : ℚ≥0) := by
            rw [← zpow_add₀ hne, show x + 1 + ((p : ℤ) - 1 - x) = p by ring, zpow_natCast]
            push_cast
            rfl
      exact_mod_cast hcast
    have hdigits : sigDigits p ((m : ℚ≥0) * 10 ^ e) = (m * 10 ^ k, x) := by
      rw [sigDigits, if_neg (ne_of_gt hq)]
      dsimp only
      rw [hx, hscaled, roundHalfEven_natCast, if_neg (Nat.ne_of_lt hless)]
    rw [roundSig, hdigits]
    have hten' : (10 : ℚ) ≠ 0 := by norm_num
    push_cast
    rw [← zpow_natCast, mul_assoc, ← zpow_add₀ hten', hk]
    congr 2
    ring

theorem roundHalfEven_le {q : ℚ≥0} {n : ℕ} (h : q < n) : roundHalfEven q ≤ n := by
  have hpos : n ≠ 0 := Nat.ne_of_gt (Nat.cast_pos.1 (lt_of_le_of_lt zero_le h))
  have hfloor : ⌊q⌋₊ < n := (Nat.floor_lt' hpos).2 h
  rw [roundHalfEven]
  split
  · exact hfloor
  · exact Nat.le_of_lt hfloor

/-- Significant digits are at most a one and so many zeros. -/
theorem sigDigits_le {p : ℕ} (q : ℚ≥0) : (sigDigits p q).1 ≤ 10 ^ p := by
  rw [sigDigits]
  split
  · exact Nat.zero_le _
  · dsimp only
    split
    · exact Nat.pow_le_pow_right (by decide) (Nat.sub_le p 1)
    · apply roundHalfEven_le
      have hhigh := Int.lt_zpow_succ_log_self (b := 10) (by norm_num) q
      rw [Nat.cast_ofNat] at hhigh
      calc q * 10 ^ ((p : ℤ) - 1 - Int.log 10 q)
          < 10 ^ (Int.log 10 q + 1) * 10 ^ ((p : ℤ) - 1 - Int.log 10 q) :=
            mul_lt_mul_of_pos_right hhigh (zpow_pos (by norm_num) _)
        _ = ((10 ^ p : ℕ) : ℚ≥0) := by
          rw [← zpow_add₀ (by norm_num), show Int.log 10 q + 1 + ((p : ℤ) - 1 - Int.log 10 q) = p by ring,
            zpow_natCast]
          push_cast
          rfl

end WaybeamVenc.PrintfG
