import Mathlib.Algebra.Order.Floor.Ring
import Mathlib.Data.List.Induction
import Mathlib.Data.List.TakeWhile
import Mathlib.Data.Rat.Floor
import Mathlib.Tactic.Common

namespace WaybeamVenc.JsonNumber

/-! Digits at the front of a text. -/

def digitsOf (s : List Char) : List Char := s.takeWhile Char.isDigit

def behindDigits (s : List Char) : List Char := s.dropWhile Char.isDigit

/-- The text does not go on with a digit. -/
def NoDigit (s : List Char) : Prop := ∀ c ∈ s.head?, c.isDigit = false

theorem NoDigit.nil : NoDigit [] := by simp [NoDigit]

theorem noDigit_cons {c : Char} {s : List Char} : NoDigit (c :: s) ↔ c.isDigit = false := by simp [NoDigit]

theorem digitsOf_digits (s : List Char) : ∀ c ∈ digitsOf s, c.isDigit = true := fun _ hc => List.mem_takeWhile_imp hc

theorem digitsOf_none {s : List Char} (h : NoDigit s) : digitsOf s = [] := by
  cases s with
  | nil => rfl
  | cons c s => simp [digitsOf, noDigit_cons.1 h]

theorem behindDigits_none {s : List Char} (h : NoDigit s) : behindDigits s = s := by
  cases s with
  | nil => rfl
  | cons c s => simp [behindDigits, noDigit_cons.1 h]

theorem digitsOf_append {ds s : List Char} (hds : ∀ c ∈ ds, c.isDigit = true) (hs : NoDigit s) :
    digitsOf (ds ++ s) = ds := by
  have h := digitsOf_none hs
  rw [digitsOf] at h
  rw [digitsOf, List.takeWhile_append_of_pos hds, h, List.append_nil]

theorem behindDigits_append {ds s : List Char} (hds : ∀ c ∈ ds, c.isDigit = true) (hs : NoDigit s) :
    behindDigits (ds ++ s) = s := by
  have h := behindDigits_none hs
  rw [behindDigits] at h
  rw [behindDigits, List.dropWhile_append_of_pos hds, h]

theorem noDigit_behindDigits (s : List Char) : NoDigit (behindDigits s) := by
  intro c hc
  have h := List.head?_dropWhile_not Char.isDigit s
  rw [behindDigits] at hc
  rw [hc] at h
  simpa using h

theorem digitsOf_append_behind (s : List Char) : digitsOf s ++ behindDigits s = s := List.takeWhile_append_dropWhile

/-- Digits with something behind them are the same when the text goes on. -/
theorem digitsOf_more {s : List Char} (h : behindDigits s ≠ []) (t : List Char) : digitsOf (s ++ t) = digitsOf s := by
  induction s with
  | nil => exact absurd rfl h
  | cons c s ih =>
      rw [behindDigits] at h
      by_cases hc : c.isDigit = true
      · rw [List.dropWhile_cons_of_pos hc] at h
        rw [digitsOf, digitsOf, List.cons_append, List.takeWhile_cons_of_pos hc, List.takeWhile_cons_of_pos hc]
        exact congrArg (c :: ·) (ih h)
      · rw [digitsOf, digitsOf, List.cons_append, List.takeWhile_cons_of_neg hc, List.takeWhile_cons_of_neg hc]

theorem behindDigits_more {s : List Char} (h : behindDigits s ≠ []) (t : List Char) :
    behindDigits (s ++ t) = behindDigits s ++ t := by
  induction s with
  | nil => exact absurd rfl h
  | cons c s ih =>
      by_cases hc : c.isDigit = true
      · have hstep : ∀ s, behindDigits (c :: s) = behindDigits s := fun _ => List.dropWhile_cons_of_pos hc
        rw [hstep] at h
        rw [List.cons_append, hstep, hstep, ih h]
      · have hstop : ∀ s, behindDigits (c :: s) = c :: s := fun _ => List.dropWhile_cons_of_neg hc
        rw [List.cons_append, hstop, hstop, List.cons_append]

theorem isDigit_toDigits {n : Nat} : ∀ c ∈ Nat.toDigits 10 n, c.isDigit = true := by
  intro c hc
  exact Nat.isDigit_of_mem_toDigits (by decide) (by decide) hc

theorem head_toDigits {n : Nat} (hn : 0 < n) : (Nat.toDigits 10 n).head? ≠ some '0' := by
  induction n using Nat.strong_induction_on with
  | _ n ih =>
      by_cases hlt : n < 10
      · rw [Nat.toDigits_of_lt_base hlt]
        intro h
        have hzero := congrArg Char.toNat (Option.some.inj h)
        have hdigit := Nat.toNat_digitChar_sub_48_of_lt_ten hlt
        rw [hzero] at hdigit
        exact absurd hdigit (Nat.ne_of_lt hn)
      · have hge : 10 ≤ n := Nat.le_of_not_lt hlt
        rw [Nat.toDigits_of_base_le (by decide) hge, List.head?_append_of_ne_nil _ Nat.toDigits_ne_nil]
        exact ih (n / 10) (Nat.div_lt_self hn (by decide)) (Nat.div_pos hge (by decide))

/-! A number, and how it is written. -/

structure Number where
  negative : Bool
  int : Nat
  frac : List Char
  exp : Option Int
  digits : ∀ c ∈ frac, c.isDigit = true

def Number.value (n : Number) : ℚ :=
  (if n.negative then -1 else 1) * (n.int + (Nat.ofDigitChars 10 n.frac 0 : ℕ) / 10 ^ n.frac.length) *
    10 ^ (n.exp.getD 0)

/-- A whole number. -/
def Number.ofInt (z : Int) : Number := ⟨decide (z < 0), z.natAbs, [], none, by simp⟩

theorem Number.value_ofInt (z : Int) : (Number.ofInt z).value = z := by
  have habs : ((z.natAbs : ℕ) : ℚ) = |(z : ℚ)| := by rw [Nat.cast_natAbs, Int.cast_abs]
  simp only [Number.value, Number.ofInt, Nat.ofDigitChars_nil, List.length_nil, Option.getD_none, zpow_zero,
    mul_one, pow_zero, div_one, Nat.cast_zero, add_zero, habs]
  by_cases hz : z < 0
  · have hq : (z : ℚ) < 0 := Int.cast_lt_zero.2 hz
    simp [hz, abs_of_neg hq]
  · have hq : (0 : ℚ) ≤ z := Int.cast_nonneg (not_lt.1 hz)
    simp [hz, abs_of_nonneg hq]

/-- An exponent has at least two digits. -/
def expDigits (e : Int) : List Char :=
  if (Nat.toDigits 10 e.natAbs).length = 1 then '0' :: Nat.toDigits 10 e.natAbs else Nat.toDigits 10 e.natAbs

def expText (e : Int) : List Char := 'e' :: (if e < 0 then '-' else '+') :: expDigits e

def Number.text (n : Number) : List Char :=
  (if n.negative then ['-'] else []) ++ (Nat.toDigits 10 n.int ++
    ((if n.frac = [] then [] else '.' :: n.frac) ++ n.exp.elim [] expText))

/-! Reading a number. -/

def readSign : List Char → Bool × List Char
  | '-' :: s => (true, s)
  | s => (false, s)

def readInt (s : List Char) : Option (Nat × List Char) :=
  if digitsOf s = [] ∨ (digitsOf s).head? = some '0' ∧ digitsOf s ≠ ['0'] then none
  else some (Nat.ofDigitChars 10 (digitsOf s) 0, behindDigits s)

abbrev Frac := { ds : List Char // ∀ c ∈ ds, c.isDigit = true }

def readFrac : List Char → Option (Frac × List Char)
  | '.' :: s => if digitsOf s = [] then none else some (⟨digitsOf s, digitsOf_digits s⟩, behindDigits s)
  | s => some (⟨[], by simp⟩, s)

def readExpSign : List Char → Bool × List Char
  | '-' :: s => (true, s)
  | '+' :: s => (false, s)
  | s => (false, s)

def readExp : List Char → Option (Option Int × List Char)
  | [] => some (none, [])
  | c :: s =>
    if c = 'e' ∨ c = 'E' then
      let (negative, s) := readExpSign s
      let magnitude : Int := Nat.ofDigitChars 10 (digitsOf s) 0
      if digitsOf s = [] then none
      else some (some (if negative then -magnitude else magnitude), behindDigits s)
    else some (none, c :: s)

def readNumber (s : List Char) : Option (Number × List Char) :=
  (readInt (readSign s).2).bind fun i =>
    (readFrac i.2).bind fun f =>
      (readExp f.2).map fun e => (⟨(readSign s).1, i.1, f.1.1, e.1, f.1.2⟩, e.2)

/-- A number ends here: the text does not go on with a part of one. -/
def Stops (s : List Char) : Prop := ∀ c ∈ s.head?, c.isDigit = false ∧ c ≠ '.' ∧ c ≠ 'e' ∧ c ≠ 'E'

theorem stops_cons {c : Char} {s : List Char} :
    Stops (c :: s) ↔ c.isDigit = false ∧ c ≠ '.' ∧ c ≠ 'e' ∧ c ≠ 'E' := by simp [Stops]

theorem Stops.noDigit {s : List Char} (h : Stops s) : NoDigit s := fun c hc => (h c hc).1

theorem readSign_digits {ds s : List Char} (hne : ds ≠ []) (hds : ∀ c ∈ ds, c.isDigit = true) :
    readSign (ds ++ s) = (false, ds ++ s) := by
  obtain ⟨d, ds, rfl⟩ := List.exists_cons_of_ne_nil hne
  have hd : d ≠ '-' := by
    rintro rfl
    exact absurd (hds '-' List.mem_cons_self) (by decide)
  rw [List.cons_append, readSign]
  intro s' h
  exact hd (List.cons.inj h).1

theorem readInt_text {n : Nat} {s : List Char} (hs : NoDigit s) :
    readInt (Nat.toDigits 10 n ++ s) = some (n, s) := by
  have hlead : ¬((Nat.toDigits 10 n).head? = some '0' ∧ Nat.toDigits 10 n ≠ ['0']) := by
    rintro ⟨hhead, hne⟩
    rcases Nat.eq_zero_or_pos n with rfl | hn
    · exact hne (Nat.toDigits_zero 10)
    · exact head_toDigits hn hhead
  rw [readInt, digitsOf_append isDigit_toDigits hs, behindDigits_append isDigit_toDigits hs,
    Nat.ofDigitChars_ten_toDigits]
  exact if_neg fun h => h.elim Nat.toDigits_ne_nil hlead

theorem readFrac_text {ds s : List Char} (hds : ∀ c ∈ ds, c.isDigit = true) (hs : NoDigit s)
    (hdot : ∀ c ∈ s.head?, c ≠ '.') :
    readFrac ((if ds = [] then [] else '.' :: ds) ++ s) = some (⟨ds, hds⟩, s) := by
  by_cases hne : ds = []
  · subst hne
    cases s with
    | nil => rfl
    | cons c s =>
        have hc := hdot c rfl
        rw [if_pos rfl, List.nil_append, readFrac]
        intro s' h
        exact hc (List.cons.inj h).1
  · rw [if_neg hne, List.cons_append, readFrac]
    simp only [digitsOf_append hds hs, behindDigits_append hds hs]
    exact if_neg hne

theorem isDigit_expDigits (e : Int) : ∀ c ∈ expDigits e, c.isDigit = true := by
  intro c hc
  rw [expDigits] at hc
  split at hc
  · rcases List.mem_cons.1 hc with rfl | hc
    · rfl
    · exact isDigit_toDigits c hc
  · exact isDigit_toDigits c hc

theorem ofDigitChars_expDigits (e : Int) : Nat.ofDigitChars 10 (expDigits e) 0 = e.natAbs := by
  rw [expDigits]
  split <;> exact Nat.ofDigitChars_ten_toDigits

theorem expDigits_ne_nil (e : Int) : expDigits e ≠ [] := by
  rw [expDigits]
  split
  · exact List.cons_ne_nil _ _
  · exact Nat.toDigits_ne_nil

theorem readExp_text {e : Option Int} {s : List Char} (hs : Stops s) :
    readExp (e.elim [] expText ++ s) = some (e, s) := by
  cases e with
  | none =>
      cases s with
      | nil => rfl
      | cons c s =>
          obtain ⟨-, -, he, hE⟩ := stops_cons.1 hs
          exact if_neg fun h => h.elim he hE
  | some e =>
      have hdigits := digitsOf_append (isDigit_expDigits e) hs.noDigit
      have hbehind := behindDigits_append (isDigit_expDigits e) hs.noDigit
      have hne := expDigits_ne_nil e
      by_cases he : e < 0
      · have hneg : -((Nat.ofDigitChars 10 (expDigits e) 0 : ℕ) : Int) = e := by rw [ofDigitChars_expDigits]; omega
        simp [expText, readExp, readExpSign, he, hdigits, hbehind, hne, hneg]
      · have hpos : ((Nat.ofDigitChars 10 (expDigits e) 0 : ℕ) : Int) = e := by rw [ofDigitChars_expDigits]; omega
        simp [expText, readExp, readExpSign, he, hdigits, hbehind, hne, hpos]

theorem readNumber_text (n : Number) {s : List Char} (hs : Stops s) : readNumber (n.text ++ s) = some (n, s) := by
  have hexp := @readExp_text n.exp s hs
  have hafter : NoDigit (n.exp.elim [] expText ++ s) ∧ ∀ c ∈ (n.exp.elim [] expText ++ s).head?, c ≠ '.' := by
    cases n.exp with
    | none => exact ⟨hs.noDigit, fun c hc => (hs c hc).2.1⟩
    | some e => exact ⟨noDigit_cons.2 (by decide), by simp [expText]⟩
  have hfrac := readFrac_text n.digits hafter.1 hafter.2
  have hint : NoDigit ((if n.frac = [] then [] else '.' :: n.frac) ++ (n.exp.elim [] expText ++ s)) := by
    split
    · exact hafter.1
    · exact noDigit_cons.2 (by decide)
  have hsign : readSign (n.text ++ s) = (n.negative, Nat.toDigits 10 n.int ++
      ((if n.frac = [] then [] else '.' :: n.frac) ++ (n.exp.elim [] expText ++ s))) := by
    rw [Number.text]
    simp only [List.append_assoc]
    cases n.negative with
    | true => rfl
    | false =>
        rw [if_neg Bool.false_ne_true, List.nil_append]
        exact readSign_digits Nat.toDigits_ne_nil isDigit_toDigits
  rw [readNumber, hsign]
  simp only [readInt_text hint, Option.bind_some, hfrac, hexp, Option.map_some]

/-! A text that goes on behind what was read. -/

theorem readSign_more {s : List Char} (h : s ≠ []) (t : List Char) :
    readSign (s ++ t) = ((readSign s).1, (readSign s).2 ++ t) := by
  obtain ⟨c, s, rfl⟩ := List.exists_cons_of_ne_nil h
  by_cases hc : c = '-'
  · subst hc
    rfl
  · simp [readSign, hc]

theorem readExpSign_more {s : List Char} (h : s ≠ []) (t : List Char) :
    readExpSign (s ++ t) = ((readExpSign s).1, (readExpSign s).2 ++ t) := by
  obtain ⟨c, s, rfl⟩ := List.exists_cons_of_ne_nil h
  by_cases hminus : c = '-'
  · subst hminus
    rfl
  · by_cases hplus : c = '+'
    · subst hplus
      rfl
    · simp [readExpSign, hminus, hplus]

section

variable {s r : List Char} (hr : r ≠ []) (t : List Char)

include hr

theorem readInt_more {n : Nat} (h : readInt s = some (n, r)) : readInt (s ++ t) = some (n, r ++ t) := by
  rw [readInt] at h
  split at h
  · cases h
  · next hlead =>
    obtain ⟨rfl, rfl⟩ := Prod.mk.inj (Option.some.inj h)
    rw [readInt, digitsOf_more hr, behindDigits_more hr, if_neg hlead]

theorem readFrac_more {f : Frac} (h : readFrac s = some (f, r)) : readFrac (s ++ t) = some (f, r ++ t) := by
  cases s with
  | nil => exact absurd (Prod.mk.inj (Option.some.inj h)).2.symm hr
  | cons c s =>
      by_cases hdot : c = '.'
      · subst hdot
        rw [readFrac] at h
        split at h
        · cases h
        · next hne =>
          obtain ⟨rfl, rfl⟩ := Prod.mk.inj (Option.some.inj h)
          simp [readFrac, digitsOf_more hr, behindDigits_more hr, hne]
      · have hplain : ∀ u, readFrac (c :: u) = some (⟨[], by simp⟩, c :: u) := by
          intro u
          simp [readFrac, hdot]
        rw [hplain] at h
        obtain ⟨rfl, rfl⟩ := Prod.mk.inj (Option.some.inj h)
        exact hplain (s ++ t)

theorem readExp_more {e : Option Int} (h : readExp s = some (e, r)) : readExp (s ++ t) = some (e, r ++ t) := by
  cases s with
  | nil => exact absurd (Prod.mk.inj (Option.some.inj h)).2.symm hr
  | cons c s =>
      rw [readExp] at h
      rw [List.cons_append, readExp]
      split at h
      · next hc =>
        rw [if_pos hc]
        dsimp only at h ⊢
        split at h
        · cases h
        · next hne =>
          obtain ⟨rfl, rfl⟩ := Prod.mk.inj (Option.some.inj h)
          have hs : s ≠ [] := by
            rintro rfl
            exact hne rfl
          rw [readExpSign_more hs]
          dsimp only
          rw [digitsOf_more hr, behindDigits_more hr, if_neg hne]
      · next hc =>
        obtain ⟨rfl, rfl⟩ := Prod.mk.inj (Option.some.inj h)
        exact if_neg hc

theorem readNumber_more {n : Number} (h : readNumber s = some (n, r)) :
    readNumber (s ++ t) = some (n, r ++ t) := by
  obtain ⟨⟨i, r₁⟩, hi, h⟩ := Option.bind_eq_some_iff.1 h
  obtain ⟨⟨f, r₂⟩, hf, h⟩ := Option.bind_eq_some_iff.1 h
  obtain ⟨⟨e, r₃⟩, he, h⟩ := Option.map_eq_some_iff.1 h
  obtain ⟨rfl, rfl⟩ := Prod.mk.inj h
  have hr₂ : r₂ ≠ [] := by
    rintro rfl
    exact hr (Prod.mk.inj (Option.some.inj he)).2.symm
  have hr₁ : r₁ ≠ [] := by
    rintro rfl
    exact hr₂ (Prod.mk.inj (Option.some.inj hf)).2.symm
  have hs : s ≠ [] := by
    rintro rfl
    cases hi
  rw [readNumber, readSign_more hs]
  dsimp only
  rw [readInt_more hr₁ t hi, Option.bind_some, readFrac_more hr₂ t hf, Option.bind_some, readExp_more hr t he,
    Option.map_some]

end

/-! Texts of digits and minus signs. -/

/-- A minus sign, if there is one, and digits, the first of them no '0' that
others follow. -/
def IntegerText (s : List Char) : Prop :=
  (readSign s).2 ≠ [] ∧ (∀ c ∈ (readSign s).2, c.isDigit = true) ∧
    ((readSign s).2.head? = some '0' → (readSign s).2 = ['0'])

instance (s : List Char) : Decidable (IntegerText s) :=
  inferInstanceAs (Decidable (_ ∧ _ ∧ _))

theorem readFrac_plain {c : Char} (hc : c ≠ '.') (s : List Char) :
    readFrac (c :: s) = some (⟨[], by simp⟩, c :: s) := by simp [readFrac, hc]

theorem readExp_plain {c : Char} (he : c ≠ 'e') (hE : c ≠ 'E') (s : List Char) :
    readExp (c :: s) = some (none, c :: s) := if_neg fun h => h.elim he hE

theorem digitChar_of_isDigit {c : Char} (h : c.isDigit = true) :
    c.toNat - '0'.toNat < 10 ∧ (c.toNat - '0'.toNat).digitChar = c := by
  rw [Char.isDigit, Bool.and_eq_true, decide_eq_true_eq, decide_eq_true_eq] at h
  have hlow : '0'.toNat ≤ c.toNat := h.1
  have hhigh : c.toNat ≤ '9'.toNat := h.2
  have hzero : '0'.toNat = 48 := rfl
  have hnine : '9'.toNat = 57 := rfl
  rw [hzero] at hlow ⊢
  rw [hnine] at hhigh
  obtain ⟨d, hd⟩ : ∃ d, c.toNat = 48 + d := ⟨c.toNat - 48, by omega⟩
  have hlt : d < 10 := by omega
  rw [hd, Nat.add_sub_cancel_left]
  refine ⟨hlt, ?_⟩
  rw [← Char.ofNat_toNat c, hd]
  clear hd hlow hhigh h
  revert d
  decide

/-- Digits without a zero in front are those of the number that they make. -/
theorem toDigits_ofDigitChars {ds : List Char} (hne : ds ≠ []) (hds : ∀ c ∈ ds, c.isDigit = true)
    (hlead : ds.head? = some '0' → ds = ['0']) : Nat.toDigits 10 (Nat.ofDigitChars 10 ds 0) = ds := by
  induction ds using List.reverseRecOn with
  | nil => exact absurd rfl hne
  | append_singleton ds c ih =>
      obtain ⟨hlt, hchar⟩ := digitChar_of_isDigit (hds c (List.mem_append_right ds List.mem_cons_self))
      rw [Nat.ofDigitChars_append, Nat.ofDigitChars_cons, Nat.ofDigitChars_nil]
      by_cases hds' : ds = []
      · subst hds'
        rw [Nat.ofDigitChars_nil, Nat.mul_zero, Nat.zero_add, Nat.toDigits_of_lt_base hlt, hchar, List.nil_append]
      · have hhead : ds.head? ≠ some '0' := by
          intro hzero
          rw [List.head?_append_of_ne_nil _ hds'] at hlead
          have hlen := congrArg List.length (hlead hzero)
          rw [List.length_append, List.length_singleton, List.length_singleton] at hlen
          exact hds' (List.length_eq_zero_iff.1 (by omega))
        have hfront := ih hds' (fun d hd => hds d (List.mem_append_left _ hd)) fun h => absurd h hhead
        have hpos : Nat.ofDigitChars 10 ds 0 ≠ 0 := by
          intro hzero
          rw [hzero, Nat.toDigits_zero] at hfront
          exact hhead (hfront ▸ rfl)
        have hdiv : (10 * Nat.ofDigitChars 10 ds 0 + (c.toNat - '0'.toNat)) / 10 = Nat.ofDigitChars 10 ds 0 := by omega
        have hmod : (10 * Nat.ofDigitChars 10 ds 0 + (c.toNat - '0'.toNat)) % 10 = c.toNat - '0'.toNat := by omega
        rw [Nat.toDigits_of_base_le (by decide) (by omega), hdiv, hmod, hfront, hchar]

theorem sign_append (v : List Char) : (if (readSign v).1 then ['-'] else []) ++ (readSign v).2 = v := by
  rw [readSign.eq_def]
  split <;> rfl

/-- Such a text is that of a number. -/
theorem IntegerText.number {v : List Char} (h : IntegerText v) : ∃ n : Number, v = n.text := by
  obtain ⟨hne, hdigits, hlead⟩ := h
  refine ⟨⟨(readSign v).1, Nat.ofDigitChars 10 (readSign v).2 0, [], none, by simp⟩, ?_⟩
  rw [Number.text]
  dsimp only
  rw [toDigits_ofDigitChars hne hdigits hlead, if_pos rfl, Option.elim_none, List.append_nil, List.append_nil,
    sign_append]

/-- Of digits and minus signs only such a text reads as a number up to its end. -/
theorem integerText_of_readNumber {v s r : List Char} {c d : Char} {n : Number}
    (hv : ∀ x ∈ v, x.isDigit = true ∨ x = '-') (hs : Stops (c :: s)) (hd : d ≠ '-')
    (h : readNumber (v ++ c :: s) = some (n, d :: r)) (hlen : v ≠ []) : IntegerText v ∧ d :: r = c :: s := by
  obtain ⟨hc, hdot, he, hE⟩ := stops_cons.1 hs
  rw [readNumber, readSign_more hlen] at h
  dsimp only at h
  have hrest : ∀ x ∈ (readSign v).2, x.isDigit = true ∨ x = '-' := by
    intro x hx
    apply hv
    rw [readSign.eq_def] at hx
    split at hx
    · exact List.mem_cons_of_mem _ hx
    · exact hx
  generalize hw : (readSign v).2 = w at h hrest
  obtain ⟨⟨i, r₁⟩, hi, h⟩ := Option.bind_eq_some_iff.1 h
  obtain ⟨⟨f, r₂⟩, hf, h⟩ := Option.bind_eq_some_iff.1 h
  obtain ⟨⟨e, r₃⟩, hexp, h⟩ := Option.map_eq_some_iff.1 h
  obtain ⟨-, rfl⟩ := Prod.mk.inj h
  dsimp only at hf hexp
  rw [readInt] at hi
  split at hi
  · cases hi
  next hlead =>
    obtain ⟨-, rfl⟩ := Prod.mk.inj (Option.some.inj hi)
    by_cases hmore : behindDigits w = []
    · -- the digits go up to the end
      have hall : ∀ x ∈ w, x.isDigit = true := List.dropWhile_eq_nil_iff.1 hmore
      rw [digitsOf_append hall (noDigit_cons.2 hc), not_or, not_and_not_right] at hlead
      rw [behindDigits_append hall (noDigit_cons.2 hc), readFrac_plain hdot] at hf
      obtain ⟨-, rfl⟩ := Prod.mk.inj (Option.some.inj hf)
      rw [readExp_plain he hE] at hexp
      obtain ⟨-, hend⟩ := Prod.mk.inj (Option.some.inj hexp)
      rw [IntegerText, hw]
      exact ⟨⟨hlead.1, hall, hlead.2⟩, hend.symm⟩
    · -- a minus sign ends them
      obtain ⟨x, w', hx⟩ := List.exists_cons_of_ne_nil hmore
      have hxdigit : x.isDigit = false := noDigit_cons.1 (hx ▸ noDigit_behindDigits w)
      have hxw : x ∈ w := by
        rw [← digitsOf_append_behind w, hx]
        exact List.mem_append_right _ List.mem_cons_self
      have hminus : x = '-' := (hrest x hxw).resolve_left (by simp [hxdigit])
      subst hminus
      rw [behindDigits_more hmore, hx, List.cons_append, readFrac_plain (by decide)] at hf
      obtain ⟨-, rfl⟩ := Prod.mk.inj (Option.some.inj hf)
      rw [readExp_plain (by decide) (by decide)] at hexp
      obtain ⟨-, hend⟩ := Prod.mk.inj (Option.some.inj hexp)
      exact absurd (List.cons.inj hend).1.symm hd

end WaybeamVenc.JsonNumber
