import WaybeamVenc.ApiBodies

namespace WaybeamVenc.ApiValues

open CNumber Config FieldTable Json JsonNumber JsonString PrintfG ApiBodies

variable {D F : Type} [CFloat D F] [PrintDouble D]

/-! What a value in an answer stands for. -/

/-- A number in JSON is read as the nearest double. -/
def Decodes : FieldValue D F → Value → Prop
  | .member .bool b, .bool b' => b' = b
  | .member .int i, .number n => n.value = i.toInt
  | .member .uint32 k, .number n => n.value = k.toNat
  | .member .uint16 k, .number n => n.value = k.toNat
  | .member .uint8 k, .number n => n.value = k.toNat
  | .member .double d, .number n =>
    ∃ q, (PrintDouble.view d).value? = some q ∧ (PrintDouble.view (CFloat.ofRat n.value : D)).value? = some q
  | .member .float x, .number n =>
    ∃ q, (PrintDouble.view (CFloat.ofFloat x : D)).value? = some q ∧
      (PrintDouble.view (CFloat.ofFloat (CFloat.toFloat (CFloat.ofRat n.value : D) : F) : D)).value? = some q
  | .member (.str _) s, .string t => t = s.1
  | .size width height, .string t => t = ConfigSave.sizeText width height
  | _, _ => False

/-- A number that its six significant digits are read back as. -/
def Recovered (x : Double) (back : ℚ → Double) : Prop :=
  match x with
  | .finite negative magnitude =>
    (back (signed negative (roundSig 6 magnitude))).value? = some (signed negative magnitude)
  | _ => False

/-- Six significant digits are enough for the value. -/
def Exact : FieldValue D F → Prop
  | .member .double d => Recovered (PrintDouble.view d) fun r => PrintDouble.view (CFloat.ofRat r : D)
  | .member .float x =>
    Recovered (PrintDouble.view (CFloat.ofFloat x : D)) fun r =>
      PrintDouble.view (CFloat.ofFloat (CFloat.toFloat (CFloat.ofRat r : D) : F) : D)
  | _ => True

theorem text_ofNat (n : ℕ) : (Number.ofInt n).text = Nat.toDigits 10 n := by
  simp [Number.ofInt, Number.text]

theorem plain_digits {s : CString} (h : ∀ c ∈ s, c.isDigit = true) : Plain s := by
  intro c hc
  have hdigit := h c hc
  have hlow : '0'.toNat ≤ c.toNat := by
    rw [Char.isDigit, Bool.and_eq_true, decide_eq_true_eq] at hdigit
    exact hdigit.1
  refine ⟨ne_of_isDigit hdigit (by decide), ne_of_isDigit hdigit (by decide), Nat.le_trans (by decide) hlow⟩

theorem plain_append {s t : CString} (hs : Plain s) (ht : Plain t) : Plain (s ++ t) := by
  intro c hc
  exact (List.mem_append.1 hc).elim (hs c) (ht c)

theorem plain_sizeText (width height : UInt32) : Plain (ConfigSave.sizeText width height) := by
  have hx : Plain ['x'] := by decide
  exact plain_append (plain_digits isDigit_toDigits) (plain_append hx (plain_digits isDigit_toDigits))

theorem printString_plain {s : CString} (h : Plain s) : printString s = '"' :: (s ++ ['"']) := by
  rw [printString, escape_plain h]

theorem printfG_json {x : Double} {j : Value} (h : Double.json x = some j) : printfG 6 x = print j := by
  cases x with
  | finite negative magnitude =>
      obtain rfl := Option.some.inj h
      rw [print, printfG]
  | inf negative | nan negative => cases h

/-- The text of a value is the one JSON has for it. -/
theorem fieldText_json {v : FieldValue D F} {j : Value} (h : fieldJson v = some j) : fieldText v = print j := by
  cases v with
  | size width height =>
      obtain rfl := Option.some.inj h
      rw [print, printString_plain (plain_sizeText width height)]
      rfl
  | member t x =>
      cases t with
      | bool =>
          obtain rfl := Option.some.inj h
          rw [print]
          rfl
      | int =>
          obtain rfl := Option.some.inj h
          rw [print]
          rfl
      | uint32 | uint16 | uint8 =>
          obtain rfl := Option.some.inj h
          rw [print, text_ofNat]
          rfl
      | str n =>
          obtain rfl := Option.some.inj h
          rw [print]
          rfl
      | double => exact printfG_json h
      | float => exact printfG_json h

theorem recovered_iff {x : Double} {back : ℚ → Double} :
    Recovered x back ↔ ∃ n, Double.json x = some (.number n) ∧
      ∃ q, x.value? = some q ∧ (back n.value).value? = some q := by
  cases x with
  | finite negative magnitude =>
      have hvalue := value_formatG (p := 6) (by decide) negative magnitude
      constructor
      · intro h
        exact ⟨_, rfl, _, rfl, by rw [hvalue]; exact h⟩
      · rintro ⟨n, hn, q, hq, hback⟩
        obtain rfl := Value.number.inj (Option.some.inj hn)
        obtain rfl := Option.some.inj hq
        rw [hvalue] at hback
        exact hback
  | inf negative | nan negative =>
      constructor
      · intro h
        cases h
      · rintro ⟨n, hn, -⟩
        cases hn

theorem json_number {x : Double} {j : Value} (h : Double.json x = some j) : ∃ n, j = .number n := by
  cases x with
  | finite negative magnitude => exact ⟨_, (Option.some.inj h).symm⟩
  | inf negative | nan negative => cases h

/-- A value is exact when the JSON that is written decodes to it. -/
theorem exact_iff (v : FieldValue D F) : Exact v ↔ ∃ j, fieldJson v = some j ∧ Decodes v j := by
  cases v with
  | size width height => exact iff_of_true trivial ⟨_, rfl, rfl⟩
  | member t x =>
      cases t with
      | bool | str n => exact iff_of_true trivial ⟨_, rfl, rfl⟩
      | int | uint32 | uint16 | uint8 => exact iff_of_true trivial ⟨_, rfl, Number.value_ofInt _⟩
      | double | float =>
          rw [Exact, recovered_iff]
          constructor
          · rintro ⟨n, hn, h⟩
            exact ⟨_, hn, h⟩
          · rintro ⟨j, hj, h⟩
            obtain ⟨n, rfl⟩ := json_number hj
            exact ⟨n, hj, h⟩

/-! Values that cJSON reads and prints again. -/

theorem valueint_bounds (q : ℚ) : -2 ^ 31 ≤ valueint q ∧ valueint q < 2 ^ 32 := by
  rw [valueint]
  split_ifs with hhigh hlow hneg
  · exact ⟨by norm_num, by norm_num⟩
  · exact ⟨by norm_num, by norm_num⟩
  · have hfloor : ⌊q⌋ < 2 ^ 32 := Int.floor_lt.2 (lt_trans (not_le.1 hhigh) (by norm_num))
    exact ⟨le_trans (by norm_num) (Int.floor_nonneg.2 hneg), hfloor⟩
  · have hceil : ⌈q⌉ ≤ 0 := Int.ceil_le.2 (by exact_mod_cast le_of_lt (not_le.1 hneg))
    have hmore : -2 ^ 31 < ⌈q⌉ := Int.lt_ceil.2 (by exact_mod_cast not_le.1 hlow)
    exact ⟨le_of_lt hmore, lt_of_le_of_lt hceil (by norm_num)⟩

/-- What is printed of a decimal with few digits reads as the same double. -/
theorem printNumber_decimal {negative : Bool} {m : ℕ} {e : ℤ} {q : ℚ} (hm : m < 10 ^ 15)
    (h : (PrintDouble.view (CFloat.ofRat (signed negative (m * 10 ^ e)) : D)).value? = some q) :
    ∃ n, printNumber (CFloat.ofRat (signed negative (m * 10 ^ e)) : D) = .number n ∧
      (PrintDouble.view (CFloat.ofRat n.value : D)).value? = some q := by
  rw [printNumber]
  cases hx : PrintDouble.view (CFloat.ofRat (signed negative (m * 10 ^ e)) : D) with
  | inf sign | nan sign =>
      rw [hx] at h
      cases h
  | finite sign magnitude =>
      rw [hx] at h
      obtain rfl := Option.some.inj h
      dsimp only
      split
      · next hint =>
        obtain ⟨hlow, hhigh⟩ := valueint_bounds (signed sign magnitude)
        refine ⟨_, rfl, ?_⟩
        rw [Number.value_ofInt, PrintDouble.view_ofInt _ hlow hhigh, ← hint]
      · refine ⟨_, rfl, ?_⟩
        split
        · rw [value_formatG (by decide)]
          exact PrintDouble.reread negative m e hm 15 (by decide) sign magnitude hx
        · rw [value_formatG (by decide)]
          exact PrintDouble.reread negative m e hm 17 (by decide) sign magnitude hx

theorem printNumber_none {d : D} (h : (PrintDouble.view d).value? = none) : printNumber d = .null := by
  rw [printNumber]
  cases hx : PrintDouble.view d with
  | inf sign | nan sign => rfl
  | finite sign magnitude =>
      rw [hx] at h
      cases h

theorem roundSig_natCast {p k : ℕ} (hk : k < 10 ^ p) : roundSig p (k : ℚ≥0) = k := by
  have h := roundSig_digits hk 0
  rw [zpow_zero, mul_one, zpow_zero, mul_one] at h
  exact h

theorem magnitude_eq {sign : Bool} {magnitude : ℚ≥0} {z : ℤ} (h : signed sign magnitude = z) :
    magnitude = (z.natAbs : ℚ≥0) := by
  have habs : ((z.natAbs : ℕ) : ℚ) = |(z : ℚ)| := by rw [Nat.cast_natAbs, Int.cast_abs]
  have hnonneg : (0 : ℚ) ≤ magnitude := NNRat.coe_nonneg magnitude
  apply NNRat.coe_injective
  rw [NNRat.cast_natCast, habs, ← h]
  cases sign with
  | true => rw [signed, if_pos rfl, abs_neg, abs_of_nonneg hnonneg]
  | false => rw [signed, if_neg Bool.false_ne_true, abs_of_nonneg hnonneg]

/-- An integer is printed as it was. -/
theorem printNumber_integer {z : ℤ} (hlow : -2 ^ 31 ≤ z) (hhigh : z < 2 ^ 32) :
    ∃ n, printNumber (CFloat.ofRat z : D) = .number n ∧ n.value = z := by
  have hview := PrintDouble.view_ofInt (D := D) z hlow hhigh
  rw [printNumber]
  cases hx : PrintDouble.view (CFloat.ofRat z : D) with
  | inf sign | nan sign =>
      rw [hx] at hview
      cases hview
  | finite sign magnitude =>
      rw [hx] at hview
      have hz : signed sign magnitude = z := Option.some.inj hview
      have hnat := magnitude_eq hz
      have hround : ∀ p, 10 ^ 15 ≤ 10 ^ p → signed sign (roundSig p magnitude) = z := by
        intro p hp
        have hk : z.natAbs < 10 ^ p := lt_of_lt_of_le (by omega) hp
        rw [hnat, roundSig_natCast hk, ← hz, hnat]
        rfl
      dsimp only
      split
      · next hint => exact ⟨_, rfl, by rw [Number.value_ofInt, ← hint, hz]⟩
      · refine ⟨_, rfl, ?_⟩
        split
        · rw [value_formatG (by decide), hround 15 (by norm_num)]
        · rw [value_formatG (by decide), hround 17 (by norm_num)]

def IsFloat : FieldValue D F → Prop
  | .member .float _ => True
  | _ => False

theorem decodes_printNumber {d : D} {n : Number} {negative : Bool} {m : ℕ} {e : ℤ} (hm : m < 10 ^ 15)
    (hn : n.value = signed negative (m * 10 ^ e)) :
    Decodes (.member .double d : FieldValue D F) (printNumber (CFloat.ofRat n.value : D)) ↔
      Decodes (.member .double d : FieldValue D F) (.number n) := by
  cases hq : (PrintDouble.view (CFloat.ofRat n.value : D)).value? with
  | none =>
      rw [printNumber_none hq]
      refine iff_of_false id ?_
      rintro ⟨q, -, hback⟩
      cases hq.symm.trans hback
  | some q =>
      have hview := hq
      rw [hn] at hview
      obtain ⟨n', hprint, hback⟩ := printNumber_decimal hm hview
      rw [← hn] at hprint
      rw [hprint, Decodes, Decodes, hback, hq]

/-- A value that was read and printed again decodes as before. -/
theorem decodes_reprint {v : FieldValue D F} (hv : ¬IsFloat v) {j : Value} (h : fieldJson v = some j) :
    Decodes v (reprint D j) ↔ Decodes v j := by
  cases v with
  | size width height =>
      obtain rfl := Option.some.inj h
      rfl
  | member t x =>
      cases t with
      | bool | str n =>
          obtain rfl := Option.some.inj h
          rfl
      | float => exact absurd trivial hv
      | int =>
          obtain rfl := Option.some.inj h
          have hlow := x.le_toInt
          have hhigh := x.toInt_lt
          obtain ⟨n, hn, hvalue⟩ := printNumber_integer (D := D) (z := x.toInt) (by omega) (by omega)
          rw [reprint, Number.value_ofInt, hn]
          exact iff_of_true hvalue (Number.value_ofInt _)
      | uint32 | uint16 | uint8 =>
          obtain rfl := Option.some.inj h
          have hlt := x.toNat_lt
          obtain ⟨n, hn, hvalue⟩ := printNumber_integer (D := D) (z := x.toNat) (by omega) (by omega)
          rw [reprint, Number.value_ofInt, hn]
          exact iff_of_true hvalue (Number.value_ofInt _)
      | double =>
          cases hx : PrintDouble.view (D := D) x with
          | inf negative | nan negative =>
              rw [fieldJson, hx] at h
              cases h
          | finite negative magnitude =>
              rw [fieldJson, hx] at h
              obtain rfl := Option.some.inj h
              have hdigits := sigDigits_le (p := 6) magnitude
              have hvalue : (formatG 6 negative magnitude).value = signed negative
                  ((sigDigits 6 magnitude).1 * 10 ^ ((sigDigits 6 magnitude).2 - ((6 : ℕ) - 1))) :=
                value_formatG (by decide) negative magnitude
              exact decodes_printNumber (Nat.lt_of_le_of_lt hdigits (by decide)) hvalue

theorem not_reads_printfG {x : Double} (h : Double.json x = none) (s : CString) (u : Value) (r : CString) :
    ¬Reads (printfG 6 x ++ s) u r := by
  rintro ⟨n, hn⟩
  cases n with
  | zero => cases hn
  | succ n =>
      have hscalar : readValue (n + 1) (printfG 6 x ++ s) = readScalar (printfG 6 x ++ s) := by
        cases x with
        | finite negative magnitude => cases h
        | inf negative | nan negative =>
            cases negative <;> exact readValue_scalar (by decide) (by decide) (by decide) (by decide) n _
      rw [hscalar] at hn
      cases x with
      | finite negative magnitude => cases h
      | inf negative | nan negative => cases negative <;> cases hn

/-- A number that is not finite has no JSON text. -/
theorem not_reads {v : FieldValue D F} (h : fieldJson v = none) (s : CString) (u : Value) (r : CString) :
    ¬Reads (fieldText v ++ s) u r := by
  cases v with
  | size width height => cases h
  | member t x =>
      cases t with
      | bool | str n | int | uint32 | uint16 | uint8 => cases h
      | double => exact not_reads_printfG h s u r
      | float => exact not_reads_printfG h s u r

end WaybeamVenc.ApiValues
