import WaybeamVenc.IqParams
import WaybeamVenc.SaveLoad

namespace WaybeamVenc.IqBuffers

open CNumber ConfigLoad ConfigSave SaveLoad ByteBuffer IqParams

/-! Values in a buffer. -/

def width : IqValueType → Nat
  | .u8 => 1
  | .u16 => 2
  | .bool | .u32 => 4

theorem store_word16 (buf : Buffer) (offset : Nat) :
    store buf offset (bytes16 (word16 (load buf offset 2))) = buf := by
  have hload : load buf offset 2 = [buf offset, buf (offset + 1)] := rfl
  rw [hload, bytes16_word16, ← hload]
  exact store_load

theorem store_word32 (buf : Buffer) (offset : Nat) :
    store buf offset (bytes32 (word32 (load buf offset 4))) = buf := by
  have hload : load buf offset 4 = [buf offset, buf (offset + 1), buf (offset + 2), buf (offset + 3)] := rfl
  rw [hload, bytes32_word32, ← hload]
  exact store_load

theorem write_read (buf : Buffer) (offset : Nat) (vt : IqValueType) :
    writeValue buf offset vt (readValue buf offset vt) = buf := by
  cases vt with
  | bool | u32 => exact store_word32 buf offset
  | u16 =>
      rw [readValue, writeValue, UInt16.toUInt16_toUInt32]
      exact store_word16 buf offset
  | u8 =>
      rw [readValue, writeValue, UInt8.toUInt8_toUInt32]
      exact store_load (n := 1)

theorem read_write32 (buf : Buffer) (offset : Nat) (val : UInt32) :
    readValue (writeValue buf offset .u32 val) offset .u32 = val := by
  have hload : load (store buf offset (bytes32 val)) offset 4 = bytes32 val := load_store
  rw [readValue, writeValue, hload, word32_bytes32]

theorem write_write32 (buf : Buffer) (offset : Nat) (val val' : UInt32) :
    writeValue (writeValue buf offset .u32 val) offset .u32 val' = writeValue buf offset .u32 val' :=
  store_store rfl

theorem read_disjoint (buf : Buffer) {offset other : Nat} (vt vt' : IqValueType) (val : UInt32)
    (h : offset + width vt ≤ other ∨ other + width vt' ≤ offset) :
    readValue (writeValue buf offset vt val) other vt' = readValue buf other vt' := by
  have hload : ∀ bytes : List UInt8, bytes.length = width vt →
      load (store buf offset bytes) other (width vt') = load buf other (width vt') := by
    intro bytes hlength
    exact load_store_disjoint (by rw [hlength]; exact h)
  have hwritten : load (writeValue buf offset vt val) other (width vt') = load buf other (width vt') := by
    cases vt <;> exact hload _ rfl
  cases vt' with
  | bool | u32 => exact congrArg word32 hwritten
  | u16 => exact congrArg (fun bytes => (word16 bytes).toUInt32) hwritten
  | u8 => exact congrArg UInt8.toUInt32 (List.cons.inj hwritten).1

/-! Numbers in a text. -/

theorem saturate_small {v : UInt32} (hv : v.toNat < 2 ^ 31) : (saturate v.toNat).toInt = v.toNat := by
  have hlow : ¬(2 : Int) ^ 31 ≤ (v.toNat : Int) := by omega
  have hneg : ¬(v.toNat : Int) ≤ -2 ^ 31 := by omega
  rw [saturate, if_neg hlow, if_neg hneg]
  exact Int32.toInt_ofInt_of_le (by omega) (by omega)

theorem intText_saturate {v : UInt32} (hv : v.toNat < 2 ^ 31) : intText (saturate v.toNat) = decimal v := by
  have hint := saturate_small hv
  have hnonneg : ¬saturate v.toNat < 0 := by
    rw [Int32.lt_iff_toInt_lt, hint]
    exact Int.not_lt.2 (Int.natCast_nonneg _)
  rw [intText, if_neg hnonneg, hint, decimal, Int.toNat_natCast]

theorem atoi_decimal {v : UInt32} (hv : v.toNat < 2 ^ 31) {rest : CString}
    (hrest : takeDigits 10 (some v.toNat) rest = (some v.toNat, rest)) :
    (atoi (decimal v ++ rest)).toUInt32 = v := by
  have hd : takeDigits 10 none (decimal v ++ rest) = (some v.toNat, rest) :=
    (takeDigits_toDigits v.toNat rest).trans hrest
  have hsmall : ¬2 ^ 31 ≤ v.toNat := Nat.not_le.2 hv
  have hl : strtol (decimal v ++ rest) = some (Int32.ofNat v.toNat, rest) := by
    rw [strtol, skip_decimal]
    dsimp only
    rw [hd]
    dsimp only
    rw [if_neg (by decide), if_neg hsmall]
  rw [atoi, hl]
  exact UInt32.ofNat_toNat

theorem atoi_exact {v : UInt32} (hv : v.toNat < 2 ^ 31) : (atoi (decimal v)).toUInt32 = v := by
  have h : (atoi (decimal v ++ [])).toUInt32 = v := atoi_decimal hv rfl
  rwa [List.append_nil] at h

theorem atoi_flag (b : Bool) : (atoi (flag b)).toUInt32 = if b then 1 else 0 := by
  cases b <;> decide

theorem decimal_comma (v : UInt32) (rest : CString) :
    (decimal v ++ rest).dropWhile (· ≠ ',') = rest.dropWhile (· ≠ ',') := by
  apply List.dropWhile_append_of_pos
  intro c hc
  have hdigit : c.isDigit = true := Nat.isDigit_of_mem_toDigits (by decide) (by decide) hc
  have hne : c ≠ ',' := by
    rintro rfl
    cases hdigit
  exact decide_eq_true hne

theorem decimal_ne_nil (v : UInt32) (rest : CString) : decimal v ++ rest ≠ [] := by
  obtain ⟨c, s, h, -⟩ := decimal_head v
  rw [h]
  exact nofun

/-! A set to what is there already. -/

/-- The values of an element or more are where they were read from. -/
theorem setElements_same (fd : IqFieldDesc) (base : Nat) (buf : Buffer) (values : List UInt32) (e : Nat)
    (hvalues : ∀ k v, values[k]? = some v →
      v = readValue buf (base + (e + k) * elemSize fd.vtype) fd.vtype ∧ v ≤ fd.maxVal ∧ v.toNat < 2 ^ 31) :
    setElements fd base values.length e (joined (values.map decimal)) buf = buf := by
  induction values generalizing e with
  | nil => rfl
  | cons v values ih =>
      obtain ⟨hread, hmax, hsmall⟩ := hvalues 0 v rfl
      have hclamp : clampLevel fd.maxVal v = v := if_neg (UInt32.not_lt.2 hmax)
      have hrest : ∀ k w, values[k]? = some w →
          w = readValue buf (base + (e + 1 + k) * elemSize fd.vtype) fd.vtype ∧ w ≤ fd.maxVal ∧ w.toNat < 2 ^ 31 := by
        intro k w hw
        have h := hvalues (k + 1) w hw
        rwa [show e + (k + 1) = e + 1 + k by omega] at h
      have hkept : writeValue buf (base + e * elemSize fd.vtype) fd.vtype v = buf := by
        rw [hread]
        exact write_read buf _ fd.vtype
      cases values with
      | nil =>
          have hatoi := atoi_exact hsmall
          have hne : decimal v ≠ [] := by
            have h := decimal_ne_nil v []
            rwa [List.append_nil] at h
          change setElements fd base 1 e (decimal v) buf = buf
          rw [setElements, if_neg hne, hatoi, hclamp, hkept]
          rfl
      | cons w values =>
          have hatoi : (atoi (decimal v ++ ',' :: joined ((w :: values).map decimal))).toUInt32 = v :=
            atoi_decimal hsmall rfl
          have hnext : ((decimal v ++ ',' :: joined ((w :: values).map decimal)).dropWhile (· ≠ ',')).tail =
              joined ((w :: values).map decimal) := by
            rw [decimal_comma]
            rfl
          change setElements fd base ((w :: values).length + 1) e
            (decimal v ++ ',' :: joined ((w :: values).map decimal)) buf = buf
          rw [setElements, if_neg (decimal_ne_nil _ _), hatoi, hclamp, hkept, hnext]
          exact ih (e + 1) hrest

/-! The table. -/

/-- What the import relies on in an entry of the table. -/
structure WellFormed (p : IqParamDesc) : Prop where
  plain : '.' ∉ p.name.toList ∧ p.name.toList.length ≤ 60 ∧ p.name.toList.head? ≠ some '_'
  small : p.maxVal ≤ 65535
  switch : p.vtype = .bool → p.maxVal = 1
  flat : p.vtype = .bool ∨ p.manualOffset = 0 → p.manualOffset = 0 ∧ p.fields = []
  offset : p.manualOffset = 0 ∨ p.manualOffset = 4 ∨ 8 ≤ p.manualOffset
  fields : ∀ fd ∈ p.fields, fd.name.toList.length ≤ 60 ∧ fd.name.toList ≠ "enabled".toList ∧ fd.maxVal ≤ 65535 ∧
    p.fields.find? (fun f => f.name.toList = fd.name.toList) = some fd

theorem table_wellFormed : ∀ p ∈ gParams, WellFormed p := by
  have hplain : ∀ p ∈ gParams,
      '.' ∉ p.name.toList ∧ p.name.toList.length ≤ 60 ∧ p.name.toList.head? ≠ some '_' := by decide +kernel
  have hflat : ∀ p ∈ gParams, p.maxVal ≤ 65535 ∧ (p.vtype = .bool → p.maxVal = 1) ∧
      (p.vtype = .bool ∨ p.manualOffset = 0 → p.manualOffset = 0 ∧ p.fields = []) ∧
      (p.manualOffset = 0 ∨ p.manualOffset = 4 ∨ 8 ≤ p.manualOffset) := by decide +kernel
  have hfields : ∀ p ∈ gParams, ∀ fd ∈ p.fields, fd.name.toList.length ≤ 60 ∧
      fd.name.toList ≠ "enabled".toList ∧ fd.maxVal ≤ 65535 ∧
      p.fields.find? (fun f => f.name.toList = fd.name.toList) = some fd := by decide +kernel
  intro p hp
  obtain ⟨hsmall, hswitch, hnone, hoffset⟩ := hflat p hp
  exact ⟨hplain p hp, hsmall, hswitch, hnone, hoffset, hfields p hp⟩

theorem findParam_table : ∀ p ∈ gParams, findParam p.name.toList = some p := by decide +kernel

theorem names_distinct : (gParams.map (·.name)).Nodup := by decide +kernel

/-! One parameter. -/

/-- The values of a parameter are within the maxima of the table. -/
structure InRange (p : IqParamDesc) (buf : Buffer) : Prop where
  value : readValue buf p.manualOffset p.vtype ≤ p.maxVal
  fields : ∀ fd ∈ p.fields, ∀ v ∈ fieldValues p buf fd, v ≤ fd.maxVal

/-- What an import of a parameter's own export makes of its buffer. -/
def reimported (p : IqParamDesc) (buf : Buffer) : Buffer :=
  if p.vtype = .bool then writeValue buf iqOffsetEnable .u32 (if readValue buf iqOffsetEnable .u32 != 0 then 1 else 0)
  else if p.manualOffset = 0 then
    writeValue (writeValue (writeValue buf iqOffsetEnable .u32 1) iqOffsetOptype .u32 1) 0 p.vtype
      (readValue buf 0 p.vtype)
  else setHeader p buf

variable {p : IqParamDesc} {buf : Buffer}

theorem setHeader_enable (val : UInt32) : setHeader p (writeValue buf iqOffsetEnable .u32 val) = setHeader p buf := by
  rw [setHeader, setHeader, write_write32]

theorem setHeader_enabled : readValue (setHeader p buf) iqOffsetEnable .u32 = 1 := by
  rw [setHeader]
  split
  · have hapart : iqOffsetEnable + width .u32 ≤ iqOffsetOptype := Nat.le_refl 4
    rw [read_disjoint _ .u32 .u32 1 (Or.inr hapart), read_write32]
  · exact read_write32 buf iqOffsetEnable 1

theorem setHeader_manual (h : 4 < p.manualOffset) : readValue (setHeader p buf) iqOffsetOptype .u32 = 1 := by
  rw [setHeader]
  rw [if_pos h]
  exact read_write32 _ iqOffsetOptype 1

/-- A buffer that is enabled and in manual mode is left as it is. -/
theorem setHeader_eq_iff : setHeader p buf = buf ↔
    readValue buf iqOffsetEnable .u32 = 1 ∧ (4 < p.manualOffset → readValue buf iqOffsetOptype .u32 = 1) := by
  constructor
  · intro h
    rw [← h]
    exact ⟨setHeader_enabled, setHeader_manual⟩
  · rintro ⟨henable, hmanual⟩
    have hfirst : writeValue buf iqOffsetEnable .u32 1 = buf := by
      rw [← henable]
      exact write_read buf iqOffsetEnable .u32
    rw [setHeader, hfirst]
    split
    · next h =>
      rw [← hmanual h]
      exact write_read buf iqOffsetOptype .u32
    · rfl

theorem setHeader_idem : setHeader p (setHeader p buf) = setHeader p buf :=
  setHeader_eq_iff.2 ⟨setHeader_enabled, setHeader_manual⟩

theorem read_setHeader (hp : WellFormed p) (hpos : p.manualOffset ≠ 0) {offset : Nat} (hoffset : p.manualOffset ≤ offset)
    (vt : IqValueType) : readValue (setHeader p buf) offset vt = readValue buf offset vt := by
  have hpast := hp.offset
  rw [setHeader]
  split
  · next h =>
    have height : iqOffsetOptype + width .u32 ≤ offset := by
      change 8 ≤ offset
      omega
    have hfour : iqOffsetEnable + width .u32 ≤ offset := by
      change 4 ≤ offset
      omega
    rw [read_disjoint _ .u32 vt 1 (Or.inl height), read_disjoint _ .u32 vt 1 (Or.inl hfour)]
  · have hfour : iqOffsetEnable + width .u32 ≤ offset := by
      change 4 ≤ offset
      omega
    rw [read_disjoint _ .u32 vt 1 (Or.inl hfour)]

theorem small_of_le {v maxVal : UInt32} (hv : v ≤ maxVal) (hmax : maxVal ≤ 65535) : v.toNat < 2 ^ 31 :=
  Nat.lt_of_le_of_lt (UInt32.le_iff_toNat_le.1 (UInt32.le_trans hv hmax)) (by decide)

theorem setField_exported (hp : WellFormed p) (hpos : p.manualOffset ≠ 0) (hrange : InRange p buf) {fd : IqFieldDesc}
    (hfd : fd ∈ p.fields) {b : Buffer} (hb : setHeader p b = setHeader p buf) {text : CString}
    (htext : fieldText (fieldJson p buf fd).2 = some text) : setField p fd text b = setHeader p buf := by
  obtain ⟨-, -, hmax, -⟩ := hp.fields fd hfd
  rw [setField, hb]
  by_cases hone : fd.count = 1
  · have hmem : readValue buf (p.manualOffset + fd.relOffset) fd.vtype ∈ fieldValues p buf fd := by
      rw [fieldValues, hone]
      apply List.mem_singleton.2
      dsimp only
      rw [Nat.zero_mul, Nat.add_zero]
    have hle := hrange.fields fd hfd _ hmem
    have hsmall := small_of_le hle hmax
    have htext' : text = decimal (readValue buf (p.manualOffset + fd.relOffset) fd.vtype) := by
      rw [fieldJson, if_pos hone] at htext
      exact (Option.some.inj htext).symm.trans (intText_saturate hsmall)
    have hatoi := atoi_exact hsmall
    have hclamp : clampLevel fd.maxVal (readValue buf (p.manualOffset + fd.relOffset) fd.vtype) =
        readValue buf (p.manualOffset + fd.relOffset) fd.vtype := if_neg (UInt32.not_lt.2 hle)
    rw [if_pos hone, htext', hatoi, hclamp, ← read_setHeader hp hpos (Nat.le_add_right _ _)]
    exact write_read _ _ fd.vtype
  · have htext' : text = joined ((fieldValues p buf fd).map decimal) := by
      rw [fieldJson, if_neg hone] at htext
      rw [← Option.some.inj htext, List.map_map]
      apply congrArg joined
      apply List.map_congr_left
      intro v hv
      exact intText_saturate (small_of_le (hrange.fields fd hfd v hv) hmax)
    have hlength : (fieldValues p buf fd).length = fd.count := by
      rw [fieldValues, List.length_map, List.length_range]
    rw [if_neg hone, htext', ← hlength]
    apply setElements_same
    intro k v hk
    have hv := List.mem_of_getElem? hk
    have hle := hrange.fields fd hfd v hv
    refine ⟨?_, hle, small_of_le hle hmax⟩
    rw [Nat.zero_add, read_setHeader hp hpos (Nat.le_trans (Nat.le_add_right _ _) (Nat.le_add_right _ _))]
    rw [fieldValues, List.getElem?_map] at hk
    obtain ⟨e, he, rfl⟩ := Option.map_eq_some_iff.1 hk
    obtain ⟨-, rfl⟩ := List.getElem?_eq_some_iff.1 he
    rw [List.getElem_range]

theorem setLegacy_exported (hp : WellFormed p) (hrange : InRange p buf) (hflat : p.vtype ≠ .bool) {b : Buffer}
    (hb : setHeader p b = setHeader p buf)
    (hzero : p.manualOffset = 0 → ∃ val, b = writeValue buf iqOffsetEnable .u32 val) :
    setLegacy p (intText (saturate (readValue buf p.manualOffset p.vtype).toNat)) b = reimported p buf := by
  have hsmall := small_of_le hrange.value hp.small
  have hatoi := atoi_exact hsmall
  have hclamp : clampLevel p.maxVal (readValue buf p.manualOffset p.vtype) = readValue buf p.manualOffset p.vtype :=
    if_neg (UInt32.not_lt.2 hrange.value)
  rw [setLegacy, intText_saturate hsmall, hatoi, hclamp, reimported, if_neg hflat, if_neg hflat]
  by_cases hfour : p.manualOffset = 4
  · have hpos : p.manualOffset ≠ 0 := by omega
    have hheader : setHeader p b = writeValue b iqOffsetEnable .u32 1 := if_neg (by omega)
    rw [if_pos hfour, if_neg hpos, ← hheader, hb, ← read_setHeader hp hpos (Nat.le_refl _)]
    exact write_read _ _ p.vtype
  · rw [if_neg hfour]
    by_cases hpos : p.manualOffset = 0
    · obtain ⟨val, rfl⟩ := hzero hpos
      rw [if_pos hpos, hpos, write_write32]
    · have hheader : setHeader p b = writeValue (writeValue b iqOffsetEnable .u32 1) iqOffsetOptype .u32 1 :=
        if_pos (by have := hp.offset; omega)
      rw [if_neg hpos, ← hheader, hb, ← read_setHeader hp hpos (Nat.le_refl _)]
      exact write_read _ _ p.vtype

/-- The state of a parameter that its own export stands for: switched on and in
manual mode where the layout has these; where the value lies over the switch,
it takes the switch's place. -/
def Restorable (p : IqParamDesc) (buf : Buffer) : Prop :=
  if p.vtype = .bool then True
  else if p.manualOffset = 0 then
    readValue buf iqOffsetEnable .u32 = readValue buf 0 p.vtype ∧ readValue buf iqOffsetOptype .u32 = 1
  else readValue buf iqOffsetEnable .u32 = 1 ∧ (4 < p.manualOffset → readValue buf iqOffsetOptype .u32 = 1)

theorem write_over (vt : IqValueType) : writeValue (writeValue buf 0 .u32 1) 0 vt (readValue buf 0 vt) =
    writeValue buf 0 .u32 (readValue buf 0 vt) := by
  cases vt with
  | bool | u32 => exact write_write32 buf 0 1 _
  | u16 =>
      have hfront : store (store buf 0 ([1, 0] ++ [0, 0])) 0 (bytes16 (word16 (load buf 0 2))) =
          store buf 0 (bytes16 (word16 (load buf 0 2)) ++ [0, 0]) := store_front buf 0 [0, 0] rfl
      rw [readValue, writeValue, writeValue, writeValue, UInt16.toUInt16_toUInt32, bytes32_of16]
      exact hfront
  | u8 =>
      have hfront : store (store buf 0 ([1] ++ [0, 0, 0])) 0 [buf 0] = store buf 0 ([buf 0] ++ [0, 0, 0]) :=
        store_front buf 0 [0, 0, 0] rfl
      rw [readValue, writeValue, writeValue, writeValue, UInt8.toUInt8_toUInt32, bytes32_of8]
      exact hfront

theorem covered_iff (vt : IqValueType) : writeValue (writeValue (writeValue buf iqOffsetEnable .u32 1) iqOffsetOptype
    .u32 1) 0 vt (readValue buf 0 vt) = buf ↔
    readValue buf iqOffsetEnable .u32 = readValue buf 0 vt ∧ readValue buf iqOffsetOptype .u32 = 1 := by
  have hcomm : writeValue (writeValue (writeValue buf iqOffsetEnable .u32 1) iqOffsetOptype .u32 1) 0 vt
      (readValue buf 0 vt) = writeValue (writeValue buf iqOffsetEnable .u32 (readValue buf 0 vt)) iqOffsetOptype .u32 1 := by
    have hover : writeValue (writeValue buf iqOffsetEnable .u32 1) 0 vt (readValue buf 0 vt) =
        writeValue buf iqOffsetEnable .u32 (readValue buf 0 vt) := write_over vt
    rw [← hover]
    cases vt with
    | bool | u32 => exact store_comm (Or.inr (Nat.le_refl 4))
    | u16 => exact store_comm (Or.inr (by decide : (2 : Nat) ≤ 4))
    | u8 => exact store_comm (Or.inr (by decide : (1 : Nat) ≤ 4))
  have hapart : iqOffsetEnable + width .u32 ≤ iqOffsetOptype := Nat.le_refl 4
  rw [hcomm]
  constructor
  · intro h
    have henable := congrArg (readValue · iqOffsetEnable .u32) h
    have hoptype := congrArg (readValue · iqOffsetOptype .u32) h
    rw [read_disjoint _ .u32 .u32 1 (Or.inr hapart), read_write32] at henable
    rw [read_write32] at hoptype
    exact ⟨henable.symm, hoptype.symm⟩
  · rintro ⟨henable, hoptype⟩
    rw [← henable, write_read, ← hoptype]
    exact write_read buf iqOffsetOptype .u32

theorem reimported_eq_iff (hp : WellFormed p) (hrange : InRange p buf) :
    reimported p buf = buf ↔ Restorable p buf := by
  rw [reimported, Restorable]
  split
  · next hbool =>
    have hvalue : readValue buf p.manualOffset p.vtype = readValue buf iqOffsetEnable .u32 := by
      rw [hbool, (hp.flat (Or.inl hbool)).1]
      rfl
    have hle := hrange.value
    rw [hvalue, hp.switch hbool, UInt32.le_iff_toNat_le] at hle
    have hsame : (if (readValue buf iqOffsetEnable .u32 != 0) = true then 1 else 0) =
        readValue buf iqOffsetEnable .u32 := by
      apply UInt32.toNat_inj.1
      split
      · next hset =>
        have hne : (readValue buf iqOffsetEnable .u32).toNat ≠ 0 := fun hz => bne_iff_ne.1 hset (UInt32.toNat_inj.1 hz)
        change (1 : Nat) = _
        change _ ≤ (1 : Nat) at hle
        omega
      · next hclear =>
        rw [Bool.not_eq_true, bne_eq_false_iff_eq] at hclear
        rw [hclear]
    rw [hsame]
    exact iff_of_true (write_read buf iqOffsetEnable .u32) trivial
  · split
    · exact covered_iff p.vtype
    · exact setHeader_eq_iff

end WaybeamVenc.IqBuffers
