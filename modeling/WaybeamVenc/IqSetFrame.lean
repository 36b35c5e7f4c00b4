import WaybeamVenc.IqSet
import WaybeamVenc.IqBuffers

namespace WaybeamVenc.IqSetFrame

open CNumber ByteBuffer IqBuffers IqSet

open IqParams hiding star6eIqSet

/-! The integer a text asks for. -/

/-- The integer a text starts with, at its full size, and 0 where it starts
with none. -/
def exactInt (s : CString) : Int :=
  let (negative, s) := takeSign (skipSpace s)
  match takeDigits 10 none s with
  | (none, _) => 0
  | (some n, _) => if negative then -(n : Int) else n

def clampTo (maxVal : UInt32) (i : Int) : Nat := (max 0 (min i maxVal.toNat)).toNat

theorem atoi_toInt (s : CString) : (atoi s).toInt = max (-2 ^ 31) (min (2 ^ 31 - 1) (exactInt s)) := by
  rw [atoi, strtol, exactInt]
  generalize takeSign (skipSpace s) = signed
  obtain ⟨negative, digits⟩ := signed
  dsimp only
  cases htake : takeDigits 10 none digits with
  | mk number rest =>
    cases number with
    | none => rfl
    | some n =>
      dsimp only [Option.map_some, Option.getD_some]
      cases negative with
      | true =>
        rw [if_pos rfl, if_pos rfl]
        split
        · rw [Int32.toInt_minValue]
          omega
        · rw [Int32.toInt_neg, Int32.toInt_ofNat_of_lt (by omega), Int.bmod_eq_of_le (by omega) (by omega)]
          omega
      | false =>
        rw [if_neg Bool.false_ne_true, if_neg Bool.false_ne_true]
        split
        · rw [Int32.toInt_maxValue]
          omega
        · rw [Int32.toInt_ofNat_of_lt (by omega)]
          omega

theorem word_toInt (x : Int32) :
    (x.toUInt32.toNat : Int) = if x.toInt < 0 then x.toInt + 2 ^ 32 else x.toInt := by
  have hcond := BitVec.toInt_eq_toNat_cond x.toBitVec
  rw [Int32.toNat_toBitVec, Int32.toInt_toBitVec] at hcond
  have hlt := x.toUInt32.toNat_lt
  split at hcond <;> split <;> omega

/-- A negative number is clamped to the maximum, as the large word it is. -/
theorem clampLevel_atoi {maxVal : UInt32} (hmax : maxVal ≤ 65535) (s : CString) :
    (clampLevel maxVal (atoi s).toUInt32).toNat = if exactInt s < 0 then maxVal.toNat else clampTo maxVal (exactInt s) := by
  have hword := word_toInt (atoi s)
  rw [atoi_toInt] at hword
  have hsmall : maxVal.toNat ≤ 65535 := UInt32.le_iff_toNat_le.1 hmax
  rw [clampLevel, clampTo]
  split
  · next hlt =>
    rw [UInt32.lt_iff_toNat_lt] at hlt
    split at hword <;> split <;> omega
  · next hle =>
    rw [UInt32.lt_iff_toNat_lt] at hle
    split at hword <;> split <;> omega

theorem atoi_zero_iff (s : CString) : (atoi s).toUInt32 ≠ 0 ↔ exactInt s ≠ 0 := by
  have hword := word_toInt (atoi s)
  rw [atoi_toInt] at hword
  rw [ne_eq, ← UInt32.toNat_inj, UInt32.toNat_zero]
  split at hword <;> omega

/-! The values a set addresses. -/

/-- The items of a comma-separated list; behind a last comma there is none. -/
def valueItems : CString → List CString
  | [] => []
  | c :: s =>
    if c = ',' then [] :: valueItems s
    else
      match valueItems s with
      | [] => [[c]]
      | item :: items => (c :: item) :: items

structure Slot where
  offset : Nat
  vtype : IqValueType
  maxVal : UInt32
  text : CString

def elementSlots (fd : IqFieldDesc) (base : Nat) : Nat → List CString → List Slot
  | _, [] => []
  | e, item :: items => ⟨base + e * elemSize fd.vtype, fd.vtype, fd.maxVal, item⟩ :: elementSlots fd base (e + 1) items

def fieldSlots (p : IqParamDesc) (fd : IqFieldDesc) (value : CString) : List Slot :=
  let base := p.manualOffset + fd.relOffset
  if fd.count = 1 then [⟨base, fd.vtype, fd.maxVal, value⟩]
  else elementSlots fd base 0 ((valueItems value).take fd.count)

def slots (p : IqParamDesc) (field : Option CString) (value : CString) : List Slot :=
  match field with
  | none => [⟨p.manualOffset, p.vtype, p.maxVal, value⟩]
  | some field =>
    if field = "enabled".toList then []
    else
      match p.fields.find? fun fd => fd.name.toList = field with
      | none => []
      | some fd => fieldSlots p fd value

def Slot.Covers (s : Slot) (i : Nat) : Prop := s.offset ≤ i ∧ i < s.offset + elemSize s.vtype

def Slot.level (s : Slot) : UInt32 := clampLevel s.maxVal (atoi s.text).toUInt32

def writeSlot (buf : Buffer) (s : Slot) : Buffer := writeValue buf s.offset s.vtype s.level

theorem valueItems_cons {p : CString} (hp : p ≠ []) :
    valueItems p = p.takeWhile (· ≠ ',') :: valueItems (p.dropWhile (· ≠ ',')).tail := by
  induction p with
  | nil => exact absurd rfl hp
  | cons c s ih =>
    rw [valueItems]
    by_cases hc : c = ','
    · simp only [hc, if_true, ne_eq, not_true_eq_false, decide_false, List.takeWhile_cons, List.dropWhile_cons,
        Bool.false_eq_true, if_false, List.tail_cons]
    · simp only [hc, if_false, ne_eq, not_false_eq_true, decide_true, List.takeWhile_cons, List.dropWhile_cons, if_true]
      cases s with
      | nil => rfl
      | cons d s =>
        have hitems := ih (List.cons_ne_nil d s)
        rw [hitems]

/-! A number ends where its item does. -/

theorem atoi_item (p : CString) : atoi (p.takeWhile (· ≠ ',')) = atoi p := by
  by_cases hcomma : ',' ∈ p
  · obtain ⟨front, rest, rfl, hfront⟩ := List.eq_append_cons_of_mem hcomma
    rw [takeWhile_found hfront]
    by_cases hblank : skipSpace front = []
    · have hrest : skipSpace (front ++ ',' :: rest) = ',' :: rest := skipSpace_blank hblank _
      rw [atoi_blank hblank, atoi, strtol, hrest]
      rfl
    · exact (atoi_stop rfl hblank rest).symm
  · rw [takeWhile_missing hcomma]

theorem setElements_slots (fd : IqFieldDesc) (base n e : Nat) (p : CString) (buf : Buffer) :
    setElements fd base n e p buf = (elementSlots fd base e ((valueItems p).take n)).foldl writeSlot buf := by
  induction n generalizing e p buf with
  | zero => rfl
  | succ n ih =>
    rw [setElements]
    split
    · next hnil =>
      subst hnil
      rfl
    · next hne =>
      rw [ih, valueItems_cons hne, List.take_succ_cons, elementSlots, List.foldl_cons]
      rw [writeSlot, Slot.level, atoi_item]

theorem setField_slots (p : IqParamDesc) (fd : IqFieldDesc) (value : CString) (buf : Buffer) :
    setField p fd value buf = (fieldSlots p fd value).foldl writeSlot (setHeader p buf) := by
  rw [setField, fieldSlots]
  split
  · rfl
  · exact setElements_slots fd _ _ _ _ _

/-! Writes into slots. -/

def limit : IqValueType → Nat
  | .u8 => 255
  | .u16 => 65535
  | .bool | .u32 => 4294967295

structure Sized (vt : IqValueType) (maxVal : UInt32) : Prop where
  pos : maxVal ≠ 0
  small : maxVal ≤ 65535
  fits : maxVal.toNat ≤ limit vt

theorem elemSize_width (vt : IqValueType) : elemSize vt = width vt := by cases vt <;> rfl

theorem writeValue_off {buf : Buffer} {offset i : Nat} {vt : IqValueType} {val : UInt32}
    (h : ¬(offset ≤ i ∧ i < offset + elemSize vt)) : writeValue buf offset vt val i = buf i := by
  cases vt <;> exact store_off (by simp only [elemSize] at h; simp only [bytes32, bytes16, List.length_cons, List.length_nil]; omega)

theorem read_write {buf : Buffer} {offset : Nat} {vt : IqValueType} {val : UInt32} (hfits : val.toNat ≤ limit vt) :
    readValue (writeValue buf offset vt val) offset vt = val := by
  cases vt with
  | bool | u32 => exact read_write32 buf offset val
  | u16 =>
    have hload : load (store buf offset (bytes16 val.toUInt16)) offset 2 = bytes16 val.toUInt16 := load_store
    rw [readValue, writeValue, hload, word16_bytes16]
    apply UInt32.toNat_inj.1
    rw [UInt16.toNat_toUInt32, UInt32.toNat_toUInt16]
    exact Nat.mod_eq_of_lt (Nat.lt_succ_of_le hfits)
  | u8 =>
    have hload : store buf offset [val.toUInt8] (offset + 0) = [val.toUInt8].getD 0 0 := store_at (Nat.succ_pos 0)
    rw [readValue, writeValue]
    rw [Nat.add_zero] at hload
    rw [hload]
    apply UInt32.toNat_inj.1
    rw [List.getD_cons_zero, UInt8.toNat_toUInt32, UInt32.toNat_toUInt8]
    exact Nat.mod_eq_of_lt (Nat.lt_succ_of_le hfits)

theorem level_fits {s : Slot} (hs : Sized s.vtype s.maxVal) : s.level.toNat ≤ limit s.vtype := by
  have hle : s.level.toNat ≤ s.maxVal.toNat := by
    rw [Slot.level, clampLevel]
    split
    · exact Nat.le_refl _
    · next h => exact UInt32.le_iff_toNat_le.1 (UInt32.not_lt.1 h)
  exact Nat.le_trans hle hs.fits

def Apart (s t : Slot) : Prop :=
  s.offset + elemSize s.vtype ≤ t.offset ∨ t.offset + elemSize t.vtype ≤ s.offset

theorem writeSlots_off {ss : List Slot} {buf : Buffer} {i : Nat} (h : ∀ s ∈ ss, ¬s.Covers i) :
    ss.foldl writeSlot buf i = buf i := by
  induction ss generalizing buf with
  | nil => rfl
  | cons s ss ih =>
    rw [List.foldl_cons, ih fun t ht => h t (List.mem_cons_of_mem s ht)]
    exact writeValue_off (h s List.mem_cons_self)

theorem writeSlots_apart {ss : List Slot} {buf : Buffer} {s : Slot} (h : ∀ t ∈ ss, Apart t s) :
    readValue (ss.foldl writeSlot buf) s.offset s.vtype = readValue buf s.offset s.vtype := by
  induction ss generalizing buf with
  | nil => rfl
  | cons t ss ih =>
    rw [List.foldl_cons, ih fun u hu => h u (List.mem_cons_of_mem t hu)]
    have hapart := h t List.mem_cons_self
    rw [Apart, elemSize_width, elemSize_width] at hapart
    exact read_disjoint buf t.vtype s.vtype _ hapart

theorem writeSlots_read {ss : List Slot} {buf : Buffer} (hapart : ss.Pairwise fun s t => Apart t s)
    (hsized : ∀ s ∈ ss, Sized s.vtype s.maxVal) :
    ∀ s ∈ ss, readValue (ss.foldl writeSlot buf) s.offset s.vtype = s.level := by
  induction ss generalizing buf with
  | nil => exact fun s hs => absurd hs List.not_mem_nil
  | cons t ss ih =>
    obtain ⟨hfirst, hrest⟩ := List.pairwise_cons.1 hapart
    intro s hs
    rw [List.foldl_cons]
    rcases List.mem_cons.1 hs with rfl | hs
    · rw [writeSlots_apart hfirst]
      exact read_write (level_fits (hsized s List.mem_cons_self))
    · exact ih hrest (fun u hu => hsized u (List.mem_cons_of_mem t hu)) s hs

theorem elementSlots_mem {fd : IqFieldDesc} {base e : Nat} {items : List CString} {s : Slot}
    (hs : s ∈ elementSlots fd base e items) :
    ∃ k, e ≤ k ∧ s.offset = base + k * elemSize fd.vtype ∧ s.vtype = fd.vtype ∧ s.maxVal = fd.maxVal := by
  induction items generalizing e with
  | nil => exact absurd hs List.not_mem_nil
  | cons item items ih =>
    rcases List.mem_cons.1 hs with rfl | hs
    · exact ⟨e, Nat.le_refl e, rfl, rfl, rfl⟩
    · obtain ⟨k, hk, hrest⟩ := ih hs
      exact ⟨k, Nat.le_of_succ_le hk, hrest⟩

theorem elementSlots_apart (fd : IqFieldDesc) (base e : Nat) (items : List CString) :
    (elementSlots fd base e items).Pairwise fun s t => Apart t s := by
  induction items generalizing e with
  | nil => exact List.Pairwise.nil
  | cons item items ih =>
    refine List.pairwise_cons.2 ⟨?_, ih (e + 1)⟩
    intro t ht
    obtain ⟨k, hk, hoffset, -, -⟩ := elementSlots_mem ht
    right
    rw [hoffset, Nat.add_assoc, ← Nat.succ_mul]
    exact Nat.add_le_add_left (Nat.mul_le_mul_right _ hk) base

/-- What the frame rests on in an entry of a table. -/
structure Described (p : IqParamDesc) : Prop where
  value : Sized p.vtype p.maxVal
  switch : p.vtype = .bool → p.maxVal = 1
  flat : p.vtype = .bool ∨ p.manualOffset = 0 → p.manualOffset = 0 ∧ p.fields = []
  offset : p.manualOffset = 0 ∨ p.manualOffset = 4 ∨ 8 ≤ p.manualOffset
  fields : ∀ fd ∈ p.fields, fd.name.toList ≠ "enabled".toList ∧ Sized fd.vtype fd.maxVal

theorem tables_described : ∀ p ∈ gParams ++ marukoGParams, Described p := by
  have hflat : ∀ p ∈ gParams ++ marukoGParams, (p.vtype = .bool → p.maxVal = 1) ∧
      (p.vtype = .bool ∨ p.manualOffset = 0 → p.manualOffset = 0 ∧ p.fields = []) ∧
      (p.manualOffset = 0 ∨ p.manualOffset = 4 ∨ 8 ≤ p.manualOffset) := by decide +kernel
  have hvalue : ∀ p ∈ gParams ++ marukoGParams,
      p.maxVal ≠ 0 ∧ p.maxVal ≤ 65535 ∧ p.maxVal.toNat ≤ limit p.vtype := by decide +kernel
  have hfields : ∀ p ∈ gParams ++ marukoGParams, ∀ fd ∈ p.fields, fd.name.toList ≠ "enabled".toList ∧
      fd.maxVal ≠ 0 ∧ fd.maxVal ≤ 65535 ∧ fd.maxVal.toNat ≤ limit fd.vtype := by decide +kernel
  intro p hp
  obtain ⟨hswitch, hnone, hoffset⟩ := hflat p hp
  obtain ⟨hpos, hsmall, hfits⟩ := hvalue p hp
  refine ⟨⟨hpos, hsmall, hfits⟩, hswitch, hnone, hoffset, ?_⟩
  intro fd hfd
  obtain ⟨hname, hpos, hsmall, hfits⟩ := hfields p hp fd hfd
  exact ⟨hname, hpos, hsmall, hfits⟩

section

variable {p : IqParamDesc} {field : Option CString} {value : CString} {before : Buffer}

theorem fieldSlots_apart (fd : IqFieldDesc) : (fieldSlots p fd value).Pairwise fun s t => Apart t s := by
  rw [fieldSlots]
  split
  · exact List.pairwise_singleton _ _
  · exact elementSlots_apart _ _ _ _

theorem fieldSlots_sized {fd : IqFieldDesc} (hfd : Sized fd.vtype fd.maxVal) :
    ∀ s ∈ fieldSlots p fd value, Sized s.vtype s.maxVal := by
  intro s hs
  rw [fieldSlots] at hs
  split at hs
  · obtain rfl := List.mem_singleton.1 hs
    exact hfd
  · obtain ⟨-, -, -, hvtype, hmax⟩ := elementSlots_mem hs
    rw [hvtype, hmax]
    exact hfd

theorem slots_apart : (slots p field value).Pairwise fun s t => Apart t s := by
  rw [slots.eq_def]
  split
  · exact List.pairwise_singleton _ _
  · split
    · exact List.Pairwise.nil
    · split
      · exact List.Pairwise.nil
      · exact fieldSlots_apart _

theorem slots_sized (hp : Described p) : ∀ s ∈ slots p field value, Sized s.vtype s.maxVal := by
  rw [slots.eq_def]
  split
  · intro s hs
    obtain rfl := List.mem_singleton.1 hs
    exact hp.value
  · split
    · exact fun s hs => absurd hs List.not_mem_nil
    · split
      · exact fun s hs => absurd hs List.not_mem_nil
      · next fd hfd => exact fieldSlots_sized (hp.fields fd (List.mem_of_find?_eq_some hfd)).2

/-! The frame. -/

def HasEnable (p : IqParamDesc) : Prop := p.vtype = .bool ∨ 4 ≤ p.manualOffset

/-- A value that lies where other layouts have the switch. -/
def Raw (p : IqParamDesc) : Prop := p.vtype ≠ .bool ∧ p.manualOffset = 0

def InHeader (p : IqParamDesc) (i : Nat) : Prop := HasEnable p ∧ i < 4 ∨ 4 < p.manualOffset ∧ 4 ≤ i ∧ i < 8

/-- A set changes the switch, the mode and the values it names, each value to
the integer asked for, clamped. -/
structure Touches (p : IqParamDesc) (field : Option CString) (value : CString) (before after : Buffer) : Prop where
  frame : ∀ i, after i ≠ before i → InHeader p i ∨ ∃ s ∈ slots p field value, s.Covers i
  values : ∀ s ∈ slots p field value, readValue after s.offset s.vtype = readValue before s.offset s.vtype ∨
    (readValue after s.offset s.vtype).toNat = clampTo s.maxVal (exactInt s.text)

/-- A value that is asked to be 0 or more, or that is at its maximum. -/
def Asked (before : Buffer) (s : Slot) : Prop := 0 ≤ exactInt s.text ∨ readValue before s.offset s.vtype = s.maxVal

theorem level_iff {s : Slot} (hs : Sized s.vtype s.maxVal) : Asked before s ↔
    s.level = readValue before s.offset s.vtype ∨ s.level.toNat = clampTo s.maxVal (exactInt s.text) := by
  have hlevel := clampLevel_atoi hs.small s.text
  rw [← Slot.level] at hlevel
  by_cases hneg : exactInt s.text < 0
  · rw [if_pos hneg, UInt32.toNat_inj] at hlevel
    have hzero : clampTo s.maxVal (exactInt s.text) = 0 := by
      rw [clampTo]
      omega
    have hpos : s.level.toNat ≠ 0 := by
      rw [hlevel]
      exact fun h => hs.pos (UInt32.toNat_inj.1 h)
    rw [hzero, or_iff_left hpos, Asked, or_iff_right (Int.not_le.2 hneg), hlevel, eq_comm]
  · rw [if_neg hneg] at hlevel
    exact iff_of_true (Or.inl (Int.not_lt.1 hneg)) (Or.inr hlevel)

theorem values_iff (hp : Described p) (header : Buffer) :
    (∀ s ∈ slots p field value,
      readValue ((slots p field value).foldl writeSlot header) s.offset s.vtype = readValue before s.offset s.vtype ∨
        (readValue ((slots p field value).foldl writeSlot header) s.offset s.vtype).toNat =
          clampTo s.maxVal (exactInt s.text)) ↔
      ∀ s ∈ slots p field value, Asked before s := by
  have hread := @writeSlots_read (slots p field value) header slots_apart (slots_sized hp)
  refine forall_congr' fun s => forall_congr' fun hs => ?_
  rw [hread s hs]
  exact (level_iff (slots_sized hp s hs)).symm

/-- Once what is written in front stays in the header, only the values count. -/
theorem touches_iff (hp : Described p) {header : Buffer} (hheader : ∀ i, header i ≠ before i → InHeader p i) :
    Touches p field value before ((slots p field value).foldl writeSlot header) ↔
      ∀ s ∈ slots p field value, Asked before s := by
  constructor
  · exact fun h => (values_iff hp header).1 h.values
  · intro h
    refine ⟨?_, ?_⟩
    · intro i hi
      by_cases hcovered : ∃ s ∈ slots p field value, s.Covers i
      · exact Or.inr hcovered
      · rw [writeSlots_off fun s hs hc => hcovered ⟨s, hs, hc⟩] at hi
        exact Or.inl (hheader i hi)
    · exact (values_iff hp header).2 h

/-! The header. -/

theorem writeValue_within {offset i : Nat} {vt : IqValueType} {val : UInt32}
    (h : writeValue before offset vt val i ≠ before i) : offset ≤ i ∧ i < offset + elemSize vt := by
  by_contra hout
  exact h (writeValue_off hout)

theorem not_inHeader_of_raw (hraw : Raw p) (i : Nat) : ¬InHeader p i := by
  have hzero := hraw.2
  rintro (⟨hbool | hoffset, -⟩ | ⟨hmanual, -, -⟩)
  · exact hraw.1 hbool
  · omega
  · omega

theorem hasEnable_of_not_raw (hp : Described p) (hraw : ¬Raw p) : HasEnable p := by
  by_cases hbool : p.vtype = .bool
  · exact Or.inl hbool
  · have hoffset : p.manualOffset ≠ 0 := fun hzero => hraw ⟨hbool, hzero⟩
    have hplace := hp.offset
    right
    omega

theorem enable_within (henable : HasEnable p) (val : UInt32) :
    ∀ i, writeValue before iqOffsetEnable .u32 val i ≠ before i → InHeader p i := by
  intro i hi
  exact Or.inl ⟨henable, Nat.lt_of_lt_of_le (writeValue_within hi).2 (Nat.le_refl 4)⟩

theorem setHeader_within (hoffset : 4 ≤ p.manualOffset) : ∀ i, setHeader p before i ≠ before i → InHeader p i := by
  intro i hi
  by_cases hfirst : writeValue before iqOffsetEnable .u32 1 i = before i
  · rw [setHeader] at hi
    split at hi
    · next hmanual =>
      rw [← hfirst] at hi
      exact Or.inr ⟨hmanual, writeValue_within hi⟩
    · exact absurd hfirst hi
  · exact enable_within (Or.inr hoffset) 1 i hfirst

/-- The header that is written over a value at offset 0. -/
def rawHeader (before : Buffer) : Buffer :=
  writeValue (writeValue before iqOffsetEnable .u32 1) iqOffsetOptype .u32 1

/-- Behind the value the header reads 0 up to the mode and 1 there. -/
def UnderHeader (p : IqParamDesc) (before : Buffer) : Prop :=
  (∀ i, elemSize p.vtype ≤ i → i < 4 → before i = 0) ∧ readValue before iqOffsetOptype .u32 = 1

theorem rawHeader_low {i : Nat} (hlow : 1 ≤ i) (hhigh : i < 4) : rawHeader before i = 0 := by
  have hskip : rawHeader before i = writeValue before iqOffsetEnable .u32 1 i :=
    writeValue_off fun h => absurd h.1 (Nat.not_le.2 hhigh)
  have hstore : store before iqOffsetEnable (bytes32 1) (iqOffsetEnable + i) = (bytes32 1).getD i 0 := store_at hhigh
  rw [iqOffsetEnable, Nat.zero_add] at hstore
  rw [hskip, writeValue, iqOffsetEnable, hstore]
  obtain rfl | rfl | rfl : i = 1 ∨ i = 2 ∨ i = 3 := by omega
  all_goals rfl

theorem rawHeader_high {i : Nat} (hi : 8 ≤ i) : rawHeader before i = before i := by
  have hmode : rawHeader before i = writeValue before iqOffsetEnable .u32 1 i :=
    writeValue_off fun h => absurd h.2 (Nat.not_lt.2 hi)
  rw [hmode]
  exact writeValue_off fun h => absurd h.2 (Nat.not_lt.2 (by simp only [iqOffsetEnable, elemSize]; omega))

theorem elemSize_le (vt : IqValueType) : 1 ≤ elemSize vt ∧ elemSize vt ≤ 4 := by cases vt <;> decide

theorem readValue_congr {buf buf' : Buffer} {offset : Nat} {vt : IqValueType}
    (h : ∀ i, offset ≤ i → i < offset + elemSize vt → buf i = buf' i) :
    readValue buf offset vt = readValue buf' offset vt := by
  have hload : load buf offset (elemSize vt) = load buf' offset (elemSize vt) := by
    apply List.map_congr_left
    intro k hk
    exact h (offset + k) (Nat.le_add_right _ _) (Nat.add_lt_add_left (List.mem_range.1 hk) offset)
  cases vt with
  | bool | u32 => exact congrArg word32 hload
  | u16 => exact congrArg (fun bytes => (word16 bytes).toUInt32) hload
  | u8 => exact congrArg UInt8.toUInt32 (List.cons.inj hload).1

theorem rawHeader_iff : (∀ i, elemSize p.vtype ≤ i → rawHeader before i = before i) ↔ UnderHeader p before := by
  have hsize := elemSize_le p.vtype
  have hmode : readValue (rawHeader before) iqOffsetOptype .u32 = 1 := read_write32 _ iqOffsetOptype 1
  constructor
  · intro h
    refine ⟨?_, ?_⟩
    · intro i hlow hhigh
      rw [← h i hlow, rawHeader_low (Nat.le_trans hsize.1 hlow) hhigh]
    · rw [← hmode]
      refine readValue_congr fun i hi _ => (h i ?_).symm
      exact Nat.le_trans hsize.2 hi
  · rintro ⟨hzero, hone⟩ i hi
    by_cases hlow : i < 4
    · rw [rawHeader_low (Nat.le_trans hsize.1 hi) hlow, hzero i hi hlow]
    · by_cases hhigh : i < 8
      · have hsame : writeValue (writeValue before iqOffsetEnable .u32 1) iqOffsetOptype .u32 1 i =
            writeValue (writeValue before iqOffsetOptype .u32 1) iqOffsetEnable .u32 1 i :=
          congrFun (store_comm (Or.inl (Nat.le_refl 4))) i
        have hkept : writeValue before iqOffsetOptype .u32 1 = before := by
          rw [← hone]
          exact write_read before iqOffsetOptype .u32
        rw [rawHeader, hsame, hkept]
        exact writeValue_off fun h => hlow h.2
      · exact rawHeader_high (Nat.not_lt.1 hhigh)

/-! One parameter. -/

def FieldExists (p : IqParamDesc) (field : CString) : Prop :=
  field = "enabled".toList ∨ ∃ fd ∈ p.fields, fd.name.toList = field

/-- The buffer a set hands over is changed as named, and only for a field that
exists. -/
def EditKept (edit : IqParamDesc → Option CString → CString → Buffer → Option Buffer) (p : IqParamDesc)
    (field : Option CString) (value : CString) (before : Buffer) : Prop :=
  ∀ after, edit p field value before = some after →
    Touches p field value before after ∧ ∀ f, field = some f → FieldExists p f

theorem editKept_some {edit : IqParamDesc → Option CString → CString → Buffer → Option Buffer} {after : Buffer}
    (hedit : edit p field value before = some after) (hnamed : ∀ f, field = some f → FieldExists p f) :
    EditKept edit p field value before ↔ Touches p field value before after := by
  constructor
  · exact fun h => (h after hedit).1
  · intro h after' hafter'
    obtain rfl := Option.some.inj (hedit.symm.trans hafter')
    exact ⟨h, hnamed⟩

def switchWord (value : CString) : UInt32 := if exactInt value = 0 then 0 else 1

theorem switchWord_eq (value : CString) : (if (atoi value).toUInt32 ≠ 0 then (1 : UInt32) else 0) = switchWord value := by
  have hzero := atoi_zero_iff value
  rw [switchWord]
  by_cases h : exactInt value = 0
  · rw [if_pos h, if_neg fun hne => hzero.1 hne h]
  · rw [if_neg h, if_pos (hzero.2 h)]

theorem slots_enabled : slots p (some "enabled".toList) value = [] := by
  rw [slots]
  exact if_pos rfl

/-- The virtual field is the switch, which a raw value does not have. -/
theorem touches_enabled (hp : Described p) :
    Touches p (some "enabled".toList) value before (writeValue before iqOffsetEnable .u32 (switchWord value)) ↔
      (Raw p → readValue before iqOffsetEnable .u32 = switchWord value) := by
  constructor
  · intro h hraw
    have hsame : ∀ i, writeValue before iqOffsetEnable .u32 (switchWord value) i = before i := by
      intro i
      by_contra hne
      rcases h.frame i hne with hheader | ⟨s, hs, -⟩
      · exact not_inHeader_of_raw hraw i hheader
      · rw [slots_enabled] at hs
        exact List.not_mem_nil hs
    rw [← funext hsame]
    exact read_write32 before iqOffsetEnable _
  · intro h
    refine ⟨?_, fun s hs => absurd (slots_enabled ▸ hs) List.not_mem_nil⟩
    intro i hi
    by_cases hraw : Raw p
    · have hkept : writeValue before iqOffsetEnable .u32 (switchWord value) = before := by
        rw [← h hraw]
        exact write_read before iqOffsetEnable .u32
      exact absurd (congrFun hkept i) hi
    · exact Or.inl (enable_within (hasEnable_of_not_raw hp hraw) _ i hi)

theorem setLegacy_slots (hp : Described p) (hraw : ¬Raw p) : ∃ header : Buffer,
    (∀ i, header i ≠ before i → InHeader p i) ∧
      setLegacy p value before = (slots p none value).foldl writeSlot header := by
  rw [setLegacy]
  by_cases hbool : p.vtype = .bool
  · have hlevel := clampLevel_atoi hp.value.small value
    rw [hp.switch hbool] at hlevel
    have hword : (if clampLevel p.maxVal (atoi value).toUInt32 ≠ 0 then (1 : UInt32) else 0) =
        clampLevel p.maxVal (atoi value).toUInt32 := by
      have hle : (clampLevel p.maxVal (atoi value).toUInt32).toNat ≤ 1 := by
        rw [hp.switch hbool, hlevel, clampTo]
        have hone : (1 : UInt32).toNat = 1 := rfl
        split <;> omega
      apply UInt32.toNat_inj.1
      split
      · next hne =>
        have hpos : (clampLevel p.maxVal (atoi value).toUInt32).toNat ≠ 0 := fun hz => hne (UInt32.toNat_inj.1 hz)
        change 1 = _
        omega
      · next hzero => rw [Decidable.not_not.1 hzero]
    refine ⟨before, fun i hi => absurd rfl hi, ?_⟩
    rw [if_pos hbool, hword]
    change _ = writeValue before p.manualOffset p.vtype (clampLevel p.maxVal (atoi value).toUInt32)
    rw [hbool, (hp.flat (Or.inl hbool)).1]
    rfl
  · have hoffset : 4 ≤ p.manualOffset := (hasEnable_of_not_raw hp hraw).resolve_left hbool
    refine ⟨setHeader p before, setHeader_within hoffset, ?_⟩
    rw [if_neg hbool, setHeader]
    split
    · next hfour =>
      rw [if_neg (by omega)]
      rfl
    · next hfour =>
      rw [if_pos (by omega)]
      rfl

theorem setLegacy_raw (hraw : Raw p) :
    setLegacy p value before = (slots p none value).foldl writeSlot (rawHeader before) := by
  have hfour : p.manualOffset ≠ 4 := by
    rw [hraw.2]
    exact Nat.zero_ne_add_one 3
  rw [setLegacy, if_neg hraw.1, if_neg hfour]
  rfl

/-- A value at offset 0 is set under a header that is not its own. -/
theorem touches_raw (hp : Described p) (hraw : Raw p) :
    Touches p none value before ((slots p none value).foldl writeSlot (rawHeader before)) ↔
      UnderHeader p before ∧ ∀ s ∈ slots p none value, Asked before s := by
  have hmem : ∀ s ∈ slots p none value, s = ⟨p.manualOffset, p.vtype, p.maxVal, value⟩ :=
    fun s hs => List.mem_singleton.1 hs
  have hcovers : ∀ s ∈ slots p none value, ∀ i, s.Covers i ↔ i < elemSize p.vtype := by
    intro s hs i
    rw [hmem s hs, Slot.Covers, hraw.2, Nat.zero_add]
    exact and_iff_right (Nat.zero_le i)
  have hbehind : ∀ i, elemSize p.vtype ≤ i →
      (slots p none value).foldl writeSlot (rawHeader before) i = rawHeader before i := by
    intro i hi
    exact writeSlots_off fun s hs hc => absurd ((hcovers s hs i).1 hc) (Nat.not_lt.2 hi)
  rw [← rawHeader_iff]
  constructor
  · intro h
    refine ⟨?_, ?_⟩
    · intro i hi
      by_contra hne
      rw [← hbehind i hi] at hne
      rcases h.frame i hne with hheader | ⟨s, hs, hc⟩
      · exact not_inHeader_of_raw hraw i hheader
      · exact absurd ((hcovers s hs i).1 hc) (Nat.not_lt.2 hi)
    · exact (values_iff hp (rawHeader before)).1 h.values
  · rintro ⟨hunder, hasked⟩
    refine ⟨?_, ?_⟩
    · intro i hi
      right
      refine ⟨_, List.mem_singleton_self _, (hcovers _ (List.mem_singleton_self _) i).2 ?_⟩
      by_contra hout
      have hle := Nat.not_lt.1 hout
      exact hi ((hbehind i hle).trans (hunder i hle))
    · exact (values_iff hp (rawHeader before)).2 hasked

/-! When a set keeps to what it names. -/

structure Star6eFits (p : IqParamDesc) (field : Option CString) (value : CString) (before : Buffer) : Prop where
  named : ∀ f, field = some f → FieldExists p f ∨ p.fields ≠ []
  switch : Raw p → field = some "enabled".toList → readValue before iqOffsetEnable .u32 = switchWord value
  header : Raw p → field = none → UnderHeader p before
  asked : ∀ s ∈ slots p field value, Asked before s

structure MarukoFits (p : IqParamDesc) (field : Option CString) (value : CString) (before : Buffer) : Prop where
  named : ∀ f, field = some f → FieldExists p f ∨ p.fields ≠ []
  switch : Raw p → field = some "enabled".toList → readValue before iqOffsetEnable .u32 = switchWord value
  asked : ¬(Raw p ∧ field = none) → ∀ s ∈ slots p field value, Asked before s

theorem exists_of_find {f : CString} {fd : IqFieldDesc} (hfd : p.fields.find? (fun d => d.name.toList = f) = some fd) :
    FieldExists p f := by
  have hname := List.find?_some hfd
  exact Or.inr ⟨fd, List.mem_of_find?_eq_some hfd, of_decide_eq_true hname⟩

theorem not_exists_of_find {f : CString} (hne : f ≠ "enabled".toList)
    (hfd : p.fields.find? (fun d => d.name.toList = f) = none) : ¬FieldExists p f := by
  rintro (heq | ⟨fd, hmem, hname⟩)
  · exact hne heq
  · exact absurd (decide_eq_true hname) (List.find?_eq_none.1 hfd fd hmem)

theorem slots_found {f : CString} {fd : IqFieldDesc} (hne : f ≠ "enabled".toList)
    (hfd : p.fields.find? (fun d => d.name.toList = f) = some fd) : slots p (some f) value = fieldSlots p fd value := by
  rw [slots, if_neg hne, hfd]

theorem slots_missing {f : CString} (hne : f ≠ "enabled".toList)
    (hfd : p.fields.find? (fun d => d.name.toList = f) = none) : slots p (some f) value = [] := by
  rw [slots, if_neg hne, hfd]

theorem named_none : ∀ f, none = some f → FieldExists p f ∨ p.fields ≠ [] :=
  fun f hf => absurd hf.symm (Option.some_ne_none f)

theorem named_enabled : ∀ f, some "enabled".toList = some f → FieldExists p f ∨ p.fields ≠ [] :=
  fun _ hf => Or.inl (Or.inl (Option.some.inj hf).symm)

theorem switch_none :
    Raw p → none = some "enabled".toList → readValue before iqOffsetEnable .u32 = switchWord value :=
  fun _ hf => absurd hf.symm (Option.some_ne_none _)

theorem asked_of_nil (hslots : slots p field value = []) : ∀ s ∈ slots p field value, Asked before s :=
  fun _ hs => absurd (hslots ▸ hs) List.not_mem_nil

section

variable {edit : IqParamDesc → Option CString → CString → Buffer → Option Buffer}

theorem enabled_kept (hp : Described p) (hedit : edit p (some "enabled".toList) value before =
    some (writeValue before iqOffsetEnable .u32 (if (atoi value).toUInt32 ≠ 0 then 1 else 0))) :
    EditKept edit p (some "enabled".toList) value before ↔
      (Raw p → readValue before iqOffsetEnable .u32 = switchWord value) := by
  rw [switchWord_eq] at hedit
  rw [editKept_some hedit (fun f hf => Or.inl (Option.some.inj hf).symm)]
  exact touches_enabled hp

/-- A field of the table; one that is not there reaches the library where the
parameter has no fields at all. -/
theorem field_kept (hp : Described p) {f : CString} {legacy : Buffer} (hne : f ≠ "enabled".toList)
    (hedit : edit p (some f) value before = if p.fields = [] then some legacy
      else (p.fields.find? fun fd => fd.name.toList = f).map fun fd => setField p fd value before) :
    EditKept edit p (some f) value before ↔
      (FieldExists p f ∨ p.fields ≠ []) ∧ ∀ s ∈ slots p (some f) value, Asked before s := by
  cases hfd : p.fields.find? fun fd => fd.name.toList = f with
  | some fd =>
    have hmem := List.mem_of_find?_eq_some hfd
    have hsome : p.fields ≠ [] := List.ne_nil_of_mem hmem
    have hoffset : 4 ≤ p.manualOffset := by
      have hplace := hp.offset
      have hzero : p.manualOffset ≠ 0 := fun hzero => hsome (hp.flat (Or.inr hzero)).2
      omega
    rw [if_neg hsome, hfd, Option.map_some] at hedit
    rw [editKept_some hedit (fun f' hf' => Option.some.inj hf' ▸ exists_of_find hfd), setField_slots,
      ← slots_found hne hfd, and_iff_right (Or.inr hsome)]
    exact touches_iff hp (setHeader_within hoffset)
  | none =>
    rw [hfd, Option.map_none] at hedit
    have hmissing := not_exists_of_find hne hfd
    rw [and_iff_left (asked_of_nil (slots_missing hne hfd)), or_iff_right hmissing]
    constructor
    · intro h hnil
      rw [if_pos hnil] at hedit
      exact hmissing ((h legacy hedit).2 f rfl)
    · intro hsome after hafter
      rw [if_neg hsome] at hedit
      exact absurd (hafter.symm.trans hedit) (Option.some_ne_none after)

end

theorem star6e_kept_iff (hp : Described p) : EditKept setBuffer p field value before ↔ Star6eFits p field value before := by
  cases field with
  | none =>
    rw [editKept_some rfl (fun f hf => absurd hf.symm (Option.some_ne_none f))]
    by_cases hraw : Raw p
    · rw [setLegacy_raw hraw, touches_raw hp hraw]
      exact ⟨fun h => ⟨named_none, switch_none, fun _ _ => h.1, h.2⟩, fun h => ⟨h.header hraw rfl, h.asked⟩⟩
    · obtain ⟨header, hheader, hset⟩ := @setLegacy_slots p value before hp hraw
      rw [hset, touches_iff hp hheader]
      exact ⟨fun h => ⟨named_none, switch_none, fun hr => absurd hr hraw, h⟩, Star6eFits.asked⟩
  | some f =>
    have hheader : Raw p → some f = none → UnderHeader p before := fun _ hf => absurd hf (Option.some_ne_none f)
    by_cases henabled : f = "enabled".toList
    · subst henabled
      have hasked := @asked_of_nil p _ value before slots_enabled
      by_cases hbool : p.vtype = .bool
      · have hedit : setBuffer p (some "enabled".toList) value before = none := by
          rw [setBuffer]
          rw [if_pos rfl, if_pos hbool]
        refine iff_of_true ?_ ⟨named_enabled, fun hraw => absurd hbool hraw.1, hheader, hasked⟩
        exact fun after hafter => absurd (hafter.symm.trans hedit) (Option.some_ne_none after)
      · rw [enabled_kept hp (by rw [setBuffer]; rw [if_pos rfl, if_neg hbool])]
        exact ⟨fun h => ⟨named_enabled, fun hraw _ => h hraw, hheader, hasked⟩, fun h hraw => h.switch hraw rfl⟩
    · rw [field_kept hp henabled (by rw [setBuffer]; exact if_neg henabled)]
      constructor
      · rintro ⟨hnamed, hasked⟩
        exact ⟨fun f' hf' => Option.some.inj hf' ▸ hnamed, fun _ hf => absurd (Option.some.inj hf) henabled, hheader,
          hasked⟩
      · exact fun h => ⟨h.named f rfl, h.asked⟩

theorem marukoSetLegacy_raw (hraw : Raw p) : marukoSetLegacy p value before = before := by
  have hzero : p.manualOffset = 0 := hraw.2
  rw [marukoSetLegacy, if_neg hraw.1, if_neg (by omega), if_neg (by omega)]

theorem marukoSetLegacy_layout (hp : Described p) (hraw : ¬Raw p) : marukoSetLegacy p value before = setLegacy p value before := by
  rw [marukoSetLegacy, setLegacy]
  split
  · rfl
  · next hbool =>
    have hoffset : 4 ≤ p.manualOffset := (hasEnable_of_not_raw hp hraw).resolve_left hbool
    split
    · rfl
    · rw [if_pos (by omega)]

theorem maruko_kept_iff (hp : Described p) :
    EditKept marukoSetBuffer p field value before ↔ MarukoFits p field value before := by
  cases field with
  | none =>
    rw [editKept_some rfl (fun f hf => absurd hf.symm (Option.some_ne_none f))]
    by_cases hraw : Raw p
    · rw [marukoSetLegacy_raw hraw]
      refine iff_of_true ⟨fun i hi => absurd rfl hi, fun _ _ => Or.inl rfl⟩ ⟨named_none, switch_none, ?_⟩
      exact fun hnot => absurd ⟨hraw, rfl⟩ hnot
    · obtain ⟨header, hheader, hset⟩ := @setLegacy_slots p value before hp hraw
      rw [marukoSetLegacy_layout hp hraw, hset, touches_iff hp hheader]
      exact ⟨fun h => ⟨named_none, switch_none, fun _ => h⟩, fun h => h.asked fun hr => hraw hr.1⟩
  | some f =>
    have hfield : ¬(Raw p ∧ some f = none) := fun h => absurd h.2 (Option.some_ne_none f)
    by_cases henabled : f = "enabled".toList
    · subst henabled
      rw [enabled_kept hp (by rw [marukoSetBuffer]; exact if_pos rfl)]
      exact ⟨fun h => ⟨named_enabled, fun hraw _ => h hraw, fun _ => asked_of_nil slots_enabled⟩,
        fun h hraw => h.switch hraw rfl⟩
    · rw [field_kept hp henabled (by rw [marukoSetBuffer]; exact if_neg henabled)]
      constructor
      · rintro ⟨hnamed, hasked⟩
        exact ⟨fun f' hf' => Option.some.inj hf' ▸ hnamed, fun _ hf => absurd (Option.some.inj hf) henabled,
          fun _ => hasked⟩
      · exact fun h => ⟨h.named f rfl, h.asked hfield⟩

end

/-! A whole set. -/

/-- Whatever reaches fn_set is the buffer fn_get made, changed as named, for a
field that exists; and the set returns 0 only after fn_set did. -/
structure SetKept (table : List IqParamDesc) (lib : Library) (param value : CString) (out : Outcome) : Prop where
  frame : ∀ after, out.handed = some after → ∃ p before answer, Target table lib param p before answer ∧
    Touches p (splitParam param).2 value before after ∧ ∀ f, (splitParam param).2 = some f → FieldExists p f
  success : out.rc = 0 → out.handed.isSome ∧ ∃ p before, Target table lib param p before 0

theorem refused_kept {table : List IqParamDesc} {lib : Library} {param value : CString} :
    SetKept table lib param value ⟨none, -1⟩ :=
  ⟨fun after hafter => absurd hafter.symm (Option.some_ne_none after), fun hrc => absurd hrc (by decide)⟩

theorem targeted_kept_iff {table : List IqParamDesc}
    {edit : IqParamDesc → Option CString → CString → Buffer → Option Buffer} {result : Int32 → Int32} {lib : Library}
    {param value : CString} {p : IqParamDesc} {before : Buffer} {answer : Int32}
    (h : Target table lib param p before answer) :
    SetKept table lib param value (iqSet table edit result lib param value) ↔
      EditKept edit p (splitParam param).2 value before ∧
        ((edit p (splitParam param).2 value before).isSome → result answer = 0 → answer = 0) := by
  cases hedit : edit p (splitParam param).2 value before with
  | none =>
    rw [iqSet_target h, hedit, Option.elim_none]
    refine iff_of_true refused_kept ⟨?_, fun hsome => absurd hsome Bool.false_ne_true⟩
    exact fun after hafter => absurd (hafter.symm.trans hedit) (Option.some_ne_none after)
  | some after =>
    rw [iqSet_target h, hedit, Option.elim_some]
    constructor
    · intro hkept
      refine ⟨?_, ?_⟩
      · intro after' hafter'
        obtain ⟨q, buf, answer', htarget, htouches⟩ := hkept.frame after' (hedit.symm.trans hafter')
        obtain ⟨rfl, rfl, rfl⟩ := h.unique htarget
        exact htouches
      · intro _ hresult
        obtain ⟨-, q, buf, htarget⟩ := hkept.success hresult
        exact (h.unique htarget).2.2
    · rintro ⟨hframe, hsuccess⟩
      refine ⟨fun after' hafter' => ⟨p, before, answer, h, hframe after' (hedit.trans hafter')⟩, ?_⟩
      intro hrc
      obtain rfl := hsuccess rfl hrc
      exact ⟨rfl, p, before, h⟩

theorem kept_iff {table : List IqParamDesc}
    {edit : IqParamDesc → Option CString → CString → Buffer → Option Buffer} {result : Int32 → Int32} (lib : Library)
    (param value : CString) : SetKept table lib param value (iqSet table edit result lib param value) ↔
      ∀ p before answer, Target table lib param p before answer →
        EditKept edit p (splitParam param).2 value before ∧
          ((edit p (splitParam param).2 value before).isSome → result answer = 0 → answer = 0) := by
  constructor
  · exact fun h p before answer htarget => (targeted_kept_iff htarget).1 h
  · intro h
    by_cases htarget : ∃ p before answer, Target table lib param p before answer
    · obtain ⟨p, before, answer, htarget⟩ := htarget
      exact (targeted_kept_iff htarget).2 (h p before answer htarget)
    · rw [iqSet_untargeted fun p before answer ht => htarget ⟨p, before, answer, ht⟩]
      exact refused_kept

/-- Whether maruko_iq_set gets as far as fn_set with this field. -/
def Reaches (p : IqParamDesc) (field : Option CString) : Prop := ∀ f, field = some f → FieldExists p f ∨ p.fields = []

theorem marukoSetBuffer_isSome {p : IqParamDesc} {field : Option CString} {value : CString} {before : Buffer} :
    (marukoSetBuffer p field value before).isSome ↔ Reaches p field := by
  cases field with
  | none => exact iff_of_true rfl fun f hf => absurd hf.symm (Option.some_ne_none f)
  | some f =>
    have hreaches : Reaches p (some f) ↔ FieldExists p f ∨ p.fields = [] :=
      ⟨fun h => h f rfl, fun h f' hf' => Option.some.inj hf' ▸ h⟩
    rw [hreaches, marukoSetBuffer]
    by_cases henabled : f = "enabled".toList
    · rw [if_pos henabled]
      exact iff_of_true rfl (Or.inl (Or.inl henabled))
    · rw [if_neg henabled]
      by_cases hnil : p.fields = []
      · rw [if_pos hnil]
        exact iff_of_true rfl (Or.inr hnil)
      · rw [if_neg hnil, or_iff_left hnil, Option.isSome_map]
        cases hfd : p.fields.find? fun fd => fd.name.toList = f with
        | some fd => exact iff_of_true rfl (exists_of_find hfd)
        | none => exact iff_of_false Bool.false_ne_true (not_exists_of_find henabled hfd)

/-- Exactly when a set touches what it names and reports what fn_set said. -/
theorem set_kept_iff (lib : Library) (param value : CString) :
    (SetKept gParams lib param value (star6eIqSet lib param value) ↔
      ∀ p before answer, Target gParams lib param p before answer →
        Star6eFits p (splitParam param).2 value before) ∧
    (SetKept marukoGParams lib param value (marukoIqSet lib param value) ↔
      ∀ p before answer, Target marukoGParams lib param p before answer →
        MarukoFits p (splitParam param).2 value before ∧ (Reaches p (splitParam param).2 → answer = 0)) := by
  constructor
  · rw [star6eIqSet, kept_iff]
    refine forall_congr' fun p => forall_congr' fun before => forall_congr' fun answer => forall_congr' fun htarget => ?_
    rw [star6e_kept_iff (tables_described p (List.mem_append_left _ htarget.mem))]
    refine and_iff_left fun _ hresult => ?_
    by_contra hne
    rw [if_pos hne] at hresult
    exact absurd hresult (by decide)
  · rw [marukoIqSet, kept_iff]
    refine forall_congr' fun p => forall_congr' fun before => forall_congr' fun answer => forall_congr' fun htarget => ?_
    rw [maruko_kept_iff (tables_described p (List.mem_append_right _ htarget.mem)), marukoSetBuffer_isSome]
    exact and_congr_right' (imp_congr_right fun _ => forall_prop_of_true rfl)

/-! The exposure mode set on one board, and a contrast the library refuses on
the other. -/

def aeMode : IqParamDesc := ⟨"ae_mode", .u32, 0, 4, []⟩

def contrast : IqParamDesc := ⟨"contrast", .u32, 72, 100, []⟩

def cleared (answer : Int32) : Library :=
  { handle := true
    fnGet := fun _ => some (0, fun _ => 0)
    fnSet := fun _ => some answer }

theorem sets_stray :
    (¬ ∀ (lib : Library) (param value : CString), SetKept gParams lib param value (star6eIqSet lib param value)) ∧
    (¬ ∀ (lib : Library) (param value : CString), SetKept marukoGParams lib param value (marukoIqSet lib param value)) := by
  constructor
  · intro h
    have htarget : Target gParams (cleared 0) "ae_mode".toList aeMode (fun _ => 0) 0 :=
      ⟨rfl, by decide +kernel, rfl, rfl⟩
    have hkept := ((targeted_kept_iff htarget).1 (h (cleared 0) "ae_mode".toList ['1'])).1
    have hfits := (star6e_kept_iff (tables_described _ (List.mem_append_left _ htarget.mem))).1 hkept
    have hsplit : (splitParam "ae_mode".toList).2 = none := by decide
    have hraw : Raw aeMode := ⟨fun hbool => IqValueType.noConfusion hbool, rfl⟩
    exact absurd (hfits.header hraw hsplit).2 (by decide)
  · intro h
    have htarget : Target marukoGParams (cleared (-1)) "contrast".toList contrast (fun _ => 0) (-1) :=
      ⟨rfl, by decide +kernel, rfl, rfl⟩
    have hkept := ((targeted_kept_iff htarget).1 (h (cleared (-1)) "contrast".toList ['5', '0'])).2
    have hsplit : (splitParam "contrast".toList).2 = none := by decide
    rw [hsplit] at hkept
    exact absurd (hkept rfl rfl) (by decide)

end WaybeamVenc.IqSetFrame
