import WaybeamVenc.IqParams

namespace WaybeamVenc.IqSet

open CNumber ByteBuffer IqParams

/-! The table and the set of maruko_iq.c, where they differ. -/

def marukoGParams : List IqParamDesc :=
  [⟨"lightness", .u32, 72, 100, []⟩, ⟨"contrast", .u32, 72, 100, []⟩, ⟨"brightness", .u32, 72, 100, []⟩,
    ⟨"saturation", .u8, 392, 127, []⟩, ⟨"sharpness", .u8, 1192, 255, []⟩, ⟨"nr3d", .u8, 1288, 255, []⟩,
    ⟨"nr_despike", .u8, 552, 15, []⟩, ⟨"nr_luma_adv", .u32, 1304, 1, []⟩, ⟨"nr_chroma_adv", .u8, 488, 255, []⟩,
    ⟨"nr_chroma_pre", .u8, 4, 255, []⟩, ⟨"false_color", .u8, 120, 255, falseColorFields⟩,
    ⟨"crosstalk", .u8, 296, 31, crosstalkFields⟩, ⟨"demosaic", .u8, 4, 63, demosaicFields⟩,
    ⟨"obc", .u16, 136, 65535, obcFields⟩, ⟨"dynamic_dp", .u8, 488, 1, []⟩, ⟨"dp_cluster", .u32, 1080, 1, []⟩,
    ⟨"r2y", .u16, 4, 1023, r2yFields⟩, ⟨"colortrans", .u16, 4, 2047, colortransFields⟩,
    ⟨"colortrans_ex", .u16, 4, 65535, []⟩, ⟨"rgb_matrix", .u16, 444, 8191, []⟩, ⟨"hsv", .u8, 3096, 64, []⟩,
    ⟨"wdr", .u8, 648, 4, []⟩, ⟨"wdr_curve_full", .bool, 0, 1, []⟩, ⟨"wdr_ltm", .bool, 0, 1, []⟩,
    ⟨"wdr_nr", .bool, 0, 1, []⟩, ⟨"pfc", .u8, 376, 255, []⟩, ⟨"pfc_ex", .u32, 4, 1, []⟩, ⟨"hdr", .u32, 904, 1, []⟩,
    ⟨"hdr_ex", .u16, 4, 65535, []⟩, ⟨"shp_ex", .u32, 4, 1, []⟩, ⟨"nr3d_ex", .u32, 4, 1, []⟩,
    ⟨"rgbir", .u8, 600, 7, []⟩, ⟨"lsc", .u16, 4, 65535, []⟩, ⟨"lsc_ctrl", .u8, 4, 255, []⟩,
    ⟨"alsc", .u8, 4, 255, []⟩, ⟨"alsc_ctrl", .u8, 4, 255, []⟩, ⟨"dark_shading", .bool, 0, 1, []⟩,
    ⟨"obc_p1", .u16, 136, 65535, obcFields⟩, ⟨"rgb_gamma", .bool, 0, 1, []⟩, ⟨"yuv_gamma", .bool, 0, 1, []⟩,
    ⟨"adaptive_gamma", .bool, 0, 1, []⟩, ⟨"defog", .bool, 0, 1, []⟩, ⟨"color_to_gray", .bool, 0, 1, []⟩,
    ⟨"fpn", .bool, 0, 1, []⟩, ⟨"temp", .bool, 0, 1, []⟩, ⟨"roi", .bool, 0, 1, []⟩, ⟨"day_night", .bool, 0, 1, []⟩,
    ⟨"alsc_adj", .bool, 0, 1, []⟩, ⟨"iq_mode", .u32, 0, 1, []⟩, ⟨"dummy", .bool, 0, 1, []⟩,
    ⟨"dummy_ex", .bool, 0, 1, []⟩, ⟨"ae_ev_comp", .u32, 0, 200, []⟩, ⟨"ae_mode", .u32, 0, 4, []⟩,
    ⟨"ae_state", .u32, 0, 1, []⟩, ⟨"ae_flicker", .u32, 0, 3, []⟩, ⟨"ae_expo_limit", .u32, 0, 65535, []⟩,
    ⟨"ae_stabilizer", .bool, 0, 1, []⟩, ⟨"awb_attr_ex", .bool, 0, 1, []⟩, ⟨"awb_ct_weight", .u16, 0, 65535, []⟩,
    ⟨"awb_stabilizer", .bool, 0, 1, []⟩]

/-- The single-value set, which leaves a value at offset 0 alone. -/
def marukoSetLegacy (p : IqParamDesc) (value : CString) (buf : Buffer) : Buffer :=
  let level := clampLevel p.maxVal (atoi value).toUInt32
  if p.vtype = .bool then writeValue buf iqOffsetEnable .u32 (if level ≠ 0 then 1 else 0)
  else if p.manualOffset = 4 then
    writeValue (writeValue buf iqOffsetEnable .u32 1) p.manualOffset p.vtype level
  else if 4 < p.manualOffset then
    writeValue (writeValue (writeValue buf iqOffsetEnable .u32 1) iqOffsetOptype .u32 1) p.manualOffset p.vtype level
  else buf

def marukoSetBuffer (p : IqParamDesc) (field : Option CString) (value : CString) (buf : Buffer) : Option Buffer :=
  match field with
  | none => some (marukoSetLegacy p value buf)
  | some field =>
    if field = "enabled".toList then
      some (writeValue buf iqOffsetEnable .u32 (if (atoi value).toUInt32 ≠ 0 then 1 else 0))
    else if p.fields = [] then some (marukoSetLegacy p value buf)
    else (p.fields.find? fun fd => fd.name.toList = field).map fun fd => setField p fd value buf

/-! A set and what the library answers. -/

/-- The library during one set: whether it is open, what fn_get of a parameter
returns and makes of the cleared buffer, and what fn_set returns; none where a
symbol was not resolved. -/
structure Library where
  handle : Bool
  fnGet : String → Option (Int32 × Buffer)
  fnSet : String → Option Int32

/-- The buffer fn_set was called with, if it was, and what the set returns. -/
structure Outcome where
  handed : Option Buffer
  rc : Int32

/-- What the two sets share. -/
def iqSet (table : List IqParamDesc) (edit : IqParamDesc → Option CString → CString → Buffer → Option Buffer)
    (result : Int32 → Int32) (lib : Library) (param value : CString) : Outcome :=
  if lib.handle = false then ⟨none, -1⟩
  else
    match table.find? fun p => p.name.toList = (splitParam param).1 with
    | none => ⟨none, -1⟩
    | some p =>
      match lib.fnGet p.name, lib.fnSet p.name with
      | some (ret, buf), some answer =>
        if ret ≠ 0 then ⟨none, -1⟩
        else
          match edit p (splitParam param).2 value buf with
          | none => ⟨none, -1⟩
          | some buf => ⟨some buf, result answer⟩
      | _, _ => ⟨none, -1⟩

def star6eIqSet : Library → CString → CString → Outcome :=
  iqSet gParams setBuffer fun ret => if ret ≠ 0 then -1 else 0

/-- maruko_iq_set returns 0 whatever fn_set returned. -/
def marukoIqSet : Library → CString → CString → Outcome := iqSet marukoGParams marukoSetBuffer fun _ => 0

/-- A set finds its parameter and gets its buffer. -/
structure Target (table : List IqParamDesc) (lib : Library) (param : CString) (p : IqParamDesc) (before : Buffer)
    (answer : Int32) : Prop where
  handle : lib.handle = true
  found : (table.find? fun q => q.name.toList = (splitParam param).1) = some p
  get : lib.fnGet p.name = some (0, before)
  set : lib.fnSet p.name = some answer

section

variable {table : List IqParamDesc} {edit : IqParamDesc → Option CString → CString → Buffer → Option Buffer}
  {result : Int32 → Int32} {lib : Library} {param value : CString} {p q : IqParamDesc} {before before' : Buffer}
  {answer answer' : Int32}

theorem Target.unique (h : Target table lib param p before answer) (h' : Target table lib param q before' answer') :
    p = q ∧ before = before' ∧ answer = answer' := by
  obtain rfl := Option.some.inj (h.found.symm.trans h'.found)
  have hget := Prod.mk.inj (Option.some.inj (h.get.symm.trans h'.get))
  exact ⟨rfl, hget.2, Option.some.inj (h.set.symm.trans h'.set)⟩

theorem Target.mem (h : Target table lib param p before answer) : p ∈ table := List.mem_of_find?_eq_some h.found

/-- A parameter that is found and read is set to what its edit gives. -/
theorem iqSet_target (h : Target table lib param p before answer) : iqSet table edit result lib param value =
    ((edit p (splitParam param).2 value before).elim ⟨none, -1⟩ fun after => ⟨some after, result answer⟩) := by
  rw [iqSet, h.handle, if_neg Bool.true_eq_false_eq_False, h.found]
  dsimp only
  rw [h.get, h.set]
  dsimp only
  rw [if_neg (fun hne => hne rfl)]
  cases edit p (splitParam param).2 value before <;> rfl

theorem iqSet_untargeted (h : ∀ p before answer, ¬Target table lib param p before answer) :
    iqSet table edit result lib param value = ⟨none, -1⟩ := by
  rw [iqSet.eq_def]
  split
  · rfl
  · next hhandle =>
    split
    · rfl
    · next p hp =>
      split
      · next ret buf answer hget hset =>
        split
        · rfl
        · next hret =>
          obtain rfl := Decidable.not_not.1 hret
          exact absurd ⟨Bool.eq_true_of_not_eq_false hhandle, hp, hget, hset⟩ (h p buf answer)
      · rfl

end

/-! The library that keeps a buffer for each parameter and never fails. -/

def keeping (isp : Isp) : Library :=
  { handle := true
    fnGet := fun name => if isp.fnGet name then some (0, isp.held name) else none
    fnSet := fun name => if isp.fnSet name then some 0 else none }

/-- With such a library a set is the one the import goes through. -/
theorem star6eIqSet_keeping (isp : Isp) (param value : CString) :
    IqParams.star6eIqSet isp param value =
      match findParam (splitParam param).1, (star6eIqSet (keeping isp) param value).handed with
      | some p, some buf => (true, { isp with held := Function.update isp.held p.name buf })
      | _, _ => (false, isp) := by
  have hhandle : ¬(keeping isp).handle = false := Bool.true_eq_false_eq_False
  rw [IqParams.star6eIqSet, star6eIqSet, iqSet, if_neg hhandle, ← findParam]
  cases findParam (splitParam param).1 with
  | none => rfl
  | some p =>
    dsimp only
    cases hget : isp.fnGet p.name with
    | false => simp only [keeping, hget, Bool.false_and, Bool.false_eq_true, if_false]
    | true =>
      cases hset : isp.fnSet p.name with
      | false => simp only [keeping, hget, hset, Bool.and_false, Bool.false_eq_true, if_false, if_true]
      | true =>
        simp only [keeping, hget, hset, Bool.and_true, if_true, ne_eq, not_true_eq_false, if_false]
        cases setBuffer p (splitParam param).2 value (isp.held p.name) with
        | none => rfl
        | some buf => rfl

end WaybeamVenc.IqSet
