import WaybeamVenc.ByteBuffer
import WaybeamVenc.ConfigSave

namespace WaybeamVenc.IqParams

open CNumber ConfigLoad ConfigSave ByteBuffer

inductive IqValueType
  | bool
  | u8
  | u16
  | u32
deriving DecidableEq

structure IqFieldDesc where
  name : String
  vtype : IqValueType
  relOffset : Nat
  count : Nat
  maxVal : UInt32
deriving DecidableEq

structure IqParamDesc where
  name : String
  vtype : IqValueType
  manualOffset : Nat
  maxVal : UInt32
  fields : List IqFieldDesc
deriving DecidableEq

def colortransFields : List IqFieldDesc :=
  [⟨"y_ofst", .u16, 0, 1, 2047⟩, ⟨"u_ofst", .u16, 2, 1, 2047⟩, ⟨"v_ofst", .u16, 4, 1, 2047⟩,
    ⟨"matrix", .u16, 6, 9, 65535⟩]

def r2yFields : List IqFieldDesc :=
  [⟨"matrix", .u16, 0, 9, 1023⟩, ⟨"add_y16", .u8, 18, 1, 1⟩]

def obcFields : List IqFieldDesc :=
  [⟨"val_r", .u16, 0, 1, 65535⟩, ⟨"val_gr", .u16, 2, 1, 65535⟩, ⟨"val_gb", .u16, 4, 1, 65535⟩,
    ⟨"val_b", .u16, 6, 1, 65535⟩]

def demosaicFields : List IqFieldDesc :=
  [⟨"dir_thrd", .u8, 0, 1, 63⟩, ⟨"edge_smooth_y", .u8, 1, 1, 255⟩, ⟨"edge_smooth_c", .u8, 2, 1, 127⟩]

def falseColorFields : List IqFieldDesc :=
  [⟨"freq_thrd", .u8, 0, 1, 255⟩, ⟨"edge_score_thrd", .u8, 1, 1, 255⟩, ⟨"chroma_thrd_max", .u8, 2, 1, 127⟩,
    ⟨"chroma_thrd_mid", .u8, 3, 1, 127⟩, ⟨"chroma_thrd_min", .u8, 4, 1, 127⟩,
    ⟨"strength_mid", .u8, 5, 1, 7⟩, ⟨"strength_min", .u8, 6, 1, 7⟩]

def crosstalkFields : List IqFieldDesc :=
  [⟨"strength", .u8, 0, 1, 31⟩, ⟨"strength_by_y", .u8, 1, 15, 127⟩, ⟨"threshold", .u8, 16, 1, 255⟩,
    ⟨"offset", .u16, 18, 1, 4095⟩]

def wdrCurveAdvFields : List IqFieldDesc :=
  [⟨"slope", .u16, 0, 1, 16384⟩, ⟨"trans_point_0", .u8, 2, 1, 255⟩, ⟨"trans_point_1", .u8, 3, 1, 255⟩,
    ⟨"saturated_point", .u8, 4, 1, 255⟩, ⟨"curve_mode_sel", .u8, 5, 1, 1⟩]

def gParams : List IqParamDesc :=
  [⟨"lightness", .u32, 72, 100, []⟩, ⟨"contrast", .u32, 72, 100, []⟩, ⟨"brightness", .u32, 72, 100, []⟩,
    ⟨"saturation", .u8, 392, 127, []⟩, ⟨"sharpness", .u8, 1192, 255, []⟩, ⟨"hsv", .u8, 3096, 64, []⟩,
    ⟨"nr3d", .u8, 1288, 255, []⟩, ⟨"nr3d_ex", .u32, 4, 1, []⟩, ⟨"nr_despike", .u8, 552, 15, []⟩,
    ⟨"nr_luma", .u8, 104, 255, []⟩, ⟨"nr_luma_adv", .u32, 1304, 1, []⟩, ⟨"nr_chroma", .u8, 216, 127, []⟩,
    ⟨"nr_chroma_adv", .u8, 488, 255, []⟩, ⟨"false_color", .u8, 120, 255, falseColorFields⟩,
    ⟨"crosstalk", .u8, 296, 31, crosstalkFields⟩, ⟨"demosaic", .u8, 4, 63, demosaicFields⟩,
    ⟨"obc", .u16, 136, 65535, obcFields⟩, ⟨"dynamic_dp", .u8, 488, 1, []⟩,
    ⟨"dp_cluster", .u32, 1080, 1, []⟩, ⟨"r2y", .u16, 4, 1023, r2yFields⟩,
    ⟨"colortrans", .u16, 4, 2047, colortransFields⟩, ⟨"rgb_matrix", .u16, 444, 8191, []⟩,
    ⟨"wdr", .u8, 648, 4, []⟩, ⟨"wdr_curve_adv", .u16, 104, 16384, wdrCurveAdvFields⟩,
    ⟨"pfc", .u8, 376, 255, []⟩, ⟨"pfc_ex", .u32, 4, 1, []⟩, ⟨"hdr", .u32, 904, 1, []⟩,
    ⟨"hdr_ex", .u16, 4, 65535, []⟩, ⟨"shp_ex", .u32, 4, 1, []⟩, ⟨"rgbir", .u8, 600, 7, []⟩,
    ⟨"iq_mode", .u32, 0, 1, []⟩, ⟨"lsc", .u16, 4, 65535, []⟩, ⟨"lsc_ctrl", .u8, 4, 255, []⟩,
    ⟨"alsc", .u8, 4, 255, []⟩, ⟨"alsc_ctrl", .u8, 4, 255, []⟩, ⟨"obc_p1", .u16, 136, 65535, obcFields⟩,
    ⟨"stitch_lpf", .u16, 4, 256, []⟩, ⟨"rgb_gamma", .bool, 0, 1, []⟩, ⟨"yuv_gamma", .bool, 0, 1, []⟩,
    ⟨"wdr_curve_full", .bool, 0, 1, []⟩, ⟨"dummy", .bool, 0, 1, []⟩, ⟨"dummy_ex", .bool, 0, 1, []⟩,
    ⟨"defog", .bool, 0, 1, []⟩, ⟨"color_to_gray", .bool, 0, 1, []⟩, ⟨"nr3d_p1", .bool, 0, 1, []⟩,
    ⟨"fpn", .bool, 0, 1, []⟩, ⟨"ae_ev_comp", .u32, 0, 200, []⟩, ⟨"ae_mode", .u32, 0, 4, []⟩,
    ⟨"ae_state", .u32, 0, 1, []⟩, ⟨"ae_flicker", .u32, 0, 3, []⟩, ⟨"ae_flicker_ex", .bool, 0, 1, []⟩,
    ⟨"ae_win_wgt_type", .u32, 0, 2, []⟩, ⟨"ae_manual_expo", .u32, 0, 65535, []⟩,
    ⟨"ae_expo_limit", .u32, 0, 65535, []⟩, ⟨"ae_stabilizer", .bool, 0, 1, []⟩,
    ⟨"ae_rgbir", .bool, 0, 1, []⟩, ⟨"ae_hdr", .bool, 0, 1, []⟩, ⟨"awb_attr_ex", .bool, 0, 1, []⟩,
    ⟨"awb_multi_ls", .bool, 0, 1, []⟩, ⟨"awb_stabilizer", .bool, 0, 1, []⟩,
    ⟨"awb_ct_cali", .u16, 0, 65535, []⟩, ⟨"awb_ct_weight", .u16, 0, 65535, []⟩]

def iqOffsetEnable : Nat := 0

def iqOffsetOptype : Nat := 4

/-- The library: which of its functions were resolved, what its diagnostics
answer, and the buffer it keeps for each parameter, which a set stores and a
get returns. -/
structure Isp where
  fnGet : String → Bool
  fnSet : String → Bool
  diag : CJson Unit
  held : String → Buffer

def readValue (buf : Buffer) (offset : Nat) : IqValueType → UInt32
  | .u32 | .bool => word32 (load buf offset 4)
  | .u16 => (word16 (load buf offset 2)).toUInt32
  | .u8 => (buf offset).toUInt32

def writeValue (buf : Buffer) (offset : Nat) (vt : IqValueType) (val : UInt32) : Buffer :=
  match vt with
  | .u32 | .bool => store buf offset (bytes32 val)
  | .u16 => store buf offset (bytes16 val.toUInt16)
  | .u8 => store buf offset [val.toUInt8]

def elemSize : IqValueType → Nat
  | .u8 => 1
  | .u16 => 2
  | .bool | .u32 => 4

/-! The export. -/

/-- A number printed with "%u" and parsed. -/
def printed (val : UInt32) : CJson Unit := .number (saturate val.toNat) ()

def fieldValues (p : IqParamDesc) (buf : Buffer) (fd : IqFieldDesc) : List UInt32 :=
  (List.range fd.count).map fun e =>
    readValue buf (p.manualOffset + fd.relOffset + e * elemSize fd.vtype) fd.vtype

def fieldJson (p : IqParamDesc) (buf : Buffer) (fd : IqFieldDesc) : String × CJson Unit :=
  (fd.name,
    if fd.count = 1 then printed (readValue buf (p.manualOffset + fd.relOffset) fd.vtype)
    else .array ((fieldValues p buf fd).map printed))

/-- emit_fields_json, where there are fields. -/
def fieldsJson (p : IqParamDesc) (buf : Buffer) : List (String × CJson Unit) :=
  if p.fields = [] then [] else [("fields", .object (p.fields.map (fieldJson p buf)))]

def paramJson (p : IqParamDesc) (buf : Buffer) : List (String × CJson Unit) :=
  let enable := readValue buf iqOffsetEnable .u32
  let val := readValue buf p.manualOffset p.vtype
  if p.vtype = .bool then [("ret", .number 0 ()), ("value", .bool (enable != 0))]
  else if p.manualOffset = 4 then
    [("ret", .number 0 ()), ("enabled", .bool (enable != 0)), ("value", printed val)] ++ fieldsJson p buf
  else
    [("ret", .number 0 ()), ("enabled", .bool (enable != 0)),
      ("op_type", .string (if readValue buf iqOffsetOptype .u32 = 1 then "manual".toList else "auto".toList)),
      ("value", printed val)] ++ fieldsJson p buf

def queryItem (isp : Isp) (p : IqParamDesc) : String × CJson Unit :=
  (p.name, .object (if isp.fnGet p.name then paramJson p (isp.held p.name) else [("available", .bool false)]))

/-- The document of star6e_iq_query, parsed. -/
def star6eIqQuery (isp : Isp) : CJson Unit :=
  .object [("ok", .bool true), ("data", .object (gParams.map (queryItem isp) ++ [("_diag", isp.diag)]))]

/-! A set. -/

def atoi (s : CString) : Int32 := ((strtol s).map Prod.fst).getD 0

theorem atoi_blank {s : CString} (h : skipSpace s = []) : atoi s = 0 := by
  rw [atoi, strtol, h]
  rfl

/-- A number ends at a character that is no digit. -/
theorem atoi_stop {c : Char} (hc : digit 10 c = none) {x : CString} (h : skipSpace x ≠ []) (y : CString) :
    atoi (x ++ c :: y) = atoi x := by
  have hdigits := takeDigits_stop hc none (takeSign (skipSpace x)).2 y
  rw [atoi, strtol, atoi, strtol, skipSpace_append h, takeSign_append h]
  dsimp only
  revert hdigits
  cases takeDigits 10 none ((takeSign (skipSpace x)).2 ++ c :: y) with
  | mk n rest =>
    cases takeDigits 10 none (takeSign (skipSpace x)).2 with
    | mk m rest' =>
      intro hdigits
      obtain rfl : n = m := hdigits
      cases n with
      | none => rfl
      | some n => rfl

def clampLevel (maxVal level : UInt32) : UInt32 := if maxVal < level then maxVal else level

/-- The loop over a comma-separated array. -/
def setElements (fd : IqFieldDesc) (base : Nat) : Nat → Nat → CString → Buffer → Buffer
  | 0, _, _, buf => buf
  | n + 1, e, p, buf =>
    if p = [] then buf
    else
      setElements fd base n (e + 1) (p.dropWhile (· ≠ ',')).tail
        (writeValue buf (base + e * elemSize fd.vtype) fd.vtype (clampLevel fd.maxVal (atoi p).toUInt32))

def setHeader (p : IqParamDesc) (buf : Buffer) : Buffer :=
  let buf := writeValue buf iqOffsetEnable .u32 1
  if 4 < p.manualOffset then writeValue buf iqOffsetOptype .u32 1 else buf

def setField (p : IqParamDesc) (fd : IqFieldDesc) (value : CString) (buf : Buffer) : Buffer :=
  let base := p.manualOffset + fd.relOffset
  if fd.count = 1 then
    writeValue (setHeader p buf) base fd.vtype (clampLevel fd.maxVal (atoi value).toUInt32)
  else setElements fd base fd.count 0 value (setHeader p buf)

def setLegacy (p : IqParamDesc) (value : CString) (buf : Buffer) : Buffer :=
  let level := clampLevel p.maxVal (atoi value).toUInt32
  if p.vtype = .bool then writeValue buf iqOffsetEnable .u32 (if level ≠ 0 then 1 else 0)
  else if p.manualOffset = 4 then
    writeValue (writeValue buf iqOffsetEnable .u32 1) p.manualOffset p.vtype level
  else
    writeValue (writeValue (writeValue buf iqOffsetEnable .u32 1) iqOffsetOptype .u32 1) p.manualOffset p.vtype level

/-- The buffer that a set hands back to the library, none where it gives up. -/
def setBuffer (p : IqParamDesc) (field : Option CString) (value : CString) (buf : Buffer) : Option Buffer :=
  match field with
  | none => some (setLegacy p value buf)
  | some field =>
    if field = "enabled".toList then
      if p.vtype = .bool then none
      else some (writeValue buf iqOffsetEnable .u32 (if (atoi value).toUInt32 ≠ 0 then 1 else 0))
    else if p.fields = [] then some (setLegacy p value buf)
    else (p.fields.find? fun fd => fd.name.toList = field).map fun fd => setField p fd value buf

/-- The parameter's name in front of the first dot and the field's behind it. -/
def splitParam (param : CString) : CString × Option CString :=
  match param.dropWhile (· ≠ '.') with
  | [] => (param.take 63, none)
  | _ :: field => ((param.takeWhile (· ≠ '.')).take 63, some field)

def findParam (name : CString) : Option IqParamDesc := gParams.find? fun p => p.name.toList = name

def star6eIqSet (isp : Isp) (param value : CString) : Bool × Isp :=
  match findParam (splitParam param).1 with
  | none => (false, isp)
  | some p =>
    if isp.fnGet p.name && isp.fnSet p.name then
      match setBuffer p (splitParam param).2 value (isp.held p.name) with
      | none => (false, isp)
      | some buf => (true, { isp with held := Function.update isp.held p.name buf })
    else (false, isp)

/-! The import. -/

structure Imported where
  isp : Isp
  applied : Nat
  failed : Nat

def intText (i : Int32) : CString :=
  if i < 0 then '-' :: Nat.toDigits 10 (-i.toInt).toNat else Nat.toDigits 10 i.toInt.toNat

def valueint : CJson Unit → Int32
  | .number i _ => i
  | .bool true => 1
  | _ => 0

def joined : List CString → CString
  | [] => []
  | [s] => s
  | s :: rest => s ++ ',' :: joined rest

def flag (b : Bool) : CString := if b then ['1'] else ['0']

def importSet (acc : Imported) (key value : CString) : Imported :=
  let r := star6eIqSet acc.isp key value
  { isp := r.2
    applied := if r.1 then acc.applied + 1 else acc.applied
    failed := if r.1 then acc.failed else acc.failed + 1 }

/-- The text a field of the document is set to, none for one that is passed
over. -/
def fieldText : CJson Unit → Option CString
  | .array items => some (joined (items.map fun item => intText (valueint item)))
  | .number i _ => some (intText i)
  | _ => none

def importField (pname : String) (acc : Imported) (fld : String × CJson Unit) : Imported :=
  match fieldText fld.2 with
  | none => acc
  | some text => importSet acc ((pname.toList ++ '.' :: fld.1.toList).take 127) text

def importEnabled (pname : String) (acc : Imported) (item : CJson Unit) : Imported :=
  match item.item "enabled" with
  | some (.bool b) => importSet acc ((pname.toList ++ ".enabled".toList).take 127) (flag b)
  | _ => acc

def importValue (pname : String) (acc : Imported) (item : CJson Unit) : Imported :=
  match item.item "value" with
  | some (.bool b) => importSet acc pname.toList (flag b)
  | some (.number i _) => importSet acc pname.toList (intText i)
  | _ => acc

def importItem (acc : Imported) (entry : String × CJson Unit) : Imported :=
  if entry.1.toList.head? = some '_' then acc
  else
    let acc := importEnabled entry.1 acc entry.2
    match entry.2.item "fields" with
    | some (.object fields) => fields.foldl (importField entry.1) acc
    | _ => importValue entry.1 acc entry.2

def star6eIqImport (isp : Isp) (root : CJson Unit) : Imported :=
  match (root.item "data").getD root with
  | .object members => members.foldl importItem ⟨isp, 0, 0⟩
  | _ => ⟨isp, 0, 0⟩

end WaybeamVenc.IqParams
