import WaybeamVenc.IqBuffers

namespace WaybeamVenc.IqRoundTrip

open CNumber ConfigLoad ConfigSave ByteBuffer IqParams IqBuffers

variable {p : IqParamDesc} {buf : Buffer}

/-! One entry of the import. -/

/-- The parameter's functions are there and the library keeps buf for it. -/
structure Holding (p : IqParamDesc) (isp : Isp) (buf : Buffer) : Prop where
  get : isp.fnGet p.name = true
  set : isp.fnSet p.name = true
  held : isp.held p.name = buf

theorem splitParam_field {name field : CString} (hdot : '.' ∉ name) (hlen : name.length ≤ 60) :
    splitParam ((name ++ '.' :: field).take 127) = (name, some (field.take (126 - name.length))) := by
  have hne : ∀ c ∈ name, decide (c ≠ '.') = true := fun c hc => decide_eq_true fun he => hdot (he ▸ hc)
  have htake : (name ++ '.' :: field).take 127 = name ++ '.' :: field.take (126 - name.length) := by
    rw [List.take_append, List.take_of_length_le (by omega), show 127 - name.length = (126 - name.length) + 1 by omega,
      List.take_succ_cons]
  have hdrop : (name ++ '.' :: field.take (126 - name.length)).dropWhile (· ≠ '.') =
      '.' :: field.take (126 - name.length) := List.dropWhile_append_of_pos hne
  have hkeep : (name ++ '.' :: field.take (126 - name.length)).takeWhile (· ≠ '.') = name := by
    rw [List.takeWhile_append_of_pos hne]
    exact List.append_nil name
  rw [splitParam, htake, hdrop]
  dsimp only
  rw [hkeep, List.take_of_length_le (by omega)]

theorem splitParam_short {name field : CString} (hdot : '.' ∉ name) (hlen : name.length ≤ 60) (hfield : field.length ≤ 60) :
    splitParam ((name ++ '.' :: field).take 127) = (name, some field) := by
  have hwhole : field.take (126 - name.length) = field := List.take_of_length_le (by omega)
  rw [splitParam_field hdot hlen, hwhole]

theorem splitParam_name {name : CString} (hdot : '.' ∉ name) (hlen : name.length ≤ 60) :
    splitParam name = (name, none) := by
  have hdrop : (name ++ []).dropWhile (· ≠ '.') = [] :=
    List.dropWhile_append_of_pos fun c hc => decide_eq_true fun he => hdot (he ▸ hc)
  rw [List.append_nil] at hdrop
  rw [splitParam, hdrop, List.take_of_length_le (by omega)]

theorem importSet_other {acc : Imported} {b : Buffer} (h : Holding p acc.isp b) {key : CString}
    (hkey : (splitParam key).1 ≠ p.name.toList) (value : CString) : Holding p (importSet acc key value).isp b := by
  have hset : Holding p (star6eIqSet acc.isp key value).2 b := by
    rw [star6eIqSet]
    split
    · exact h
    · next q hq =>
      rw [findParam] at hq
      have hfound := List.find?_some hq
      have hname : q.name.toList = (splitParam key).1 := of_decide_eq_true hfound
      have hother : p.name ≠ q.name := fun heq => hkey (by rw [← hname, heq])
      split
      · split
        · exact h
        · exact ⟨h.get, h.set, (Function.update_of_ne hother _ _).trans h.held⟩
      · exact h
  exact hset

theorem importSet_self (hp : p ∈ gParams) {acc : Imported} {b b' : Buffer} (h : Holding p acc.isp b) {key : CString}
    {field : Option CString} (hkey : splitParam key = (p.name.toList, field)) {value : CString}
    (hbuf : setBuffer p field value b = some b') : Holding p (importSet acc key value).isp b' := by
  have hset : star6eIqSet acc.isp key value = (true, { acc.isp with held := Function.update acc.isp.held p.name b' }) := by
    rw [star6eIqSet, hkey]
    dsimp only
    rw [findParam_table p hp]
    dsimp only
    rw [h.get, h.set, Bool.and_true, if_pos rfl, h.held, hbuf]
  rw [importSet, hset]
  exact ⟨h.get, h.set, Function.update_self ..⟩

theorem importEnabled_exported (hp : p ∈ gParams) {acc : Imported} (h : Holding p acc.isp buf) (hflat : p.vtype ≠ .bool)
    {item : CJson Unit} {b : Bool} (hitem : item.item "enabled" = some (.bool b)) :
    ∃ val, Holding p (importEnabled p.name acc item).isp (writeValue buf iqOffsetEnable .u32 val) := by
  have hwell := table_wellFormed p hp
  have hkey : splitParam ((p.name.toList ++ ".enabled".toList).take 127) = (p.name.toList, some "enabled".toList) :=
    splitParam_short hwell.plain.1 hwell.plain.2.1 (by decide)
  have hbuf : setBuffer p (some "enabled".toList) (flag b) buf =
      some (writeValue buf iqOffsetEnable .u32 (if (atoi (flag b)).toUInt32 ≠ 0 then 1 else 0)) := by
    rw [setBuffer]
    rw [if_pos rfl, if_neg hflat]
  rw [importEnabled, hitem]
  exact ⟨_, importSet_self hp h hkey hbuf⟩

theorem importField_exported (hp : p ∈ gParams) (hpos : p.manualOffset ≠ 0) (hrange : InRange p buf) {acc : Imported}
    {b : Buffer} (h : Holding p acc.isp b) (hb : setHeader p b = setHeader p buf) {fd : IqFieldDesc}
    (hfd : fd ∈ p.fields) : Holding p (importField p.name acc (fieldJson p buf fd)).isp (setHeader p buf) := by
  have hwell := table_wellFormed p hp
  obtain ⟨hlen, hname, -, hfind⟩ := hwell.fields fd hfd
  have hkey := splitParam_short hwell.plain.1 hwell.plain.2.1 hlen
  have htext : ∃ text, fieldText (fieldJson p buf fd).2 = some text := by
    rw [fieldJson]
    split
    · exact ⟨_, rfl⟩
    · exact ⟨_, rfl⟩
  obtain ⟨text, htext⟩ := htext
  have hne : p.fields ≠ [] := List.ne_nil_of_mem hfd
  have hbuf : setBuffer p (some fd.name.toList) text b = some (setHeader p buf) := by
    rw [setBuffer]
    rw [if_neg hname, if_neg hne, hfind, Option.map_some, setField_exported hwell hpos hrange hfd hb htext]
  rw [importField, htext]
  exact importSet_self hp h hkey hbuf

theorem importFields_exported (hp : p ∈ gParams) (hpos : p.manualOffset ≠ 0) (hrange : InRange p buf)
    (fds : List IqFieldDesc) (hfds : ∀ fd ∈ fds, fd ∈ p.fields) (hne : fds ≠ []) {acc : Imported} {b : Buffer}
    (h : Holding p acc.isp b) (hb : setHeader p b = setHeader p buf) :
    Holding p ((fds.map (fieldJson p buf)).foldl (importField p.name) acc).isp (setHeader p buf) := by
  induction fds generalizing acc b with
  | nil => exact absurd rfl hne
  | cons fd fds ih =>
      have hfirst := importField_exported hp hpos hrange h hb (hfds fd List.mem_cons_self)
      cases fds with
      | nil => exact hfirst
      | cons fd' fds => exact ih (fun f hf => hfds f (List.mem_cons_of_mem fd hf)) nofun hfirst setHeader_idem

theorem enabled_item (hflat : p.vtype ≠ .bool) : (CJson.object (paramJson p buf)).item "enabled" =
    some (.bool (readValue buf iqOffsetEnable .u32 != 0)) := by
  rw [paramJson, if_neg hflat]
  split
  · rfl
  · rfl

theorem value_item (hflat : p.vtype ≠ .bool) : (CJson.object (paramJson p buf)).item "value" =
    some (printed (readValue buf p.manualOffset p.vtype)) := by
  rw [paramJson, if_neg hflat]
  split
  · rfl
  · rfl

theorem fields_item (hflat : p.vtype ≠ .bool) : (CJson.object (paramJson p buf)).item "fields" =
    if p.fields = [] then none else some (.object (p.fields.map (fieldJson p buf))) := by
  rw [paramJson, if_neg hflat, fieldsJson]
  by_cases hfields : p.fields = []
  · rw [if_pos hfields, if_pos hfields]
    split
    · rfl
    · rfl
  · rw [if_neg hfields, if_neg hfields]
    split
    · rfl
    · rfl

theorem setLegacy_bool (hp : WellFormed p) (hrange : InRange p buf) (hbool : p.vtype = .bool) :
    setLegacy p (flag (readValue buf iqOffsetEnable .u32 != 0)) buf = reimported p buf := by
  have hvalue : readValue buf p.manualOffset p.vtype = readValue buf iqOffsetEnable .u32 := by
    rw [hbool, (hp.flat (Or.inl hbool)).1]
    rfl
  have hle := hrange.value
  rw [hvalue] at hle
  have hlevel : clampLevel p.maxVal (if (readValue buf iqOffsetEnable .u32 != 0) = true then 1 else 0) =
      if (readValue buf iqOffsetEnable .u32 != 0) = true then 1 else 0 := by
    apply if_neg
    rw [UInt32.not_lt]
    split
    · next hset =>
      have hne : readValue buf iqOffsetEnable .u32 ≠ 0 := bne_iff_ne.1 hset
      rw [UInt32.le_iff_toNat_le] at hle ⊢
      exact Nat.le_trans (Nat.pos_of_ne_zero fun hz => hne (UInt32.toNat_inj.1 hz)) hle
    · exact UInt32.zero_le
  rw [setLegacy, atoi_flag, hlevel, if_pos hbool, reimported, if_pos hbool]
  cases readValue buf iqOffsetEnable .u32 != 0 with
  | false => rfl
  | true => rfl

theorem importItem_self (hp : p ∈ gParams) (hrange : InRange p buf) {acc : Imported} (h : Holding p acc.isp buf) :
    Holding p (importItem acc (p.name, .object (paramJson p buf))).isp (reimported p buf) := by
  have hwell := table_wellFormed p hp
  have hname := splitParam_name hwell.plain.1 hwell.plain.2.1
  rw [importItem, if_neg hwell.plain.2.2]
  by_cases hbool : p.vtype = .bool
  · have hjson : paramJson p buf = [("ret", .number 0 ()), ("value", .bool (readValue buf iqOffsetEnable .u32 != 0))] :=
      if_pos hbool
    have hbuf : setBuffer p none (flag (readValue buf iqOffsetEnable .u32 != 0)) buf = some (reimported p buf) :=
      congrArg some (setLegacy_bool hwell hrange hbool)
    rw [hjson]
    exact importSet_self hp h hname hbuf
  · obtain ⟨val, henabled⟩ := importEnabled_exported hp h hbool (enabled_item hbool)
    dsimp only
    rw [fields_item hbool]
    by_cases hfields : p.fields = []
    · rw [if_pos hfields]
      dsimp only
      rw [importValue, value_item hbool]
      apply importSet_self hp henabled hname
      exact congrArg some (setLegacy_exported hwell hrange hbool (setHeader_enable val) fun _ => ⟨val, rfl⟩)
    · have hpos : p.manualOffset ≠ 0 := fun hz => hfields (hwell.flat (Or.inr hz)).2
      have hclosed : reimported p buf = setHeader p buf := by rw [reimported, if_neg hbool, if_neg hpos]
      rw [if_neg hfields, hclosed]
      exact importFields_exported hp hpos hrange p.fields (fun fd hfd => hfd) hfields henabled (setHeader_enable val)

theorem importField_other {acc : Imported} {b : Buffer} (h : Holding p acc.isp b) {name : String}
    (hname : '.' ∉ name.toList ∧ name.toList.length ≤ 60 ∧ name ≠ p.name) (fld : String × CJson Unit) :
    Holding p (importField name acc fld).isp b := by
  obtain ⟨hdot, hlen, hne⟩ := hname
  rw [importField.eq_def]
  split
  · exact h
  · apply importSet_other h
    rw [splitParam_field hdot hlen]
    exact fun heq => hne (String.toList_inj.1 heq)

theorem importFields_other {b : Buffer} {name : String}
    (hname : '.' ∉ name.toList ∧ name.toList.length ≤ 60 ∧ name ≠ p.name) (fields : List (String × CJson Unit))
    {acc : Imported} (h : Holding p acc.isp b) : Holding p (fields.foldl (importField name) acc).isp b := by
  induction fields generalizing acc with
  | nil => exact h
  | cons fld fields ih => exact ih (importField_other h hname fld)

theorem importItem_other {acc : Imported} {b : Buffer} (h : Holding p acc.isp b) {entry : String × CJson Unit}
    (hplain : entry.1.toList.head? ≠ some '_' → '.' ∉ entry.1.toList ∧ entry.1.toList.length ≤ 60 ∧ entry.1 ≠ p.name) :
    Holding p (importItem acc entry).isp b := by
  rw [importItem]
  split
  · exact h
  · next hhead =>
    have hname := hplain hhead
    have hother : entry.1.toList ≠ p.name.toList := fun heq => hname.2.2 (String.toList_inj.1 heq)
    have hkey : (splitParam entry.1.toList).1 ≠ p.name.toList := by
      rw [splitParam_name hname.1 hname.2.1]
      exact hother
    have henabled : Holding p (importEnabled entry.1 acc entry.2).isp b := by
      rw [importEnabled]
      split
      · apply importSet_other h
        have hsplit : splitParam ((entry.1.toList ++ ".enabled".toList).take 127) =
            (entry.1.toList, some "enabled".toList) := splitParam_short hname.1 hname.2.1 (by decide)
        rw [hsplit]
        exact hother
      · exact h
    dsimp only
    split
    · exact importFields_other hname _ henabled
    · rw [importValue]
      split
      · exact importSet_other henabled hkey _
      · exact importSet_other henabled hkey _
      · exact henabled

theorem importItems_other {b : Buffer} (qs : List IqParamDesc) (hqs : ∀ q ∈ qs, q ∈ gParams ∧ q.name ≠ p.name)
    (isp : Isp) {acc : Imported} (h : Holding p acc.isp b) :
    Holding p ((qs.map (queryItem isp)).foldl importItem acc).isp b := by
  induction qs generalizing acc with
  | nil => exact h
  | cons q qs ih =>
      obtain ⟨hq, hne⟩ := hqs q List.mem_cons_self
      have hplain := (table_wellFormed q hq).plain
      exact ih (fun r hr => hqs r (List.mem_cons_of_mem q hr))
        (importItem_other h fun _ => ⟨hplain.1, hplain.2.1, hne⟩)

/-- What becomes of each parameter's buffer. -/
theorem import_query (isp : Isp) (hp : p ∈ gParams) (hget : isp.fnGet p.name = true) (hset : isp.fnSet p.name = true)
    (hrange : InRange p (isp.held p.name)) :
    (star6eIqImport isp (star6eIqQuery isp)).isp.held p.name = reimported p (isp.held p.name) := by
  obtain ⟨before, after, hsplit⟩ := List.append_of_mem hp
  have hnames := names_distinct
  rw [hsplit, List.map_append, List.map_cons, List.nodup_append] at hnames
  obtain ⟨-, hafter, hapart⟩ := hnames
  have hbeforeNe : ∀ q ∈ before, q.name ≠ p.name := fun q hq =>
    hapart q.name (List.mem_map_of_mem hq) p.name List.mem_cons_self
  have hafterNe : ∀ q ∈ after, q.name ≠ p.name := fun q hq heq =>
    (List.nodup_cons.1 hafter).1 (heq ▸ List.mem_map_of_mem hq)
  have hmem : ∀ q, q ∈ before ∨ q ∈ after → q ∈ gParams := by
    intro q hq
    rw [hsplit]
    rcases hq with hq | hq
    · exact List.mem_append_left _ hq
    · exact List.mem_append_right _ (List.mem_cons_of_mem p hq)
  have hstart : Holding p (⟨isp, 0, 0⟩ : Imported).isp (isp.held p.name) := ⟨hget, hset, rfl⟩
  have hfront := importItems_other before (fun q hq => ⟨hmem q (Or.inl hq), hbeforeNe q hq⟩) isp hstart
  have hself := importItem_self hp hrange hfront
  have hback := importItems_other after (fun q hq => ⟨hmem q (Or.inr hq), hafterNe q hq⟩) isp hself
  have hhead : "_diag".toList.head? = some '_' := by decide
  have hdiag : Holding p (importItem _ ("_diag", isp.diag)).isp _ :=
    importItem_other hback fun hplain => absurd hhead hplain
  have hitem : queryItem isp p = (p.name, .object (paramJson p (isp.held p.name))) := by
    rw [queryItem, hget]
    rfl
  have hrun : (star6eIqImport isp (star6eIqQuery isp)) =
      ((gParams.map (queryItem isp)) ++ [("_diag", isp.diag)]).foldl importItem ⟨isp, 0, 0⟩ := rfl
  rw [hrun, hsplit, List.foldl_append, List.map_append, List.foldl_append, List.map_cons, List.foldl_cons, hitem]
  exact hdiag.held

/-- An import of the export leaves a parameter's buffer alone exactly when it is
restorable. -/
theorem import_restores (isp : Isp) {p : IqParamDesc} (hp : p ∈ gParams) (hget : isp.fnGet p.name = true)
    (hset : isp.fnSet p.name = true) (hrange : InRange p (isp.held p.name)) :
    (star6eIqImport isp (star6eIqQuery isp)).isp.held p.name = isp.held p.name ↔ Restorable p (isp.held p.name) := by
  rw [import_query isp hp hget hset hrange]
  exact reimported_eq_iff (table_wellFormed p hp) hrange

/-! A library with every function, and buffers that are all the same. -/

def ispWith (buf : Buffer) : Isp := ⟨fun _ => true, fun _ => true, .null, fun _ => buf⟩

theorem zero_inRange {p : IqParamDesc} : InRange p fun _ => 0 := by
  have hzero : ∀ offset vt, readValue (fun _ => 0) offset vt = 0 := by
    intro offset vt
    cases vt with
    | bool | u32 => exact (by decide : word32 [0, 0, 0, 0] = 0)
    | u16 => exact (by decide : (word16 [0, 0]).toUInt32 = 0)
    | u8 => rfl
  refine ⟨?_, fun fd _ v hv => ?_⟩
  · rw [hzero]
    exact UInt32.zero_le
  · obtain ⟨e, -, rfl⟩ := List.mem_map.1 hv
    rw [hzero]
    exact UInt32.zero_le

/-- A toggle that is off stays off, an image setting that is off does not. -/
theorem import_restores_zero :
    (∃ p, findParam "defog".toList = some p ∧ (star6eIqImport (ispWith fun _ => 0)
      (star6eIqQuery (ispWith fun _ => 0))).isp.held p.name = (ispWith fun _ => 0).held p.name) ∧
    ∃ p, findParam "lightness".toList = some p ∧ (star6eIqImport (ispWith fun _ => 0)
      (star6eIqQuery (ispWith fun _ => 0))).isp.held p.name ≠ (ispWith fun _ => 0).held p.name := by
  constructor
  · obtain ⟨p, hp⟩ : ∃ p, findParam "defog".toList = some p := ⟨_, rfl⟩
    refine ⟨p, hp, ?_⟩
    rw [import_restores _ (List.mem_of_find?_eq_some hp) rfl rfl zero_inRange]
    cases hp
    trivial
  · obtain ⟨p, hp⟩ : ∃ p, findParam "lightness".toList = some p := ⟨_, rfl⟩
    refine ⟨p, hp, ?_⟩
    rw [ne_eq, import_restores _ (List.mem_of_find?_eq_some hp) rfl rfl zero_inRange]
    cases hp
    exact fun h => absurd h.1 (by decide)

theorem lightness_switched_on :
    ¬∀ (isp : Isp) (p : IqParamDesc), p ∈ gParams → isp.fnGet p.name = true → isp.fnSet p.name = true →
      InRange p (isp.held p.name) →
      (star6eIqImport isp (star6eIqQuery isp)).isp.held p.name = isp.held p.name := by
  intro h
  obtain ⟨p, hp⟩ : ∃ p, findParam "lightness".toList = some p := ⟨_, rfl⟩
  have hmem := List.mem_of_find?_eq_some hp
  have hsame := h (ispWith fun _ => 0) p hmem rfl rfl zero_inRange
  rw [import_query _ hmem rfl rfl zero_inRange] at hsame
  cases hp
  exact absurd (congrFun hsame 0) (by decide)

end WaybeamVenc.IqRoundTrip
