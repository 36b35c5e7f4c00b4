import WaybeamVenc.ApiValues

namespace WaybeamVenc.ApiJson

open CNumber Config FieldTable Json JsonNumber JsonString ApiBodies ApiValues SetQuery

/-- The body is one JSON object, of which something holds. -/
def IsObject (body : CString) (P : Value → Prop) : Prop := ∃ ms, IsText body (.object ms) ∧ P (.object ms)

/-! Bodies that are written objects. -/

theorem printed_iff {ms : List (CString × Value)} {P : Value → Prop} :
    IsObject (print (.object ms)) P ↔ P (.object ms) := by
  constructor
  · rintro ⟨ms', htext, hP⟩
    obtain rfl := Value.object.inj (htext.unique (isText_print _))
    exact hP
  · exact fun hP => ⟨ms, isText_print _, hP⟩

theorem isObject_print {size : ℕ} {ms : List (CString × Value)} {P : Value → Prop} :
    IsObject (snprintf size (print (.object ms))) P ↔ (print (.object ms)).length ≤ size - 1 ∧ P (.object ms) := by
  rw [snprintf]
  by_cases hlen : (print (.object ms)).length ≤ size - 1
  · rw [List.take_of_length_le hlen, printed_iff, and_iff_right hlen]
  · refine iff_of_false ?_ fun h => hlen h.1
    rintro ⟨ms', htext, -⟩
    have hfull : Reads ((print (.object ms)).take (size - 1) ++ (print (.object ms)).drop (size - 1)) (.object ms) [] := by
      rw [List.take_append_drop, ← List.append_nil (print (.object ms))]
      exact reads_print _ (by simp [Stops])
    refine not_isText_of_prefix hfull ?_ htext
    rw [Ne, List.drop_eq_nil_iff]
    exact hlen

/-- An answer that went well. -/
def dataTree (ms : List (CString × Value)) : Value :=
  .object [("ok".toList, .bool true), ("data".toList, .object ms)]

theorem okData_append (s : CString) :
    okData ++ s = '{' :: (printString "ok".toList ++ ':' :: (print (.bool true) ++ ',' ::
      (printString "data".toList ++ ':' :: '{' :: s))) := by
  have h : okData = '{' :: (printString "ok".toList ++ ':' :: (print (.bool true) ++ ',' ::
      (printString "data".toList ++ [':', '{']))) := by decide
  rw [h]
  simp only [List.cons_append, List.append_assoc, List.nil_append]

theorem print_dataTree (ms : List (CString × Value)) :
    print (dataTree ms) = okData ++ (List.intercalate [','] (printMembers ms) ++ ['}', '}']) := by
  rw [okData_append, dataTree]
  simp only [print.eq_6, printMembers, List.intercalate_cons_cons, List.intercalate_singleton, List.cons_append,
    List.append_assoc, List.nil_append]

def errorTree (code message : CString) : Value :=
  .object [("ok".toList, .bool false), ("error".toList, .object [("code".toList, .string code),
    ("message".toList, .string message)])]

theorem print_errorTree {code message : CString} (hcode : Plain code) (hmessage : Plain message) :
    print (errorTree code message) = errorFront ++ (code ++
      ("\",\"message\":\"".toList ++ (message ++ ['"', '}', '}']))) := by
  have hfront : errorFront = '{' :: (printString "ok".toList ++ ':' ::
      (print (.bool false) ++ ',' :: (printString "error".toList ++ ':' :: '{' ::
        (printString "code".toList ++ [':', '"'])))) := by decide
  have hmid : "\",\"message\":\"".toList = '"' :: ',' :: (printString "message".toList ++ [':', '"']) := by decide
  rw [hfront, hmid, errorTree]
  simp only [print.eq_4, print.eq_6, printMembers, List.intercalate_cons_cons, List.intercalate_singleton,
    printString_plain hcode, printString_plain hmessage, List.cons_append, List.append_assoc, List.nil_append]

/-- An error answer with plain texts is an object. -/
theorem isObject_error {code message : String} (h : SetAdmission.PlainTexts code message) :
    IsObject (makeErrorJson code.toList message.toList) fun _ => True := by
  obtain ⟨hcode, hmessage, hlen⟩ := h
  have hprint := print_errorTree hcode hmessage
  rw [makeErrorJson, ← hprint]
  refine isObject_print.2 ⟨?_, trivial⟩
  rw [errorTree] at hprint
  rw [hprint]
  simp only [List.length_append]
  have hfront : errorFront.length = 29 := by decide
  have hmid : ("\",\"message\":\"".toList).length = 13 := by decide
  have hback : (['"', '}', '}'] : CString).length = 3 := rfl
  omega

/-! A field and its value. -/

def fieldMembers (key : CString) (j : Value) (pending : Bool) : List (CString × Value) :=
  ("field".toList, .string key) :: ("value".toList, j) ::
    if pending then [("reinit_pending".toList, .bool true)] else []

/-- The body of a get or of a set of one field before it is cut to its buffer. -/
def fieldBody (key jsonValue : CString) (pending : Bool) : CString :=
  okData ++ (fieldData key jsonValue ++ (if pending then pendingEnd else ['}', '}']))

theorem fieldBody_pieces (key jsonValue : CString) (pending : Bool) :
    fieldBody key jsonValue pending = okData ++ ("\"field\":\"".toList ++ (key ++ ("\",\"value\":".toList ++
      jsonValue)) ++ (if pending then pendingEnd else ['}', '}'])) := rfl

theorem print_fieldMembers {key : CString} (hkey : Plain key) (j : Value) (pending : Bool) :
    print (dataTree (fieldMembers key j pending)) = fieldBody key (print j) pending := by
  have hfield : "\"field\":\"".toList = printString "field".toList ++ [':', '"'] := by decide
  have hvalue : "\",\"value\":".toList = '"' :: ',' :: (printString "value".toList ++ [':']) := by decide
  have hpending : pendingEnd = ',' :: (printString "reinit_pending".toList ++
      ':' :: (print (.bool true) ++ ['}', '}'])) := by decide
  cases pending with
  | true =>
      rw [print_dataTree, fieldBody_pieces, hfield, hvalue, if_pos rfl, hpending, fieldMembers, if_pos rfl]
      simp only [print.eq_4, printMembers, List.intercalate_cons_cons, List.intercalate_singleton,
        printString_plain hkey, List.cons_append, List.append_assoc, List.nil_append]
  | false =>
      rw [print_dataTree, fieldBody_pieces, hfield, hvalue, if_neg Bool.false_ne_true, fieldMembers,
        if_neg Bool.false_ne_true]
      simp only [print.eq_4, printMembers, List.intercalate_cons_cons, List.intercalate_singleton,
        printString_plain hkey, List.cons_append, List.append_assoc, List.nil_append]

/-- The value at a path decodes to the stored one. -/
def Carries {D F : Type} [CFloat D F] [PrintDouble D] (path : List CString) (v : FieldValue D F) (j : Value) : Prop :=
  ∃ u, j.at? path = some u ∧ Decodes v u

/-! What is behind a name in the data of an answer. -/

/-- The data of an answer from its first member on. -/
theorem of_okData {k s r : CString} {v : Value} (h : Reads (okData ++ (printString k ++ ':' :: s)) v r) :
    ∃ w u ms rest r', Reads s w u ∧ v = .object (("ok".toList, .bool true) :: ("data".toList, .object ((k, w) :: ms)) :: rest) ∧
      ((expect ',' u = none ∧ ms = [] ∧ expect '}' u = some r') ∨
        ∃ u', expect ',' u = some u' ∧ ReadsMembers u' ms r') := by
  rw [okData_append] at h
  obtain ⟨ms, rfl, hms⟩ := h.of_brace
  obtain ⟨ms₁, rfl, hms₁⟩ := hms.of_printed
  obtain ⟨w₁, u₁, ms₂, hw₁, rfl, -⟩ := hms₁.of_member
  obtain ⟨ms₃, rfl, hms₃⟩ := hw₁.of_brace
  obtain ⟨w, u, ms, hw, rfl, hrest⟩ := hms₃.of_member
  exact ⟨w, u, ms, ms₂, u₁, hw, rfl, hrest⟩

/-- Behind a first member that is written out come the second one's value and
what is left. -/
theorem of_second {k k' s r : CString} {x v : Value}
    (h : Reads (okData ++ (printString k ++ ':' :: (print x ++ ',' :: (printString k' ++ ':' :: s)))) v r) :
    ∃ w u ms rest, Reads s w u ∧
      v = .object (("ok".toList, .bool true) :: ("data".toList, .object ((k, x) :: (k', w) :: ms)) :: rest) := by
  obtain ⟨w, u, ms, rest, r', hw, rfl, hrest⟩ := of_okData h
  obtain ⟨rfl, rfl⟩ := hw.unique (reads_print x (stops_delimiter (.inl rfl) _))
  rw [expect_same (by decide)] at hrest
  rcases hrest with ⟨hnone, -⟩ | ⟨u', hu', hms⟩
  · cases hnone
  · obtain rfl := Option.some.inj hu'
    obtain ⟨w, u, ms', hw, rfl, -⟩ := hms.of_member
    exact ⟨w, u, ms', rest, hw, rfl⟩

section

variable {D F : Type} [CFloat D F] [PrintDouble D]

theorem fieldBody_append (key jsonValue : CString) (pending : Bool) : ∃ tail : CString, tail.length ≤ 24 ∧
    fieldBody key jsonValue pending = okData ++ (printString "field".toList ++ ':' :: '"' :: (key ++ '"' :: ',' ::
      (printString "value".toList ++ ':' :: (jsonValue ++ tail)))) := by
  have hfield : "\"field\":\"".toList = printString "field".toList ++ [':', '"'] := by decide
  have hvalue : "\",\"value\":".toList = '"' :: ',' :: (printString "value".toList ++ [':']) := by decide
  refine ⟨(if pending then pendingEnd else ['}', '}']), ?_, ?_⟩
  · cases pending <;> decide
  · rw [fieldBody_pieces, hfield, hvalue]
    simp only [List.cons_append, List.append_assoc, List.nil_append]

def fieldBodyLength (key jsonValue : CString) (pending : Bool) : ℕ :=
  key.length + jsonValue.length + if pending then 62 else 40

theorem length_fieldBody (key jsonValue : CString) (pending : Bool) :
    (fieldBody key jsonValue pending).length = fieldBodyLength key jsonValue pending := by
  have hok : okData.length = 19 := by decide
  have hfield : ("\"field\":\"".toList).length = 9 := by decide
  have hvalue : ("\",\"value\":".toList).length = 10 := by decide
  have hend : ((if pending then pendingEnd else ['}', '}'])).length =
      if pending then 24 else 2 := by cases pending <;> decide
  rw [fieldBody_pieces, fieldBodyLength]
  simp only [List.length_append, hok, hfield, hvalue, hend]
  cases pending with
  | true => rw [if_pos rfl, if_pos rfl]; omega
  | false => rw [if_neg Bool.false_ne_true, if_neg Bool.false_ne_true]; omega

/-- The value comes back from its six digits, if it is a number that has a
fraction, and the body leaves no byte outside its buffer. -/
def Fits (key : CString) (v : FieldValue D F) (pending : Bool) : Prop :=
  Exact v ∧ fieldBodyLength key (fieldText v) pending ≤ 511

def valuePath : List CString := ["data".toList, "value".toList]

omit [CFloat D F] [PrintDouble D] in
theorem at_second {a b c k : CString} (hb : a ≠ b) (hk : c ≠ k) {x y j : Value}
    {ms rest : List (CString × Value)} :
    (Value.object ((a, x) :: (b, .object ((c, y) :: (k, j) :: ms)) :: rest)).at? [b, k] = some j := by
  simp [Value.at?, Value.get?, hb, hk]

omit [CFloat D F] [PrintDouble D] in
theorem at_fieldMembers (key : CString) (j : Value) (pending : Bool) :
    (dataTree (fieldMembers key j pending)).at? valuePath = some j :=
  at_second (by decide) (by decide)

theorem length_printfG_none {v : FieldValue D F} (h : fieldJson v = none) : (fieldText v).length ≤ 4 := by
  have hprint : ∀ x : PrintfG.Double, Double.json x = none → (PrintfG.printfG 6 x).length ≤ 4 := by
    intro x hx
    cases x with
    | finite negative magnitude => cases hx
    | inf negative | nan negative => cases negative <;> decide
  cases v with
  | size width height => cases h
  | member t x =>
      cases t with
      | bool | str n | int | uint32 | uint16 | uint8 => cases h
      | double | float => exact hprint _ h

/-- A body with a value that has JSON is an object if no byte of it is cut off. -/
theorem isObject_field {key : CString} (hkey : Plain key) {v : FieldValue D F} {j : Value} (hj : fieldJson v = some j)
    (pending : Bool) (P : Value → Prop) : IsObject (snprintf 512 (fieldBody key (fieldText v) pending)) P ↔
      fieldBodyLength key (fieldText v) pending ≤ 511 ∧ P (dataTree (fieldMembers key j pending)) := by
  have hprint := print_fieldMembers hkey j pending
  rw [← fieldText_json hj] at hprint
  rw [← length_fieldBody, ← hprint]
  exact isObject_print

theorem field_iff {key : CString} (hkey : Plain key) (hlen : key.length ≤ 127) (v : FieldValue D F) (pending : Bool) :
    IsObject (snprintf 512 (fieldBody key (fieldText v) pending)) (Carries valuePath v) ↔ Fits key v pending := by
  cases hj : fieldJson v with
  | some j =>
      have hexact : Exact v ↔ Decodes v j := by
        rw [exact_iff, hj]
        constructor
        · rintro ⟨j', hj', h⟩
          obtain rfl := Option.some.inj hj'
          exact h
        · exact fun h => ⟨j, rfl, h⟩
      have hcarries : Carries valuePath v (dataTree (fieldMembers key j pending)) ↔ Decodes v j := by
        rw [Carries, at_fieldMembers]
        constructor
        · rintro ⟨u, hu, h⟩
          obtain rfl := Option.some.inj hu
          exact h
        · exact fun h => ⟨j, rfl, h⟩
      rw [Fits, hexact, ← hcarries]
      exact (isObject_field hkey hj pending _).trans And.comm
  | none =>
      refine iff_of_false ?_ ?_
      · rintro ⟨ms, ⟨r, htext, -⟩, -⟩
        have hshort : (fieldBody key (fieldText v) pending).length ≤ 511 := by
          have htext := length_printfG_none hj
          rw [length_fieldBody, fieldBodyLength]
          split <;> omega
        obtain ⟨tail, -, hbody⟩ := fieldBody_append key (fieldText v) pending
        rw [snprintf, List.take_of_length_le hshort, hbody] at htext
        have hname : '"' :: (key ++ '"' :: ',' :: (printString "value".toList ++ ':' :: (fieldText v ++ tail))) =
            print (.string key) ++ ',' :: (printString "value".toList ++ ':' :: (fieldText v ++ tail)) := by
          rw [print, printString_plain hkey, List.cons_append, List.append_assoc, List.singleton_append]
        rw [hname] at htext
        obtain ⟨w, u, -, -, hw, -⟩ := of_second htext
        exact not_reads hj tail w u hw
      · rintro ⟨hexact, -⟩
        obtain ⟨j, hj', -⟩ := (exact_iff v).1 hexact
        cases hj.symm.trans hj'

/-! /api/v1/get -/

omit [CFloat D F] [PrintDouble D] in
theorem plain_of_keyText {key : CString} (h : SetStaging.KeyText key) : Plain key := by
  intro c hc
  refine ⟨?_, ?_, ?_⟩
  · rintro rfl
    exact h.missing (by decide) hc
  · rintro rfl
    exact h.missing (by decide) hc
  · obtain halpha | rfl | rfl := h.2 c hc
    · obtain hletter | hdigit := (Bool.or_eq_true c.isAlpha c.isDigit).mp halpha
      · obtain hupper | hlower := (Bool.or_eq_true c.isUpper c.isLower).mp hletter
        · exact Nat.le_trans (show 32 ≤ 'A'.toNat by decide) (of_decide_eq_true hupper).1
        · exact Nat.le_trans (show 32 ≤ 'a'.toNat by decide) (of_decide_eq_true ((Bool.and_eq_true _ _).mp hlower).1)
      · exact Nat.le_trans (show 32 ≤ '0'.toNat by decide) (of_decide_eq_true ((Bool.and_eq_true _ _).mp hdigit).1)
    · decide
    · decide

omit [CFloat D F] [PrintDouble D] in
theorem plain_of_findField {key : String} {f : FieldDesc} (h : findField (canonicalizeFieldKey key) = some f) :
    Plain key.toList := plain_of_keyText (SetStaging.keyText_of_findField h)

/-- The key of a get and the field it names. -/
def requestedField (query : CString) : Option (CString × FieldDesc) :=
  (firstQueryParam 128 4 query).bind fun p =>
    (findField (canonicalizeFieldKey (String.ofList p.1))).map fun f => (p.1, f)

omit [CFloat D F] [PrintDouble D] in
theorem length_firstQueryParam {keySz valSz : ℕ} {query : CString} {p : CString × CString}
    (h : firstQueryParam keySz valSz query = some p) : p.1.length ≤ keySz - 1 ∧ p.2.length ≤ valSz - 1 := by
  rw [firstQueryParam] at h
  split at h
  · cases h
  · split at h <;> cases h
    · exact ⟨List.length_take_le _ _, List.length_take_le _ _⟩
    · exact ⟨List.length_take_le _ _, Nat.zero_le _⟩

omit [CFloat D F] [PrintDouble D] in
theorem findField_empty : findField (canonicalizeFieldKey (String.ofList [])) = none := by decide

/-- A get is answered by an error, or with the field it names. -/
theorem handleGet_cases (cfg : VencConfig D F) (query : CString) :
    (requestedField query = none ∧ IsObject (handleGet cfg query).body fun _ => True) ∨
      ∃ key f, requestedField query = some (key, f) ∧ Plain key ∧ key.length ≤ 127 ∧
        handleGet cfg query = ⟨200, snprintf 512 (fieldBody key (fieldText (fieldToJsonValueFromCfg cfg f)) false)⟩ := by
  rw [handleGet, requestedField]
  cases hp : firstQueryParam 128 4 query with
  | none => exact .inl ⟨rfl, isObject_error (by decide)⟩
  | some p =>
      obtain ⟨key, dummy⟩ := p
      cases hf : findField (canonicalizeFieldKey (String.ofList key)) with
      | none =>
          refine .inl ⟨by rw [Option.bind_some, hf]; rfl, ?_⟩
          cases key with
          | nil => exact isObject_error (by decide)
          | cons c key =>
              dsimp only
              rw [hf]
              exact isObject_error (by decide)
      | some f =>
          have hplain := plain_of_findField hf
          rw [String.toList_ofList] at hplain
          refine .inr ⟨key, f, by rw [Option.bind_some, hf]; rfl, hplain, (length_firstQueryParam hp).1, ?_⟩
          cases key with
          | nil => cases findField_empty.symm.trans hf
          | cons c key =>
              dsimp only
              rw [hf]
              rfl

theorem get_iff (cfg : VencConfig D F) (query : CString) :
    (IsObject (handleGet cfg query).body fun j => ∀ key f, requestedField query = some (key, f) →
      Carries valuePath (fieldToJsonValueFromCfg cfg f) j) ↔
      ∀ key f, requestedField query = some (key, f) → Fits key (fieldToJsonValueFromCfg cfg f) false := by
  rcases handleGet_cases cfg query with ⟨hnone, ms, htext, -⟩ | ⟨key, f, hfield, hkey, hlen, hbody⟩
  · rw [hnone]
    have hno : ∀ P : CString → FieldDesc → Prop, ∀ key f, none = some (key, f) → P key f := by
      intro P key f h
      cases h
    exact iff_of_true ⟨ms, htext, hno _⟩ (hno _)
  · have hall : ∀ P : CString → FieldDesc → Prop,
        (∀ key f, requestedField query = some (key, f) → P key f) ↔ P key f := by
      intro P
      constructor
      · exact fun h => h key f hfield
      · intro h key' f' hfield'
        obtain ⟨rfl, rfl⟩ := Prod.mk.inj (Option.some.inj (hfield.symm.trans hfield'))
        exact h
    simp only [hall, hbody]
    exact field_iff hkey hlen (fieldToJsonValueFromCfg cfg f) false

end

/-! /api/v1/record/start -/

theorem length_recordStartDir {D F : Type} (cfg : VencConfig D F) (query : CString) :
    (recordStartDir cfg query).length ≤ 255 := by
  have hconfigured : (if (cfg .recordDir).1 ≠ [] then (cfg .recordDir).1
      else RecordControl.recorderDefaultDir.1).length ≤ 255 := by
    split
    · exact (cfg .recordDir).2
    · exact RecordControl.recorderDefaultDir.2
  rw [recordStartDir]
  cases hp : firstQueryParam 64 256 query with
  | none => exact hconfigured
  | some p =>
      dsimp only
      split
      · exact (length_firstQueryParam hp).2
      · exact hconfigured

def recordMembers (dir : CString) : List (CString × Value) :=
  [("action".toList, .string "start".toList), ("dir".toList, .string dir)]

theorem recordBody_eq (dir : CString) :
    okData ++ ("\"action\":\"start\",\"dir\":\"".toList ++ (dir ++ ['"', '}', '}'])) =
      okData ++ (printString "action".toList ++ ':' :: (print (.string "start".toList) ++ ',' ::
        (printString "dir".toList ++ ':' :: '"' :: (dir ++ '"' :: ['}', '}'])))) := by
  have hfront : "\"action\":\"start\",\"dir\":\"".toList = printString "action".toList ++ ':' ::
      (print (.string "start".toList) ++ ',' :: (printString "dir".toList ++ [':', '"'])) := by decide
  rw [hfront]
  simp only [List.cons_append, List.append_assoc, List.nil_append]

def dirPath : List CString := ["data".toList, "dir".toList]

/-- The directory is told as it is exactly when its characters need no escape. -/
theorem record_iff {D F : Type} (cfg : VencConfig D F) (query : CString) :
    (IsObject (handleRecordStart cfg query).body fun j =>
      j.at? dirPath = some (.string (recordStartDir cfg query))) ↔ Plain (recordStartDir cfg query) := by
  have hlen := length_recordStartDir cfg query
  have hbody : (handleRecordStart cfg query).body = snprintf 512 (okData ++
      ("\"action\":\"start\",\"dir\":\"".toList ++ (recordStartDir cfg query ++ ['"', '}', '}']))) := rfl
  rw [hbody, recordBody_eq]
  generalize recordStartDir cfg query = dir at hlen ⊢
  have hshort : (okData ++ (printString "action".toList ++ ':' :: (print (.string "start".toList) ++ ',' ::
      (printString "dir".toList ++ ':' :: '"' :: (dir ++ '"' :: ['}', '}']))))).length ≤ 511 := by
    have hok : okData.length = 19 := by decide
    have haction : (printString "action".toList).length = 8 := by decide
    have hstart : (print (.string "start".toList)).length = 7 := by decide
    have hdir : (printString "dir".toList).length = 5 := by decide
    simp only [List.length_append, List.length_cons, List.length_nil, hok, haction, hstart, hdir]
    omega
  constructor
  · rintro ⟨ms, ⟨r, htext, -⟩, hat⟩
    rw [snprintf, List.take_of_length_le hshort] at htext
    obtain ⟨w, u, more, rest, hw, hms⟩ := of_second htext
    rw [hms, dirPath, at_second (by decide) (by decide)] at hat
    obtain rfl := Option.some.inj hat
    obtain ⟨k, hread, hk⟩ := Reads.of_quote hw
    obtain rfl := Value.string.inj hk
    refine (plain_of_readString hread ?_).1
    intro pre hpre
    have hquote : '"' ∈ ['}', '}'] := hpre ▸ List.mem_append_right pre List.mem_cons_self
    exact absurd hquote (by decide)
  · intro hplain
    have hprint : print (dataTree (recordMembers dir)) = okData ++ (printString "action".toList ++ ':' ::
        (print (.string "start".toList) ++ ',' :: (printString "dir".toList ++ ':' :: '"' ::
          (dir ++ '"' :: ['}', '}'])))) := by
      rw [print_dataTree, recordMembers]
      simp only [print.eq_4, printMembers, List.intercalate_cons_cons, List.intercalate_singleton,
        printString_plain hplain, List.cons_append, List.append_assoc, List.nil_append]
    rw [← hprint] at hshort ⊢
    exact isObject_print.2 ⟨hshort, at_second (by decide) (by decide)⟩

end WaybeamVenc.ApiJson
