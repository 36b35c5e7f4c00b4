import WaybeamVenc.ConfigSave
import WaybeamVenc.Json
import WaybeamVenc.PrintfG
import WaybeamVenc.RecordControl
import WaybeamVenc.SetTransaction

namespace WaybeamVenc.ApiBodies

open CNumber Config FieldTable Json JsonNumber JsonString PrintfG RecordControl SetQuery

/-- What a double is, and what the program relies on where it prints one: an
integer of 32 bits is exact, and a decimal of at most fifteen digits comes back
from the double it was read as, printed with fifteen or seventeen. -/
class PrintDouble (D : Type) {F : outParam Type} [CFloat D F] where
  view : D → Double
  finite_view : ∀ d : D, CFloat.finite d = (view d).value?.isSome
  view_ofInt : ∀ z : ℤ, -2 ^ 31 ≤ z → z < 2 ^ 32 → (view (CFloat.ofRat z : D)).value? = some (z : ℚ)
  reread : ∀ (negative : Bool) (m : ℕ) (e : ℤ), m < 10 ^ 15 → ∀ p ∈ [15, 17], ∀ negative' magnitude,
    view (CFloat.ofRat (signed negative (m * 10 ^ e)) : D) = .finite negative' magnitude →
      (view (CFloat.ofRat (signed negative' (roundSig p magnitude)) : D)).value? =
        some (signed negative' magnitude)

/-- snprintf into a buffer of so many bytes. -/
def snprintf (size : ℕ) (s : CString) : CString := s.take (size - 1)

/-! Numbers in cJSON. -/

section

variable {D F : Type} [CFloat D F] [PrintDouble D]

def fabs (d : D) : D := if CFloat.lt d (CFloat.ofRat 0) then CFloat.mul d (CFloat.ofRat (-1)) else d

def compareDouble (a b : D) : Bool :=
  let maxVal := if CFloat.lt (fabs b) (fabs a) then fabs a else fabs b
  CFloat.le (fabs (CFloat.add a (CFloat.mul b (CFloat.ofRat (-1))))) (CFloat.mul maxVal (CFloat.ofRat (1 / 2 ^ 52)))

/-- The int of a number that was parsed. -/
def valueint (q : ℚ) : ℤ :=
  if 2 ^ 31 - 1 ≤ q then 2 ^ 31 - 1
  else if q ≤ -2 ^ 31 then -2 ^ 31
  else if 0 ≤ q then ⌊q⌋ else ⌈q⌉

def printNumber (d : D) : Value :=
  match PrintDouble.view d with
  | .finite negative magnitude =>
    let q := signed negative magnitude
    if q = valueint q then .number (.ofInt (valueint q))
    else
      let n := formatG 15 negative magnitude
      .number (if compareDouble (CFloat.ofRat n.value) d then n else formatG 17 negative magnitude)
  | _ => .null

variable (D) in
/-- cJSON_Parse of a value's text, as it is printed again. -/
def reprint : Value → Value
  | .number n => printNumber (CFloat.ofRat n.value : D)
  | v => v

/-! The value of a field. -/

def Double.json : Double → Option Value
  | .finite negative magnitude => some (.number (formatG 6 negative magnitude))
  | _ => none

/-- The JSON value that a field's text is, none when it is none. -/
def fieldJson : FieldValue D F → Option Value
  | .member .bool b => some (.bool b)
  | .member .int i => some (.number (.ofInt i.toInt))
  | .member .uint32 n => some (.number (.ofInt n.toNat))
  | .member .uint16 n => some (.number (.ofInt n.toNat))
  | .member .uint8 n => some (.number (.ofInt n.toNat))
  | .member .double d => Double.json (PrintDouble.view d)
  | .member .float x => Double.json (PrintDouble.view (CFloat.ofFloat x : D))
  | .member (.str _) s => some (.string s.1)
  | .size width height => some (.string (ConfigSave.sizeText width height))

/-- The text of field_to_json_value_from_cfg. -/
def fieldText : FieldValue D F → CString
  | .member .bool b => (if b then "true" else "false").toList
  | .member .int i => (Number.ofInt i.toInt).text
  | .member .uint32 n => Nat.toDigits 10 n.toNat
  | .member .uint16 n => Nat.toDigits 10 n.toNat
  | .member .uint8 n => Nat.toDigits 10 n.toNat
  | .member .double d => printfG 6 (PrintDouble.view d)
  | .member .float x => printfG 6 (PrintDouble.view (CFloat.ofFloat x : D))
  | .member (.str _) s => printString s.1
  | .size width height => '"' :: (ConfigSave.sizeText width height ++ ['"'])

end

/-! The bodies. -/

def errorFront : CString := '{' :: ("\"ok\":false,\"error\":".toList ++ '{' :: "\"code\":\"".toList)

/-- make_error_json and httpd_send_error. -/
def makeErrorJson (code message : CString) : CString :=
  snprintf 1024 (errorFront ++ (code ++ ("\",\"message\":\"".toList ++
    (message ++ ['"', '}', '}']))))

def okData : CString := '{' :: ("\"ok\":true,\"data\":".toList ++ ['{'])

/-- The text of a field and its value. -/
def fieldData (key jsonValue : CString) : CString :=
  "\"field\":\"".toList ++ (key ++ ("\",\"value\":".toList ++ jsonValue))

def pendingEnd : CString := ",\"reinit_pending\":true".toList ++ ['}', '}']

def makeSingleSetSuccessJson (fieldKey jsonValue : CString) (reinitPending : Bool) : CString :=
  snprintf 512 (okData ++ (fieldData fieldKey jsonValue ++
    (if reinitPending then pendingEnd else ['}', '}'])))

section

variable {D F : Type} [CFloat D F] [PrintDouble D]

def appliedEntry (e : String × FieldValue D F) : Value :=
  .object [("field".toList, .string e.1.toList), ("value".toList, reprint D ((fieldJson e.2).getD .null))]

/-- The tree of make_multi_live_set_success_json. -/
def appliedTree (entries : List (String × FieldValue D F)) : Value :=
  .object [("ok".toList, .bool true), ("data".toList, .object [("applied".toList, .array (entries.map appliedEntry))])]

def replyBody : Reply D F → CString
  | .single field value reinitPending => makeSingleSetSuccessJson field.toList (fieldText value) reinitPending
  | .applied entries => print (appliedTree entries)
  | .error _ code message => makeErrorJson code.toList message.toList

/-- parse_first_query_param with buffers of these sizes. -/
def firstQueryParam (keySz valSz : ℕ) (query : CString) : Option (CString × CString) :=
  if query = [] then none
  else match cutAt '=' query with
    | some (key, rest) =>
      let value := if '&' ∈ key then rest else ((cutAt '&' rest).map Prod.fst).getD rest
      some (key.take (keySz - 1), value.take (valSz - 1))
    | none => some ((((cutAt '&' query).map Prod.fst).getD query).take (keySz - 1), [])

omit [CFloat D F] [PrintDouble D] in
theorem firstQueryParam_set (query : CString) : firstQueryParam 128 256 query = parseFirstQueryParam query := rfl

structure Response where
  status : ℕ
  body : CString

def httpdSendError (status : ℕ) (code message : String) : Response :=
  ⟨status, makeErrorJson code.toList message.toList⟩

def handleGet (cfg : VencConfig D F) (query : CString) : Response :=
  match firstQueryParam 128 4 query with
  | none | some ([], _) => httpdSendError 400 "invalid_request" "missing query parameter (field name)"
  | some (key, _) =>
    match findField (canonicalizeFieldKey (String.ofList key)) with
    | none => httpdSendError 404 "not_found" "unknown config field"
    | some f =>
      ⟨200, snprintf 512 (okData ++ (fieldData key (fieldText (fieldToJsonValueFromCfg cfg f)) ++ ['}', '}']))⟩

end

def iqNumeric (c : Char) : Bool := c = '-' || c = ',' || c.isDigit

def iqData (key value : CString) : CString :=
  "\"param\":\"".toList ++ (key ++ ("\",\"value\":".toList ++ value))

/-- The callback is there or not; it answers with what apply_iq_param returns. -/
def handleIqSet (applyIqParam : Option (CString → CString → Int32)) (query : CString) : Response :=
  match applyIqParam with
  | none => httpdSendError 501 "not_implemented" "IQ set not available"
  | some apply =>
    match firstQueryParam 64 256 query with
    | none | some ([], _) | some (_, []) =>
      httpdSendError 400 "invalid_request" "usage: /api/v1/iq/set?param=value"
    | some (key, val) =>
      if ¬val.all iqNumeric then
        httpdSendError 400 "invalid_request" "value must be numeric (comma-separated for arrays)"
      else if apply key val ≠ 0 then httpdSendError 400 "apply_failed" "IQ parameter set failed"
      else
        let value := if ',' ∈ val then '[' :: (val ++ [']']) else val
        ⟨200, snprintf 512 (okData ++ (iqData key value ++ ['}', '}']))⟩

/-- The directory a recording is to start in. -/
def recordStartDir {D F : Type} (cfg : VencConfig D F) (query : CString) : CString :=
  let configured := if (cfg .recordDir).1 ≠ [] then (cfg .recordDir).1 else recorderDefaultDir.1
  match firstQueryParam 64 256 query with
  | some (key, dir) => if key = "dir".toList ∧ dir ≠ [] then dir else configured
  | none => configured

def handleRecordStart {D F : Type} (cfg : VencConfig D F) (query : CString) : Response :=
  ⟨200, snprintf 512 (okData ++ ("\"action\":\"start\",\"dir\":\"".toList ++
    (recordStartDir cfg query ++ ['"', '}', '}'])))⟩

end WaybeamVenc.ApiBodies
