import WaybeamVenc.FieldTable

namespace WaybeamVenc.SetQuery

open CNumber Config FieldTable

variable {D F : Type} [CFloat D F]

/-- The text before and after the first occurrence of a character. -/
def cutAt (sep : Char) : CString → Option (CString × CString)
  | [] => none
  | c :: s => if c = sep then some ([], s) else (cutAt sep s).map fun r => (c :: r.1, r.2)

theorem cutAt_eq (sep : Char) (s : CString) :
    cutAt sep s = if sep ∈ s then some (s.takeWhile (· ≠ sep), (s.dropWhile (· ≠ sep)).tail) else none := by
  induction s with
  | nil => rfl
  | cons d s ih =>
    rw [cutAt]
    by_cases hd : d = sep
    · subst hd
      rw [if_pos rfl, if_pos List.mem_cons_self, List.takeWhile_cons_of_neg (by simp), List.dropWhile_cons_of_neg (by simp)]
      rfl
    · have hmem : sep ∈ d :: s ↔ sep ∈ s := List.mem_cons.trans (or_iff_right fun h => hd h.symm)
      have hpos : decide (d ≠ sep) = true := decide_eq_true hd
      have htake : (d :: s).takeWhile (· ≠ sep) = d :: s.takeWhile (· ≠ sep) := List.takeWhile_cons_of_pos hpos
      have hdrop : (d :: s).dropWhile (· ≠ sep) = s.dropWhile (· ≠ sep) := List.dropWhile_cons_of_pos hpos
      rw [if_neg hd, ih, htake, hdrop]
      simp only [hmem]
      split <;> rfl

structure SetQueryParam where
  key : String
  canonicalKey : String
  value : CString
  field : Option FieldDesc

/-- A key in a buffer of 128 bytes. -/
def keyBuffer (key : CString) : String := String.ofList (clip 127 key).1

def parseFirstQueryParam (query : CString) : Option (CString × CString) :=
  if query = [] then none
  else match cutAt '=' query with
    | some (key, rest) =>
      -- the length of a value behind the first '&' wraps, and the copy runs to the end
      let value := if '&' ∈ key then rest else ((cutAt '&' rest).map Prod.fst).getD rest
      some (key.take 127, value.take 255)
    | none => some ((((cutAt '&' query).map Prod.fst).getD query).take 127, [])

def setQueryMaxParams : Nat := 16

def parseParam (segment : CString) : Except String SetQueryParam :=
  match cutAt '=' segment with
  | none | some ([], _) => .error "missing query parameter key=value"
  | some (key, value) =>
    let key := keyBuffer key
    .ok ⟨key, keyBuffer (canonicalizeFieldKey key).toList, value.take 255, none⟩

/-- The parameters from the cursor on, with room for so many. -/
def parseSegments : Nat → CString → Except String (List SetQueryParam)
  | _, [] => .ok []
  | room, c :: s =>
    match (cutAt '&' (c :: s)).getD (c :: s, []), room with
    | ([], _), _ => .error "empty query parameter"
    | _, 0 => .error "too many query parameters"
    | (segment, rest), room + 1 => do
      let p ← parseParam segment
      let ps ← parseSegments room rest
      pure (p :: ps)

def parseQueryParams (query : CString) : Except String (List SetQueryParam) :=
  if query = [] then .error "missing query parameter key=value" else parseSegments setQueryMaxParams query

/-- The answers to a set, before they are written as JSON. -/
inductive Reply (D F : Type)
  | single (field : String) (value : FieldValue D F) (reinitPending : Bool)
  | applied (entries : List (String × FieldValue D F))
  | error (status : Nat) (code message : String)

def Reply.status : Reply D F → Nat
  | .single .. | .applied _ => 200
  | .error status .. => status

inductive LiveApplyGroup
  | bitrate
  | videoTiming
  | qpDelta
  | roi
  | exposure
  | gainMax
  | awb
  | verbose
  | outgoing
  | mute
deriving DecidableEq

structure LiveBatchTouched where
  videoFps : Bool
  videoGop : Bool
  awbMode : Bool
  awbCt : Bool
  outgoingEnabled : Bool
  outgoingServer : Bool

def LiveBatchTouched.none : LiveBatchTouched := ⟨false, false, false, false, false, false⟩

def liveGroupForKey (canonicalKey : String) : Option LiveApplyGroup :=
  if canonicalKey = "video0.bitrate" then some .bitrate
  else if canonicalKey = "video0.fps" ∨ canonicalKey = "video0.gop_size" then some .videoTiming
  else if canonicalKey = "video0.qp_delta" then some .qpDelta
  else if canonicalKey = "fpv.roi_enabled" ∨ canonicalKey = "fpv.roi_qp" ∨
      canonicalKey = "fpv.roi_steps" ∨ canonicalKey = "fpv.roi_center" then some .roi
  else if canonicalKey = "isp.exposure" then some .exposure
  else if canonicalKey = "isp.gain_max" then some .gainMax
  else if canonicalKey = "isp.awb_mode" ∨ canonicalKey = "isp.awb_ct" then some .awb
  else if canonicalKey = "system.verbose" then some .verbose
  else if canonicalKey = "outgoing.enabled" ∨ canonicalKey = "outgoing.server" then some .outgoing
  else if canonicalKey = "audio.mute" then some .mute
  else none

def liveGroupName : LiveApplyGroup → String
  | .bitrate => "video0.bitrate"
  | .videoTiming => "video0.fps/video0.gop_size"
  | .qpDelta => "video0.qp_delta"
  | .roi => "fpv.roi_*"
  | .exposure => "isp.exposure"
  | .gainMax => "isp.gain_max"
  | .awb => "isp.awb_*"
  | .verbose => "system.verbose"
  | .outgoing => "outgoing.*"
  | .mute => "audio.mute"

def noteLiveGroupTouch (touched : LiveBatchTouched) (canonicalKey : String) : LiveBatchTouched :=
  if canonicalKey = "video0.fps" then { touched with videoFps := true }
  else if canonicalKey = "video0.gop_size" then { touched with videoGop := true }
  else if canonicalKey = "isp.awb_mode" then { touched with awbMode := true }
  else if canonicalKey = "isp.awb_ct" then { touched with awbCt := true }
  else if canonicalKey = "outgoing.enabled" then { touched with outgoingEnabled := true }
  else if canonicalKey = "outgoing.server" then { touched with outgoingServer := true }
  else touched

structure LiveBatch where
  params : List SetQueryParam
  groupOrder : List LiveApplyGroup
  touched : LiveBatchTouched

def LiveBatch.empty : LiveBatch := ⟨[], [], .none⟩

def collectParam (backend : String) (batch : LiveBatch) (p : SetQueryParam) : Except (Reply D F) LiveBatch :=
  match p.field.or (findField p.canonicalKey) with
  | none => .error (.error 404 "not_found" "unknown config field")
  | some field =>
    if ¬fieldSupportedForBackend backend p.canonicalKey then
      .error (.error 501 "not_implemented" "field not supported on this backend")
    else if field.mutability ≠ .live then
      .error (.error 400 "invalid_request"
        "multi-set only supports live fields; restart-required fields must be set one at a time")
    else if ∃ q ∈ batch.params, q.canonicalKey = p.canonicalKey then
      .error (.error 400 "invalid_request" "duplicate field in multi-set request")
    else match liveGroupForKey p.canonicalKey with
      | none => .error (.error 400 "invalid_request" "field does not support multi-set batching")
      | some group =>
        .ok { params := batch.params ++ [{ p with field := some field }]
              groupOrder := if group ∈ batch.groupOrder then batch.groupOrder else batch.groupOrder ++ [group]
              touched := noteLiveGroupTouch batch.touched p.canonicalKey }

def collectLiveGroups (backend : String) (params : List SetQueryParam) : Except (Reply D F) LiveBatch :=
  params.foldlM (collectParam backend) .empty

def stageParam (cfg : VencConfig D F) (p : SetQueryParam) : Except (Reply D F) (VencConfig D F) :=
  match p.field.bind fun field => fieldFromStringCfg cfg field p.value with
  | none => .error (.error 400 "validation_failed" "invalid value for field")
  | some cfg =>
    match validateFieldCfg cfg p.canonicalKey with
    | some fieldErr => .error (.error 409 "validation_failed" fieldErr)
    | none => .ok cfg

def stageParamsIntoCfg (backend : String) (cfg : VencConfig D F) (params : List SetQueryParam) :
    Except (Reply D F) (VencConfig D F) := do
  let cfg ← params.foldlM stageParam cfg
  match validateBackendConfig backend cfg with
  | some err => .error (.error 409 "validation_failed" err)
  | none => .ok cfg

def paramValue (cfg : VencConfig D F) (p : SetQueryParam) : Option (String × FieldValue D F) :=
  p.field.map fun field => (p.key, fieldToJsonValueFromCfg cfg field)

/-- The entries of the answer, none when one of them has no JSON value. -/
def makeMultiLiveSetSuccessJson (cfg : VencConfig D F) (params : List SetQueryParam) : Option (Reply D F) := do
  let entries ← params.mapM (paramValue cfg)
  if ∀ e ∈ entries, e.2.parses then some (.applied entries) else none

def makeLiveSetResponse (cfg : VencConfig D F) (params : List SetQueryParam) (singleResponse : Bool) :
    Option (Reply D F) :=
  match params, singleResponse with
  | [], _ => none
  | p :: _, true => (paramValue cfg p).map fun e => .single e.1 e.2 false
  | params, false => makeMultiLiveSetSuccessJson cfg params

def resolveSetQueryField (backend key : String) : Except (Reply D F) (String × FieldDesc) :=
  let canonicalKey := canonicalizeFieldKey key
  match findField canonicalKey with
  | none => .error (.error 404 "not_found" "unknown config field")
  | some field =>
    if ¬fieldSupportedForBackend backend canonicalKey then
      .error (.error 501 "not_implemented" "field not supported on this backend")
    else .ok (canonicalKey, field)

def initSingleSetParam (key canonicalKey : String) (value : CString) (field : FieldDesc) : SetQueryParam :=
  ⟨keyBuffer key.toList, keyBuffer canonicalKey.toList, (clip 255 value).1, some field⟩

end WaybeamVenc.SetQuery
