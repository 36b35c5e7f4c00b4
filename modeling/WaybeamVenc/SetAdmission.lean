import WaybeamVenc.JsonString
import WaybeamVenc.SetStaging

namespace WaybeamVenc.SetAdmission

open Fallible CNumber Config FieldTable JsonString SetQuery LiveApply LiveGroups SetStaging

variable {D F : Type}

/-! What the parameters of a request write. -/

theorem writes_members [CFloat D F] {f : FieldDesc} {value : CString} {ws : List (Write D F)} (h : f.writes value = some ws) :
    ws.map Sigma.fst = members f := by
  rw [FieldDesc.writes] at h
  rw [members]
  cases ht : f.type with
  | size =>
      rw [ht] at h
      obtain ⟨s, _, rfl⟩ := Option.map_eq_some_iff.1 h
      rfl
  | _ =>
      rw [ht] at h
      obtain ⟨v, _, rfl⟩ := Option.map_eq_some_iff.1 h
      rfl

theorem writeAll_other (cfg : VencConfig D F) (ws : List (Write D F)) {m : Member} (h : m ∉ ws.map Sigma.fst) :
    writeAll cfg ws m = cfg m := by
  induction ws generalizing cfg with
  | nil => rfl
  | cons w ws ih =>
      rw [List.map_cons, List.mem_cons, not_or] at h
      exact (ih (cfg.set w.1 w.2) h.2).trans (cfg.set_other w.2 h.1)

theorem writeAll_mem (cfg : VencConfig D F) {ws : List (Write D F)} (hn : (ws.map Sigma.fst).Nodup)
    {w : Write D F} (h : w ∈ ws) : writeAll cfg ws w.1 = w.2 := by
  induction ws generalizing cfg with
  | nil => cases h
  | cons v ws ih =>
      rw [List.map_cons, List.nodup_cons] at hn
      rcases List.mem_cons.1 h with rfl | h
      · exact (writeAll_other (cfg.set w.1 w.2) ws hn.1).trans (cfg.set_same w.1 w.2)
      · exact ih (cfg.set v.1 v.2) hn.2 h

theorem writeAll_append (cfg : VencConfig D F) (vs ws : List (Write D F)) :
    writeAll cfg (vs ++ ws) = writeAll (writeAll cfg vs) ws := List.foldl_append

variable [CFloat D F]

/-- The parsed values of a parameter, at the members of the field it names. -/
def paramWrites (p : SetQueryParam) : Option (List (Write D F)) :=
  (p.field.or (findField p.canonicalKey)).bind fun f => f.writes p.value

theorem paramWrites_resolve (p : SetQueryParam) : (paramWrites (resolve p) : Option (List (Write D F))) = paramWrites p := by
  unfold paramWrites resolve
  rw [Option.or_assoc, Option.or_self]

theorem mapM_resolve (ps : List SetQueryParam) :
    (ps.map resolve).mapM paramWrites = (ps.mapM paramWrites : Option (List (List (Write D F)))) := by
  rw [List.mapM_map]
  congr 1
  funext p
  exact paramWrites_resolve p

/-- The new config has the parsed values of some parameters, with no member
written twice. -/
def Staged (params : List SetQueryParam) (oldCfg newCfg : VencConfig D F) : Prop :=
  ∃ wss, params.mapM paramWrites = some wss ∧ (wss.flatten.map Sigma.fst).Nodup ∧
    newCfg = writeAll oldCfg wss.flatten

theorem stageParam_ok {cfg cfg' : VencConfig D F} {p : SetQueryParam} (h : stageParam cfg p = .ok cfg') :
    ∃ ws, paramWrites p = some ws ∧ cfg' = writeAll cfg ws := by
  rw [stageParam] at h
  split at h
  next => cases h
  next new hnew =>
    split at h
    next => cases h
    next =>
      cases h
      obtain ⟨f, hf, hw⟩ := Option.bind_eq_some_iff.1 hnew
      obtain ⟨ws, hws, rfl⟩ := Option.map_eq_some_iff.1 hw
      exact ⟨ws, by rw [paramWrites, hf, Option.some_or, Option.bind_some, hws], rfl⟩

theorem stageParamsIntoCfg_ok {backend : String} {oldCfg newCfg : VencConfig D F} {params : List SetQueryParam}
    (h : stageParamsIntoCfg backend oldCfg params = .ok newCfg) :
    ∃ wss, params.mapM paramWrites = some wss ∧ newCfg = writeAll oldCfg wss.flatten := by
  rw [stageParamsIntoCfg] at h
  obtain ⟨cfg, hc, h⟩ := bind_ok h
  have hs := foldlM_ok (fun pre cfg => ∃ wss, pre.mapM paramWrites = some wss ∧ cfg = writeAll oldCfg wss.flatten)
    (fun pre p b b' _ hb hp => by
      obtain ⟨wss, hm, rfl⟩ := hb
      obtain ⟨ws, hw, rfl⟩ := stageParam_ok hp
      refine ⟨wss ++ [ws], by simp [List.mapM_append, hm, hw], ?_⟩
      rw [List.flatten_append, List.flatten_singleton, writeAll_append]) ⟨[], rfl, rfl⟩ hc
  split at h
  next => cases h
  next =>
    cases h
    exact hs

/-- Parameters that name different fields write different members. -/
theorem writes_nodup {params : List SetQueryParam} (hn : ∀ p ∈ params, Named p)
    (hk : (params.map SetQueryParam.canonicalKey).Nodup) {wss : List (List (Write D F))}
    (h : params.mapM paramWrites = some wss) :
    (wss.flatten.map Sigma.fst).Nodup ∧ ∀ m ∈ wss.flatten.map Sigma.fst,
      ∃ p ∈ params, ∃ f, (resolve p).field = some f ∧ m ∈ members f := by
  induction params generalizing wss with
  | nil =>
      cases h
      simp
  | cons p ps ih =>
      rw [List.mapM_cons] at h
      obtain ⟨w, hw, h⟩ := Option.bind_eq_some_iff.1 h
      obtain ⟨wss, hws, h⟩ := Option.bind_eq_some_iff.1 h
      cases h
      rw [List.map_cons, List.nodup_cons] at hk
      obtain ⟨hnd, hmem⟩ := ih (fun q hq => hn q (List.mem_cons_of_mem p hq)) hk.2 hws
      obtain ⟨f, hf, hfw⟩ := Option.bind_eq_some_iff.1 hw
      obtain ⟨hft, hfk⟩ := (hn p List.mem_cons_self).resolve f hf
      have hp := writes_members hfw
      rw [List.flatten_cons, List.map_append, hp]
      constructor
      · rw [List.nodup_append']
        refine ⟨(List.nodup_flatMap.1 members_nodup).1 f hft, hnd, ?_⟩
        intro m hm hm'
        obtain ⟨q, hq, f', hf', hmf'⟩ := hmem m hm'
        obtain ⟨hft', hfk'⟩ := (hn q (List.mem_cons_of_mem p hq)).resolve f' hf'
        have hne : f.key ≠ f'.key := by
          intro he
          apply hk.1
          exact List.mem_map.2 ⟨q, hq, (hfk'.symm.trans he.symm).trans hfk⟩
        exact members_disjoint hft hft' hne hm hmf'
      · intro m hm
        rcases List.mem_append.1 hm with hm | hm
        · exact ⟨p, List.mem_cons_self, f, hf, hm⟩
        · obtain ⟨q, hq, hqf⟩ := hmem m hm
          exact ⟨q, List.mem_cons_of_mem p hq, hqf⟩

/-! The checks of a request, and what it does when they pass. -/

inductive Plan (D F : Type)
  | live (batch : LiveBatch) (newCfg : VencConfig D F) (singleResponse : Bool)
  | restart (param : SetQueryParam) (newCfg : VencConfig D F)

def admitLive (cb : Callbacks) (backend : String) (params : List SetQueryParam) (singleResponse : Bool)
    (oldCfg : VencConfig D F) : Except (Reply D F) (Plan D F) := do
  let batch ← collectLiveGroups backend params
  let newCfg ← stageLiveSet cb backend oldCfg batch
  pure (.live batch newCfg singleResponse)

def admitSingle (cb : Callbacks) (backend : String) (query : CString) (oldCfg : VencConfig D F) :
    Except (Reply D F) (Plan D F) :=
  match parseFirstQueryParam query with
  | none | some ([], _) => .error missingParameter
  | some (key, value) => do
    let (canonicalKey, field) ← resolveSetQueryField backend (String.ofList key)
    let param := initSingleSetParam (String.ofList key) canonicalKey value field
    if field.mutability = .live then admitLive cb backend [param] true oldCfg
    else do
      let newCfg ← stageParamsIntoCfg backend oldCfg [param]
      pure (.restart param newCfg)

/-- The answer to a request that is rejected, or what it is going to do. -/
def admission (cb : Callbacks) (backend : String) (query : CString) (oldCfg : VencConfig D F) :
    Except (Reply D F) (Plan D F) :=
  if '&' ∈ query then
    match parseQueryParams query with
    | .error message => .error (.error 400 "invalid_request" message)
    | .ok params =>
      if params.length < 2 then admitSingle cb backend query oldCfg else admitLive cb backend params false oldCfg
  else admitSingle cb backend query oldCfg

def requestedParams (query : CString) : Option (List SetQueryParam) :=
  let single := (parseFirstQueryParam query).map fun p =>
    [⟨keyBuffer p.1, keyBuffer (canonicalizeFieldKey (String.ofList p.1)).toList, (clip 255 p.2).1, none⟩]
  if '&' ∈ query then
    match parseQueryParams query with
    | .error _ => none
    | .ok params => if params.length < 2 then single else some params
  else single

variable {cb : Callbacks} {backend : String} {c c' : VencConfig D F}

def Rejection (r : Reply D F) : Prop := r.status ∈ [400, 404, 409, 501]

/-- Texts that stand for themselves in JSON, and leave room in a buffer. -/
def PlainTexts (code message : String) : Prop :=
  Plain code.toList ∧ Plain message.toList ∧ code.toList.length + message.toList.length ≤ 900

instance (code message : String) : Decidable (PlainTexts code message) := inferInstanceAs (Decidable (_ ∧ _ ∧ _))

/-- A rejection with such texts. -/
def Refusal (r : Reply D F) : Prop :=
  ∃ status code message, r = .error status code message ∧ status ∈ [400, 404, 409, 501] ∧ PlainTexts code message

omit [CFloat D F] in
theorem Refusal.of {status : Nat} {code message : String} (h : status ∈ [400, 404, 409, 501])
    (ht : PlainTexts code message) : Refusal (.error status code message : Reply D F) :=
  ⟨status, code, message, rfl, h, ht⟩

omit [CFloat D F] in
theorem Refusal.rejection {r : Reply D F} (h : Refusal r) : Rejection r := by
  obtain ⟨status, code, message, rfl, hstatus, -⟩ := h
  exact hstatus

omit [CFloat D F] in
theorem collectParam_error {batch : LiveBatch} {p : SetQueryParam} {r : Reply D F}
    (h : collectParam backend batch p = .error r) : Refusal r := by
  rw [collectParam] at h
  split at h
  · cases h; exact .of (by decide) (by decide)
  · split at h
    · cases h; exact .of (by decide) (by decide)
    · split at h
      · cases h; exact .of (by decide) (by decide)
      · split at h
        · cases h; exact .of (by decide) (by decide)
        · split at h
          · cases h; exact .of (by decide) (by decide)
          · cases h

theorem validateFieldCfg_plain {cfg : VencConfig D F} {key message : String}
    (h : validateFieldCfg cfg key = some message) : PlainTexts "validation_failed" message := by
  rw [validateFieldCfg] at h
  split_ifs at h <;> cases h <;> decide

omit [CFloat D F] in
theorem validateBackendConfig_plain {cfg : VencConfig D F} {message : String}
    (h : validateBackendConfig backend cfg = some message) : PlainTexts "validation_failed" message := by
  rw [validateBackendConfig] at h
  split_ifs at h
  cases h
  decide

theorem stageParam_error {cfg : VencConfig D F} {p : SetQueryParam} {r : Reply D F}
    (h : stageParam cfg p = .error r) : Refusal r := by
  rw [stageParam] at h
  split at h
  · cases h; exact .of (by decide) (by decide)
  · split at h
    · next hmessage =>
      cases h
      exact .of (by decide) (validateFieldCfg_plain hmessage)
    · cases h

theorem stageParamsIntoCfg_error {params : List SetQueryParam} {r : Reply D F}
    (h : stageParamsIntoCfg backend c params = .error r) : Refusal r := by
  rw [stageParamsIntoCfg] at h
  rcases bind_error h with h | ⟨cfg, _, h⟩
  · exact foldlM_error (fun _ _ _ => stageParam_error) h
  · split at h
    · next hmessage =>
      cases h
      exact .of (by decide) (validateBackendConfig_plain hmessage)
    · cases h

theorem stageLiveSet_error {batch : LiveBatch} {r : Reply D F} (h : stageLiveSet cb backend c batch = .error r) :
    Refusal r := by
  rw [stageLiveSet] at h
  rcases bind_error h with h | ⟨cfg, _, h⟩
  · exact stageParamsIntoCfg_error h
  · rcases bind_error h with h | ⟨_, _, h⟩
    · rw [preflightLiveGroupCallbacks] at h
      split at h <;> cases h
      split
      · exact .of (by decide) (by decide)
      · exact .of (by decide) (by decide)
    · cases h

theorem admitLive_error {params : List SetQueryParam} {single : Bool} {r : Reply D F}
    (h : admitLive cb backend params single c = .error r) : Refusal r := by
  rcases bind_error h with h | ⟨batch, _, h⟩
  · exact foldlM_error (fun _ _ _ => collectParam_error) h
  · rcases bind_error h with h | ⟨_, _, h⟩
    · exact stageLiveSet_error h
    · cases h

omit [CFloat D F] in
theorem resolveSetQueryField_error {key : String} {r : Reply D F}
    (h : resolveSetQueryField backend key = .error r) : Refusal r := by
  simp only [resolveSetQueryField] at h
  split at h
  · cases h; exact .of (by decide) (by decide)
  · split at h <;> cases h
    exact .of (by decide) (by decide)

theorem admitSingle_error {query : CString} {r : Reply D F} (h : admitSingle cb backend query c = .error r) :
    Refusal r := by
  rw [admitSingle] at h
  split at h
  · cases h; exact .of (by decide) (by decide)
  · cases h; exact .of (by decide) (by decide)
  · rcases bind_error h with h | ⟨⟨key, field⟩, _, h⟩
    · exact resolveSetQueryField_error h
    · dsimp only at h
      split at h
      · exact admitLive_error h
      · rcases bind_error h with h | ⟨_, _, h⟩
        · exact stageParamsIntoCfg_error h
        · cases h

theorem parseParam_error {segment : CString} {message : String} (h : parseParam segment = .error message) :
    PlainTexts "invalid_request" message := by
  rw [parseParam] at h
  split at h <;> cases h <;> decide

theorem parseSegments_error {room : Nat} {query : CString} {message : String}
    (h : parseSegments room query = .error message) : PlainTexts "invalid_request" message := by
  fun_induction parseSegments room query with
  | case1 => cases h
  | case2 | case3 =>
      cases h
      decide
  | case4 ch s segment rest room hne hcut ih =>
      rcases bind_error h with h | ⟨p, _, h⟩
      · exact parseParam_error h
      · rcases bind_error h with h | ⟨ps, _, h⟩
        · exact ih h
        · cases h

theorem parseQueryParams_error {query : CString} {message : String} (h : parseQueryParams query = .error message) :
    PlainTexts "invalid_request" message := by
  rw [parseQueryParams] at h
  split at h
  · cases h; decide
  · exact parseSegments_error h

/-- A request that is rejected is answered in plain texts. -/
theorem admission_refusal {query : CString} {r : Reply D F} (h : admission cb backend query c = .error r) :
    Refusal r := by
  rw [admission] at h
  split at h
  · split at h
    · next hmessage =>
      cases h
      exact .of (by decide) (parseQueryParams_error hmessage)
    · split at h
      · exact admitSingle_error h
      · exact admitLive_error h
  · exact admitSingle_error h

theorem admit_error {query : CString} {r : Reply D F} (h : admission cb backend query c = .error r) : Rejection r :=
  (admission_refusal h).rejection

/-! What the checks establish. -/

theorem named_single {key value : CString} {canonicalKey : String} {field : FieldDesc}
    (h : findField canonicalKey = some field) :
    Named (initSingleSetParam (String.ofList key) canonicalKey value field) ∧
      (initSingleSetParam (String.ofList key) canonicalKey value field).canonicalKey = canonicalKey := by
  obtain ⟨hf, rfl⟩ := findField_spec h
  have hk : keyBuffer field.key.toList = field.key := by
    rw [keyBuffer, clip_of_le (fields_keyText field hf).1, String.ofList_toList]
  refine ⟨?_, hk⟩
  rintro f (_ | _)
  exact ⟨hf, hk.symm⟩

theorem stageLiveSet_ok {batch : LiveBatch} {newCfg : VencConfig D F}
    (h : stageLiveSet cb backend c batch = .ok newCfg) : stageParamsIntoCfg backend c batch.params = .ok newCfg ∧
      ∀ g ∈ batch.groupOrder, liveGroupSupportedForCfg cb newCfg g batch.touched = true := by
  obtain ⟨cfg, hc, h⟩ := bind_ok h
  obtain ⟨_, hp, h⟩ := bind_ok h
  cases h
  rw [preflightLiveGroupCallbacks] at hp
  split at hp
  · exact ⟨hc, ‹_›⟩
  · cases hp

/-- A live batch changes the members of its groups only, and has the callbacks
that they need. -/
structure Admitted (cb : Callbacks) (params : List SetQueryParam) (oldCfg : VencConfig D F) (batch : LiveBatch)
    (newCfg : VencConfig D F) : Prop where
  staged : Staged params oldCfg newCfg
  differs : DiffersOn batch.groupOrder batch.touched oldCfg newCfg
  supported : ∀ g ∈ batch.groupOrder, liveGroupSupportedForCfg cb oldCfg g batch.touched = true

theorem admitted {params : List SetQueryParam} {batch : LiveBatch} {newCfg : VencConfig D F}
    (hb : Collected params batch) (h : stageLiveSet cb backend c batch = .ok newCfg) :
    Admitted cb params c batch newCfg := by
  obtain ⟨hs, hsup⟩ := stageLiveSet_ok h
  obtain ⟨wss, hm, rfl⟩ := stageParamsIntoCfg_ok hs
  obtain ⟨hnd, hmem⟩ := writes_nodup hb.named hb.nodup hm
  have hd : DiffersOn batch.groupOrder batch.touched c (writeAll c wss.flatten) := by
    intro m hm
    apply writeAll_other
    intro hw
    obtain ⟨p, hp, f, hf, hmf⟩ := hmem m hw
    obtain ⟨f', hf', hcov⟩ := hb.covered p hp
    rw [resolve, hf', Option.some_or] at hf
    cases hf
    obtain ⟨g, hg, hmg⟩ := hcov m hmf
    exact hm g hg hmg
  constructor
  · refine ⟨wss, ?_, hnd, rfl⟩
    rw [← mapM_resolve, ← hb.params, hm]
  · exact hd
  · intro g hg
    rw [← hsup g hg]
    exact supported_congr cb (hd.of_memberGroup rfl).symm g batch.touched

/-- What the checks of a request with some parameters let through. -/
def Plan.Ok (cb : Callbacks) (params : List SetQueryParam) (oldCfg : VencConfig D F) : Plan D F → Prop
  | .live batch newCfg _ => Admitted cb params oldCfg batch newCfg
  | .restart _ newCfg => Staged params oldCfg newCfg

theorem admitLive_ok {params : List SetQueryParam} {single : Bool} {plan : Plan D F} (hn : ∀ p ∈ params, Named p)
    (h : admitLive cb backend params single c = .ok plan) : plan.Ok cb params c := by
  obtain ⟨batch, hb, h⟩ := bind_ok h
  obtain ⟨newCfg, hs, h⟩ := bind_ok h
  cases h
  exact admitted (collectLiveGroups_ok hn hb) hs

theorem Plan.Ok.of_resolve {params : List SetQueryParam} {plan : Plan D F}
    (h : plan.Ok cb (params.map resolve) c) : plan.Ok cb params c := by
  have hs : ∀ newCfg, Staged (params.map resolve) c newCfg → Staged params c newCfg := by
    rintro newCfg ⟨wss, hm, hw⟩
    exact ⟨wss, by rw [← mapM_resolve, hm], hw⟩
  cases plan with
  | live batch newCfg single => exact ⟨hs newCfg h.staged, h.differs, h.supported⟩
  | restart p newCfg => exact hs newCfg h

theorem parseParam_unset {segment : CString} {p : SetQueryParam} (h : parseParam segment = .ok p) : p.field = none := by
  rw [parseParam] at h
  split at h <;> cases h
  rfl

/-- The parameters of a request come without their fields. -/
theorem parseSegments_unset {room : Nat} {query : CString} {params : List SetQueryParam}
    (h : parseSegments room query = .ok params) : ∀ p ∈ params, p.field = none := by
  fun_induction parseSegments room query generalizing params with
  | case1 =>
      cases h
      simp
  | case2 | case3 => cases h
  | case4 ch s segment rest room hne hcut ih =>
      obtain ⟨p, hp, h⟩ := bind_ok h
      obtain ⟨ps, hps, h⟩ := bind_ok h
      cases h
      intro q hq
      rcases List.mem_cons.1 hq with rfl | hq
      · exact parseParam_unset hp
      · exact ih hps q hq

theorem named_of_unset {p : SetQueryParam} (h : p.field = none) : Named p := by
  intro f hf
  rw [h] at hf
  cases hf

/-- A request with one parameter goes the way of the field that it names. -/
theorem admitSingle_cases {query : CString} {plan : Plan D F} (h : admitSingle cb backend query c = .ok plan) :
    ∃ key value f, parseFirstQueryParam query = some (key, value) ∧
      findField (canonicalizeFieldKey (String.ofList key)) = some f ∧
      ((f.mutability = .live ∧ admitLive cb backend
          [initSingleSetParam (String.ofList key) (canonicalizeFieldKey (String.ofList key)) value f] true c = .ok plan) ∨
        (f.mutability ≠ .live ∧ ∃ newCfg, stageParamsIntoCfg backend c
          [initSingleSetParam (String.ofList key) (canonicalizeFieldKey (String.ofList key)) value f] = .ok newCfg ∧
          plan = .restart
            (initSingleSetParam (String.ofList key) (canonicalizeFieldKey (String.ofList key)) value f) newCfg)) := by
  rw [admitSingle] at h
  split at h
  · cases h
  · cases h
  next key value _ hp =>
    obtain ⟨⟨canonicalKey, field⟩, hr, h⟩ := bind_ok h
    simp only [resolveSetQueryField] at hr
    split at hr
    · cases hr
    next f hf =>
      cases hr
      refine ⟨key, value, field, hp, hf, ?_⟩
      dsimp only at h
      split at h
      next hlive => exact .inl ⟨hlive, h⟩
      next hlive =>
        obtain ⟨newCfg, hs, h⟩ := bind_ok h
        cases h
        exact .inr ⟨hlive, newCfg, hs, rfl⟩

theorem admitSingle_ok {query : CString} {plan : Plan D F} (h : admitSingle cb backend query c = .ok plan) :
    ∃ key value, parseFirstQueryParam query = some (key, value) ∧
      plan.Ok cb [⟨keyBuffer key, keyBuffer (canonicalizeFieldKey (String.ofList key)).toList, (clip 255 value).1,
        none⟩] c := by
  obtain ⟨key, value, field, hp, hf, hway⟩ := admitSingle_cases h
  refine ⟨key, value, hp, ?_⟩
  obtain ⟨hn, hk⟩ : Named (initSingleSetParam (String.ofList key) _ value _) ∧ _ := named_single hf
  apply Plan.Ok.of_resolve
  have hres : resolve ⟨keyBuffer key, keyBuffer (canonicalizeFieldKey (String.ofList key)).toList,
      (clip 255 value).1, none⟩ =
      initSingleSetParam (String.ofList key) (canonicalizeFieldKey (String.ofList key)) value field := by
    rw [resolve, Option.none_or]
    change keyBuffer (canonicalizeFieldKey (String.ofList key)).toList = _ at hk
    simp only [hk, hf, initSingleSetParam, String.toList_ofList]
  rw [List.map_singleton, hres]
  obtain ⟨-, hlive⟩ | ⟨-, newCfg, hs, rfl⟩ := hway
  · apply admitLive_ok _ hlive
    simpa using hn
  · obtain ⟨wss, hm, rfl⟩ := stageParamsIntoCfg_ok hs
    exact ⟨wss, hm, (writes_nodup (by simpa using hn) (by simp) hm).1, rfl⟩

theorem admit_ok {query : CString} {plan : Plan D F} (h : admission cb backend query c = .ok plan) :
    ∃ params, requestedParams query = some params ∧ plan.Ok cb params c := by
  rw [admission] at h
  rw [requestedParams]
  split at h
  next ha =>
    rw [if_pos ha]
    split at h
    · cases h
    next params hp =>
      split at h
      next hl =>
        obtain ⟨key, value, hq, hok⟩ := admitSingle_ok h
        exact ⟨_, by simp only [hq, if_pos hl, Option.map_some], hok⟩
      next hl =>
        refine ⟨params, by simp only [if_neg hl], admitLive_ok ?_ h⟩
        rw [parseQueryParams] at hp
        split at hp
        · cases hp
        · exact fun p hmem => named_of_unset (parseSegments_unset hp p hmem)
  next ha =>
    rw [if_neg ha]
    obtain ⟨key, value, hq, hok⟩ := admitSingle_ok h
    exact ⟨_, by simp only [hq, Option.map_some], hok⟩

end WaybeamVenc.SetAdmission
