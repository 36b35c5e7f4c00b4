import WaybeamVenc.ApiJson

namespace WaybeamVenc.SetAnswers

open Fallible CNumber Config FieldTable JsonString SetQuery LiveApply LiveGroups SetStaging SetAdmission SetTransaction
  ApiJson

variable {D F : Type} [CFloat D F] {cb : Callbacks} {backend : String} {c c' : VencConfig D F}
  {l : List (ApplyCall × Bool)} {query : CString}

/-- The entry that a live parameter has in an answer. -/
def Entry (stored : VencConfig D F) (p : SetQueryParam) (e : String × FieldValue D F) : Prop :=
  ∃ f, findField p.canonicalKey = some f ∧ f.mutability = .live ∧ e = (p.key, fieldToJsonValueFromCfg stored f)

/-- The answer to an accepted request tells what is stored for its parameters. -/
def Told (stored : VencConfig D F) (params : List SetQueryParam) : Reply D F → Prop
  | .single key v pending => ∃ p f, params = [p] ∧ Plain p.key.toList ∧ p.key.toList.length ≤ 127 ∧
      findField p.canonicalKey = some f ∧ key = p.key ∧ v = fieldToJsonValueFromCfg stored f ∧
      pending = decide (f.mutability = .restart)
  | .applied entries => 2 ≤ params.length ∧ List.Forall₂ (Entry stored) params entries ∧
      ∀ e ∈ entries, e.2.parses = true
  | .error .. => False

/-! The parameters of a batch. -/

def LiveParam (p : SetQueryParam) : Prop := ∃ f, (resolve p).field = some f ∧ f.mutability = .live

omit [CFloat D F] in
theorem collectLiveGroups_live {params : List SetQueryParam} {batch : LiveBatch}
    (h : (collectLiveGroups backend params : Except (Reply D F) LiveBatch) = .ok batch) :
    batch.params = params.map resolve ∧ ∀ p ∈ params, LiveParam p := by
  refine foldlM_ok (fun pre batch => batch.params = pre.map resolve ∧ ∀ p ∈ pre, LiveParam p) ?_ ⟨rfl, by simp⟩ h
  rintro pre p batch batch' - ⟨hparams, hlive⟩ hc
  obtain ⟨f, group, hf, hmut, -, -, rfl⟩ := collectParam_cases hc
  refine ⟨?_, ?_⟩
  · rw [List.map_append, ← hparams]
    rfl
  · intro q hq
    rcases List.mem_append.1 hq with hq | hq
    · exact hlive q hq
    · rw [List.mem_singleton.1 hq]
      exact ⟨f, hf, hmut⟩

/-- A parameter without a field is looked up. -/
theorem resolve_unset {p : SetQueryParam} (h : p.field = none) : (resolve p).field = findField p.canonicalKey := by
  rw [resolve, h, Option.none_or]

omit [CFloat D F] in
theorem entries_of_params {params : List SetQueryParam} (hunset : ∀ p ∈ params, p.field = none)
    (hlive : ∀ p ∈ params, LiveParam p) {stored : VencConfig D F} {entries : List (String × FieldValue D F)}
    (h : (params.map resolve).mapM (paramValue stored) = some entries) :
    List.Forall₂ (Entry stored) params entries := by
  induction params generalizing entries with
  | nil =>
      cases h
      exact .nil
  | cons p params ih =>
      rw [List.map_cons, List.mapM_cons] at h
      obtain ⟨e, he, h⟩ := Option.bind_eq_some_iff.1 h
      obtain ⟨es, hes, h⟩ := Option.bind_eq_some_iff.1 h
      cases h
      refine .cons ?_ (ih (fun q hq => hunset q (List.mem_cons_of_mem p hq))
        (fun q hq => hlive q (List.mem_cons_of_mem p hq)) hes)
      obtain ⟨f, hf, hmut⟩ := hlive p List.mem_cons_self
      have hfield := resolve_unset (hunset p List.mem_cons_self)
      rw [paramValue, hf] at he
      cases he
      exact ⟨f, hfield.symm.trans hf, hmut, rfl⟩

/-! One parameter. -/

/-- The parameter that requestedParams has for a request with one. -/
def singleParam (key value : CString) : SetQueryParam :=
  ⟨keyBuffer key, keyBuffer (canonicalizeFieldKey (String.ofList key)).toList, (clip 255 value).1, none⟩

theorem length_parsedKey {key value : CString} (h : parseFirstQueryParam query = some (key, value)) : key.length ≤ 127 := by
  rw [← ApiBodies.firstQueryParam_set] at h
  exact (length_firstQueryParam h).1

theorem told_single {key value : CString} {f : FieldDesc} (hparsed : parseFirstQueryParam query = some (key, value))
    (hf : findField (canonicalizeFieldKey (String.ofList key)) = some f) (stored : VencConfig D F) :
    Told stored [singleParam key value] (.single (singleParam key value).key (fieldToJsonValueFromCfg stored f)
      (decide (f.mutability = .restart))) := by
  have hlen := length_parsedKey hparsed
  have hkey : (singleParam key value).key.toList = key := by
    rw [singleParam, keyBuffer, clip_of_le hlen, String.toList_ofList]
  have hplain := plain_of_findField hf
  rw [String.toList_ofList] at hplain
  obtain ⟨-, hcanonical⟩ := @named_single key value _ _ hf
  refine ⟨singleParam key value, f, rfl, ?_, ?_, ?_, rfl, rfl, rfl⟩
  · rw [hkey]
    exact hplain
  · rw [hkey]
    exact hlen
  · exact (congrArg findField hcanonical).trans hf

/-- The plan of a request with one parameter. -/
theorem admitSingle_plan {plan : Plan D F} (h : admitSingle cb backend query c = .ok plan) :
    ∃ key value f, parseFirstQueryParam query = some (key, value) ∧
      findField (canonicalizeFieldKey (String.ofList key)) = some f ∧
      ((f.mutability = .live ∧ ∃ batch newCfg, plan = .live batch newCfg true ∧ batch.params =
          [initSingleSetParam (String.ofList key) (canonicalizeFieldKey (String.ofList key)) value f]) ∨
        (f.mutability ≠ .live ∧ ∃ newCfg, plan = .restart
          (initSingleSetParam (String.ofList key) (canonicalizeFieldKey (String.ofList key)) value f) newCfg)) := by
  obtain ⟨key, value, f, hp, hf, ⟨hmut, hlive⟩ | ⟨hmut, newCfg, -, rfl⟩⟩ := admitSingle_cases h
  · obtain ⟨batch, hb, hlive⟩ := bind_ok hlive
    obtain ⟨newCfg, -, hlive⟩ := bind_ok hlive
    cases hlive
    exact ⟨key, value, f, hp, hf, .inl ⟨hmut, batch, newCfg, rfl, (collectLiveGroups_live hb).1⟩⟩
  · exact ⟨key, value, f, hp, hf, .inr ⟨hmut, newCfg, rfl⟩⟩

/-! Several parameters. -/

theorem parseQueryParams_unset {params : List SetQueryParam} (h : parseQueryParams query = .ok params) :
    ∀ p ∈ params, p.field = none := by
  rw [parseQueryParams] at h
  split at h
  · cases h
  · exact parseSegments_unset h

/-! The whole request. -/

/-- The parameters of an accepted request and its plan: one that names a field,
or several live ones. -/
inductive Accepted (query : CString) (params : List SetQueryParam) : Plan D F → Prop
  | live (key value : CString) (f : FieldDesc) (batch : LiveBatch) (newCfg : VencConfig D F)
      (parsed : parseFirstQueryParam query = some (key, value))
      (found : findField (canonicalizeFieldKey (String.ofList key)) = some f) (mutability : f.mutability = .live)
      (requested : params = [singleParam key value]) (collected : batch.params =
        [initSingleSetParam (String.ofList key) (canonicalizeFieldKey (String.ofList key)) value f]) :
      Accepted query params (.live batch newCfg true)
  | restart (key value : CString) (f : FieldDesc) (newCfg : VencConfig D F)
      (parsed : parseFirstQueryParam query = some (key, value))
      (found : findField (canonicalizeFieldKey (String.ofList key)) = some f) (mutability : f.mutability ≠ .live)
      (requested : params = [singleParam key value]) : Accepted query params
        (.restart (initSingleSetParam (String.ofList key) (canonicalizeFieldKey (String.ofList key)) value f) newCfg)
  | batch (batch : LiveBatch) (newCfg : VencConfig D F) (several : 2 ≤ params.length)
      (unset : ∀ p ∈ params, p.field = none) (mutability : ∀ p ∈ params, LiveParam p)
      (collected : batch.params = params.map resolve) : Accepted query params (.live batch newCfg false)

theorem admitSingle_accepted {plan : Plan D F} (h : admitSingle cb backend query c = .ok plan) :
    ∃ key value, parseFirstQueryParam query = some (key, value) ∧ Accepted query [singleParam key value] plan := by
  obtain ⟨key, value, f, hparsed, hf, ⟨hlive, batch, newCfg, rfl, hparams⟩ | ⟨hlive, newCfg, rfl⟩⟩ :=
    admitSingle_plan h
  · exact ⟨key, value, hparsed, .live key value f batch newCfg hparsed hf hlive rfl hparams⟩
  · exact ⟨key, value, hparsed, .restart key value f newCfg hparsed hf hlive rfl⟩

theorem admission_accepted {plan : Plan D F} (h : admission cb backend query c = .ok plan) :
    ∃ params, requestedParams query = some params ∧ Accepted query params plan := by
  rw [admission] at h
  rw [requestedParams]
  split at h
  next ha =>
    rw [if_pos ha]
    split at h
    · cases h
    next params hp =>
      split at h
      next hl =>
        obtain ⟨key, value, hq, haccepted⟩ := admitSingle_accepted h
        exact ⟨_, by simp only [hq, if_pos hl, Option.map_some, singleParam], haccepted⟩
      next hl =>
        obtain ⟨batch, hb, h⟩ := bind_ok h
        obtain ⟨newCfg, -, h⟩ := bind_ok h
        cases h
        obtain ⟨hparams, hlive⟩ := collectLiveGroups_live hb
        exact ⟨params, by simp only [if_neg hl],
          .batch batch newCfg (Nat.le_of_not_lt hl) (parseQueryParams_unset hp) hlive hparams⟩
  next ha =>
    rw [if_neg ha]
    obtain ⟨key, value, hq, haccepted⟩ := admitSingle_accepted h
    exact ⟨_, by simp only [hq, Option.map_some, singleParam], haccepted⟩

omit [CFloat D F] in
theorem paramValue_single (stored : VencConfig D F) (key value : CString) (canonicalKey : String) (f : FieldDesc) :
    paramValue stored (initSingleSetParam (String.ofList key) canonicalKey value f) =
      some ((singleParam key value).key, fieldToJsonValueFromCfg stored f) := by
  rw [paramValue, initSingleSetParam, Option.map_some, String.toList_ofList, singleParam]

/-- An error answer, with texts that stand for themselves. -/
def PlainError (r : Reply D F) : Prop :=
  ∃ status code message, r = .error status code message ∧ status ≠ 200 ∧ PlainTexts code message

omit [CFloat D F] in
theorem plainError_of_refusal {r : Reply D F} (h : Refusal r) : PlainError r := by
  obtain ⟨status, code, message, rfl, hstatus, htexts⟩ := h
  refine ⟨status, code, message, rfl, ?_, htexts⟩
  rintro rfl
  exact absurd hstatus (by decide)

omit [CFloat D F] in
theorem failedToApply_plain (group : LiveApplyGroup) (incomplete : Bool) :
    PlainError (failedToApply group incomplete : Reply D F) := by
  refine ⟨500, "internal_error", _, rfl, by decide, ?_⟩
  cases group <;> cases incomplete <;> decide +kernel

omit [CFloat D F] in
theorem outOfMemory_plain : PlainError (.error 500 "internal_error" "out of memory" : Reply D F) :=
  ⟨500, "internal_error", _, rfl, by decide, by decide⟩

/-- What the answer to a batch tells, if every value of it parses. -/
theorem told_batch {params : List SetQueryParam} (hseveral : 2 ≤ params.length) (hunset : ∀ p ∈ params, p.field = none)
    (hlive : ∀ p ∈ params, LiveParam p) (stored : VencConfig D F) :
    (∃ r, makeLiveSetResponse stored (params.map resolve) false = some r ∧ Told stored params r) ∨
      makeLiveSetResponse stored (params.map resolve) false = none := by
  have hresponse : makeLiveSetResponse stored (params.map resolve) false =
      makeMultiLiveSetSuccessJson stored (params.map resolve) := by
    cases params with
    | nil => exact absurd hseveral (by decide)
    | cons p params => rfl
  rw [hresponse, makeMultiLiveSetSuccessJson]
  cases hentries : (params.map resolve).mapM (paramValue stored) with
  | none => exact .inr rfl
  | some entries =>
      by_cases hparses : ∀ e ∈ entries, e.2.parses = true
      · refine .inl ⟨.applied entries, ?_, hseveral, entries_of_params hunset hlive hentries, hparses⟩
        exact if_pos hparses
      · exact .inr (if_neg hparses)

/-- A set is answered with what it stored, or with an error. -/
theorem ends_told {reply : Option (Reply D F)} (h : Ends cb c l reply c' (admission cb backend query c)) :
    (∃ params, requestedParams query = some params ∧
      Told c' params (reply.getD (.error 500 "internal_error" "out of memory"))) ∨
      PlainError (reply.getD (.error 500 "internal_error" "out of memory")) := by
  cases hadm : admission cb backend query c with
  | error r =>
      rw [hadm] at h
      obtain ⟨rfl, -, -⟩ := h
      exact .inr (plainError_of_refusal (admission_refusal hadm))
  | ok plan =>
      obtain ⟨_, _, hok⟩ := admit_ok hadm
      obtain ⟨params, hparams, haccepted⟩ := admission_accepted hadm
      rw [hadm] at h
      cases haccepted with
      | restart key value f newCfg hparsed hf hmut hreq =>
          obtain ⟨rfl, -, rfl⟩ := h
          have htold := told_single hparsed hf c'
          have hrestart : f.mutability = .restart := by
            cases hm : f.mutability with
            | live => exact absurd hm hmut
            | restart => rfl
          rw [hrestart, decide_eq_true rfl] at htold
          rw [hreq] at hparams
          rw [paramValue_single]
          exact .inl ⟨_, hparams, htold⟩
      | live key value f batch newCfg hparsed hf hlive hreq hcollected =>
          obtain ⟨o, c₁, hrun, ho⟩ := h
          cases o with
          | error r =>
              obtain ⟨rfl, rfl⟩ := ho
              obtain ⟨⟨g, incomplete, rfl⟩, -⟩ := applyLiveGroupSequence_run (by simp) hok.supported (.refl [] _ c) hrun
              exact .inr (failedToApply_plain g incomplete)
          | ok actualCfg =>
              obtain ⟨rfl, rfl⟩ := ho
              have htold := told_single hparsed hf c'
              rw [hlive, decide_eq_false (by decide)] at htold
              rw [hreq] at hparams
              rw [hcollected, makeLiveSetResponse, paramValue_single]
              exact .inl ⟨_, hparams, htold⟩
      | batch batch newCfg hseveral hunset hlive hcollected =>
          obtain ⟨o, c₁, hrun, ho⟩ := h
          cases o with
          | error r =>
              obtain ⟨rfl, rfl⟩ := ho
              obtain ⟨⟨g, incomplete, rfl⟩, -⟩ := applyLiveGroupSequence_run (by simp) hok.supported (.refl [] _ c) hrun
              exact .inr (failedToApply_plain g incomplete)
          | ok actualCfg =>
              obtain ⟨rfl, rfl⟩ := ho
              rw [hcollected]
              rcases told_batch hseveral hunset hlive c' with ⟨r, hr, htold⟩ | hnone
              · rw [hr]
                exact .inl ⟨params, hparams, htold⟩
              · rw [hnone]
                exact .inr outOfMemory_plain

end WaybeamVenc.SetAnswers
