import WaybeamVenc.SetAdmission

namespace WaybeamVenc.SetTransaction

open CNumber Config FieldTable SetQuery LiveApply LiveGroups SetStaging SetAdmission Resumption Prog

variable {D F : Type} [CFloat D F] {cb : Callbacks} {backend : String} {c c' : VencConfig D F}
  {l : List (ApplyCall × Bool)} {reply : Option (Reply D F)}

/-! One group. -/

theorem callbackArgs_callback (cfg : VencConfig D F) (k : Callback) : (callbackArgs cfg k).callback = k := by
  cases k <;> rfl

def groupCalls (cfg : VencConfig D F) (group : LiveApplyGroup) (touched : LiveBatchTouched) : List ApplyCall :=
  (liveGroupCallbacks cfg group touched).map (callbackArgs cfg)

variable {cfg oldCfg newCfg : VencConfig D F} {group : LiveApplyGroup} {touched : LiveBatchTouched}

theorem applyLiveGroupForCfg_run {ok : Bool} (hsup : liveGroupSupportedForCfg cb cfg group touched = true)
    (h : Run (applyLiveGroupForCfg cb cfg group touched) c l ok c') : c' = cfg ∧
      ((ok = true ∧ l = (groupCalls cfg group touched).map (·, true)) ∨
        (ok = false ∧ ∃ pre q post, groupCalls cfg group touched = pre ++ q :: post ∧
          l = pre.map (·, true) ++ [(q, false)])) := by
  have hs := run_set_bind.1 h
  rw [if_pos hsup] at hs
  exact hs.of_callAll

def IsOld (oldCfg : VencConfig D F) (e : ApplyCall × Bool) : Prop := e.1 = callbackArgs oldCfg e.1.callback

omit [CFloat D F] in
theorem supported_of_differs {groups : List LiveApplyGroup} (hd : DiffersOn groups touched oldCfg cfg)
    (hsup : liveGroupSupportedForCfg cb oldCfg group touched = true) :
    liveGroupSupportedForCfg cb cfg group touched = true := by
  rw [← hsup]
  exact supported_congr cb (hd.of_memberGroup rfl) group touched

/-- One group taken back with success: it makes all its calls, with the old
arguments. -/
theorem rollbackLiveGroup_run {rest : List LiveApplyGroup} {s s' : VencConfig D F × Bool}
    (hsup : liveGroupSupportedForCfg cb oldCfg group touched = true)
    (hd : DiffersOn (group :: rest) touched oldCfg s.1)
    (h : Run (rollbackLiveGroup cb touched oldCfg s group) c l s' c') (hl : ∀ e ∈ l, e.2 = true) :
    DiffersOn rest touched oldCfg s'.1 ∧ s'.2 = s.2 ∧ (∀ e ∈ l, IsOld oldCfg e) ∧
      ∀ k ∈ liveGroupCallbacks oldCfg group touched, ∃ e ∈ l, e.1.callback = k := by
  obtain ⟨l₁, l₂, ok, c₁, rfl, ha, hr⟩ := h.of_bind
  have hsup' := supported_of_differs hd.restore hsup
  obtain ⟨rfl, ⟨rfl, rfl⟩ | ⟨rfl, pre, q, post, _, rfl⟩⟩ := applyLiveGroupForCfg_run hsup' ha
  · obtain ⟨rfl, rfl, rfl⟩ := run_pure.1 hr
    have hscene := hd.restore.of_memberGroup (m := .video0SceneThreshold) rfl
    refine ⟨hd.restore, rfl, ?_, ?_⟩
    · intro e he
      simp only [List.append_nil, groupCalls, List.map_map, List.mem_map] at he
      obtain ⟨k, hk, rfl⟩ := he
      rw [IsOld]
      rw [Function.comp_apply, callbackArgs_callback]
      exact callbackArgs_congr hk fun m hm => hd.restore_apply hm
    · intro k hk
      refine ⟨(callbackArgs (buildLiveGroupConfig s.1 oldCfg group touched) k, true), ?_,
        callbackArgs_callback _ k⟩
      simp only [List.append_nil, groupCalls, List.map_map, List.mem_map]
      exact ⟨k, mem_callbacks_congr hscene.symm hk, rfl⟩
  · have := hl (q, false) (by simp)
    cases this

theorem rollback_run {groups : List LiveApplyGroup} {s s' : VencConfig D F × Bool}
    (hsup : ∀ g ∈ groups, liveGroupSupportedForCfg cb oldCfg g touched = true)
    (hd : DiffersOn groups touched oldCfg s.1)
    (h : Run (groups.foldlM (rollbackLiveGroup cb touched oldCfg) s) c l s' c') (hl : ∀ e ∈ l, e.2 = true) :
    s'.1 = oldCfg ∧ s'.2 = s.2 ∧ (∀ e ∈ l, IsOld oldCfg e) ∧
      ∀ g ∈ groups, ∀ k ∈ liveGroupCallbacks oldCfg g touched, ∃ e ∈ l, e.1.callback = k := by
  induction groups generalizing s c l with
  | nil =>
      obtain ⟨rfl, rfl, rfl⟩ := run_pure.1 h
      exact ⟨hd.eq, rfl, by simp, by simp⟩
  | cons g rest ih =>
      rw [List.foldlM_cons] at h
      obtain ⟨l₁, l₂, s₁, c₁, rfl, hg, hr⟩ := h.of_bind
      have hl₁ : ∀ e ∈ l₁, e.2 = true := fun e he => hl e (List.mem_append_left _ he)
      have hl₂ : ∀ e ∈ l₂, e.2 = true := fun e he => hl e (List.mem_append_right _ he)
      obtain ⟨hd₁, hi₁, ho₁, hk₁⟩ := rollbackLiveGroup_run (hsup g List.mem_cons_self) hd hg hl₁
      obtain ⟨hs, hi, ho, hk⟩ := ih (fun g hg => hsup g (List.mem_cons_of_mem _ hg)) hd₁ hr hl₂
      refine ⟨hs, hi.trans hi₁, ?_, ?_⟩
      · intro e he
        rcases List.mem_append.1 he with he | he
        · exact ho₁ e he
        · exact ho e he
      · intro g' hg' k hk'
        rcases List.mem_cons.1 hg' with rfl | hg'
        · obtain ⟨e, he, hek⟩ := hk₁ k hk'
          exact ⟨e, List.mem_append_left _ he, hek⟩
        · obtain ⟨e, he, hek⟩ := hk g' hg' k hk'
          exact ⟨e, List.mem_append_right _ he, hek⟩

/-- How the groups of a batch end: all applied, or one of them failed and the
rollback ran. -/
def SequenceEnds (touched : LiveBatchTouched) (oldCfg newCfg : VencConfig D F) (applied : List LiveApplyGroup)
    (actualCfg : VencConfig D F) (groups : List LiveApplyGroup) (l : List (ApplyCall × Bool))
    (c' : VencConfig D F) : Except (Reply D F) (VencConfig D F) → Prop
  | .ok cfg => (∀ e ∈ l, e.2 = true) ∧ (∀ g ∈ groups, ∀ m ∈ liveGroupFields g touched, cfg m = newCfg m) ∧
      ∀ m, (∀ g ∈ groups, m ∉ liveGroupFields g touched) → cfg m = actualCfg m
  | .error r => (∃ g incomplete, r = failedToApply g incomplete) ∧
      ∃ pre q back, l = pre ++ (q, false) :: back ∧ (∀ e ∈ pre, e.2 = true) ∧
        ((∀ e ∈ back, e.2 = true) → c' = oldCfg ∧ (∀ e ∈ back, IsOld oldCfg e) ∧
          (∀ e ∈ pre ++ [(q, false)], ∃ e' ∈ back, e'.1.callback = e.1.callback) ∧
          ∀ g ∈ applied, ∀ k ∈ liveGroupCallbacks oldCfg g touched, ∃ e ∈ back, e.1.callback = k)

/-- A group that was applied, before groups that end with a config. -/
theorem SequenceEnds.cons_ok {rest applied : List LiveApplyGroup} {actualCfg cfg : VencConfig D F}
    {calls : List ApplyCall}
    (h : SequenceEnds touched oldCfg newCfg (applied ++ [group])
      (buildLiveGroupConfig actualCfg newCfg group touched) rest l c' (.ok cfg)) :
    SequenceEnds touched oldCfg newCfg applied actualCfg (group :: rest) (calls.map (·, true) ++ l) c'
      (.ok cfg) := by
  obtain ⟨ht, hn, ho⟩ := h
  refine ⟨?_, ?_, ?_⟩
  · intro e he
    rcases List.mem_append.1 he with he | he
    · obtain ⟨q, _, rfl⟩ := List.mem_map.1 he
      rfl
    · exact ht e he
  · intro g hg m hm
    by_cases hmr : ∃ g' ∈ rest, m ∈ liveGroupFields g' touched
    · obtain ⟨g', hg', hm'⟩ := hmr
      exact hn g' hg' m hm'
    · rcases List.mem_cons.1 hg with rfl | hg
      · rw [ho m fun g' hg' hm' => hmr ⟨g', hg', hm'⟩]
        exact build_of_mem actualCfg newCfg hm
      · exact absurd ⟨g, hg, hm⟩ hmr
  · intro m hm
    rw [ho m fun g hg => hm g (List.mem_cons_of_mem group hg)]
    exact build_of_not_mem actualCfg newCfg (hm group List.mem_cons_self)

/-- A group that was applied, before a group that fails: the rollback takes it
back as well. -/
theorem SequenceEnds.cons_error {rest applied : List LiveApplyGroup} {actualCfg : VencConfig D F}
    {calls : List ApplyCall} {r : Reply D F}
    (hcalls : ∀ q ∈ calls, q.callback ∈ liveGroupCallbacks oldCfg group touched)
    (h : SequenceEnds touched oldCfg newCfg (applied ++ [group])
      (buildLiveGroupConfig actualCfg newCfg group touched) rest l c' (.error r)) :
    SequenceEnds touched oldCfg newCfg applied actualCfg (group :: rest) (calls.map (·, true) ++ l) c'
      (.error r) := by
  obtain ⟨hmsg, pre, q, back, rfl, hpre, hback⟩ := h
  refine ⟨hmsg, _ ++ pre, q, back, (List.append_assoc _ _ _).symm, ?_, ?_⟩
  · intro e he
    rcases List.mem_append.1 he with he | he
    · obtain ⟨q, _, rfl⟩ := List.mem_map.1 he
      rfl
    · exact hpre e he
  · intro hb
    obtain ⟨hc, hold, hcov, happd⟩ := hback hb
    refine ⟨hc, hold, ?_, fun g hg => happd g (List.mem_append_left _ hg)⟩
    intro e he
    rw [List.append_assoc] at he
    rcases List.mem_append.1 he with he | he
    · obtain ⟨q, hq, rfl⟩ := List.mem_map.1 he
      exact happd group (by simp) q.callback (hcalls q hq)
    · exact hcov e he

/-- A group that fails: the rollback takes back what it did and every group
applied before it. -/
theorem SequenceEnds.failed {rest applied : List LiveApplyGroup} {actualCfg : VencConfig D F}
    {calls pre post : List ApplyCall} {q : ApplyCall} {back : List (ApplyCall × Bool)}
    {s : VencConfig D F × Bool}
    (hsup : ∀ g ∈ group :: applied, liveGroupSupportedForCfg cb oldCfg g touched = true)
    (hd : DiffersOn (group :: applied) touched oldCfg actualCfg)
    (hcalls : ∀ q ∈ calls, q.callback ∈ liveGroupCallbacks oldCfg group touched)
    (hq : calls = pre ++ q :: post)
    (hroll : Run ((group :: applied.reverse).foldlM (rollbackLiveGroup cb touched oldCfg) (actualCfg, false))
      c back s c') :
    SequenceEnds touched oldCfg newCfg applied actualCfg (group :: rest)
      (pre.map (·, true) ++ [(q, false)] ++ back) s.1 (.error (failedToApply group s.2)) := by
  refine ⟨⟨group, s.2, rfl⟩, pre.map (·, true), q, back, by simp, ?_, ?_⟩
  · intro e he
    obtain ⟨q, _, rfl⟩ := List.mem_map.1 he
    rfl
  · intro hb
    have hperm : ∀ g, g ∈ group :: applied.reverse ↔ g ∈ group :: applied := by
      intro g
      rw [List.mem_cons, List.mem_reverse, List.mem_cons]
    have hsup' : ∀ g ∈ group :: applied.reverse, liveGroupSupportedForCfg cb oldCfg g touched = true :=
      fun g hg => hsup g ((hperm g).1 hg)
    have hd' : DiffersOn (group :: applied.reverse) touched oldCfg actualCfg :=
      hd.mono fun g hg => (hperm g).2 hg
    obtain ⟨hc, _, hold, hcov⟩ := rollback_run hsup' hd' hroll hb
    refine ⟨hc, hold, ?_, fun g hg => hcov g ((hperm g).2 (List.mem_cons_of_mem group hg))⟩
    intro e he
    have hec : e.1 ∈ calls := by
      rw [hq]
      rcases List.mem_append.1 he with he | he
      · obtain ⟨q', hq', rfl⟩ := List.mem_map.1 he
        exact List.mem_append_left _ hq'
      · rw [List.mem_singleton.1 he]
        simp
    exact hcov group List.mem_cons_self e.1.callback (hcalls e.1 hec)

theorem applyLiveGroupSequence_run {groups applied : List LiveApplyGroup} {actualCfg : VencConfig D F}
    {o : Except (Reply D F) (VencConfig D F)}
    (happ : ∀ g ∈ applied, liveGroupSupportedForCfg cb oldCfg g touched = true)
    (hsup : ∀ g ∈ groups, liveGroupSupportedForCfg cb oldCfg g touched = true)
    (hd : DiffersOn applied touched oldCfg actualCfg)
    (h : Run (applyLiveGroupSequence cb touched oldCfg newCfg applied actualCfg groups) c l o c') :
    SequenceEnds touched oldCfg newCfg applied actualCfg groups l c' o := by
  induction groups generalizing applied actualCfg c l with
  | nil =>
      obtain ⟨rfl, rfl, rfl⟩ := run_pure.1 h
      exact ⟨by simp, by simp, fun _ _ => rfl⟩
  | cons g rest ih =>
      obtain ⟨l₁, l₂, ok, c₁, rfl, ha, hr⟩ := h.of_bind
      have hdg := hd.build newCfg g
      have hg := hsup g List.mem_cons_self
      have hscene := hdg.of_memberGroup (m := .video0SceneThreshold) rfl
      have hcalls : ∀ q ∈ groupCalls (buildLiveGroupConfig actualCfg newCfg g touched) g touched,
          q.callback ∈ liveGroupCallbacks oldCfg g touched := by
        intro q hq
        obtain ⟨k, hk, rfl⟩ := List.mem_map.1 hq
        rw [callbackArgs_callback]
        exact mem_callbacks_congr hscene hk
      obtain ⟨rfl, ⟨rfl, rfl⟩ | ⟨rfl, pre, q, post, hq, rfl⟩⟩ :=
        applyLiveGroupForCfg_run (supported_of_differs hdg hg) ha
      · -- the group is applied
        have happ' : ∀ g' ∈ applied ++ [g], liveGroupSupportedForCfg cb oldCfg g' touched = true := by
          intro g' hg'
          rcases List.mem_append.1 hg' with hg' | hg'
          · exact happ g' hg'
          · rwa [List.mem_singleton.1 hg']
        have hi := ih happ' (fun g' hg' => hsup g' (List.mem_cons_of_mem g hg')) hdg hr
        cases o with
        | ok cfg => exact hi.cons_ok
        | error r => exact hi.cons_error hcalls
      · -- the group fails, and the rollback starts with it
        have hs := run_set_bind.1 hr
        obtain ⟨l₃, l₄, s, c₃, rfl, hroll, hend⟩ := hs.of_bind
        have hu := run_set_bind.1 hend
        obtain ⟨rfl, rfl, rfl⟩ := run_pure.1 hu
        have hsup' : ∀ g' ∈ g :: applied, liveGroupSupportedForCfg cb oldCfg g' touched = true := by
          intro g' hg'
          rcases List.mem_cons.1 hg' with rfl | hg'
          · exact hg
          · exact happ g' hg'
        have hd' : DiffersOn (g :: applied) touched oldCfg actualCfg :=
          hd.mono fun g' hg' => List.mem_cons_of_mem g hg'
        rw [List.append_nil]
        exact SequenceEnds.failed hsup' hd' hcalls hq hroll

/-! The whole request. -/

def Ends (cb : Callbacks) (c : VencConfig D F) (l : List (ApplyCall × Bool)) (reply : Option (Reply D F))
    (c' : VencConfig D F) : Except (Reply D F) (Plan D F) → Prop
  | .error r => reply = some r ∧ l = [] ∧ c' = c
  | .ok (.live batch newCfg singleResponse) => ∃ o c₁,
      Run (applyLiveGroupSequence cb batch.touched c newCfg [] c batch.groupOrder) c l o c₁ ∧
      match o with
      | .error r => reply = some r ∧ c' = c₁
      | .ok actualCfg => reply = makeLiveSetResponse actualCfg batch.params singleResponse ∧ c' = actualCfg
  | .ok (.restart param newCfg) =>
      reply = (paramValue newCfg param).map (fun e => .single e.1 e.2 true) ∧ l = [] ∧ c' = newCfg

theorem applyLiveSetQuery_ends {params : List SetQueryParam} {singleResponse : Bool}
    (h : Run (applyLiveSetQuery cb backend params singleResponse) c l reply c') :
    Ends cb c l reply c' (admitLive cb backend params singleResponse c) := by
  rw [applyLiveSetQuery] at h
  rw [admitLive]
  cases hb : (collectLiveGroups backend params : Except (Reply D F) LiveBatch) with
  | error r =>
      rw [hb] at h
      obtain ⟨rfl, rfl, rfl⟩ := run_pure.1 h
      exact ⟨rfl, rfl, rfl⟩
  | ok batch =>
      rw [hb] at h
      have hl := run_get_bind.1 (run_locked h)
      change Ends cb c l reply c' (stageLiveSet cb backend c batch >>= fun newCfg => pure (.live batch newCfg singleResponse))
      cases hs : stageLiveSet cb backend c batch with
      | error r =>
          rw [hs] at hl
          obtain ⟨rfl, rfl, rfl⟩ := run_pure.1 hl
          exact ⟨rfl, rfl, rfl⟩
      | ok newCfg =>
          rw [hs] at hl
          obtain ⟨l₁, l₂, o, c₁, rfl, hq, ho⟩ := hl.of_bind
          cases o with
          | error r =>
              obtain ⟨rfl, rfl, rfl⟩ := run_pure.1 ho
              exact ⟨.error r, c', by rwa [List.append_nil], rfl, rfl⟩
          | ok actualCfg =>
              have hu := run_set_bind.1 ho
              obtain ⟨rfl, rfl, rfl⟩ := run_pure.1 hu
              exact ⟨.ok c', c₁, by rwa [List.append_nil], rfl, rfl⟩

theorem processRestartSetQuery_ends {param : SetQueryParam}
    (h : Run (processRestartSetQuery backend param) c l reply c') :
    Ends cb c l reply c' (stageParamsIntoCfg backend c [param] >>= fun newCfg => pure (.restart param newCfg)) := by
  have hl := run_get_bind.1 (run_locked h)
  cases hs : stageParamsIntoCfg backend c [param] with
  | error r =>
      rw [hs] at hl
      obtain ⟨rfl, rfl, rfl⟩ := run_pure.1 hl
      exact ⟨rfl, rfl, rfl⟩
  | ok newCfg =>
      rw [hs] at hl
      have hu := run_set_bind.1 hl
      obtain ⟨rfl, rfl, rfl⟩ := run_pure.1 hu
      exact ⟨rfl, rfl, rfl⟩

theorem processSingleSetQuery_ends {query : CString}
    (h : Run (processSingleSetQuery cb backend query) c l reply c') :
    Ends cb c l reply c' (admitSingle cb backend query c) := by
  rw [processSingleSetQuery] at h
  rw [admitSingle]
  generalize parseFirstQueryParam query = parsed at h ⊢
  rcases parsed with _ | ⟨_ | ⟨ch, key⟩, value⟩
  · obtain ⟨rfl, rfl, rfl⟩ := run_pure.1 h
    exact ⟨rfl, rfl, rfl⟩
  · obtain ⟨rfl, rfl, rfl⟩ := run_pure.1 h
    exact ⟨rfl, rfl, rfl⟩
  · dsimp only at h ⊢
    generalize resolveSetQueryField backend (String.ofList (ch :: key)) = resolved at h ⊢
    rcases resolved with r | ⟨canonicalKey, field⟩
    · obtain ⟨rfl, rfl, rfl⟩ := run_pure.1 h
      exact ⟨rfl, rfl, rfl⟩
    · change Run (if field.mutability = .live then _ else _) c l reply c' at h
      change Ends cb c l reply c' (if field.mutability = .live then _ else _)
      by_cases hl : field.mutability = .live
      · rw [if_pos hl] at h ⊢
        exact applyLiveSetQuery_ends h
      · rw [if_neg hl] at h ⊢
        exact processRestartSetQuery_ends h

theorem processSetQuery_ends {query : CString} (h : Run (processSetQuery cb backend query) c l reply c') :
    Ends cb c l reply c' (admission cb backend query c) := by
  rw [processSetQuery] at h
  rw [admission]
  by_cases ha : '&' ∈ query
  · rw [if_pos ha, processMultiLiveSetQuery] at h
    rw [if_pos ha]
    generalize parseQueryParams query = parsed at h ⊢
    rcases parsed with message | params
    · obtain ⟨rfl, rfl, rfl⟩ := run_pure.1 h
      exact ⟨rfl, rfl, rfl⟩
    · dsimp only at h ⊢
      by_cases hl : params.length < 2
      · rw [if_pos hl] at h ⊢
        exact processSingleSetQuery_ends h
      · rw [if_neg hl] at h ⊢
        exact applyLiveSetQuery_ends h
  · rw [if_neg ha] at h ⊢
    exact processSingleSetQuery_ends h

def lastCall (log : List (ApplyCall × Bool)) (k : Callback) : Option ApplyCall :=
  (log.reverse.find? fun e => e.1.callback = k).map Prod.fst

theorem lastCall_of_back {front back : List (ApplyCall × Bool)} {k : Callback} (hold : ∀ e ∈ back, IsOld oldCfg e)
    (hk : ∃ e ∈ back, e.1.callback = k) : lastCall (front ++ back) k = some (callbackArgs oldCfg k) := by
  rw [lastCall]
  rw [List.reverse_append, List.find?_append]
  cases hf : back.reverse.find? fun e => e.1.callback = k with
  | none =>
      obtain ⟨e, he, hek⟩ := hk
      have := List.find?_eq_none.1 hf e (List.mem_reverse.2 he)
      simp [hek] at this
  | some e =>
      have he := List.mem_reverse.1 (List.mem_of_find?_eq_some hf)
      have hek : e.1.callback = k := by simpa using List.find?_some hf
      rw [Option.some_or, Option.map_some, hold e he, hek]

theorem first_failure_unique {pre pre' post post' : List (ApplyCall × Bool)} {q q' : ApplyCall}
    (h : pre ++ (q, false) :: post = pre' ++ (q', false) :: post') (hp : ∀ e ∈ pre, e.2 = true)
    (hp' : ∀ e ∈ pre', e.2 = true) : post = post' := by
  induction pre generalizing pre' with
  | nil =>
      cases pre' with
      | nil => exact (List.cons.inj h).2
      | cons e pre' =>
          have he := hp' e List.mem_cons_self
          rw [← (List.cons.inj h).1] at he
          cases he
  | cons e pre ih =>
      cases pre' with
      | nil =>
          have he := hp e List.mem_cons_self
          rw [(List.cons.inj h).1] at he
          cases he
      | cons e' pre' =>
          exact ih (List.cons.inj h).2 (fun e he => hp e (List.mem_cons_of_mem _ he))
            fun e he => hp' e (List.mem_cons_of_mem _ he)

/-- What the members of a config are after some parameters were set. -/
def HasExactly (params : List SetQueryParam) (oldCfg newCfg : VencConfig D F) : Prop :=
  ∃ wss, params.mapM paramWrites = some wss ∧ (∀ w ∈ wss.flatten, newCfg w.1 = w.2) ∧
    ∀ m, m ∉ wss.flatten.map Sigma.fst → newCfg m = oldCfg m

theorem Staged.hasExactly {params : List SetQueryParam} (h : Staged params oldCfg newCfg) :
    HasExactly params oldCfg newCfg := by
  obtain ⟨wss, hm, hnd, rfl⟩ := h
  exact ⟨wss, hm, fun w hw => writeAll_mem oldCfg hnd hw, fun m hm' => writeAll_other oldCfg _ hm'⟩

/-- What an answer says about the config and the calls. -/
structure Transactional (cb : Callbacks) (backend : String) (query : CString) (oldCfg newCfg : VencConfig D F)
    (log : List (ApplyCall × Bool)) (reply : Reply D F) : Prop where
  accepted : reply.status = 200 → ∃ params, requestedParams query = some params ∧
    HasExactly params oldCfg newCfg
  rejected : reply.status ∈ [400, 404, 409, 501] → newCfg = oldCfg ∧ log = []
  rejection : ∀ r, admission cb backend query oldCfg = .error r → reply = r ∧ reply.status ∈ [400, 404, 409, 501]
  rolledBack : ∀ pre q back, log = pre ++ (q, false) :: back → (∀ e ∈ pre, e.2 = true) →
    (∀ e ∈ back, e.2 = true) → reply.status = 500 ∧ newCfg = oldCfg ∧
      ∀ e ∈ log, lastCall log e.1.callback = some (callbackArgs oldCfg e.1.callback)

theorem makeLiveSetResponse_status {params : List SetQueryParam} {single : Bool} {r : Reply D F}
    (h : makeLiveSetResponse cfg params single = some r) : r.status = 200 := by
  unfold makeLiveSetResponse at h
  split at h
  · cases h
  · obtain ⟨e, _, rfl⟩ := Option.map_eq_some_iff.1 h
    rfl
  · obtain ⟨entries, _, h⟩ := Option.bind_eq_some_iff.1 h
    split at h <;> cases h
    rfl

section

variable {query : CString} {r : Reply D F} {batch : LiveBatch} {single : Bool}

theorem Transactional.of_rejected (hadm : admission cb backend query c = .error r) :
    Transactional cb backend query c c [] r := by
  have hr := admit_error hadm
  constructor
  · intro hs
    simp [Rejection, hs] at hr
  · exact fun _ => ⟨rfl, rfl⟩
  · intro r' hr'
    cases hadm.symm.trans hr'
    exact ⟨rfl, hr⟩
  · intro pre q back hl
    simp at hl

theorem Transactional.of_restart {param : SetQueryParam}
    (hadm : admission cb backend query c = .ok (.restart param newCfg)) :
    Transactional cb backend query c newCfg []
      (((paramValue newCfg param).map fun e => Reply.single e.1 e.2 true).getD
        (.error 500 "internal_error" "out of memory")) := by
  obtain ⟨params, hparams, hok⟩ := admit_ok hadm
  constructor
  · exact fun _ => ⟨params, hparams, Staged.hasExactly hok⟩
  · intro hs
    cases hp : paramValue newCfg param <;> simp [hp, Reply.status] at hs
  · intro r hr
    cases hadm.symm.trans hr
  · intro pre q back hl
    simp at hl

/-- A group failed: the log has that one failure where the rollback has none. -/
theorem Transactional.of_failed (hadm : admission cb backend query c = .ok (.live batch newCfg single))
    (h : SequenceEnds batch.touched c newCfg [] c batch.groupOrder l c' (.error r)) :
    Transactional cb backend query c c' l r := by
  obtain ⟨⟨g, incomplete, rfl⟩, pre, q, back, rfl, hpre, hback⟩ := h
  constructor
  · intro hs
    simp [failedToApply, Reply.status] at hs
  · intro hs
    simp [failedToApply, Reply.status] at hs
  · intro r hr
    cases hadm.symm.trans hr
  · intro pre' q' back' hl hpre' hback'
    have hb := first_failure_unique hl hpre hpre'
    subst hb
    obtain ⟨hc, hold, hcov, _⟩ := hback hback'
    refine ⟨rfl, hc, ?_⟩
    intro e he
    rw [List.append_cons] at he ⊢
    apply lastCall_of_back hold
    rcases List.mem_append.1 he with he | he
    · exact hcov e he
    · exact ⟨e, he, rfl⟩

/-- Every group was applied: the config is the one that was staged. -/
theorem SequenceEnds.eq_staged {actualCfg : VencConfig D F}
    (hdiff : ∀ m, (∀ g ∈ batch.groupOrder, m ∉ liveGroupFields g batch.touched) → newCfg m = c m)
    (h : SequenceEnds batch.touched c newCfg [] c batch.groupOrder l c' (.ok actualCfg)) :
    actualCfg = newCfg := by
  obtain ⟨_, hn, hrest⟩ := h
  funext m
  by_cases hm : ∃ g ∈ batch.groupOrder, m ∈ liveGroupFields g batch.touched
  · obtain ⟨g, hg, hmg⟩ := hm
    exact hn g hg m hmg
  · have hm' : ∀ g ∈ batch.groupOrder, m ∉ liveGroupFields g batch.touched :=
      fun g hg hmg => hm ⟨g, hg, hmg⟩
    exact (hrest m hm').trans (hdiff m hm').symm

theorem Transactional.of_applied (hadm : admission cb backend query c = .ok (.live batch newCfg single))
    (ht : ∀ e ∈ l, e.2 = true) :
    Transactional cb backend query c newCfg l
      ((makeLiveSetResponse newCfg batch.params single).getD (.error 500 "internal_error" "out of memory")) := by
  obtain ⟨params, hparams, hok⟩ := admit_ok hadm
  constructor
  · exact fun _ => ⟨params, hparams, Staged.hasExactly hok.staged⟩
  · intro hs
    cases hr : makeLiveSetResponse newCfg batch.params single with
    | none => simp [hr, Reply.status] at hs
    | some r =>
        rw [hr, Option.getD_some, makeLiveSetResponse_status hr] at hs
        simp at hs
  · intro r hr
    cases hadm.symm.trans hr
  · rintro pre q back rfl
    have := ht (q, false) (by simp)
    cases this

theorem Ends.transactional (h : Ends cb c l reply c' (admission cb backend query c)) :
    Transactional cb backend query c c' l (reply.getD (.error 500 "internal_error" "out of memory")) := by
  cases hadm : admission cb backend query c with
  | error r =>
      rw [hadm] at h
      obtain ⟨rfl, rfl, rfl⟩ := h
      exact .of_rejected hadm
  | ok plan =>
      obtain ⟨params, hparams, hok⟩ := admit_ok hadm
      rw [hadm] at h
      cases plan with
      | restart param newCfg =>
          obtain ⟨rfl, rfl, rfl⟩ := h
          exact .of_restart hadm
      | live batch newCfg single =>
          obtain ⟨o, c₁, hrun, ho⟩ := h
          have hseq := applyLiveGroupSequence_run (by simp) hok.supported (.refl [] _ c) hrun
          cases o with
          | error r =>
              obtain ⟨rfl, rfl⟩ := ho
              exact .of_failed hadm hseq
          | ok actualCfg =>
              obtain ⟨rfl, rfl⟩ := ho
              obtain rfl := hseq.eq_staged hok.differs
              exact .of_applied hadm hseq.1

end

/-- Every set ends as its admission says. -/
theorem handleSet_ends (cb : Callbacks) (backend : String) (query : CString) (cfg : VencConfig D F)
    (answer : List (ApplyCall × Bool) → ApplyCall → Bool) :
    let end_ := (handleSet cb backend query).exec answer cfg []
    ∃ reply, end_.1 = reply.getD (.error 500 "internal_error" "out of memory") ∧
      Ends cb cfg end_.2.2 reply end_.2.1 (admission cb backend query cfg) := by
  intro end_
  obtain ⟨l, hl, hrun⟩ := exec_run answer (handleSet cb backend query) cfg []
  obtain ⟨l₁, l₂, reply, c₁, rfl, hp, hr⟩ := hrun.of_bind
  obtain ⟨rfl, h₁, h₂⟩ := run_pure.1 hr
  refine ⟨reply, h₁, ?_⟩
  change Ends cb cfg ((handleSet cb backend query).exec answer cfg []).2.2 reply
    ((handleSet cb backend query).exec answer cfg []).2.1 _
  rw [hl, h₂, List.nil_append, List.append_nil]
  exact processSetQuery_ends hp

/-- A set is all or nothing: it stores exactly what was asked for, or, rejected,
calls nothing and changes nothing, or, failing half way with a rollback that
does not fail, leaves the config and every callback it called as they were. -/
theorem set_transactional (cb : Callbacks) (backend : String) (query : CString) (cfg : VencConfig D F)
    (answer : List (ApplyCall × Bool) → ApplyCall → Bool) :
    let end_ := (handleSet cb backend query).exec answer cfg []
    Transactional cb backend query cfg end_.2.1 end_.2.2 end_.1 := by
  intro end_
  obtain ⟨reply, hreply, hends⟩ := handleSet_ends cb backend query cfg answer
  have ht := hends.transactional
  rw [← hreply] at ht
  exact ht

end WaybeamVenc.SetTransaction
