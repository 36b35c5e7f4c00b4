import WaybeamVenc.ConfigLoad
import WaybeamVenc.Interleaving
import WaybeamVenc.LiveApply
import WaybeamVenc.RationalFloat

namespace WaybeamVenc.ConfigReload

open CNumber Config FieldTable SetQuery LiveApply ConfigLoad Resumption Prog Runs Interleaving

variable {D F : Type} [CFloat D F]

/-! The reload. -/

def update (f : VencConfig D F → VencConfig D F) : Api D F Unit := .modify f (.ret ())

/-- venc_config_load into the stored config, one section a step. -/
def loadStored (file : ConfigFile D) : Api D F Bool :=
  match file with
  | .missing => pure true
  | .unreadable | .invalid => pure false
  | .document root => do
    loadSections.forM fun load => update (load root)
    pure true

def clampFps (prevMaxFps : UInt32) : Api D F Unit := do
  let cfg ← get
  if 0 < prevMaxFps ∧ prevMaxFps < (cfg .video0Fps : UInt32) then update fun cfg => cfg.set .video0Fps prevMaxFps
  else pure ()

/-- What star6e_runtime_restart_pipeline does to the config, and whether it goes
on to the pipeline. -/
def restartPipeline (reinitMode : Nat) (prevMaxFps : UInt32) (file : ConfigFile D) : Api D F Bool :=
  if reinitMode = 1 then do
    update fun _ => vencConfigDefaults
    if ← loadStored file then do
      clampFps prevMaxFps
      pure true
    else pure false
  else do
    clampFps prevMaxFps
    pure true

omit [CFloat D F] in
theorem plain_update (f : VencConfig D F → VencConfig D F) : Plain (update f) := .modify (.ret ())

omit [CFloat D F] in
theorem plain_forM {α : Type} (as : List α) (p : α → Api D F Unit) (h : ∀ a, Plain (p a)) : Plain (as.forM p) := by
  induction as with
  | nil => exact .ret ()
  | cons a as ih => exact (h a).bind fun _ => ih

omit [CFloat D F] in
theorem plain_clampFps (prevMaxFps : UInt32) : Plain (clampFps prevMaxFps : Api D F Unit) := by
  apply plain_get.bind
  intro cfg
  split
  · exact plain_update _
  · exact .ret ()

theorem plain_restartPipeline (reinitMode : Nat) (prevMaxFps : UInt32) (file : ConfigFile D) :
    Plain (restartPipeline reinitMode prevMaxFps file : Api D F Bool) := by
  have hclamp : Plain (do clampFps prevMaxFps; pure true : Api D F Bool) :=
    (plain_clampFps prevMaxFps).bind fun _ => .ret true
  have hload : Plain (loadStored file : Api D F Bool) := by
    cases file with
    | missing | unreadable | invalid => exact .ret _
    | document root =>
        apply Plain.bind _ fun _ => .ret true
        exact plain_forM _ _ fun load => plain_update (load root)
  rw [restartPipeline]
  split
  · apply (plain_update _).bind
    intro _
    apply hload.bind
    rintro (_ | _)
    · exact .ret false
    · exact hclamp
  · exact hclamp

/-! The requests. -/

theorem plain_applyLiveGroupForCfg (cb : Callbacks) (cfg : VencConfig D F) (group : LiveApplyGroup)
    (touched : LiveBatchTouched) : Plain (applyLiveGroupForCfg cb cfg group touched) := by
  apply (plain_set cfg).bind
  intro _
  split
  · exact plain_callAll _
  · exact .ret false

theorem plain_rollbackLiveGroups (cb : Callbacks) (groups : List LiveApplyGroup) (touched : LiveBatchTouched)
    (oldCfg : VencConfig D F) (s : VencConfig D F × Bool) :
    Plain (groups.foldlM (rollbackLiveGroup cb touched oldCfg) s) := by
  induction groups generalizing s with
  | nil => exact .ret s
  | cons g groups ih =>
      rw [List.foldlM_cons]
      refine Plain.bind ?_ ih
      apply (plain_applyLiveGroupForCfg cb _ g touched).bind
      rintro (_ | _)
      · exact (plain_set s.1).bind fun _ => .ret _
      · exact .ret _

theorem plain_applyLiveGroupSequence (cb : Callbacks) (touched : LiveBatchTouched) (oldCfg newCfg : VencConfig D F)
    (applied groups : List LiveApplyGroup) (actualCfg : VencConfig D F) :
    Plain (applyLiveGroupSequence cb touched oldCfg newCfg applied actualCfg groups) := by
  induction groups generalizing applied actualCfg with
  | nil => exact .ret _
  | cons g groups ih =>
      apply (plain_applyLiveGroupForCfg cb _ g touched).bind
      rintro (_ | _)
      · apply (plain_set actualCfg).bind
        intro _
        apply (plain_rollbackLiveGroups cb _ touched oldCfg _).bind
        exact fun s => (plain_set s.1).bind fun _ => .ret _
      · exact ih _ _

theorem plain_applyLiveBatch (cb : Callbacks) (backend : String) (batch : LiveBatch) (single : Bool) :
    Plain (applyLiveBatch cb backend batch single : Api D F (Option (Reply D F))) := by
  apply plain_get.bind
  intro oldCfg
  split
  · exact .ret _
  · apply (plain_applyLiveGroupSequence ..).bind
    rintro (_ | actualCfg)
    · exact .ret _
    · exact (plain_set actualCfg).bind fun _ => .ret _

theorem guarded_applyLiveSetQuery (cb : Callbacks) (backend : String) (params : List SetQueryParam) (single : Bool) :
    Guarded (applyLiveSetQuery cb backend params single : Api D F (Option (Reply D F))) := by
  rw [applyLiveSetQuery]
  split
  · exact .ret _
  · exact (plain_applyLiveBatch cb backend _ single).guarded

theorem guarded_processRestartSetQuery (backend : String) (param : SetQueryParam) :
    Guarded (processRestartSetQuery backend param : Api D F (Option (Reply D F))) := by
  apply Plain.guarded
  apply plain_get.bind
  intro oldCfg
  split
  · exact .ret _
  · exact (plain_set _).bind fun _ => .ret _

theorem guarded_processSingleSetQuery (cb : Callbacks) (backend : String) (query : CString) :
    Guarded (processSingleSetQuery cb backend query : Api D F (Option (Reply D F))) := by
  rw [processSingleSetQuery]
  split
  · exact .ret _
  · exact .ret _
  · split
    · exact .ret _
    · dsimp only
      split
      · exact guarded_applyLiveSetQuery ..
      · exact guarded_processRestartSetQuery ..

theorem guarded_handleSet (cb : Callbacks) (backend : String) (query : CString) :
    Guarded (handleSet cb backend query : Api D F (Reply D F)) := by
  apply Guarded.map
  rw [processSetQuery, processMultiLiveSetQuery]
  split
  · split
    · exact .ret _
    · split
      · exact guarded_processSingleSetQuery ..
      · exact guarded_applyLiveSetQuery ..
  · exact guarded_processSingleSetQuery ..

/-! Both at once. -/

/-- A request to the server, or a reinit of the main thread with the file it
finds. -/
inductive ConfigOp (D : Type)
  | set (cb : Callbacks) (backend : String) (query : CString)
  | reinit (reinitMode : Nat) (prevMaxFps : UInt32) (file : ConfigFile D)

def ConfigOp.main : ConfigOp D → Bool
  | .set .. => false
  | .reinit .. => true

def ConfigOp.prog : ConfigOp D → Api D F Unit
  | .set cb backend query => do
    let _ ← handleSet (D := D) (F := F) cb backend query
    pure ()
  | .reinit reinitMode prevMaxFps file => do
    let _ ← restartPipeline (F := F) reinitMode prevMaxFps file
    pure ()

def configCode (D F : Type) [CFloat D F] : Code (ConfigOp D) (VencConfig D F) ApplyCall where
  prog := ConfigOp.prog
  main := ConfigOp.main
  plain := by
    rintro (⟨cb, backend, query⟩ | ⟨mode, fps, file⟩) h
    · cases h
    · exact (plain_restartPipeline mode fps file).bind fun _ => .ret ()
  guarded := by
    rintro (⟨cb, backend, query⟩ | ⟨mode, fps, file⟩) h
    · exact (guarded_handleSet cb backend query).map fun _ => ()
    · cases h

/-! A reload and a request that overlap. -/

abbrev RationalSys := Sys (ConfigOp Rat) (VencConfig Rat Rat) ApplyCall

def bitrateFile : ConfigFile Rat :=
  .document (.object [("video0", .object [("bitrate", .number 4000 4000)])])

def setVerbose : ConfigOp Rat := .set (some fun _ => true) "star6e" "system.verbose=true".toList

/-- The request takes its snapshot, the whole reload runs, and the request goes
on. -/
def overlappingRun : List (Act (ConfigOp Rat)) :=
  [.start setVerbose, .start (.reinit 1 0 bitrateFile), .move 0 true, .move 0 true] ++
    List.replicate 14 (.move 1 true) ++ List.replicate 4 (.move 0 true)

def overlapped : Option RationalSys := run (step (configCode Rat Rat)) (start vencConfigDefaults) overlappingRun

theorem overlapped_isSome : overlapped.isSome = true := rfl

def overlappedSys : RationalSys := overlapped.get overlapped_isSome

theorem idle_of_check {s : RationalSys} (h : s.ops.all (fun op => !op.underWay) = true) : Idle s := by
  intro op hop
  simpa using List.all_eq_true.1 h op hop

/-- The reload is lost: the stored bitrate is still the default one, which no
sequence of the two leaves. -/
theorem reload_overwritten : ¬∀ s : RationalSys,
    Reaches (step (configCode Rat Rat)) (start vencConfigDefaults) s → Idle s →
      Linearizable (configCode Rat Rat) vencConfigDefaults s := by
  intro h
  have hrun : run (step (configCode Rat Rat)) (start vencConfigDefaults) overlappingRun = some overlappedSys :=
    (Option.some_get overlapped_isSome).symm
  obtain ⟨order, hnd, hmem, _, hseq⟩ :=
    h overlappedSys (reaches_of_run overlappingRun hrun) (idle_of_check (s := overlappedSys) rfl)
  have hended : overlappedSys.endedOps = [0, 1] := rfl
  have hperm : order.Perm [0, 1] := by
    rw [List.perm_ext_iff_of_nodup hnd (by simp)]
    intro i
    rw [hmem, ← mem_endedOps, hended]
  have horder : order = [0, 1] ∨ order = [1, 0] := by
    obtain ⟨a, b, rfl⟩ := List.length_eq_two.1 hperm.length_eq
    have ha := List.mem_pair.1 (hperm.subset (List.mem_cons_self (a := a)))
    have hb := List.mem_pair.1 (hperm.subset (List.mem_cons_of_mem a (List.mem_singleton.2 (Eq.refl b))))
    rcases ha with rfl | rfl <;> rcases hb with rfl | rfl <;> simp at hnd ⊢
  have hbitrate := congrArg (fun c => c.map fun cfg : VencConfig Rat Rat => (cfg .video0Bitrate : UInt32)) hseq
  have hstored : (overlappedSys.cell .video0Bitrate : UInt32) = 8192 := rfl
  rcases horder with rfl | rfl
  · have hs : (sequential (configCode Rat Rat) overlappedSys.ops [0, 1] vencConfigDefaults).map
        (fun cfg => (cfg .video0Bitrate : UInt32)) = some 4000 := rfl
    rw [hs, Option.map_some, hstored] at hbitrate
    cases hbitrate
  · have hs : (sequential (configCode Rat Rat) overlappedSys.ops [1, 0] vencConfigDefaults).map
        (fun cfg => (cfg .video0Bitrate : UInt32)) = some 4000 := rfl
    rw [hs, Option.map_some, hstored] at hbitrate
    cases hbitrate

/-- Config updates are linearizable while the reload and the requests keep out
of each other's way. -/
theorem config_linearizable (cfg : VencConfig D F) (s : Sys (ConfigOp D) (VencConfig D F) ApplyCall)
    (h : Path (step (configCode D F)) (Exclusive (configCode D F)) (start cfg) s) (hidle : Idle s) :
    Linearizable (configCode D F) cfg s :=
  linearizable_of_exclusive h hidle

def separateRun : List (Act (ConfigOp Rat)) :=
  [.start setVerbose, .start (.reinit 1 0 bitrateFile)] ++ List.replicate 6 (.move 0 true) ++
    List.replicate 14 (.move 1 true)

def exclusive (s : RationalSys) : Act (ConfigOp Rat) → Bool
  | .start _ => true
  | .move i _ => (s.ops[i]?).all fun op =>
      (!op.kind.main || s.owner.isNone) &&
        (!takesMutex op.rest || s.ops.all fun op' => !op'.kind.main || !op'.underWay)

theorem exclusive_of_check (s : RationalSys) (a : Act (ConfigOp Rat)) (h : exclusive s a = true) :
    Exclusive (configCode Rat Rat) s a := by
  cases a with
  | start k => trivial
  | move i b =>
      intro op hop
      simp only [exclusive, hop, Option.all_some, Bool.and_eq_true, Bool.or_eq_true, Bool.not_eq_true',
        List.all_eq_true, Option.isNone_iff_eq_none] at h
      constructor
      · intro hm
        exact h.1.resolve_left (by rw [show op.kind.main = true from hm]; simp)
      · intro ht op' hop' hm
        have hall := h.2.resolve_left (by rw [ht]; simp)
        exact (hall op' hop').resolve_left (by rw [show op'.kind.main = true from hm]; simp)

def separated : Option RationalSys :=
  runIf (step (configCode Rat Rat)) exclusive (start vencConfigDefaults) separateRun

theorem separated_isSome : separated.isSome = true := rfl

theorem config_linearizable_separated :
    Linearizable (configCode Rat Rat) vencConfigDefaults (separated.get separated_isSome) := by
  apply config_linearizable
  · exact path_of_runIf separateRun exclusive_of_check (Option.some_get separated_isSome).symm
  · exact idle_of_check rfl

end WaybeamVenc.ConfigReload
