import WaybeamVenc.LiveApply

namespace WaybeamVenc.LiveGroups

open Config FieldTable SetQuery LiveApply

variable {D F : Type}

def memberGroup : Member → Option LiveApplyGroup
  | .video0Bitrate => some .bitrate
  | .video0Fps | .video0GopSize => some .videoTiming
  | .video0QpDelta => some .qpDelta
  | .fpvRoiEnabled | .fpvRoiQp | .fpvRoiSteps | .fpvRoiCenter => some .roi
  | .ispExposure => some .exposure
  | .ispGainMax => some .gainMax
  | .ispAwbMode | .ispAwbCt => some .awb
  | .systemVerbose => some .verbose
  | .outgoingEnabled | .outgoingServer => some .outgoing
  | .audioMute => some .mute
  | _ => none

theorem memberGroup_of_mem {m : Member} {group : LiveApplyGroup} {touched : LiveBatchTouched}
    (h : m ∈ liveGroupFields group touched) : memberGroup m = some group := by
  cases group with
  | roi =>
      simp only [liveGroupFields, List.mem_cons, List.not_mem_nil, or_false] at h
      rcases h with rfl | rfl | rfl | rfl <;> rfl
  | videoTiming | awb | outgoing =>
      simp only [liveGroupFields, List.mem_append] at h
      rcases h with h | h <;> split at h <;> simp at h <;> rw [h] <;> rfl
  | _ =>
      rw [List.mem_singleton.1 h]
      rfl

theorem foldl_set_apply (src : VencConfig D F) (ms : List Member) (dst : VencConfig D F) (m : Member) :
    ms.foldl (fun dst m => dst.set m (src m)) dst m = if m ∈ ms then src m else dst m := by
  induction ms generalizing dst with
  | nil => rfl
  | cons n ms ih =>
      rw [List.foldl_cons, ih]
      by_cases hm : m ∈ ms
      · rw [if_pos hm, if_pos (List.mem_cons_of_mem n hm)]
      · rw [if_neg hm]
        by_cases hn : m = n
        · subst hn
          rw [dst.set_same, if_pos List.mem_cons_self]
        · rw [dst.set_other _ hn, if_neg (by simp [hm, hn])]

theorem build_of_mem (base updates : VencConfig D F) {group : LiveApplyGroup} {touched : LiveBatchTouched}
    {m : Member} (h : m ∈ liveGroupFields group touched) :
    buildLiveGroupConfig base updates group touched m = updates m := by
  rw [buildLiveGroupConfig, copyLiveGroupFields, foldl_set_apply, if_pos h]

theorem build_of_not_mem (base updates : VencConfig D F) {group : LiveApplyGroup} {touched : LiveBatchTouched}
    {m : Member} (h : m ∉ liveGroupFields group touched) :
    buildLiveGroupConfig base updates group touched m = base m := by
  rw [buildLiveGroupConfig, copyLiveGroupFields, foldl_set_apply, if_neg h]

/-- A config that differs from another only where some groups copy. -/
def DiffersOn (groups : List LiveApplyGroup) (touched : LiveBatchTouched) (base cfg : VencConfig D F) : Prop :=
  ∀ m, (∀ g ∈ groups, m ∉ liveGroupFields g touched) → cfg m = base m

variable {groups rest : List LiveApplyGroup} {group : LiveApplyGroup} {touched : LiveBatchTouched}
  {base cfg cfg' : VencConfig D F}

theorem DiffersOn.refl (groups : List LiveApplyGroup) (touched : LiveBatchTouched) (cfg : VencConfig D F) :
    DiffersOn groups touched cfg cfg := fun _ _ => rfl

theorem DiffersOn.eq (h : DiffersOn [] touched base cfg) : cfg = base := by
  funext m
  exact h m (by simp)

theorem DiffersOn.mono {groups' : List LiveApplyGroup} (h : DiffersOn groups touched base cfg)
    (hs : ∀ g ∈ groups, g ∈ groups') : DiffersOn groups' touched base cfg :=
  fun m hm => h m fun g hg => hm g (hs g hg)

/-- No group copies the members that no group applies. -/
theorem DiffersOn.of_memberGroup (h : DiffersOn groups touched base cfg) {m : Member} (hm : memberGroup m = none) :
    cfg m = base m := by
  apply h
  intro g _ hg
  rw [memberGroup_of_mem hg] at hm
  cases hm

/-- Building a group's config from any updates changes that group only. -/
theorem DiffersOn.build (h : DiffersOn groups touched base cfg) (updates : VencConfig D F)
    (group : LiveApplyGroup) :
    DiffersOn (groups ++ [group]) touched base (buildLiveGroupConfig cfg updates group touched) := by
  intro m hm
  rw [build_of_not_mem cfg updates (hm group (by simp))]
  exact h m fun g hg => hm g (List.mem_append_left _ hg)

theorem DiffersOn.restore (h : DiffersOn (group :: rest) touched base cfg) :
    DiffersOn rest touched base (buildLiveGroupConfig cfg base group touched) := by
  intro m hm
  by_cases hg : m ∈ liveGroupFields group touched
  · exact build_of_mem cfg base hg
  · rw [build_of_not_mem cfg base hg]
    apply h
    rintro g (_ | ⟨_, hr⟩)
    · exact hg
    · exact hm g hr

/-- A group taken back has the base's value at each of its members, those it
does not copy included. -/
theorem DiffersOn.restore_apply (h : DiffersOn groups touched base cfg) {m : Member}
    (hm : memberGroup m = some group) : buildLiveGroupConfig cfg base group touched m = base m := by
  by_cases hg : m ∈ liveGroupFields group touched
  · exact build_of_mem cfg base hg
  · rw [build_of_not_mem cfg base hg]
    apply h
    intro g _ hm'
    have hgg : some g = some group := (memberGroup_of_mem hm').symm.trans hm
    cases hgg
    exact hg hm'

theorem sceneDetection_congr (h : cfg .video0SceneThreshold = cfg' .video0SceneThreshold) :
    sceneDetection cfg = sceneDetection cfg' := by
  unfold sceneDetection
  rw [h]

theorem supported_congr (cb : Callbacks) (h : cfg .video0SceneThreshold = cfg' .video0SceneThreshold)
    (group : LiveApplyGroup) (touched : LiveBatchTouched) :
    liveGroupSupportedForCfg cb cfg group touched = liveGroupSupportedForCfg cb cfg' group touched := by
  unfold liveGroupSupportedForCfg
  rw [sceneDetection_congr h]

theorem mem_outgoing_callbacks {k : Callback} : k ∈ liveGroupCallbacks cfg .outgoing touched ↔
    (k = .server ∧ touched.outgoingServer = true) ∨ (k = .outputEnabled ∧ touched.outgoingEnabled = true) := by
  simp only [liveGroupCallbacks]
  cases touched.outgoingEnabled <;> cases touched.outgoingServer <;> simp
  -- both are touched, and the config orders the two calls
  split <;> simp [or_comm]

/-- The config decides the order of a group's callbacks, not which they are. -/
theorem mem_callbacks_congr (h : cfg .video0SceneThreshold = cfg' .video0SceneThreshold) {k : Callback}
    (hk : k ∈ liveGroupCallbacks cfg group touched) : k ∈ liveGroupCallbacks cfg' group touched := by
  cases group with
  | videoTiming =>
      rw [liveGroupCallbacks] at hk ⊢
      rwa [← sceneDetection_congr h]
  | outgoing =>
      rw [mem_outgoing_callbacks] at hk ⊢
      exact hk
  | _ => exact hk

/-- The arguments of a group's callbacks come from that group's members. -/
theorem callbackArgs_congr [CFloat D F] {k : Callback} {scene : VencConfig D F}
    (hk : k ∈ liveGroupCallbacks scene group touched)
    (h : ∀ m, memberGroup m = some group → cfg m = cfg' m) : callbackArgs cfg k = callbackArgs cfg' k := by
  cases group with
  | videoTiming =>
      simp only [liveGroupCallbacks, List.mem_append] at hk
      rcases hk with hk | hk <;> split at hk <;> simp at hk <;> subst hk <;>
        simp only [callbackArgs, h .video0Fps rfl, h .video0GopSize rfl]
  | outgoing =>
      rcases mem_outgoing_callbacks.1 hk with ⟨rfl, _⟩ | ⟨rfl, _⟩
      · simp only [callbackArgs, h .outgoingServer rfl]
      · simp only [callbackArgs, h .outgoingEnabled rfl]
  | bitrate => rw [List.mem_singleton.1 hk]; simp only [callbackArgs, h .video0Bitrate rfl]
  | qpDelta => rw [List.mem_singleton.1 hk]; simp only [callbackArgs, h .video0QpDelta rfl]
  | roi => rw [List.mem_singleton.1 hk]; simp only [callbackArgs, h .fpvRoiQp rfl]
  | exposure => rw [List.mem_singleton.1 hk]; simp only [callbackArgs, h .ispExposure rfl]
  | gainMax => rw [List.mem_singleton.1 hk]; simp only [callbackArgs, h .ispGainMax rfl]
  | awb => rw [List.mem_singleton.1 hk]; simp only [callbackArgs, h .ispAwbMode rfl, h .ispAwbCt rfl]
  | verbose => rw [List.mem_singleton.1 hk]; simp only [callbackArgs, h .systemVerbose rfl]
  | mute => rw [List.mem_singleton.1 hk]; simp only [callbackArgs, h .audioMute rfl]

end WaybeamVenc.LiveGroups
