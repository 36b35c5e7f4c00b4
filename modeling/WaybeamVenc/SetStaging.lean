import Mathlib.Data.List.Nodup
import Mathlib.Data.List.Pairwise
import WaybeamVenc.Fallible
import WaybeamVenc.LiveGroups

namespace WaybeamVenc.SetStaging

open Fallible CNumber Config FieldTable SetQuery LiveApply LiveGroups

variable {D F : Type}

/-! The table. -/

def members (f : FieldDesc) : List Member :=
  match f.type with
  | .size => [.video0Width, .video0Height]
  | _ => [f.offset]

theorem members_nodup : (gFields.flatMap members).Nodup := by decide +kernel

/-- What the keys of the tables are made of. -/
def KeyText (key : CString) : Prop := key.length ≤ 127 ∧ ∀ c ∈ key, c.isAlphanum = true ∨ c = '.' ∨ c = '_'

instance (key : CString) : Decidable (KeyText key) :=
  @instDecidableAnd _ _ _ (List.decidableBAll (fun c => c.isAlphanum = true ∨ c = '.' ∨ c = '_') key)

theorem fields_keyText : ∀ f ∈ gFields, KeyText f.key.toList := by decide +kernel

theorem aliases_keyText : ∀ a ∈ gFieldAliases, KeyText a.1.toList := by decide +kernel

theorem live_fields : ∀ f ∈ gFields, f.mutability = .live → ∀ g ∈ liveGroupForKey f.key, ∀ m ∈ members f,
    m ∈ liveGroupFields g (noteLiveGroupTouch .none f.key) := by decide +kernel

theorem findField_spec {key : String} {f : FieldDesc} (h : findField key = some f) : f ∈ gFields ∧ f.key = key :=
  ⟨List.mem_of_find?_eq_some h, by simpa using List.find?_some h⟩

theorem keyText_of_findField {key : String} {f : FieldDesc} (h : findField (canonicalizeFieldKey key) = some f) :
    KeyText key.toList := by
  rw [canonicalizeFieldKey] at h
  split at h
  next a ha =>
    have hkey : a.1 = key := by simpa using List.find?_some ha
    exact hkey ▸ aliases_keyText a (List.mem_of_find?_eq_some ha)
  · obtain ⟨hf, hkey⟩ := findField_spec h
    exact hkey ▸ fields_keyText f hf

/-- A character of no key is in no key. -/
theorem KeyText.missing {key : CString} (h : KeyText key) {c : Char} (hc : ¬(c.isAlphanum = true ∨ c = '.' ∨ c = '_')) :
    c ∉ key := fun hmem => hc (h.2 c hmem)

theorem members_disjoint {f f' : FieldDesc} (hf : f ∈ gFields) (hf' : f' ∈ gFields) (h : f.key ≠ f'.key)
    {m : Member} (hm : m ∈ members f) : m ∉ members f' := by
  have hp := (List.nodup_flatMap.1 members_nodup).2
  have : Std.Symm (Function.onFun List.Disjoint members) := ⟨fun _ _ h _ hb ha => h ha hb⟩
  exact fun hm' => hp.forall hf hf' (fun he => h (congrArg _ he)) hm hm'

/-! Touched members. -/

structure Le (s t : LiveBatchTouched) : Prop where
  videoFps : s.videoFps = true → t.videoFps = true
  videoGop : s.videoGop = true → t.videoGop = true
  awbMode : s.awbMode = true → t.awbMode = true
  awbCt : s.awbCt = true → t.awbCt = true
  outgoingEnabled : s.outgoingEnabled = true → t.outgoingEnabled = true
  outgoingServer : s.outgoingServer = true → t.outgoingServer = true

theorem Le.fields {s t : LiveBatchTouched} (h : Le s t) {g : LiveApplyGroup} {m : Member}
    (hm : m ∈ liveGroupFields g s) : m ∈ liveGroupFields g t := by
  cases g with
  | videoTiming =>
      simp only [liveGroupFields, List.mem_append, List.mem_ite_nil_right] at hm ⊢
      exact hm.imp (And.imp_left h.videoFps) (And.imp_left h.videoGop)
  | awb =>
      simp only [liveGroupFields, List.mem_append, List.mem_ite_nil_right] at hm ⊢
      exact hm.imp (And.imp_left h.awbMode) (And.imp_left h.awbCt)
  | outgoing =>
      simp only [liveGroupFields, List.mem_append, List.mem_ite_nil_right] at hm ⊢
      exact hm.imp (And.imp_left h.outgoingEnabled) (And.imp_left h.outgoingServer)
  | _ => exact hm

theorem le_note (t : LiveBatchTouched) (key : String) : Le t (noteLiveGroupTouch t key) := by
  rw [noteLiveGroupTouch]
  split_ifs <;> constructor <;> simp

theorem note_none_le (t : LiveBatchTouched) (key : String) :
    Le (noteLiveGroupTouch .none key) (noteLiveGroupTouch t key) := by
  unfold noteLiveGroupTouch LiveBatchTouched.none
  split_ifs <;> constructor <;> simp

/-! The parameters of a batch. -/

def resolve (p : SetQueryParam) : SetQueryParam := { p with field := p.field.or (findField p.canonicalKey) }

/-- A parameter whose field, if it has one, is the one that its key names. -/
def Named (p : SetQueryParam) : Prop := ∀ f, p.field = some f → f ∈ gFields ∧ f.key = p.canonicalKey

theorem Named.resolve {p : SetQueryParam} (h : Named p) : Named (resolve p) := by
  intro f hf
  change p.field.or (findField p.canonicalKey) = some f at hf
  cases hp : p.field with
  | some f' =>
      rw [hp] at hf
      cases hf
      exact h f hp
  | none =>
      rw [hp] at hf
      exact findField_spec hf

structure Collected (params : List SetQueryParam) (batch : LiveBatch) : Prop where
  params : batch.params = params.map resolve
  named : ∀ p ∈ batch.params, Named p
  covered : ∀ p ∈ batch.params, ∃ f, p.field = some f ∧ ∀ m ∈ members f, ∃ g ∈ batch.groupOrder,
    m ∈ liveGroupFields g batch.touched
  nodup : (batch.params.map SetQueryParam.canonicalKey).Nodup

theorem Collected.empty : Collected [] .empty := by
  constructor <;> simp [LiveBatch.empty]

def addParam (batch : LiveBatch) (p : SetQueryParam) (group : LiveApplyGroup) : LiveBatch where
  params := batch.params ++ [resolve p]
  groupOrder := if group ∈ batch.groupOrder then batch.groupOrder else batch.groupOrder ++ [group]
  touched := noteLiveGroupTouch batch.touched p.canonicalKey

theorem collectParam_cases {backend : String} {batch batch' : LiveBatch} {p : SetQueryParam}
    (hc : (collectParam backend batch p : Except (Reply D F) LiveBatch) = .ok batch') :
    ∃ f group, (resolve p).field = some f ∧ f.mutability = .live ∧
      (∀ q ∈ batch.params, q.canonicalKey ≠ p.canonicalKey) ∧ liveGroupForKey p.canonicalKey = some group ∧
      batch' = addParam batch p group := by
  rw [collectParam] at hc
  split at hc
  next => cases hc
  next f hf =>
    simp only [fieldSupportedForBackend, not_true, if_false] at hc
    split at hc
    next => cases hc
    next hlive =>
      split at hc
      next => cases hc
      next hdup =>
        split at hc
        next => cases hc
        next group hg =>
          cases hc
          refine ⟨f, group, hf, not_not.1 hlive, fun q hq hkey => hdup ⟨q, hq, hkey⟩, hg, ?_⟩
          rw [addParam, resolve, hf]

theorem mem_groupOrder_addParam {batch : LiveBatch} {p : SetQueryParam} {group g : LiveApplyGroup} :
    g ∈ (addParam batch p group).groupOrder ↔ g ∈ batch.groupOrder ∨ g = group := by
  rw [addParam]
  dsimp only
  split
  next h =>
    constructor
    · exact Or.inl
    · rintro (hg | rfl)
      · exact hg
      · exact h
  next => rw [List.mem_append, List.mem_singleton]

theorem collectParam_ok {backend : String} {params : List SetQueryParam} {batch batch' : LiveBatch}
    {p : SetQueryParam} (h : Collected params batch) (hp : Named p)
    (hc : (collectParam backend batch p : Except (Reply D F) LiveBatch) = .ok batch') :
    Collected (params ++ [p]) batch' := by
  obtain ⟨f, group, hf, hlive, hdup, hg, rfl⟩ := collectParam_cases hc
  obtain ⟨hmem, hkey⟩ := hp.resolve f hf
  constructor
  · rw [List.map_append, List.map_singleton, ← h.params]
    rfl
  · intro q hq
    rcases List.mem_append.1 hq with hq | hq
    · exact h.named q hq
    · rw [List.mem_singleton.1 hq]
      exact hp.resolve
  · intro q hq
    rcases List.mem_append.1 hq with hq | hq
    · obtain ⟨f', hf', hcov⟩ := h.covered q hq
      refine ⟨f', hf', fun m hm => ?_⟩
      obtain ⟨g', hg', hm'⟩ := hcov m hm
      exact ⟨g', mem_groupOrder_addParam.2 (.inl hg'), (le_note batch.touched p.canonicalKey).fields hm'⟩
    · rw [List.mem_singleton.1 hq]
      refine ⟨f, hf, fun m hm => ⟨group, mem_groupOrder_addParam.2 (.inr rfl), ?_⟩⟩
      apply (note_none_le batch.touched p.canonicalKey).fields
      have hfields := live_fields f hmem hlive group
      rw [show f.key = p.canonicalKey from hkey] at hfields
      exact hfields hg m hm
  · change ((batch.params ++ [resolve p]).map SetQueryParam.canonicalKey).Nodup
    rw [List.map_append, List.nodup_append]
    refine ⟨h.nodup, by simp, ?_⟩
    intro a ha b hb hab
    obtain ⟨q, hq, rfl⟩ := List.mem_map.1 ha
    rw [List.map_singleton, List.mem_singleton] at hb
    exact hdup q hq (hab.trans hb)

theorem collectLiveGroups_ok {backend : String} {params : List SetQueryParam} {batch : LiveBatch}
    (hp : ∀ p ∈ params, Named p)
    (hc : (collectLiveGroups backend params : Except (Reply D F) LiveBatch) = .ok batch) :
    Collected params batch :=
  foldlM_ok Collected (fun _ p _ _ hm hb h => collectParam_ok hb (hp p hm) h) .empty hc

end WaybeamVenc.SetStaging
