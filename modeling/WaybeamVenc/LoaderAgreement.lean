import WaybeamVenc.ConfigFixpoint
import WaybeamVenc.SetAdmission

namespace WaybeamVenc.LoaderAgreement

open CNumber Config FieldTable ConfigLoad ConfigSections ConfigSave SaveLoad ConfigFixpoint SetStaging SetAdmission

class OrderedLiterals (D F : Type) [CFloat D F] : Prop where
  lt_ofRat : ∀ p q : Rat, p ≤ q → CFloat.lt (CFloat.ofRat q : D) (CFloat.ofRat p) = false

variable {D F : Type} [CFloat D F]

/-- A set of a field to a text goes through with a new config. -/
structure Accepted (backend : String) (cfg : VencConfig D F) (f : FieldDesc) (value : CString)
    (cfg' : VencConfig D F) : Prop where
  parsed : fieldFromStringCfg cfg f value = some cfg'
  valid : validateFieldCfg cfg' f.key = none
  backend : validateBackendConfig backend cfg' = none

/-- The ranges of the loader that no check of a set repeats, the members it
loads together taken together. -/
def Fits (cfg : VencConfig D F) : Member → Prop
  | .video0QpDelta | .fpvRoiQp | .fpvRoiSteps | .video0SceneHoldoff | .video0Bitrate => True
  | .imageRotate => Kept cfg .imageRotate ∧ Kept cfg .imageMirror ∧ Kept cfg .imageFlip
  | .video0SceneThreshold => Kept cfg .video0SceneHoldoff
  | m => Kept cfg m

def textAt (root : CJson D) (name key : String) : Option CString :=
  (root.item name).bind fun obj => jsonString obj key

/-- A document in the ranges that the loader leaves to the checks of a set. -/
structure Valid (root : CJson D) : Prop where
  awbMode : ∀ s, textAt root "isp" "awbMode" = some s → s = "auto".toList ∨ s = "ct_manual".toList
  bitrate : ∀ i, numberAt root "video0" "bitrate" = some i → 1 ≤ i ∧ i ≤ 200000
  sceneHoldoff : ∀ i, numberAt root "video0" "sceneHoldoff" = some i → i.toUInt32.toUInt8 = 0 →
    ∃ j, numberAt root "video0" "sceneThreshold" = some j ∧ j.toUInt32.toUInt16 ≠ 0

/-! What a check of a set makes sure of. -/

theorem key_of_offset : ∀ f ∈ gFields,
    (f.offset = .video0QpDelta → f.key = "video0.qp_delta") ∧ (f.offset = .fpvRoiQp → f.key = "fpv.roi_qp") ∧
      (f.offset = .fpvRoiSteps → f.key = "fpv.roi_steps") ∧
      (f.offset = .video0SceneHoldoff → f.key = "video0.scene_holdoff") ∧
      (f.offset = .video0Bitrate → f.key = "video0.bitrate") := by
  decide +kernel

theorem check_none {p : Prop} [Decidable p] {err : String} : (if p then some err else none) = none ↔ ¬p := by
  split
  next h => exact iff_of_false nofun fun hn => hn h
  next h => exact iff_of_true rfl h

variable {cfg : VencConfig D F}

theorem qpDelta_valid : validateFieldCfg cfg "video0.qp_delta" = none ↔ Kept cfg .video0QpDelta := by
  refine check_none.trans ?_
  rw [not_or, Int32.not_lt, Int32.not_lt, Kept]

theorem roiQp_valid : validateFieldCfg cfg "fpv.roi_qp" = none ↔ Kept cfg .fpvRoiQp := by
  refine check_none.trans ?_
  rw [not_or, Int32.not_lt, Int32.not_lt, Kept]

theorem roiSteps_valid : validateFieldCfg cfg "fpv.roi_steps" = none ↔ Kept cfg .fpvRoiSteps := by
  refine check_none.trans ?_
  rw [not_or, UInt16.not_lt, UInt16.not_lt, Kept]

theorem roiCenter_valid : validateFieldCfg cfg "fpv.roi_center" = none ↔
    CFloat.lt (cfg .fpvRoiCenter : D) (CFloat.ofRat (1 / 10)) = false ∧
      CFloat.lt (CFloat.ofRat (9 / 10)) (cfg .fpvRoiCenter : D) = false := by
  refine check_none.trans ?_
  rw [not_or, Bool.not_eq_true, Bool.not_eq_true]

theorem bitrate_valid : validateFieldCfg cfg "video0.bitrate" = none ↔
    cfg .video0Bitrate ≠ (0 : UInt32) ∧ cfg .video0Bitrate ≤ (200000 : UInt32) := by
  refine check_none.trans ?_
  rw [not_or, UInt32.not_lt]

theorem sceneHoldoff_valid :
    validateFieldCfg cfg "video0.scene_holdoff" = none ↔ cfg .video0SceneHoldoff ≠ (0 : UInt8) := by
  refine check_none.trans ?_
  rw [not_and]
  exact forall_prop_of_true rfl

theorem awbMode_valid : validateFieldCfg cfg "isp.awb_mode" = none ↔
    (cfg .ispAwbMode).1 = "auto".toList ∨ (cfg .ispAwbMode).1 = "ct_manual".toList := by
  refine check_none.trans ?_
  rw [not_and_or, not_not, not_not]

def checkedKeys : List String :=
  ["isp.awb_mode", "video0.qp_delta", "fpv.roi_qp", "fpv.roi_steps", "fpv.roi_center", "video0.bitrate",
    "video0.scene_holdoff"]

theorem unchecked_valid {key : String} (h : key ∉ checkedKeys) : validateFieldCfg cfg key = none := by
  simp only [checkedKeys, List.mem_cons, List.not_mem_nil, or_false, not_or] at h
  obtain ⟨h₁, h₂, h₃, h₄, h₅, h₆, h₇⟩ := h
  rw [validateFieldCfg, if_neg h₁, if_neg h₂, if_neg h₃, if_neg h₄, if_neg h₅, if_neg h₆, if_neg fun h => h₇ h.1]

theorem all_valid : (∀ f ∈ gFields, validateFieldCfg cfg f.key = none) ↔
    ∀ key ∈ checkedKeys, validateFieldCfg cfg key = none := by
  have hkeys : ∀ key ∈ checkedKeys, ∃ f ∈ gFields, f.key = key := by decide +kernel
  constructor
  · intro h key hmem
    obtain ⟨f, hf, rfl⟩ := hkeys key hmem
    exact h f hf
  · intro h f _
    by_cases hf : f.key ∈ checkedKeys
    · exact h f.key hf
    · exact unchecked_valid hf

/-! A set. -/

theorem accepted_other {backend : String} {cfg' : VencConfig D F} {f : FieldDesc} {value : CString}
    (h : Accepted backend cfg f value cfg') {m : Member} (hm : m ∉ members f) : cfg' m = cfg m := by
  obtain ⟨ws, hws, rfl⟩ := Option.map_eq_some_iff.1 h.parsed
  exact writeAll_other cfg ws (by rwa [writes_members hws])

theorem members_cases (f : FieldDesc) : members f = [f.offset] ∨
    (f.offset = .video0Width ∧ members f = [.video0Width, .video0Height]) := by
  obtain ⟨key, type, mutability, offset, typed⟩ := f
  cases type with
  | size => exact Or.inr ⟨of_decide_eq_true typed, rfl⟩
  | bool | int | uint | uint8 | uint16 | double | float | string => exact Or.inl rfl

theorem accepted_checked {backend : String} {cfg' : VencConfig D F} {f : FieldDesc} {value : CString}
    (h : Accepted backend cfg f value cfg') (hf : f ∈ gFields) (hfits : Fits cfg' f.offset) :
    Kept cfg' f.offset := by
  obtain ⟨hqp, hroi, hsteps, hholdoff, hbitrate⟩ := key_of_offset f hf
  have hv := h.valid
  cases ho : f.offset with
  | video0QpDelta => exact qpDelta_valid.1 (hqp ho ▸ hv)
  | fpvRoiQp => exact roiQp_valid.1 (hroi ho ▸ hv)
  | fpvRoiSteps => exact roiSteps_valid.1 (hsteps ho ▸ hv)
  | video0SceneHoldoff => exact fun _ => sceneHoldoff_valid.1 (hholdoff ho ▸ hv)
  | video0Bitrate => exact UInt32.lt_of_le_of_lt (bitrate_valid.1 (hbitrate ho ▸ hv)).2 (by decide)
  | imageRotate => exact (ho ▸ hfits : Fits cfg' .imageRotate).1
  | video0SceneThreshold => trivial
  | _ => exact (ho ▸ hfits : Fits cfg' _)

/-- Members that a set does not reach stay in range. -/
theorem accepted_unread {backend : String} {cfg' : VencConfig D F} {f : FieldDesc} {value : CString}
    (h : Accepted backend cfg f value cfg') (hfits : Fits cfg' f.offset) {m : Member} (hk : Kept cfg m)
    (hm : m ∉ members f) : Kept cfg' m := by
  have hself := accepted_other h hm
  have hsingle : ∀ {r : Member}, r ≠ .video0Width → r ≠ .video0Height → f.offset ≠ r → r ∉ members f := by
    intro r hw hh ho hr
    rcases members_cases f with hf | ⟨-, hf⟩
    · rw [hf, List.mem_singleton] at hr
      exact ho hr.symm
    · rw [hf] at hr
      rcases List.mem_cons.1 hr with hr | hr
      · exact hw hr
      · exact hh (List.mem_singleton.1 hr)
  cases m with
  | imageMirror =>
      by_cases ho : f.offset = .imageRotate
      · exact (ho ▸ hfits : Fits cfg' .imageRotate).2.1
      · rw [Kept, hself, accepted_other h (hsingle (by decide) (by decide) ho)]
        exact hk
  | imageFlip =>
      by_cases ho : f.offset = .imageRotate
      · exact (ho ▸ hfits : Fits cfg' .imageRotate).2.2
      · rw [Kept, hself, accepted_other h (hsingle (by decide) (by decide) ho)]
        exact hk
  | video0SceneHoldoff =>
      by_cases ho : f.offset = .video0SceneThreshold
      · exact (ho ▸ hfits : Fits cfg' .video0SceneThreshold)
      · rw [Kept, hself, accepted_other h (hsingle (by decide) (by decide) ho)]
        exact hk
  | _ => first | trivial | (rw [Kept, hself]; exact hk)

omit [CFloat D F] in
theorem fits_of_kept {cfg : VencConfig D F} (h : ∀ m, isFloat m = false → Kept cfg m) (m : Member) : Fits cfg m := by
  have hself := h m
  cases m with
  | imageRotate => exact ⟨h .imageRotate rfl, h .imageMirror rfl, h .imageFlip rfl⟩
  | video0SceneThreshold => exact h .video0SceneHoldoff rfl
  | _ => first | trivial | exact hself rfl

/-- A config that a set went through on is a fixed point exactly when the new
value fits. -/
theorem set_fixpoint (text : CJsonText D F) {backend : String} {cfg' : VencConfig D F} {f : FieldDesc}
    {value : CString} (hf : f ∈ gFields) (hcfg : Fixpoint text cfg) (h : Accepted backend cfg f value cfg') :
    Fixpoint text cfg' ↔ Fits cfg' f.offset := by
  rw [fixpoint_iff] at hcfg ⊢
  constructor
  · intro hk
    exact fits_of_kept hk f.offset
  · intro hfits m hm
    by_cases hmem : m ∈ members f
    · rcases members_cases f with hone | ⟨-, hsize⟩
      · rw [hone, List.mem_singleton] at hmem
        rw [hmem]
        exact accepted_checked h hf hfits
      · rw [hsize] at hmem
        rcases List.mem_cons.1 hmem with rfl | hmem
        · trivial
        · rw [List.mem_singleton.1 hmem]
          trivial
    · exact accepted_unread h hfits (hcfg m hm) hmem

/-! A load. -/

section Load

variable {root obj : CJson D} {name key : String}

omit [CFloat D F] in
theorem getInt_at (hobj : root.item name = some obj) (old : Int32) :
    jsonGetInt obj key old = (numberAt root name key).getD old := by
  rw [jsonGetInt, numberAt, hobj, Option.bind_some]
  cases obj.item key with
  | none => rfl
  | some item => cases item <;> rfl

omit [CFloat D F] in
theorem numberAt_missing (hobj : root.item name = none) : numberAt root name key = none := by
  rw [numberAt, hobj]
  rfl

theorem take_eq_iff {n : Nat} {s t : CString} (ht : t.length < n) : s.take n = t ↔ s = t := by
  constructor
  · intro h
    have hlen := congrArg List.length h
    rw [List.length_take] at hlen
    rw [← h, List.take_of_length_le (by omega)]
  · rintro rfl
    exact List.take_of_length_le (Nat.le_of_lt ht)

theorem awbMode_loaded : validateFieldCfg (loadRoot root (vencConfigDefaults : VencConfig D F)) "isp.awb_mode" = none ↔
    ∀ s, textAt root "isp" "awbMode" = some s → s = "auto".toList ∨ s = "ct_manual".toList := by
  obtain ⟨base, hbase, hload⟩ := loadRoot_at root (vencConfigDefaults : VencConfig D F) .isp
  rw [awbMode_valid, hload .ispAwbMode rfl]
  change ((loadIsp root base .ispAwbMode).1 = _ ∨ (loadIsp root base .ispAwbMode).1 = _) ↔ _
  cases hobj : root.item "isp" with
  | none =>
      rw [loadIsp, inSection_none hobj, hbase .ispAwbMode rfl]
      refine iff_of_true (Or.inl rfl) fun s hs => ?_
      rw [textAt, hobj] at hs
      cases hs
  | some obj =>
      have hval : loadIsp root base .ispAwbMode = jsonCopyString obj "awbMode" (base .ispAwbMode) :=
        congrFun (inSection_some hobj) _
      rw [hval, hbase .ispAwbMode rfl, textAt, hobj, Option.bind_some, jsonCopyString, jsonGetString]
      cases hs : jsonString obj "awbMode" with
      | none => exact iff_of_true (Or.inl rfl) (fun _ hs => by cases hs)
      | some s =>
          change s.take 15 = _ ∨ s.take 15 = _ ↔ _
          rw [take_eq_iff (by decide), take_eq_iff (by decide)]
          constructor
          · rintro h _ ⟨rfl⟩
            exact h
          · intro h
            exact h s rfl

theorem toUInt32_range (i : Int32) : (i.toUInt32 ≠ 0 ∧ i.toUInt32 ≤ 200000) ↔ 1 ≤ i ∧ i ≤ 200000 := by
  have hcond := BitVec.toInt_eq_toNat_cond i.toBitVec
  have hlt := i.toBitVec.isLt
  have hnat : i.toUInt32.toNat = i.toBitVec.toNat := rfl
  have hint : i.toInt = i.toBitVec.toInt := rfl
  rw [ne_eq, ← UInt32.toNat_inj, UInt32.le_iff_toNat_le, Int32.le_iff_toInt_le, Int32.le_iff_toInt_le, hnat, hint]
  change (¬i.toBitVec.toNat = 0 ∧ i.toBitVec.toNat ≤ 200000) ↔ (1 ≤ i.toBitVec.toInt ∧ i.toBitVec.toInt ≤ 200000)
  split at hcond <;> omega

theorem bitrate_loaded :
    validateFieldCfg (loadRoot root (vencConfigDefaults : VencConfig D F)) "video0.bitrate" = none ↔
      ∀ i, numberAt root "video0" "bitrate" = some i → 1 ≤ i ∧ i ≤ 200000 := by
  obtain ⟨base, hbase, hload⟩ := loadRoot_at root (vencConfigDefaults : VencConfig D F) .video0
  rw [bitrate_valid, hload .video0Bitrate rfl]
  change loadVideo0 root base .video0Bitrate ≠ _ ∧ loadVideo0 root base .video0Bitrate ≤ _ ↔ _
  cases hobj : root.item "video0" with
  | none =>
      rw [loadVideo0, inSection_none hobj, hbase .video0Bitrate rfl, numberAt_missing hobj]
      exact iff_of_true ⟨of_decide_eq_true rfl, of_decide_eq_true rfl⟩ (fun _ hn => by cases hn)
  | some obj =>
      have hval : loadVideo0 root base .video0Bitrate = jsonGetUInt32 obj "bitrate" (base .video0Bitrate) :=
        congrFun (inSection_some hobj) _
      rw [hval, jsonGetUInt32, getInt_at hobj, hbase .video0Bitrate rfl]
      cases hn : numberAt root "video0" "bitrate" with
      | none => exact iff_of_true ⟨of_decide_eq_true rfl, of_decide_eq_true rfl⟩ (fun _ hn => by cases hn)
      | some i =>
          rw [Option.getD_some, toUInt32_range]
          constructor
          · rintro h _ ⟨rfl⟩
            exact h
          · intro h
            exact h i rfl

theorem holdoff_nonzero (threshold : UInt16) (holdoff : UInt8) :
    (if holdoff < 1 ∧ 0 < threshold then (1 : UInt8) else holdoff) ≠ 0 ↔ (holdoff = 0 → threshold ≠ 0) := by
  have hzero : holdoff < 1 ↔ holdoff = 0 := by
    rw [UInt8.lt_iff_toNat_lt, ← UInt8.toNat_inj]
    exact Nat.lt_one_iff
  have hpos : 0 < threshold ↔ threshold ≠ 0 := by
    rw [UInt16.lt_iff_toNat_lt, ne_eq, ← UInt16.toNat_inj]
    exact Nat.pos_iff_ne_zero
  split
  next h => exact iff_of_true (by decide) fun _ => hpos.1 h.2
  next h => exact ⟨fun hn hz => absurd hz hn, fun hn hz => h ⟨hzero.2 hz, hpos.2 (hn hz)⟩⟩

theorem sceneHoldoff_loaded :
    validateFieldCfg (loadRoot root (vencConfigDefaults : VencConfig D F)) "video0.scene_holdoff" = none ↔
      ∀ i, numberAt root "video0" "sceneHoldoff" = some i → i.toUInt32.toUInt8 = 0 →
        ∃ j, numberAt root "video0" "sceneThreshold" = some j ∧ j.toUInt32.toUInt16 ≠ 0 := by
  obtain ⟨base, hbase, hload⟩ := loadRoot_at root (vencConfigDefaults : VencConfig D F) .video0
  rw [sceneHoldoff_valid, hload .video0SceneHoldoff rfl]
  change loadVideo0 root base .video0SceneHoldoff ≠ _ ↔ _
  cases hobj : root.item "video0" with
  | none =>
      rw [loadVideo0, inSection_none hobj, hbase .video0SceneHoldoff rfl, numberAt_missing hobj]
      exact iff_of_true (of_decide_eq_true rfl) (fun _ hn => by cases hn)
  | some obj =>
      have hval : loadVideo0 root base .video0SceneHoldoff =
          if jsonGetUInt8 obj "sceneHoldoff" (base .video0SceneHoldoff) < 1 ∧
            0 < jsonGetUInt16 obj "sceneThreshold" (base .video0SceneThreshold) then (1 : UInt8)
          else jsonGetUInt8 obj "sceneHoldoff" (base .video0SceneHoldoff) := congrFun (inSection_some hobj) _
      rw [hval, jsonGetUInt8, jsonGetUInt16, getInt_at hobj, getInt_at hobj, hbase .video0SceneHoldoff rfl,
        hbase .video0SceneThreshold rfl]
      refine (holdoff_nonzero _ _).trans ?_
      cases numberAt root "video0" "sceneHoldoff" with
      | none => exact iff_of_true (fun hz => absurd hz (of_decide_eq_true rfl)) (fun _ hn => by cases hn)
      | some i =>
          rw [Option.getD_some]
          cases numberAt root "video0" "sceneThreshold" with
          | none =>
              constructor
              · rintro h _ ⟨rfl⟩ hz
                exact absurd rfl (h hz)
              · intro h hz
                obtain ⟨j, hj, -⟩ := h i rfl hz
                cases hj
          | some j =>
              constructor
              · rintro h _ ⟨rfl⟩ hz
                exact ⟨j, rfl, h hz⟩
              · intro h hz
                obtain ⟨j', ⟨rfl⟩, hj⟩ := h i rfl hz
                exact hj

theorem clampDouble_range [OrderedLiterals D F] {p q : Rat} (hpq : p ≤ q) (x : D) :
    CFloat.lt (clampDouble (CFloat.ofRat p) (CFloat.ofRat q) x) (CFloat.ofRat p) = false ∧
      CFloat.lt (CFloat.ofRat q) (clampDouble (CFloat.ofRat p) (CFloat.ofRat q) x) = false := by
  have hlo : CFloat.lt (CFloat.ofRat p : D) (CFloat.ofRat p) = false := OrderedLiterals.lt_ofRat p p le_rfl
  have hhi : CFloat.lt (CFloat.ofRat q : D) (CFloat.ofRat q) = false := OrderedLiterals.lt_ofRat q q le_rfl
  have hboth : CFloat.lt (CFloat.ofRat q : D) (CFloat.ofRat p) = false := OrderedLiterals.lt_ofRat p q hpq
  simp only [clampDouble]
  by_cases hx : CFloat.lt x (CFloat.ofRat p) = true
  · have hnot : ¬CFloat.lt (CFloat.ofRat q : D) (CFloat.ofRat p) = true := Bool.eq_false_iff.1 hboth
    rw [if_pos hx, if_neg hnot]
    exact ⟨hlo, hboth⟩
  · rw [if_neg hx]
    by_cases hq : CFloat.lt (CFloat.ofRat q) x = true
    · rw [if_pos hq]
      exact ⟨hboth, hhi⟩
    · rw [if_neg hq]
      exact ⟨Bool.eq_false_iff.2 hx, Bool.eq_false_iff.2 hq⟩

theorem roiCenter_loaded [OrderedLiterals D F] :
    validateFieldCfg (loadRoot root (vencConfigDefaults : VencConfig D F)) "fpv.roi_center" = none := by
  obtain ⟨base, hbase, hload⟩ := loadRoot_at root (vencConfigDefaults : VencConfig D F) .fpv
  rw [roiCenter_valid, hload .fpvRoiCenter rfl]
  change CFloat.lt (loadFpv root base .fpvRoiCenter : D) _ = false ∧
    CFloat.lt _ (loadFpv root base .fpvRoiCenter : D) = false
  cases hobj : root.item "fpv" with
  | none =>
      rw [loadFpv, inSection_none hobj, hbase .fpvRoiCenter rfl]
      exact ⟨OrderedLiterals.lt_ofRat _ _ (by norm_num), OrderedLiterals.lt_ofRat _ _ (by norm_num)⟩
  | some obj =>
      rw [loadFpv, inSection_some hobj]
      exact clampDouble_range (by norm_num) _

/-- A loaded config passes every check exactly when its document is in range. -/
theorem load_valid [OrderedLiterals D F] :
    (∀ f ∈ gFields, validateFieldCfg (loadRoot root (vencConfigDefaults : VencConfig D F)) f.key = none) ↔
      Valid root := by
  have hqp := qpDelta_valid.2 (loaded_kept (F := F) root (m := .video0QpDelta) rfl)
  have hroi := roiQp_valid.2 (loaded_kept (F := F) root (m := .fpvRoiQp) rfl)
  have hsteps := roiSteps_valid.2 (loaded_kept (F := F) root (m := .fpvRoiSteps) rfl)
  rw [all_valid]
  simp only [checkedKeys, List.forall_mem_cons, List.not_mem_nil, false_implies, implies_true, and_true, hqp, hroi,
    hsteps, roiCenter_loaded, true_and, awbMode_loaded, bitrate_loaded, sceneHoldoff_loaded]
  exact ⟨fun h => ⟨h.1, h.2.1, h.2.2⟩, fun h => ⟨h.awbMode, h.bitrate, h.sceneHoldoff⟩⟩

end Load

/-- The checks of a set and the ranges of the loader: a set keeps a fixed point
exactly when the value fits, and a load passes every check exactly when the
document is in range. -/
theorem validation_agreement [OrderedLiterals D F] (text : CJsonText D F) :
    (∀ (backend : String) (cfg cfg' : VencConfig D F) (value : CString), ∀ f ∈ gFields, Fixpoint text cfg →
      Accepted backend cfg f value cfg' → (Fixpoint text cfg' ↔ Fits cfg' f.offset)) ∧
    ∀ root : CJson D,
      (∀ f ∈ gFields, validateFieldCfg (loadRoot root (vencConfigDefaults : VencConfig D F)) f.key = none) ↔
        Valid root :=
  ⟨fun _ _ _ _ _ hf hcfg h => set_fixpoint text hf hcfg h, fun _ => load_valid⟩

/-! Exact numbers. -/

instance : OrderedLiterals Rat Rat where
  lt_ofRat p q h := by
    change decide (q < p) = false
    exact decide_eq_false (not_lt.2 h)

abbrev defaults : VencConfig Rat Rat := vencConfigDefaults

theorem defaults_fixpoint : Fixpoint exactText defaults :=
  (fixpoint_iff exactText defaults).2 fun m _ => kept_defaults m

def loud : VencConfig Rat Rat := defaults.set .audioVolume (101 : Int32)

theorem loud_accepted {f : FieldDesc} (h : findField "audio.volume" = some f) :
    Accepted "star6e" defaults f "101".toList loud ∧ f.offset = .audioVolume := by
  cases h
  exact ⟨⟨rfl, rfl, rfl⟩, rfl⟩

def oddWhiteBalance : CJson Rat := .object [("isp", .object [("awbMode", .string "manual".toList)])]

/-- Neither direction holds by itself: a volume of 101 is accepted, and a loaded
white balance mode is not looked at. -/
theorem validation_agreement_exact : ¬Fixpoint exactText loud ∧
    ¬∀ f ∈ gFields, validateFieldCfg (loadRoot oddWhiteBalance defaults) f.key = none := by
  obtain ⟨hset, hload⟩ := validation_agreement (D := Rat) (F := Rat) exactText
  constructor
  · obtain ⟨f, hf⟩ : ∃ f, findField "audio.volume" = some f := ⟨_, rfl⟩
    obtain ⟨haccepted, hoffset⟩ := loud_accepted hf
    rw [hset "star6e" defaults loud "101".toList f (findField_spec hf).1 defaults_fixpoint haccepted, hoffset]
    exact fun h => absurd h.2 (by decide)
  · rw [hload]
    intro h
    rcases h.awbMode "manual".toList rfl with he | he <;> exact absurd he (by decide)

theorem volume_drifts :
    ¬((∀ (cfg cfg' : VencConfig Rat Rat) (f : FieldDesc) (value : CString), f ∈ gFields → Fixpoint exactText cfg →
        Accepted "star6e" cfg f value cfg' → Fixpoint exactText cfg') ∧
      ∀ root : CJson Rat, ∀ f ∈ gFields, validateFieldCfg (loadRoot root defaults) f.key = none) := by
  rintro ⟨h, -⟩
  obtain ⟨f, hf⟩ : ∃ f, findField "audio.volume" = some f := ⟨_, rfl⟩
  have hloud := h defaults loud f "101".toList (findField_spec hf).1 defaults_fixpoint (loud_accepted hf).1
  exact absurd ((fixpoint_iff exactText loud).1 hloud .audioVolume rfl).2 (by decide)

end WaybeamVenc.LoaderAgreement
