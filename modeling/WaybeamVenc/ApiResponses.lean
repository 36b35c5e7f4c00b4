import WaybeamVenc.IqAnswer
import WaybeamVenc.RationalFloat
import WaybeamVenc.SetAnswers

namespace WaybeamVenc.ApiResponses

open CNumber Config FieldTable Json JsonNumber JsonString PrintfG ApiBodies ApiValues ApiJson IqAnswer SetQuery LiveApply
  SetAdmission SetTransaction SetAnswers Resumption Prog

section

variable {D F : Type} [CFloat D F] [PrintDouble D]

/-! /api/v1/set -/

def appliedPath : List CString := ["data".toList, "applied".toList]

/-- The answer tells each parameter's field as it is stored. -/
def SetMeans (stored : VencConfig D F) (params : List SetQueryParam) (j : Value) : Prop :=
  (∀ p f, params = [p] → findField p.canonicalKey = some f → Carries valuePath (fieldToJsonValueFromCfg stored f) j) ∧
    (2 ≤ params.length → ∃ items, j.at? appliedPath = some (.array items) ∧ List.Forall₂
      (fun p item => ∀ f, findField p.canonicalKey = some f →
        Carries ["value".toList] (fieldToJsonValueFromCfg stored f) item) params items)

def SetFits (stored : VencConfig D F) (params : List SetQueryParam) : Prop :=
  (∀ p f, params = [p] → findField p.canonicalKey = some f →
    Fits p.key.toList (fieldToJsonValueFromCfg stored f) (decide (f.mutability = .restart))) ∧
    (2 ≤ params.length → ∀ p ∈ params, ∀ f, findField p.canonicalKey = some f →
      Exact (fieldToJsonValueFromCfg stored f))

theorem json_of_parses {v : FieldValue D F} (h : v.parses = true) : ∃ j, fieldJson v = some j := by
  have hfinite : ∀ x : Double, x.value?.isSome = true → ∃ j, ApiBodies.Double.json x = some j := by
    intro x hx
    cases x with
    | finite negative magnitude => exact ⟨_, rfl⟩
    | inf negative | nan negative => cases hx
  cases v with
  | size width height => exact ⟨_, rfl⟩
  | member t x =>
      cases t with
      | bool | str n | int | uint32 | uint16 | uint8 => exact ⟨_, rfl⟩
      | double | float =>
          apply hfinite
          rw [← PrintDouble.finite_view]
          exact h

omit [CFloat D F] [PrintDouble D] in
theorem live_not_float {f : FieldDesc} {key : String} (hf : findField key = some f) (hlive : f.mutability = .live)
    (stored : VencConfig D F) : ¬IsFloat (fieldToJsonValueFromCfg stored f) := by
  have htable : ∀ f ∈ gFields, f.mutability = .live → f.offset.type ≠ .float := by decide
  have htype := htable f (SetStaging.findField_spec hf).1 hlive
  rw [fieldToJsonValueFromCfg]
  split
  · exact id
  · generalize stored f.offset = v
    revert htype v
    cases f.offset.type with
    | float =>
        intro htype
        exact absurd rfl htype
    | _ =>
        intro _ v h
        exact h

/-- One entry of the answer to a batch. -/
theorem entry_carries {stored : VencConfig D F} {p : SetQueryParam} {e : String × FieldValue D F}
    (he : Entry stored p e) (hparses : e.2.parses = true) :
    (∀ f, findField p.canonicalKey = some f →
      Carries ["value".toList] (fieldToJsonValueFromCfg stored f) (appliedEntry e)) ↔
      ∀ f, findField p.canonicalKey = some f → Exact (fieldToJsonValueFromCfg stored f) := by
  obtain ⟨f, hf, hlive, rfl⟩ := he
  have hone : ∀ P : FieldDesc → Prop, (∀ f', findField p.canonicalKey = some f' → P f') ↔ P f := by
    intro P
    constructor
    · exact fun h => h f hf
    · intro h f' hf'
      obtain rfl := Option.some.inj (hf.symm.trans hf')
      exact h
  obtain ⟨j, hj⟩ := json_of_parses hparses
  have hat : (appliedEntry (p.key, fieldToJsonValueFromCfg stored f)).at? ["value".toList] = some (reprint D j) := by
    rw [appliedEntry, hj, Option.getD_some]
    simp only [Value.at?, Value.get?, List.foldlM_cons, List.foldlM_nil]
    rw [List.find?_cons_of_neg (by simp), List.find?_cons_of_pos (by simp)]
    rfl
  rw [hone, hone, exact_iff, Carries, hat]
  constructor
  · rintro ⟨u, hu, h⟩
    obtain rfl := Option.some.inj hu
    exact ⟨j, hj, (decodes_reprint (live_not_float hf hlive stored) hj).1 h⟩
  · rintro ⟨j', hj', h⟩
    obtain rfl := Option.some.inj (hj.symm.trans hj')
    exact ⟨_, rfl, (decodes_reprint (live_not_float hf hlive stored) hj).2 h⟩

omit [CFloat D F] [PrintDouble D] in
theorem applied_at {items : List Value} :
    (dataTree [("applied".toList, .array items)]).at? appliedPath = some (.array items) := at_first (by decide)

/-- An answer that tells what is stored is right exactly when the values are
exact and the body fits. -/
theorem told_iff {stored : VencConfig D F} {params : List SetQueryParam} {r : Reply D F} (h : Told stored params r) :
    IsObject (replyBody r) (SetMeans stored params) ↔ SetFits stored params := by
  cases r with
  | error status code message => cases h
  | single key v pending =>
      obtain ⟨p, f, rfl, hplain, hlen, hf, rfl, rfl, rfl⟩ := h
      have hone : ∀ P : SetQueryParam → FieldDesc → Prop,
          (∀ p' f', [p] = [p'] → findField p'.canonicalKey = some f' → P p' f') ↔ P p f := by
        intro P
        constructor
        · exact fun h => h p f rfl hf
        · intro h p' f' hp hf'
          obtain rfl := List.singleton_inj.1 hp
          obtain rfl := Option.some.inj (hf.symm.trans hf')
          exact h
      have hfew : ¬2 ≤ [p].length := by simp
      have hmeans : SetMeans stored [p] = Carries valuePath (fieldToJsonValueFromCfg stored f) := by
        funext j
        rw [SetMeans, hone]
        exact propext (and_iff_left fun h => absurd h hfew)
      rw [SetFits, hone, hmeans, and_iff_left fun h => absurd h hfew]
      exact field_iff hplain hlen _ _
  | applied entries =>
      obtain ⟨hseveral, hentries, hparses⟩ := h
      have hnone : ∀ p, params ≠ [p] := by
        rintro p rfl
        exact absurd hseveral (by simp)
      have hitems : (∃ items, (appliedTree entries).at? appliedPath = some (.array items) ∧ List.Forall₂
          (fun p item => ∀ f, findField p.canonicalKey = some f →
            Carries ["value".toList] (fieldToJsonValueFromCfg stored f) item) params items) ↔
          ∀ p ∈ params, ∀ f, findField p.canonicalKey = some f → Exact (fieldToJsonValueFromCfg stored f) := by
        have hat : (appliedTree entries).at? appliedPath = some (.array (entries.map appliedEntry)) := applied_at
        rw [hat]
        have hall : List.Forall₂ (fun p item => ∀ f, findField p.canonicalKey = some f →
            Carries ["value".toList] (fieldToJsonValueFromCfg stored f) item) params (entries.map appliedEntry) ↔
            ∀ p ∈ params, ∀ f, findField p.canonicalKey = some f → Exact (fieldToJsonValueFromCfg stored f) := by
          clear hat hseveral hnone
          induction hentries with
          | nil => simp
          | @cons p e params entries he hrest ih =>
              rw [List.map_cons, List.forall₂_cons, List.forall_mem_cons,
                entry_carries he (hparses e List.mem_cons_self), ih fun e he => hparses e (List.mem_cons_of_mem _ he)]
        rw [← hall]
        constructor
        · rintro ⟨items, hitems, h⟩
          obtain rfl := Value.array.inj (Option.some.inj hitems)
          exact h
        · exact fun h => ⟨_, rfl, h⟩
      have hbody : replyBody (.applied entries) = print (appliedTree entries) := rfl
      rw [hbody, appliedTree, printed_iff, SetMeans, SetFits, ← appliedTree, ← hitems]
      refine and_congr (iff_of_true ?_ ?_) Iff.rfl
      · exact fun p f hp => absurd hp (hnone p)
      · exact fun p f hp => absurd hp (hnone p)

/-- The answer to a set: an error, or what it stored. -/
theorem set_iff (cb : Callbacks) (backend : String) (query : CString) (cfg : VencConfig D F)
    (answer : List (ApplyCall × Bool) → ApplyCall → Bool) :
    let end_ := (handleSet cb backend query).exec answer cfg []
    (end_.1.status = 200 → ∃ params, requestedParams query = some params ∧
      (IsObject (replyBody end_.1) (SetMeans end_.2.1 params) ↔ SetFits end_.2.1 params)) ∧
      (end_.1.status ≠ 200 → IsObject (replyBody end_.1) fun _ => True) := by
  intro end_
  obtain ⟨reply, hreply, hrun⟩ := handleSet_ends cb backend query cfg answer
  have hends := ends_told hrun
  rw [← hreply] at hends
  rcases hends with ⟨params, hparams, htold⟩ | ⟨status, code, message, hreply, hstatus, htexts⟩
  · refine ⟨fun _ => ⟨params, hparams, told_iff htold⟩, fun hstatus => ?_⟩
    generalize end_.1 = r at htold hstatus
    cases r with
    | error status code message => cases htold
    | single | applied => exact absurd rfl hstatus
  · rw [hreply]
    exact ⟨fun h => absurd h hstatus, fun _ => isObject_error htexts⟩

end

/-! /api/v1/iq/set -/

theorem refused_object {status : ℕ} {code message : String} (hstatus : status ≠ 200)
    (h : PlainTexts code message) : (httpdSendError status code message).status ≠ 200 ∧
      IsObject (httpdSendError status code message).body fun _ => True := ⟨hstatus, isObject_error h⟩

/-- The answer to a parameter that was set, or to one that was not. -/
theorem iq_cases (applyIqParam : Option (CString → CString → Int32)) (query : CString) :
    (∃ key val, firstQueryParam 64 256 query = some (key, val) ∧ val ≠ [] ∧ Numeric val ∧
      handleIqSet applyIqParam query =
        ⟨200, snprintf 512 (okData ++ (iqData key (iqValue val) ++ ['}', '}']))⟩) ∨
      ((handleIqSet applyIqParam query).status ≠ 200 ∧ IsObject (handleIqSet applyIqParam query).body fun _ => True) := by
  cases applyIqParam with
  | none => exact .inr (refused_object (by decide) (by decide))
  | some apply =>
      rw [handleIqSet]
      cases hp : firstQueryParam 64 256 query with
      | none => exact .inr (refused_object (by decide) (by decide))
      | some p =>
          obtain ⟨key, val⟩ := p
          cases key with
          | nil => exact .inr (refused_object (by decide) (by decide))
          | cons c key =>
              cases val with
              | nil => exact .inr (refused_object (by decide) (by decide))
              | cons d val =>
                  dsimp only
                  by_cases hnumeric : (d :: val).all iqNumeric
                  · rw [if_neg (not_not_intro hnumeric)]
                    by_cases hfailed : apply (c :: key) (d :: val) ≠ 0
                    · rw [if_pos hfailed]
                      exact .inr (refused_object (by decide) (by decide))
                    · rw [if_neg hfailed]
                      exact .inl ⟨_, _, rfl, List.cons_ne_nil d val, List.all_eq_true.1 hnumeric, rfl⟩
                  · rw [if_pos hnumeric]
                    exact .inr (refused_object (by decide) (by decide))

theorem iq_answer_iff (applyIqParam : Option (CString → CString → Int32)) (query : CString) :
    let r := handleIqSet applyIqParam query
    (r.status = 200 → ∃ key val, firstQueryParam 64 256 query = some (key, val) ∧
      ((IsObject r.body fun j => j.at? paramPath = some (.string key)) ↔ Plain key ∧ Pieces val)) ∧
      (r.status ≠ 200 → IsObject r.body fun _ => True) := by
  intro r
  rcases iq_cases applyIqParam query with ⟨key, val, hp, hne, hval, hr⟩ | ⟨hstatus, hbody⟩
  · have hlen := length_firstQueryParam hp
    change r = _ at hr
    rw [hr]
    exact ⟨fun _ => ⟨key, val, hp, iq_iff hlen.1 hlen.2 hne hval⟩, fun h => absurd rfl h⟩
  · exact ⟨fun h => absurd h hstatus, fun _ => hbody⟩

/-! The four of them. -/

section

variable {D F : Type} [CFloat D F] [PrintDouble D]

/-- Which answers are JSON objects that tell what is stored. -/
theorem api_bodies_iff (cfg : VencConfig D F) (query : CString) :
    ((IsObject (handleGet cfg query).body fun j => ∀ key f, requestedField query = some (key, f) →
      Carries valuePath (fieldToJsonValueFromCfg cfg f) j) ↔
      ∀ key f, requestedField query = some (key, f) → Fits key (fieldToJsonValueFromCfg cfg f) false) ∧
    (∀ (cb : Callbacks) (backend : String) (answer : List (ApplyCall × Bool) → ApplyCall → Bool),
      let end_ := (handleSet cb backend query).exec answer cfg []
      (end_.1.status = 200 → ∃ params, requestedParams query = some params ∧
        (IsObject (replyBody end_.1) (SetMeans end_.2.1 params) ↔ SetFits end_.2.1 params)) ∧
        (end_.1.status ≠ 200 → IsObject (replyBody end_.1) fun _ => True)) ∧
    (∀ applyIqParam : Option (CString → CString → Int32),
      let r := handleIqSet applyIqParam query
      (r.status = 200 → ∃ key val, firstQueryParam 64 256 query = some (key, val) ∧
        ((IsObject r.body fun j => j.at? paramPath = some (.string key)) ↔ Plain key ∧ Pieces val)) ∧
        (r.status ≠ 200 → IsObject r.body fun _ => True)) ∧
    ((IsObject (handleRecordStart cfg query).body fun j =>
      j.at? dirPath = some (.string (recordStartDir cfg query))) ↔ Plain (recordStartDir cfg query)) :=
  ⟨get_iff cfg query, fun cb backend answer => set_iff cb backend query cfg answer,
    fun applyIqParam => iq_answer_iff applyIqParam query, record_iff cfg query⟩

end

/-! Exact numbers in the place of the doubles. -/

def ratView (q : ℚ) : Double := .finite (decide (q < 0)) (Rat.nnabs q)

theorem value_ratView (q : ℚ) : (ratView q).value? = some q := by
  rw [ratView, Double.value?, signed, Rat.coe_nnabs]
  split
  next hneg => rw [abs_of_neg (of_decide_eq_true hneg), neg_neg]
  next hpos => rw [abs_of_nonneg (not_lt.1 fun h => hpos (decide_eq_true h))]

theorem nnabs_signed (negative : Bool) (q : ℚ≥0) : Rat.nnabs (signed negative q) = q := by
  apply NNRat.coe_injective
  rw [Rat.coe_nnabs, signed]
  split
  · rw [abs_neg, abs_of_nonneg q.coe_nonneg]
  · rw [abs_of_nonneg q.coe_nonneg]

instance : PrintDouble ℚ where
  view := ratView
  finite_view _ := rfl
  view_ofInt z _ _ := value_ratView z
  reread negative m e hm p hp negative' magnitude h := by
    have hmag : magnitude = (m : ℚ≥0) * 10 ^ e := by
      obtain ⟨-, rfl⟩ := Double.finite.inj h
      have hcast : ((m : ℚ) * 10 ^ e) = (((m : ℚ≥0) * 10 ^ e : ℚ≥0) : ℚ) := by push_cast; rfl
      rw [hcast]
      exact nnabs_signed negative _
    have hdigits : m < 10 ^ p := by
      rcases List.mem_pair.1 hp with rfl | rfl
      · exact hm
      · exact Nat.lt_trans hm (by decide)
    have hround : roundSig p magnitude = magnitude := by
      rw [hmag, roundSig_digits hdigits e]
      push_cast
      rfl
    rw [hround]
    exact value_ratView _

/-- Of a directory that ends in a backslash the answer is no object: the string
does not end. -/
theorem record_start_broken : ¬∀ (cfg : VencConfig ℚ ℚ) (query : CString),
    IsObject (handleRecordStart cfg query).body fun _ => True := by
  intro h
  obtain ⟨ms, ⟨r, htext, -⟩, -⟩ := h ConfigLoad.vencConfigDefaults "dir=/mnt/usb\\".toList
  have hbody : (handleRecordStart (ConfigLoad.vencConfigDefaults : VencConfig ℚ ℚ) "dir=/mnt/usb\\".toList).body =
      okData ++ (printString "action".toList ++ ':' :: (print (.string "start".toList) ++ ',' ::
        (printString "dir".toList ++ ':' :: '"' :: ("/mnt/usb\\\"".toList ++ ['}', '}'])))) := by decide
  rw [hbody] at htext
  obtain ⟨w, u, more, rest, hw, -⟩ := of_second htext
  obtain ⟨k, hread, -⟩ := hw.of_quote
  have hend : readString ("/mnt/usb\\\"".toList ++ ['}', '}']) = none := by decide
  cases hend.symm.trans hread

end WaybeamVenc.ApiResponses
