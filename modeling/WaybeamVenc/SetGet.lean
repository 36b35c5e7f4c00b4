import WaybeamVenc.ApiResponses
import WaybeamVenc.RequestedValue

namespace WaybeamVenc.SetGet

open Fallible CNumber Config FieldTable Json JsonString ApiBodies ApiJson SetQuery LiveApply SetStaging SetAdmission
  SetTransaction RequestedValue Resumption Prog

/-! Requests that ask for a value. -/

/-- A key and a value stand in a request, alone or with others. -/
inductive Asks (key value : CString) : CString → Prop
  | here (back : CString) (hkey : '=' ∉ key ∧ '&' ∉ key) (hvalue : '&' ∉ value)
      (hback : back = [] ∨ ∃ rest, back = '&' :: rest) : Asks key value (key ++ '=' :: (value ++ back))
  | later (segment rest : CString) (hsegment : '&' ∉ segment) (h : Asks key value rest) :
      Asks key value (segment ++ '&' :: rest)

variable {key value query : CString} {f : FieldDesc} {params : List SetQueryParam}

theorem cutAt_found {ch : Char} {front : CString} (h : ch ∉ front) (rest : CString) :
    cutAt ch (front ++ ch :: rest) = some (front, rest) := by
  rw [cutAt_eq, if_pos (List.mem_append_right front List.mem_cons_self), takeWhile_found h, dropWhile_found h,
    List.tail_cons]

theorem cutAt_missing {ch : Char} {s : CString} (h : ch ∉ s) : cutAt ch s = none := by
  rw [cutAt_eq, if_neg h]

theorem cutAt_value {back : CString} (hvalue : '&' ∉ value) (hback : back = [] ∨ ∃ rest, back = '&' :: rest) :
    ((cutAt '&' (value ++ back)).map Prod.fst).getD (value ++ back) = value := by
  obtain rfl | ⟨rest, rfl⟩ := hback
  · rw [List.append_nil, cutAt_missing hvalue]
    rfl
  · rw [cutAt_found hvalue]
    rfl

theorem parseFirstQueryParam_here {back : CString} (hkey : '=' ∉ key ∧ '&' ∉ key) (hvalue : '&' ∉ value)
    (hback : back = [] ∨ ∃ rest, back = '&' :: rest) :
    parseFirstQueryParam (key ++ '=' :: (value ++ back)) = some (key.take 127, value.take 255) := by
  rw [parseFirstQueryParam, if_neg (by simp), cutAt_found hkey.1]
  dsimp only
  rw [if_neg hkey.2, cutAt_value hvalue hback]

theorem named_keyText (hf : findField (canonicalizeFieldKey (String.ofList key)) = some f) : KeyText key := by
  have hkey := keyText_of_findField hf
  rwa [String.toList_ofList] at hkey

/-- A parameter that is looked up as a field, with the value it was given. -/
def Param (f : FieldDesc) (value : CString) (p : SetQueryParam) : Prop :=
  p.field = none ∧ findField p.canonicalKey = some f ∧ p.value = value.take 255

theorem parseParam_asked (hf : findField (canonicalizeFieldKey (String.ofList key)) = some f) (hkey : '=' ∉ key)
    {p : SetQueryParam} (h : parseParam (key ++ '=' :: value) = .ok p) : Param f value p := by
  have hbuffer : keyBuffer key = String.ofList key := by
    rw [keyBuffer, clip_of_le (named_keyText hf).1]
  rw [parseParam, cutAt_found hkey] at h
  cases key with
  | nil => cases h
  | cons c key =>
      obtain rfl := Except.ok.inj h
      obtain ⟨-, hcanonical⟩ := @named_single (c :: key) value _ _ hf
      refine ⟨rfl, ?_, rfl⟩
      dsimp only
      rw [hbuffer]
      exact (congrArg findField hcanonical).trans hf

theorem parseSegments_cut {room : ℕ} {query : CString} (hne : query ≠ []) {ps : List SetQueryParam}
    (h : parseSegments room query = .ok ps) : ∃ room' p ps',
      parseParam ((cutAt '&' query).getD (query, [])).1 = .ok p ∧
        parseSegments room' ((cutAt '&' query).getD (query, [])).2 = .ok ps' ∧ ps = p :: ps' := by
  revert h
  fun_cases parseSegments room query with
  | case1 => exact absurd rfl hne
  | case2 | case3 =>
      intro h
      cases h
  | case4 c s segment rest room hsegment hcut =>
      intro h
      obtain ⟨p, hp, h⟩ := bind_ok h
      obtain ⟨ps', hps, h⟩ := bind_ok h
      rw [hcut]
      exact ⟨room, p, ps', hp, hps, (Except.ok.inj h).symm⟩

theorem cut_here {back : CString} (hkey : '&' ∉ key) (hvalue : '&' ∉ value)
    (hback : back = [] ∨ ∃ rest, back = '&' :: rest) :
    ((cutAt '&' (key ++ '=' :: (value ++ back))).getD (key ++ '=' :: (value ++ back), [])).1 = key ++ '=' :: value := by
  have hfront : '&' ∉ key ++ '=' :: value := by
    simp [hkey, hvalue]
  have happend : key ++ '=' :: (value ++ back) = (key ++ '=' :: value) ++ back := by
    rw [List.append_assoc, List.cons_append]
  rw [happend]
  obtain rfl | ⟨rest, rfl⟩ := hback
  · rw [List.append_nil, cutAt_missing hfront]
    rfl
  · rw [cutAt_found hfront]
    rfl

/-- What a request asks for is one of its parameters. -/
theorem parseSegments_asked (hf : findField (canonicalizeFieldKey (String.ofList key)) = some f)
    (hasks : Asks key value query) {room : ℕ} {ps : List SetQueryParam} (h : parseSegments room query = .ok ps) :
    ∃ p ∈ ps, Param f value p := by
  induction hasks generalizing room ps with
  | here back hkey hvalue hback =>
      obtain ⟨room', p, ps', hp, -, rfl⟩ := parseSegments_cut (by simp) h
      rw [cut_here hkey.2 hvalue hback] at hp
      exact ⟨p, List.mem_cons_self, parseParam_asked hf hkey.1 hp⟩
  | later segment rest hsegment hrest ih =>
      obtain ⟨room', p, ps', -, hps, rfl⟩ := parseSegments_cut (by simp) h
      rw [cutAt_found hsegment] at hps
      obtain ⟨q, hq, hparam⟩ := ih hps
      exact ⟨q, List.mem_cons_of_mem p hq, hparam⟩

theorem first_asked (hf : findField (canonicalizeFieldKey (String.ofList key)) = some f) {back : CString}
    (hkey : '=' ∉ key ∧ '&' ∉ key) (hvalue : '&' ∉ value) (hback : back = [] ∨ ∃ rest, back = '&' :: rest)
    (h : (parseFirstQueryParam (key ++ '=' :: (value ++ back))).map (fun p =>
      [(⟨keyBuffer p.1, keyBuffer (canonicalizeFieldKey (String.ofList p.1)).toList, (clip 255 p.2).1, none⟩ :
        SetQueryParam)]) = some params) : ∃ p ∈ params, Param f value p := by
  rw [parseFirstQueryParam_here hkey hvalue hback, List.take_of_length_le (named_keyText hf).1] at h
  obtain rfl := Option.some.inj h
  obtain ⟨-, hcanonical⟩ := @named_single key value _ _ hf
  have hclip : (clip 255 (value.take 255)).1 = value.take 255 := by
    rw [clip_of_le (List.length_take_le 255 value)]
  exact ⟨_, List.mem_singleton_self _, rfl, (congrArg findField hcanonical).trans hf, hclip⟩

theorem requested_asked (hf : findField (canonicalizeFieldKey (String.ofList key)) = some f)
    (hasks : Asks key value query) (h : requestedParams query = some params) : ∃ p ∈ params, Param f value p := by
  rw [requestedParams] at h
  split at h
  · split at h
    · cases h
    next ps hps =>
      rw [parseQueryParams] at hps
      split at hps
      · cases hps
      split at h
      next hfew =>
        cases hasks with
        | here back hkey hvalue hback => exact first_asked hf hkey hvalue hback h
        | later segment rest hsegment hrest =>
            obtain ⟨room', p, ps', -, hps', rfl⟩ := parseSegments_cut (by simp) hps
            rw [cutAt_found hsegment] at hps'
            obtain ⟨q, hq, -⟩ := parseSegments_asked hf hrest hps'
            obtain rfl : ps' = [] := by
              rw [List.length_cons] at hfew
              exact List.eq_nil_of_length_eq_zero (by omega)
            cases hq
      next =>
        obtain rfl := Option.some.inj h
        exact parseSegments_asked hf hasks hps
  next hnone =>
    cases hasks with
    | here back hkey hvalue hback => exact first_asked hf hkey hvalue hback h
    | later segment rest => exact absurd (List.mem_append_right segment List.mem_cons_self) hnone

/-! Set then get. -/

variable {D F : Type} [CFloat D F]

theorem parsed_of_set {oldCfg newCfg : VencConfig D F} (htype : f.type ≠ .double ∧ f.type ≠ .float)
    (hparam : ∃ p ∈ params, Param f value p) (h : HasExactly params oldCfg newCfg) :
    Parsed (room f.offset.type) (value.take 255) f.type (fieldToJsonValueFromCfg newCfg f) := by
  obtain ⟨wss, hwss, hstored, -⟩ := h
  obtain ⟨p, hp, hfield, hfind, hvalue⟩ := hparam
  obtain ⟨ws, hws, hw⟩ := mem_of_mapM hwss hp
  rw [paramWrites, hfield, Option.none_or, hfind, Option.bind_some, hvalue] at hw
  exact parsed_of_writes htype hw fun w hmem => hstored w (List.mem_flatten.2 ⟨ws, hws, hmem⟩)

section

variable [PrintDouble D] {getKey : CString} {cfg : VencConfig D F}

/-- The answer tells the value that a text asks for. -/
def Returns (type : FieldType) (value : CString) (response : Response) : Prop :=
  response.status = 200 ∧ ∃ r, requested type value = some r ∧
    IsObject response.body fun j => ∃ u, j.at? valuePath = some u ∧ Shows r u

/-- A get of a field, by any of its keys. -/
theorem handleGet_named (hf : findField (canonicalizeFieldKey (String.ofList getKey)) = some f) : handleGet cfg getKey =
    ⟨200, snprintf 512 (fieldBody getKey (fieldText (fieldToJsonValueFromCfg cfg f)) false)⟩ := by
  have hkey := named_keyText hf
  have heq : '=' ∉ getKey := hkey.missing (by decide)
  have hamp : '&' ∉ getKey := hkey.missing (by decide)
  cases getKey with
  | nil => cases findField_empty.symm.trans hf
  | cons c key =>
      have hfirst : firstQueryParam 128 4 (c :: key) = some (c :: key, []) := by
        rw [firstQueryParam, if_neg (List.cons_ne_nil c key), cutAt_missing heq]
        dsimp only
        rw [cutAt_missing hamp, Option.map_none, Option.getD_none, List.take_of_length_le hkey.1]
      rw [handleGet, hfirst]
      dsimp only
      rw [hf]
      rfl

theorem returns_iff (hf : findField (canonicalizeFieldKey (String.ofList getKey)) = some f) {s : CString} {n : ℕ}
    (h : Parsed n s f.type (fieldToJsonValueFromCfg cfg f)) :
    Returns f.type value (handleGet cfg getKey) ↔ Tells getKey value f.type (fieldToJsonValueFromCfg cfg f) := by
  have hplain := plain_of_keyText (named_keyText hf)
  obtain ⟨j, hj⟩ := h.json
  have hshown : ∀ r, (∃ u, (dataTree (fieldMembers getKey j false)).at? valuePath = some u ∧ Shows r u) ↔
      Shows r j := by
    intro r
    rw [at_fieldMembers]
    constructor
    · rintro ⟨u, hu, hr⟩
      obtain rfl := Option.some.inj hu
      exact hr
    · exact fun hr => ⟨j, rfl, hr⟩
  rw [Returns, Tells, handleGet_named hf]
  simp only [isObject_field hplain hj, hshown, hj]
  constructor
  · rintro ⟨-, r, hr, hlen, hs⟩
    exact ⟨⟨r, j, hr, rfl, hs⟩, hlen⟩
  · rintro ⟨⟨r, j', hr, hj', hs⟩, hlen⟩
    obtain rfl := Option.some.inj hj'
    exact ⟨trivial, r, hr, hlen, hs⟩

omit [PrintDouble D] in
/-- After an accepted set the field has the value of what was asked for. -/
theorem set_parsed {cb : Callbacks} {backend : String} {answer : List (ApplyCall × Bool) → ApplyCall → Bool}
    (htype : f.type ≠ .double ∧ f.type ≠ .float) (hasks : Asks key value query)
    (hf : findField (canonicalizeFieldKey (String.ofList key)) = some f)
    (haccepted : ((handleSet cb backend query).exec answer cfg []).1.status = 200) :
    Parsed (room f.offset.type) (value.take 255) f.type
      (fieldToJsonValueFromCfg ((handleSet cb backend query).exec answer cfg []).2.1 f) := by
  obtain ⟨reply, hreply, hends⟩ := handleSet_ends cb backend query cfg answer
  have hset := hends.transactional
  rw [← hreply] at hset
  obtain ⟨params, hparams, hexactly⟩ := hset.accepted haccepted
  exact parsed_of_set htype (requested_asked hf hasks hparams) hexactly

/-- What a get returns after an accepted set is what was asked for exactly when
no layer has cut or wrapped it. -/
theorem set_get_iff (cb : Callbacks) (backend : String) (cfg : VencConfig D F)
    (answer : List (ApplyCall × Bool) → ApplyCall → Bool) {query key value getKey : CString} {f : FieldDesc}
    (htype : f.type ≠ .double ∧ f.type ≠ .float) (hasks : Asks key value query)
    (hf : findField (canonicalizeFieldKey (String.ofList key)) = some f)
    (hget : findField (canonicalizeFieldKey (String.ofList getKey)) = some f) :
    let end_ := (handleSet cb backend query).exec answer cfg []
    end_.1.status = 200 → (Returns f.type value (handleGet end_.2.1 getKey) ↔
      Kept f.type (room f.offset.type) getKey value) := by
  intro end_ haccepted
  have hparsed := set_parsed htype hasks hf haccepted
  exact (returns_iff hget hparsed).trans (tells_iff hparsed (named_keyText hget).1)

end

theorem index_found : ∃ f, findField (canonicalizeFieldKey (String.ofList "sensor.index".toList)) = some f ∧
    f.type = .int := ⟨_, rfl, rfl⟩

theorem asks_alone {key value : CString} (hkey : '=' ∉ key ∧ '&' ∉ key) (hvalue : '&' ∉ value) :
    Asks key value (key ++ '=' :: value) := by
  have h := Asks.here [] hkey hvalue (.inl rfl)
  rwa [List.append_nil] at h

theorem asks_index {value : CString} (hvalue : '&' ∉ value) :
    Asks "sensor.index".toList value ("sensor.index".toList ++ '=' :: value) := asks_alone (by decide) hvalue

theorem set_get_iff_index : Returns .int "3".toList (handleGet ((handleSet none "star6e"
    ("sensor.index".toList ++ '=' :: "3".toList)).exec (fun _ _ => true)
      (ConfigLoad.vencConfigDefaults : VencConfig ℚ ℚ) []).2.1 "sensor.index".toList) := by
  obtain ⟨f, hf, htype⟩ := index_found
  have hset := set_get_iff none "star6e" (ConfigLoad.vencConfigDefaults : VencConfig ℚ ℚ) (fun _ _ => true)
    (by rw [htype]; decide) (@asks_index "3".toList (by decide)) hf hf
  rw [htype] at hset
  exact (hset (by decide +kernel)).2 ⟨.integer 3, rfl, rfl, by decide, by decide⟩

/-- A number that is too big for an int is accepted, and another one is stored. -/
theorem index_saturated : ¬∀ (cb : Callbacks) (backend : String) (cfg : VencConfig ℚ ℚ)
    (answer : List (ApplyCall × Bool) → ApplyCall → Bool) (query key value : CString) (f : FieldDesc),
    f.type ≠ .double ∧ f.type ≠ .float → Asks key value query →
    findField (canonicalizeFieldKey (String.ofList key)) = some f →
    ((handleSet cb backend query).exec answer cfg []).1.status = 200 →
    Returns f.type value (handleGet ((handleSet cb backend query).exec answer cfg []).2.1 key) := by
  intro h
  obtain ⟨f, hf, htype⟩ := index_found
  have hnumber : f.type ≠ .double ∧ f.type ≠ .float := by
    rw [htype]
    decide
  have hasks := @asks_index "99999999999".toList (by decide)
  have haccepted : ((handleSet none "star6e" ("sensor.index".toList ++ '=' :: "99999999999".toList)).exec
      (fun _ _ => true) (ConfigLoad.vencConfigDefaults : VencConfig ℚ ℚ) []).1.status = 200 := by decide +kernel
  have hreturns := h none "star6e" _ (fun _ _ => true) _ _ _ f hnumber hasks hf haccepted
  have hparsed := set_parsed hnumber hasks hf haccepted
  have htells := (returns_iff hf hparsed).1 hreturns
  rw [htype] at hparsed htells
  obtain ⟨r, hr, -, hrange⟩ := (tells_iff hparsed (by decide)).1 htells
  have hasked : requested .int "99999999999".toList = some (.integer 99999999999) := rfl
  obtain rfl := Option.some.inj (hasked.symm.trans hr)
  exact absurd hrange.2 (by decide)

end WaybeamVenc.SetGet
