import Mathlib.Data.List.GetD
import WaybeamVenc.SetAdmission

namespace WaybeamVenc.FirstParam

open Fallible CNumber

open SetQuery hiding parseFirstQueryParam

/-- A call in an address space of 32 bits: the query, whatever lies behind its
terminator, and the sizes of the two buffers. -/
structure Call where
  query : CString
  behind : Nat → Char
  keySz : Nat
  valSz : Nat
  plain : '\x00' ∉ query
  key_room : 1 ≤ keySz
  val_room : 2 ≤ valSz
  fits : query.length + 1 + keySz + valSz ≤ 2 ^ 32

def Call.byteAt (c : Call) (i : Nat) : Char :=
  c.query.getD i (if i = c.query.length then '\x00' else c.behind (i - c.query.length - 1))

def Call.copy (c : Call) (start len : Nat) : List Char := (List.range len).map fun k => c.byteAt (start + k)

structure Read where
  start : Nat
  len : Nat

structure Parsed where
  key : List Char
  value : List Char
  reads : List Read

def strchr (ch : Char) (s : CString) : Option Nat := if ch ∈ s then some (s.takeWhile (· ≠ ch)).length else none

/-- A difference of two pointers as a size_t. -/
def sizeT (diff : Int) : Nat := (diff % 2 ^ 32).toNat

def clipLen (len size : Nat) : Nat := if size ≤ len then size - 1 else len

/-- parse_first_query_param, none where it returns -1. -/
def parseFirstQueryParam (c : Call) : Option Parsed :=
  if c.query = [] then none
  else
    match strchr '=' c.query with
    | some eq =>
      let klen := clipLen (sizeT eq) c.keySz
      let vstart := eq + 1
      let vlen :=
        match strchr '&' c.query with
        | some amp => sizeT (amp - vstart)
        | none => c.query.length - vstart
      let vlen := clipLen vlen c.valSz
      some ⟨c.copy 0 klen, c.copy vstart vlen, [⟨0, klen⟩, ⟨vstart, vlen⟩]⟩
    | none =>
      let klen :=
        match strchr '&' c.query with
        | some amp => sizeT amp
        | none => c.query.length
      let klen := clipLen klen c.keySz
      some ⟨c.copy 0 klen, [], [⟨0, klen⟩]⟩

def cString (bytes : List Char) : CString := bytes.takeWhile (· ≠ '\x00')

/-! What the function is for. -/

def segment (query : CString) : CString := query.takeWhile (· ≠ '&')

def segmentKey (query : CString) : CString := (segment query).takeWhile (· ≠ '=')

def segmentValue (query : CString) : CString := ((segment query).dropWhile (· ≠ '=')).tail

structure Kept (c : Call) (out : Parsed) : Prop where
  reads : ∀ r ∈ out.reads, r.start + r.len ≤ c.query.length
  key : cString out.key = (segmentKey c.query).take (c.keySz - 1)
  value : cString out.value = (segmentValue c.query).take (c.valSz - 1)
  agrees : ∀ p ps, parseQueryParams c.query = .ok (p :: ps) →
    (cString out.key).take 127 = p.key.toList.take (c.keySz - 1) ∧
      (cString out.value).take 255 = p.value.take (c.valSz - 1)

/-! Characters found. -/

theorem strchr_found {ch : Char} {front : CString} (h : ch ∉ front) (rest : CString) :
    strchr ch (front ++ ch :: rest) = some front.length := by
  have hmem : ch ∈ front ++ ch :: rest := List.mem_append_right _ List.mem_cons_self
  rw [strchr, if_pos hmem, takeWhile_found h]

theorem strchr_none {ch : Char} {s : CString} (h : ch ∉ s) : strchr ch s = none := if_neg h

theorem split_at {ch : Char} {s : CString} (h : ch ∈ s) : ∃ front rest, ch ∉ front ∧ s = front ++ ch :: rest := by
  obtain ⟨front, rest, hs, hfront⟩ := List.eq_append_cons_of_mem h
  exact ⟨front, rest, hfront, hs⟩

/-! Copies. -/

theorem sizeT_nat {n : Nat} (h : n < 2 ^ 32) : sizeT n = n := by
  rw [sizeT, Int.emod_eq_of_lt (Int.natCast_nonneg n) (by omega), Int.toNat_natCast]

theorem clipLen_eq_min {len size : Nat} (hsize : 1 ≤ size) : clipLen len size = min len (size - 1) := by
  rw [clipLen]
  split <;> omega

theorem copy_within {c : Call} {start len : Nat} (h : start + len ≤ c.query.length) :
    c.copy start len = (c.query.drop start).take len := by
  apply List.ext_getElem
  · rw [Call.copy, List.length_map, List.length_range, List.length_take, List.length_drop]
    omega
  · intro k hk hk'
    rw [Call.copy, List.length_map, List.length_range] at hk
    have hget : start + k < c.query.length := by omega
    simp only [Call.copy, List.getElem_map, List.getElem_range, Call.byteAt, List.getElem_take, List.getElem_drop]
    exact (List.getElem_eq_getD _).symm

theorem cString_plain {c : Call} {s : CString} (h : ∀ d ∈ s, d ∈ c.query) : cString s = s :=
  takeWhile_missing fun hmem => c.plain (h _ hmem)

/-- A copy of a piece of the query, as far as the buffer goes. -/
theorem copy_piece {c : Call} {front piece back : CString} (hquery : c.query = front ++ piece ++ back) (size : Nat) :
    c.copy front.length (min piece.length size) = piece.take size := by
  have hlen : front.length + min piece.length size ≤ c.query.length := by
    rw [hquery, List.length_append, List.length_append]
    omega
  rw [copy_within hlen, hquery, List.append_assoc, List.drop_left, List.take_append_of_le_length (Nat.min_le_left _ _),
    Nat.min_comm, ← List.take_take, List.take_length]

/-! The entries of a whole query. -/

theorem segment_cut (query : CString) : ((cutAt '&' query).getD (query, [])).1 = segment query := by
  rw [cutAt_eq]
  split
  · rfl
  · next h => exact (takeWhile_missing h).symm

theorem segment_front (query : CString) : ((cutAt '&' query).map Prod.fst).getD query = segment query := by
  rw [cutAt_eq]
  split
  · rfl
  · next h => exact (takeWhile_missing h).symm

theorem parseSegments_first {room : Nat} {query : CString} {p : SetQueryParam} {ps : List SetQueryParam}
    (h : parseSegments room query = .ok (p :: ps)) : parseParam (segment query) = .ok p := by
  fun_induction parseSegments room query generalizing p ps with
  | case1 => cases h
  | case2 | case3 => cases h
  | case4 d s seg rest room hne hcut =>
    obtain ⟨q, hq, h⟩ := bind_ok h
    obtain ⟨qs, hqs, h⟩ := bind_ok h
    cases h
    rw [← segment_cut, hcut]
    exact hq

theorem first_entry {query : CString} {p : SetQueryParam} {ps : List SetQueryParam}
    (h : parseQueryParams query = .ok (p :: ps)) :
    p.key.toList = (segmentKey query).take 127 ∧ p.value = (segmentValue query).take 255 := by
  rw [parseQueryParams] at h
  split at h
  · cases h
  · have hparam := parseSegments_first h
    rw [parseParam, cutAt_eq] at hparam
    split at hparam
    · cases hparam
    · cases hparam
    · next key value _ hcut =>
      split at hcut
      · cases hcut
        cases hparam
        exact ⟨String.toList_ofList, rfl⟩
      · cases hcut

/-! One call. -/

variable {c : Call}

theorem query_lt (c : Call) : c.query.length < 2 ^ 32 := by
  have := c.fits
  omega

/-- What the function makes of a key and the length of a value. -/
def result (c : Call) (key : CString) (vstart vlen : Nat) : Parsed :=
  ⟨c.copy 0 (min key.length (c.keySz - 1)), c.copy vstart vlen,
    [⟨0, min key.length (c.keySz - 1)⟩, ⟨vstart, vlen⟩]⟩

theorem parsed_plain (hne : c.query ≠ []) (heq : '=' ∉ c.query) : parseFirstQueryParam c =
    some ⟨c.copy 0 (min (segment c.query).length (c.keySz - 1)), [],
      [⟨0, min (segment c.query).length (c.keySz - 1)⟩]⟩ := by
  rw [parseFirstQueryParam, if_neg hne, strchr_none heq]
  by_cases hamp : '&' ∈ c.query
  · obtain ⟨front, rest, hfront, hquery⟩ := split_at hamp
    have hlen := query_lt c
    rw [hquery, List.length_append] at hlen
    rw [segment, hquery, strchr_found hfront, takeWhile_found hfront]
    dsimp only
    rw [sizeT_nat (by omega), clipLen_eq_min c.key_room]
  · rw [segment, strchr_none hamp, takeWhile_missing hamp]
    dsimp only
    rw [clipLen_eq_min c.key_room]

theorem not_mem_entry {key value : CString} (hkey : '&' ∉ key) (hvalue : '&' ∉ value) : '&' ∉ key ++ '=' :: value := by
  intro hmem
  rcases List.mem_append.1 hmem with hmem | hmem
  · exact hkey hmem
  · rcases List.mem_cons.1 hmem with h | h
    · cases h
    · exact hvalue h

theorem mem_key {key rest : CString} (hquery : c.query = key ++ '=' :: rest) {d : Char} (hd : d ∈ key) : d ∈ c.query := by
  rw [hquery]
  exact List.mem_append_left _ hd

theorem mem_rest {key rest : CString} (hquery : c.query = key ++ '=' :: rest) {d : Char} (hd : d ∈ rest) : d ∈ c.query := by
  rw [hquery]
  exact List.mem_append_right _ (List.mem_cons_of_mem _ hd)

theorem query_ne_nil {key rest : CString} (hquery : c.query = key ++ '=' :: rest) : c.query ≠ [] := by
  rw [hquery]
  exact List.append_ne_nil_of_right_ne_nil _ (List.cons_ne_nil _ _)

theorem key_length {key rest : CString} (hquery : c.query = key ++ '=' :: rest) :
    key.length + 1 + rest.length = c.query.length := by
  rw [hquery, List.length_append, List.length_cons]
  omega

section

variable {key rest : CString} (hquery : c.query = key ++ '=' :: rest) (hkey : '=' ∉ key)

include hquery hkey

/-- With the '=' in front the value ends where its segment does. -/
theorem parsed_value (hamp : '&' ∉ key) : parseFirstQueryParam c =
    some (result c key (key.length + 1) (min (segment rest).length (c.valSz - 1))) := by
  have hlen := key_length hquery
  have hlt := query_lt c
  have hpos : strchr '=' c.query = some key.length := hquery ▸ strchr_found hkey rest
  rw [parseFirstQueryParam, if_neg (query_ne_nil hquery), hpos]
  dsimp only
  rw [sizeT_nat (by omega), clipLen_eq_min c.key_room]
  have hvlen : (match strchr '&' c.query with
      | some amp => sizeT (amp - (key.length + 1 : Nat))
      | none => c.query.length - (key.length + 1)) = (segment rest).length := by
    by_cases hrest : '&' ∈ rest
    · obtain ⟨value, back, hvalue, rfl⟩ := split_at hrest
      have hfront := not_mem_entry hamp hvalue
      have hassoc : c.query = (key ++ '=' :: value) ++ '&' :: back := by
        rw [hquery, List.append_assoc, List.cons_append]
      have hdiff : (((key ++ '=' :: value).length : Int) - (key.length + 1 : Nat)) = (value.length : Nat) := by
        rw [List.length_append, List.length_cons]
        omega
      rw [List.length_append] at hlen
      rw [hassoc, strchr_found hfront, segment, takeWhile_found hvalue]
      dsimp only
      rw [hdiff, sizeT_nat (by omega)]
    · have hnone : '&' ∉ c.query := hquery ▸ not_mem_entry hamp hrest
      rw [strchr_none hnone, segment, takeWhile_missing hrest, ← hlen]
      exact Nat.add_sub_cancel_left _ _
  rw [hvlen, clipLen_eq_min (Nat.le_of_succ_le c.val_room)]
  rfl

/-- With the '&' in front the length of the value wraps. -/
theorem parsed_wrapped (hamp : '&' ∈ key) : parseFirstQueryParam c =
    some (result c key (key.length + 1) (c.valSz - 1)) := by
  have hlen := key_length hquery
  have hlt := c.fits
  have hpos : strchr '=' c.query = some key.length := hquery ▸ strchr_found hkey rest
  obtain ⟨front, mid, hfront, rfl⟩ := split_at hamp
  have hassoc : c.query = front ++ '&' :: (mid ++ '=' :: rest) := by
    rw [hquery, List.append_assoc, List.cons_append]
  have hfirst : strchr '&' c.query = some front.length := hassoc ▸ strchr_found hfront _
  rw [List.length_append, List.length_cons] at hlen hpos
  rw [parseFirstQueryParam, if_neg (query_ne_nil hquery), hpos, hfirst]
  dsimp only
  have hwrap : c.valSz ≤ sizeT ((front.length : Int) - (front.length + (mid.length + 1) + 1 : Nat)) := by
    have hmod : ((front.length : Int) - (front.length + (mid.length + 1) + 1 : Nat)) % 2 ^ 32 =
        2 ^ 32 - (mid.length + 2) := by
      rw [← Int.add_mul_emod_self_left _ (2 ^ 32) 1, Int.emod_eq_of_lt (by omega) (by omega)]
      omega
    rw [sizeT, hmod]
    omega
  rw [sizeT_nat (by omega), clipLen_eq_min c.key_room, clipLen, if_pos hwrap, result, List.length_append,
    List.length_cons]

end

/-! The first segment. -/

theorem segment_split (query : CString) : segment query ++ query.dropWhile (· ≠ '&') = query :=
  List.takeWhile_append_dropWhile

theorem segment_equals {key : CString} (hamp : '&' ∉ key) (rest : CString) :
    segment (key ++ '=' :: rest) = key ++ '=' :: segment rest := by
  rw [segment, List.takeWhile_append_of_pos (ne_of_missing hamp)]
  rfl

theorem cString_take {s : CString} (hs : ∀ d ∈ s, d ∈ c.query) (n : Nat) : cString (s.take n) = s.take n :=
  cString_plain fun d hd => hs d (List.mem_of_mem_take hd)

theorem mem_segment {d : Char} {query : CString} (hd : d ∈ segment query) : d ∈ query := by
  rw [← segment_split query]
  exact List.mem_append_left _ hd

/-- The key and the value agree with the first entry of the whole query. -/
theorem agrees_of_segment {query : CString} {p : SetQueryParam} {ps : List SetQueryParam} (m n : Nat)
    (h : parseQueryParams query = .ok (p :: ps)) :
    ((segmentKey query).take m).take 127 = p.key.toList.take m ∧
      ((segmentValue query).take n).take 255 = p.value.take n := by
  obtain ⟨hkey, hvalue⟩ := first_entry h
  rw [hkey, hvalue]
  simp only [List.take_take, Nat.min_comm, and_self]

theorem kept_of_content {out : Parsed} (hreads : ∀ r ∈ out.reads, r.start + r.len ≤ c.query.length)
    (hkey : cString out.key = (segmentKey c.query).take (c.keySz - 1))
    (hvalue : cString out.value = (segmentValue c.query).take (c.valSz - 1)) : Kept c out := by
  refine ⟨hreads, hkey, hvalue, ?_⟩
  intro p ps h
  rw [hkey, hvalue]
  exact agrees_of_segment _ _ h

theorem kept_plain (hne : c.query ≠ []) (heq : '=' ∉ c.query) : ∃ out, parseFirstQueryParam c = some out ∧ Kept c out := by
  have hseg : '=' ∉ segment c.query := fun h => heq (mem_segment h)
  have hquery : c.query = [] ++ segment c.query ++ c.query.dropWhile (· ≠ '&') := (segment_split c.query).symm
  have hcopy := copy_piece hquery (c.keySz - 1)
  have hlen := congrArg List.length (segment_split c.query)
  rw [List.length_append] at hlen
  refine ⟨_, parsed_plain hne heq, kept_of_content ?_ ?_ ?_⟩
  · intro r hr
    obtain rfl := List.mem_singleton.1 hr
    dsimp only
    omega
  · rw [segmentKey, takeWhile_missing hseg]
    dsimp only
    rw [List.length_nil] at hcopy
    rw [hcopy]
    exact cString_take (fun d hd => mem_segment hd) _
  · rw [segmentValue, dropWhile_missing hseg, List.tail_nil, List.take_nil]
    rfl

theorem copy_key {key rest : CString} (hquery : c.query = key ++ '=' :: rest) :
    c.copy 0 (min key.length (c.keySz - 1)) = key.take (c.keySz - 1) := by
  have hcopy := @copy_piece c [] key ('=' :: rest) hquery (c.keySz - 1)
  rwa [List.length_nil] at hcopy

theorem drop_key {key rest : CString} (hquery : c.query = key ++ '=' :: rest) : c.query.drop (key.length + 1) = rest := by
  have hlen : (key ++ ['=']).length = key.length + 1 := by rw [List.length_append, List.length_singleton]
  have hassoc : c.query = (key ++ ['=']) ++ rest := by rw [hquery, List.append_assoc, List.singleton_append]
  rw [hassoc, ← hlen, List.drop_left]

section

variable {key rest : CString} (hquery : c.query = key ++ '=' :: rest) (hkey : '=' ∉ key)

include hquery hkey

theorem kept_value (hamp : '&' ∉ key) : ∃ out, parseFirstQueryParam c = some out ∧ Kept c out := by
  have hseg : segment c.query = key ++ '=' :: segment rest := by rw [hquery, segment_equals hamp]
  have hpieces : c.query = (key ++ ['=']) ++ segment rest ++ rest.dropWhile (· ≠ '&') := by
    rw [List.append_assoc, segment_split, List.append_assoc, hquery]
    rfl
  have hcopy := copy_piece hpieces (c.valSz - 1)
  have hlen := key_length hquery
  have hrest := congrArg List.length (segment_split rest)
  rw [List.length_append] at hrest
  rw [List.length_append, List.length_singleton] at hcopy
  refine ⟨_, parsed_value hquery hkey hamp, kept_of_content ?_ ?_ ?_⟩
  · intro r hr
    rcases List.mem_cons.1 hr with rfl | hr
    · dsimp only
      omega
    · obtain rfl := List.mem_singleton.1 hr
      dsimp only
      omega
  · rw [segmentKey, hseg, takeWhile_found hkey, result]
    dsimp only
    rw [copy_key hquery]
    exact cString_take (fun d hd => mem_key hquery hd) _
  · rw [segmentValue, hseg, dropWhile_found hkey, List.tail_cons, result]
    dsimp only
    rw [hcopy]
    exact cString_take (fun d hd => mem_rest hquery (mem_segment hd)) _

/-- Either the copy leaves the query or the segment, which has no '=', gets a
value. -/
theorem not_kept_wrapped (hamp : '&' ∈ key) : ¬ ∃ out, parseFirstQueryParam c = some out ∧ Kept c out := by
  rintro ⟨out, hout, hkept⟩
  obtain rfl := Option.some.inj ((parsed_wrapped hquery hkey hamp).symm.trans hout)
  have hempty : segmentValue c.query = [] := by
    obtain ⟨front, mid, hfront, rfl⟩ := split_at hamp
    have hseg : segment c.query = front := by
      rw [segment, hquery, List.append_assoc, List.cons_append]
      exact takeWhile_found hfront _
    have hnone : '=' ∉ segment c.query := hseg ▸ fun h => hkey (List.mem_append_left _ h)
    rw [segmentValue, dropWhile_missing hnone, List.tail_nil]
  have hread := hkept.reads _ (List.mem_cons_of_mem _ (List.mem_singleton_self _))
  have hvalue := hkept.value
  have hlen := key_length hquery
  have hroom := c.val_room
  rw [hempty, List.take_nil, result] at hvalue
  dsimp only at hread hvalue
  rw [copy_within hread, drop_key hquery, cString_take (fun d hd => mem_rest hquery hd), List.take_eq_nil_iff] at hvalue
  rcases hvalue with hzero | hnil
  · omega
  · rw [hnil, List.length_nil] at hlen
    omega

end

/-! When the function does its part. -/

/-- The query's first '=' stands in front of its first '&', where it has both. -/
def EqualsFirst (query : CString) : Prop :=
  ∀ amp eq, strchr '&' query = some amp → strchr '=' query = some eq → eq < amp

theorem equalsFirst_iff {query key rest : CString} (hquery : query = key ++ '=' :: rest) (hkey : '=' ∉ key) :
    EqualsFirst query ↔ '&' ∉ key := by
  have heq : strchr '=' query = some key.length := hquery ▸ strchr_found hkey rest
  constructor
  · intro h hamp
    obtain ⟨front, mid, hfront, rfl⟩ := split_at hamp
    rw [List.append_assoc, List.cons_append] at hquery
    have hlt := h front.length _ (hquery ▸ strchr_found hfront _) heq
    rw [List.length_append] at hlt
    omega
  · intro hamp amp eq hfirst heq'
    obtain rfl := Option.some.inj (heq.symm.trans heq')
    rw [strchr] at hfirst
    split at hfirst
    · next hmem =>
      obtain rfl := Option.some.inj hfirst
      rw [hquery, List.takeWhile_append_of_pos (ne_of_missing hamp), List.length_append]
      exact Nat.lt_add_of_pos_right (Nat.succ_pos _)
    · cases hfirst

/-- Every query that starts with a parameter is read within its bounds and
gives the first segment exactly when no '&' comes before its first '='. -/
theorem first_param_iff (c : Call) :
    (c.query ≠ [] → ∃ out, parseFirstQueryParam c = some out ∧ Kept c out) ↔ EqualsFirst c.query := by
  by_cases heq : '=' ∈ c.query
  · obtain ⟨key, rest, hkey, hquery⟩ := split_at heq
    have hne : c.query ≠ [] := List.ne_nil_of_mem heq
    rw [equalsFirst_iff hquery hkey]
    constructor
    · exact fun h hamp => not_kept_wrapped hquery hkey hamp (h hne)
    · exact fun hamp _ => kept_value hquery hkey hamp
  · refine iff_of_true (fun hne => kept_plain hne heq) ?_
    intro amp eq _ hfound
    rw [strchr_none heq] at hfound
    cases hfound

def wrappedCall : Call where
  query := "a&b=c".toList
  behind := fun _ => 'z'
  keySz := 128
  valSz := 256
  plain := by decide
  key_room := by decide
  val_room := by decide
  fits := by decide

/-- A flag in front of a parameter. -/
theorem flag_misread : ¬ ∀ c : Call, c.query ≠ [] → ∃ out, parseFirstQueryParam c = some out ∧ Kept c out := by
  intro h
  have hquery : wrappedCall.query = ['a', '&', 'b'] ++ '=' :: ['c'] := rfl
  exact not_kept_wrapped hquery (by decide) (by decide) (h wrappedCall (by decide))

/-! The strings a set goes on with. -/

theorem copy_add (c : Call) (start m n : Nat) : c.copy start (m + n) = c.copy start m ++ c.copy (start + m) n := by
  rw [Call.copy, List.range_add, List.map_append, List.map_map, Call.copy, Call.copy]
  congr 1
  apply List.map_congr_left
  intro k _
  exact congrArg c.byteAt (Nat.add_assoc start m k).symm

/-- A copy that runs past the query holds the string up to its terminator. -/
theorem cString_copy {start : Nat} (hstart : start ≤ c.query.length) (n : Nat) :
    cString (c.copy start n) = (c.query.drop start).take n := by
  have hmem : ∀ d ∈ c.query.drop start, d ∈ c.query := fun d hd => List.mem_of_mem_drop hd
  by_cases hn : start + n ≤ c.query.length
  · rw [copy_within hn]
    exact cString_take hmem n
  · obtain ⟨m, hm⟩ : ∃ m, n = (c.query.length - start) + (m + 1) := ⟨n - (c.query.length - start) - 1, by omega⟩
    have hend : start + (c.query.length - start) = c.query.length := Nat.add_sub_cancel' hstart
    have hwhole : c.copy start (c.query.length - start) = c.query.drop start := by
      rw [copy_within (Nat.le_of_eq hend)]
      exact List.take_of_length_le (Nat.le_of_eq List.length_drop)
    have hterm : c.byteAt c.query.length = '\x00' := by
      rw [Call.byteAt, if_pos rfl, List.getD_eq_default _ _ (Nat.le_refl _)]
    have hbehind : c.copy c.query.length (m + 1) = '\x00' :: c.copy (c.query.length + 1) m := by
      rw [Nat.add_comm m 1, copy_add]
      exact congrArg (· :: c.copy (c.query.length + 1) m) hterm
    have hplain : '\x00' ∉ c.query.drop start := fun h => c.plain (hmem _ h)
    rw [hm, copy_add, hend, hwhole, hbehind, cString, takeWhile_found hplain, List.take_of_length_le]
    rw [List.length_drop]
    omega

/-- In the buffers of a set the two strings are those it goes on with, also
behind a length that wrapped. -/
theorem parsed_strings (hkeySz : c.keySz = 128) (hvalSz : c.valSz = 256) :
    (parseFirstQueryParam c).map (fun out => (cString out.key, cString out.value)) =
      SetQuery.parseFirstQueryParam c.query := by
  by_cases hne : c.query = []
  · rw [parseFirstQueryParam, if_pos hne, hne]
    rfl
  · rw [SetQuery.parseFirstQueryParam, if_neg hne, cutAt_eq]
    by_cases heq : '=' ∈ c.query
    · obtain ⟨key, rest, hkey, hquery⟩ := split_at heq
      have hlen := key_length hquery
      have hvstart : key.length + 1 ≤ c.query.length := by omega
      have hmem : ∀ d ∈ key, d ∈ c.query := fun d hd => mem_key hquery hd
      have htake : c.query.takeWhile (· ≠ '=') = key := hquery ▸ takeWhile_found hkey rest
      have hdrop : (c.query.dropWhile (· ≠ '=')).tail = rest := by rw [hquery, dropWhile_found hkey, List.tail_cons]
      rw [if_pos heq, htake, hdrop]
      dsimp only
      by_cases hamp : '&' ∈ key
      · rw [parsed_wrapped hquery hkey hamp, if_pos hamp, Option.map_some, result]
        dsimp only
        rw [copy_key hquery, cString_take hmem, cString_copy hvstart, drop_key hquery, hkeySz, hvalSz]
      · have hvalue := segment_front rest
        have hprefix : rest.take (min (segment rest).length (c.valSz - 1)) = (segment rest).take (c.valSz - 1) := by
          have hfront : rest.take (segment rest).length = segment rest := by
            have hsplit := @List.take_left _ (segment rest) (rest.dropWhile (· ≠ '&'))
            rwa [segment_split] at hsplit
          rw [Nat.min_comm, ← List.take_take, hfront]
        rw [parsed_value hquery hkey hamp, if_neg hamp, Option.map_some, result, hvalue]
        dsimp only
        rw [copy_key hquery, cString_take hmem, cString_copy hvstart, drop_key hquery, hprefix, hkeySz, hvalSz]
    · have hkey := segment_front c.query
      have hquery : c.query = [] ++ segment c.query ++ c.query.dropWhile (· ≠ '&') := (segment_split c.query).symm
      have hcopy := copy_piece hquery (c.keySz - 1)
      rw [List.length_nil] at hcopy
      rw [parsed_plain hne heq, if_neg heq, Option.map_some]
      dsimp only
      rw [hkey, hcopy, cString_take (fun d hd => mem_segment hd), hkeySz]
      rfl

end WaybeamVenc.FirstParam
