import WaybeamVenc.ApiJson

namespace WaybeamVenc.IqAnswer

open CNumber Json JsonNumber JsonString ApiBodies ApiValues ApiJson

/-- A value that handle_iq_set lets through. -/
def Numeric (val : CString) : Prop := ∀ c ∈ val, iqNumeric c = true

def Pieces (val : CString) : Prop := ∀ p ∈ val.splitOn ',', IntegerText p

def iqValue (val : CString) : CString := if ',' ∈ val then '[' :: (val ++ [']']) else val

theorem iqNumeric_cases {c : Char} (h : iqNumeric c = true) : c = '-' ∨ c = ',' ∨ c.isDigit = true := by
  simpa [iqNumeric, or_assoc] using h

/-! What reading a value says of it. -/

/-- Something that may follow a value follows. -/
def Followed (close : Char) (u : CString) : Prop := (∃ u', expect ',' u = some u') ∨ ∃ u', expect close u = some u'

theorem Followed.head {close : Char} {u : CString} (h : Followed close u) (hclose : close ≠ '-') :
    ∃ d r, u = d :: r ∧ d ≠ '-' := by
  cases u with
  | nil =>
      rcases h with ⟨u', hu⟩ | ⟨u', hu⟩
      · cases hu
      · cases hu
  | cons d r =>
      refine ⟨d, r, rfl, ?_⟩
      rintro rfl
      rw [Followed, expect_other (by decide) (by decide), expect_other (by decide) hclose.symm] at h
      rcases h with ⟨u', hu⟩ | ⟨u', hu⟩
      · cases hu
      · cases hu

/-- A piece of digits and minus signs is a whole number, up to what ends it. -/
theorem read_piece {p s u : CString} {c close : Char} {n : ℕ} {v : Value}
    (hp : ∀ x ∈ p, x.isDigit = true ∨ x = '-') (hc : c = ',' ∨ c = '}' ∨ c = ']') (hclose : close ≠ '-')
    (h : readValue n (p ++ c :: s) = some (v, u)) (hu : Followed close u) : IntegerText p ∧ u = c :: s := by
  obtain ⟨d, r, rfl, hd⟩ := hu.head hclose
  cases n with
  | zero => cases h
  | succ n =>
      cases p with
      | nil =>
          rw [List.nil_append, readValue_scalar, readScalar] at h
          · rcases hc with rfl | rfl | rfl <;> cases h
          · rcases hc with rfl | rfl | rfl <;> decide
          · rcases hc with rfl | rfl | rfl <;> decide
          · rcases hc with rfl | rfl | rfl <;> decide
          · rcases hc with rfl | rfl | rfl <;> decide
      | cons x p =>
          have hx := hp x List.mem_cons_self
          have hne : ∀ y : Char, y.isDigit = false → y ≠ '-' → x ≠ y := by
            intro y hy hminus
            rcases hx with hdigit | rfl
            · exact ne_of_isDigit hdigit hy
            · exact hminus.symm
          have hws : isWs x = false := by
            rcases hx with hdigit | rfl
            · exact isWs_of_isDigit hdigit
            · decide
          rw [List.cons_append, readValue_scalar hws (hne _ (by decide) (by decide)) (hne _ (by decide) (by decide))
            (hne _ (by decide) (by decide)), readScalar, if_neg (hne _ (by decide) (by decide)),
            if_neg (hne _ (by decide) (by decide)), if_neg (hne _ (by decide) (by decide))] at h
          obtain ⟨⟨num, r'⟩, hnum, heq⟩ := Option.map_eq_some_iff.1 h
          obtain ⟨-, rfl⟩ := Prod.mk.inj heq
          exact integerText_of_readNumber hp (stops_delimiter hc s) hd hnum (List.cons_ne_nil _ _)

theorem digits_of_numeric {p : CString} (hp : Numeric p) (hcomma : ',' ∉ p) : ∀ x ∈ p, x.isDigit = true ∨ x = '-' := by
  intro x hx
  rcases iqNumeric_cases (hp x hx) with hminus | rfl | hdigit
  · exact .inr hminus
  · exact absurd hx hcomma
  · exact .inl hdigit

/-- Pieces with commas between them, up to the closing bracket. -/
theorem pieces_of_readSeq {n m : ℕ} {val rest u : CString} {xs : List Value} (hval : Numeric val)
    (h : readSeq (readValue n) ']' m (val ++ ']' :: rest) = some (xs, u)) : Pieces val := by
  induction m generalizing val xs u with
  | zero => cases h
  | succ m ih =>
      obtain ⟨⟨a, r⟩, ha, hrest⟩ := Option.bind_eq_some_iff.1 h
      dsimp only at hrest
      have hfollowed : Followed ']' r := by
        cases hcomma : expect ',' r with
        | some r' => exact .inl ⟨r', hcomma⟩
        | none =>
            rw [hcomma] at hrest
            obtain ⟨r', hr', -⟩ := Option.map_eq_some_iff.1 hrest
            exact .inr ⟨r', hr'⟩
      by_cases hmem : ',' ∈ val
      · obtain ⟨p, val', rfl, hp⟩ := List.eq_append_cons_of_mem hmem
        have hpiece := digits_of_numeric (fun x hx => hval x (List.mem_append_left _ hx)) hp
        rw [List.append_assoc, List.cons_append] at ha
        obtain ⟨hint, rfl⟩ := read_piece hpiece (.inl rfl) (by decide) ha hfollowed
        rw [expect_same (by decide)] at hrest
        obtain ⟨⟨ys, w⟩, hys, -⟩ := Option.map_eq_some_iff.1 hrest
        have hmore := ih (fun x hx => hval x (List.mem_append_right _ (List.mem_cons_of_mem _ hx))) hys
        rw [Pieces, List.splitOn_append_cons_self_of_not_mem hp]
        intro q hq
        rcases List.mem_cons.1 hq with rfl | hq
        · exact hint
        · exact hmore q hq
      · rw [Pieces, List.splitOn_eq_singleton hmem]
        intro q hq
        rw [List.mem_singleton.1 hq]
        exact (read_piece (digits_of_numeric hval hmem) (.inr (.inr rfl)) (by decide) ha hfollowed).1

theorem pieces_of_reads {val s u : CString} {w : Value} (hval : Numeric val) (hne : val ≠ [])
    (h : Reads (iqValue val ++ '}' :: s) w u) (hu : Followed '}' u) : Pieces val := by
  obtain ⟨n, h⟩ := h
  rw [iqValue] at h
  split at h
  · cases n with
    | zero => cases h
    | succ n =>
        rw [List.cons_append, List.append_assoc, List.singleton_append, readValue,
          expect_other (by decide) (by decide)] at h
        dsimp only at h
        rw [expect_same (by decide)] at h
        obtain ⟨⟨xs, r⟩, hxs, -⟩ := Option.map_eq_some_iff.1 h
        obtain ⟨c, val', rfl⟩ := List.exists_cons_of_ne_nil hne
        have hc : isWs c = false ∧ c ≠ ']' := by
          rcases iqNumeric_cases (hval c List.mem_cons_self) with rfl | rfl | hdigit
          · exact ⟨by decide, by decide⟩
          · exact ⟨by decide, by decide⟩
          · exact ⟨isWs_of_isDigit hdigit, ne_of_isDigit hdigit (by decide)⟩
        rw [List.cons_append, readBlock, expect_other hc.1 hc.2] at hxs
        exact pieces_of_readSeq hval hxs
  next hmem =>
    rw [Pieces, List.splitOn_eq_singleton hmem]
    intro q hq
    rw [List.mem_singleton.1 hq]
    exact (read_piece (digits_of_numeric hval hmem) (.inr (.inl rfl)) (by decide) h hu).1

/-! A value of whole numbers. -/

theorem printItems_eq_map (vs : List Value) : printItems vs = vs.map print := by
  induction vs with
  | nil => rfl
  | cons v vs ih => rw [printItems, ih, List.map_cons]

theorem numbers_of_pieces {ps : List CString} (h : ∀ p ∈ ps, IntegerText p) :
    ∃ ns : List Number, ps = ns.map Number.text := by
  induction ps with
  | nil => exact ⟨[], rfl⟩
  | cons p ps ih =>
      obtain ⟨n, hn⟩ := (h p List.mem_cons_self).number
      obtain ⟨ns, hns⟩ := ih fun q hq => h q (List.mem_cons_of_mem p hq)
      exact ⟨n :: ns, by rw [hn, hns, List.map_cons]⟩

theorem iqValue_print {val : CString} (h : Pieces val) : ∃ v, iqValue val = print v := by
  have hjoin := @List.intercalate_splitOn _ val _ _ ','
  rw [iqValue]
  split
  · obtain ⟨ns, hns⟩ := numbers_of_pieces h
    refine ⟨.array (ns.map .number), ?_⟩
    have hprint : (ns.map Value.number).map print = ns.map Number.text := by
      rw [List.map_map]
      apply List.map_congr_left
      intro n _
      rw [Function.comp_apply, print]
    rw [print, printItems_eq_map, hprint, ← hns, hjoin]
  next hmem =>
    rw [Pieces, List.splitOn_eq_singleton hmem] at h
    obtain ⟨n, hn⟩ := (h val List.mem_cons_self).number
    exact ⟨.number n, by rw [print, hn]⟩

/-! The answer. -/

def paramPath : List CString := ["data".toList, "param".toList]

/-- What stands between the parameter and its value, behind the first quote. -/
def valueName : CString := [',', '"', 'v', 'a', 'l', 'u', 'e', '"', ':']

def iqTail (val : CString) : CString :=
  ',' :: (printString "value".toList ++ ':' :: (iqValue val ++ ['}', '}']))

theorem iqBody_eq (key val : CString) :
    okData ++ (iqData key (iqValue val) ++ ['}', '}']) =
      okData ++ (printString "param".toList ++ ':' :: '"' :: (key ++ '"' :: iqTail val)) := by
  have hdata : iqData key (iqValue val) = "\"param\":\"".toList ++ (key ++ ("\",\"value\":".toList ++ iqValue val)) :=
    rfl
  have hparam : "\"param\":\"".toList = printString "param".toList ++ [':', '"'] := by decide
  have hvalue : "\",\"value\":".toList = '"' :: ',' :: (printString "value".toList ++ [':']) := by decide
  rw [hdata, hparam, hvalue, iqTail]
  simp only [List.cons_append, List.append_assoc, List.nil_append]

theorem length_iqValue (val : CString) : (iqValue val).length ≤ val.length + 2 := by
  rw [iqValue]
  split
  · rw [List.length_cons, List.length_append, List.length_singleton]
  · exact Nat.le_add_right _ _

theorem at_first {a b k : CString} (hb : a ≠ b) {x j : Value} {ms rest : List (CString × Value)} :
    (Value.object ((a, x) :: (b, .object ((k, j) :: ms)) :: rest)).at? [b, k] = some j := by
  simp [Value.at?, Value.get?, hb]

theorem not_mem_iqValue {val : CString} (hval : Numeric val) : '"' ∉ iqValue val := by
  intro h
  have hquote : '"' ∈ val := by
    rw [iqValue] at h
    split at h
    · simpa using h
    · exact h
  exact absurd (hval _ hquote) (by decide)

/-- A string that ends inside the rest of the answer is not followed by what
may follow one. -/
theorem not_followed {val pre u : CString} (hval : Numeric val) (h : iqTail val = pre ++ '"' :: u) :
    ¬Followed '}' u := by
  have hquote : '"' ∉ iqValue val ++ ['}', '}'] := by
    intro hmem
    rcases List.mem_append.1 hmem with hmem | hmem
    · exact not_mem_iqValue hval hmem
    · exact absurd hmem (by decide)
  have hfront : iqTail val = valueName ++ (iqValue val ++ ['}', '}']) := rfl
  rw [hfront] at h
  obtain ⟨mid, hname, rfl⟩ : ∃ mid, valueName = pre ++ '"' :: mid ∧ u = mid ++ (iqValue val ++ ['}', '}']) := by
    rcases List.append_eq_append_iff.1 h with ⟨more, rfl, hmore⟩ | ⟨more, hname, hmore⟩
    · exact absurd (hmore ▸ List.mem_append_right more List.mem_cons_self) hquote
    · cases more with
      | nil => exact absurd (hmore ▸ List.mem_cons_self) hquote
      | cons d mid =>
          obtain ⟨rfl, rfl⟩ := List.cons.inj hmore
          exact ⟨mid, hname, rfl⟩
  -- behind either quote of the name stands neither a comma nor a brace
  have hnext : ∀ n < 9, (valueName.drop n).head? = some '"' →
      (valueName.drop (n + 1)).head? = some 'v' ∨ (valueName.drop (n + 1)).head? = some ':' := by decide
  have hlen : pre.length < 9 := by
    have hlen := congrArg List.length hname
    have hnine : valueName.length = 9 := by decide
    rw [hnine, List.length_append, List.length_cons] at hlen
    omega
  have hdrop : valueName.drop (pre.length + 1) = mid := by
    rw [hname, ← List.drop_drop, List.drop_left]
    rfl
  have hmid := hnext pre.length hlen (by rw [hname, List.drop_left]; rfl)
  rw [hdrop] at hmid
  cases mid with
  | nil => rcases hmid with h | h <;> cases h
  | cons c mid =>
      rw [List.cons_append, Followed]
      have hc : c = 'v' ∨ c = ':' := hmid.imp Option.some.inj Option.some.inj
      rcases hc with rfl | rfl
      · rw [expect_other (by decide) (by decide), expect_other (by decide) (by decide)]
        simp
      · rw [expect_other (by decide) (by decide), expect_other (by decide) (by decide)]
        simp

theorem iq_iff {key val : CString} (hkey : key.length ≤ 63) (hlen : val.length ≤ 255) (hne : val ≠ [])
    (hval : Numeric val) :
    (IsObject (snprintf 512 (okData ++ (iqData key (iqValue val) ++ ['}', '}']))) fun j =>
      j.at? paramPath = some (.string key)) ↔ Plain key ∧ Pieces val := by
  have hvalue := length_iqValue val
  have hshort : (okData ++ (printString "param".toList ++ ':' :: '"' :: (key ++ '"' :: iqTail val))).length ≤ 511 := by
    have hok : okData.length = 19 := by decide
    have hparam : (printString "param".toList).length = 7 := by decide
    have hname : (printString "value".toList).length = 7 := by decide
    simp only [iqTail, List.length_append, List.length_cons, List.length_nil, hok, hparam, hname]
    omega
  rw [iqBody_eq]
  constructor
  · rintro ⟨ms, ⟨r, htext, -⟩, hat⟩
    rw [snprintf, List.take_of_length_le hshort] at htext
    obtain ⟨w, u, more, rest, r', hw, hms, hrest⟩ := of_okData htext
    rw [hms, paramPath, at_first (by decide)] at hat
    obtain rfl := Option.some.inj hat
    obtain ⟨k, hread, hk⟩ := hw.of_quote
    obtain rfl := Value.string.inj hk
    have hfollowed : Followed '}' u := by
      rcases hrest with ⟨-, -, hend⟩ | ⟨u', hu', -⟩
      · exact .inr ⟨r', hend⟩
      · exact .inl ⟨u', hu'⟩
    obtain ⟨hplain, rfl⟩ := plain_of_readString hread fun pre hpre => not_followed hval hpre hfollowed
    refine ⟨hplain, ?_⟩
    rw [iqTail, expect_same (by decide)] at hrest
    rcases hrest with ⟨hnone, -⟩ | ⟨u', hu', hmembers⟩
    · cases hnone
    · obtain rfl := Option.some.inj hu'
      obtain ⟨w', u'', ms', hw', -, hrest'⟩ := hmembers.of_member
      refine pieces_of_reads hval hne hw' ?_
      rcases hrest' with ⟨-, -, hend⟩ | ⟨v, hv, -⟩
      · exact .inr ⟨r', hend⟩
      · exact .inl ⟨v, hv⟩
  · rintro ⟨hplain, hpieces⟩
    obtain ⟨v, hv⟩ := iqValue_print hpieces
    have hprint : print (dataTree [("param".toList, .string key), ("value".toList, v)]) =
        okData ++ (printString "param".toList ++ ':' :: '"' :: (key ++ '"' :: iqTail val)) := by
      rw [print_dataTree, iqTail, hv]
      simp only [print.eq_4, printMembers, List.intercalate_cons_cons, List.intercalate_singleton,
        printString_plain hplain, List.cons_append, List.append_assoc, List.nil_append]
    rw [← hprint] at hshort ⊢
    exact isObject_print.2 ⟨hshort, at_first (by decide)⟩

end WaybeamVenc.IqAnswer
