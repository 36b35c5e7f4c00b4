import WaybeamVenc.JsonNumber
import WaybeamVenc.JsonString

namespace WaybeamVenc.Json

open JsonNumber JsonString

inductive Value
  | null
  | bool (b : Bool)
  | number (n : Number)
  | string (s : List Char)
  | array (items : List Value)
  | object (members : List (List Char × Value))

/-! Writing a value, without spaces. -/

mutual

def print : Value → List Char
  | .null => "null".toList
  | .bool b => (if b then "true" else "false").toList
  | .number n => n.text
  | .string s => printString s
  | .array items => '[' :: (List.intercalate [','] (printItems items) ++ [']'])
  | .object members => '{' :: (List.intercalate [','] (printMembers members) ++ ['}'])

def printItems : List Value → List (List Char)
  | [] => []
  | v :: vs => print v :: printItems vs

def printMembers : List (List Char × Value) → List (List Char)
  | [] => []
  | (k, v) :: ms => (printString k ++ ':' :: print v) :: printMembers ms

end

/-! Reading a value. -/

/-- What was read, and the text behind it. -/
abbrev Reader (α : Type) := List Char → Option (α × List Char)

def isWs (c : Char) : Bool := c = ' ' || c = '\t' || c = '\n' || c = '\r'

def skipWs (s : List Char) : List Char := s.dropWhile isWs

/-- The text behind a character, if it is the next one. -/
def expect (d : Char) (s : List Char) : Option (List Char) :=
  match skipWs s with
  | [] => none
  | c :: rest => if c = d then some rest else none

section

variable {α : Type}

/-- Items with commas between them up to the closing bracket, at most so many. -/
def readSeq (item : Reader α) (close : Char) : Nat → Reader (List α)
  | 0, _ => none
  | n + 1, s => (item s).bind fun r =>
    match expect ',' r.2 with
    | some rest => (readSeq item close n rest).map fun q => (r.1 :: q.1, q.2)
    | none => (expect close r.2).map fun rest => ([r.1], rest)

def readBlock (item : Reader α) (close : Char) (n : Nat) (s : List Char) : Option (List α × List Char) :=
  match expect close s with
  | some rest => some ([], rest)
  | none => readSeq item close n s

end

def readMember (value : Reader Value) (s : List Char) : Option ((List Char × Value) × List Char) :=
  (expect '"' s).bind fun s => (readString s).bind fun k =>
    (expect ':' k.2).bind fun s => (value s).map fun v => ((k.1, v.1), v.2)

def readWord (word : List Char) (v : Value) (s : List Char) : Option (Value × List Char) :=
  if word <+: s then some (v, s.drop word.length) else none

def readScalar : Reader Value
  | [] => none
  | c :: s =>
    if c = 'n' then readWord "ull".toList .null s
    else if c = 't' then readWord "rue".toList (.bool true) s
    else if c = 'f' then readWord "alse".toList (.bool false) s
    else (readNumber (c :: s)).map fun r => (.number r.1, r.2)

/-- The value at the front of a text, at most so deep and so long. -/
def readValue : Nat → Reader Value
  | 0, _ => none
  | n + 1, s =>
    match expect '{' s with
    | some rest => (readBlock (readMember (readValue n)) '}' n rest).map fun r => (.object r.1, r.2)
    | none =>
      match expect '[' s with
      | some rest => (readBlock (readValue n) ']' n rest).map fun r => (.array r.1, r.2)
      | none =>
        match expect '"' s with
        | some rest => (readString rest).map fun r => (.string r.1, r.2)
        | none => readScalar (skipWs s)

/-- A value at the front of a text. -/
def Reads (s : List Char) (v : Value) (r : List Char) : Prop := ∃ n, readValue n s = some (v, r)

/-- The whole text is a value. -/
def IsText (s : List Char) (v : Value) : Prop := ∃ r, Reads s v r ∧ skipWs r = []

/-! The next character. -/

theorem expect_same {d : Char} (hd : isWs d = false) (s : List Char) : expect d (d :: s) = some s := by
  simp [expect, skipWs, hd]

theorem expect_other {c d : Char} (hc : isWs c = false) (hne : c ≠ d) (s : List Char) : expect d (c :: s) = none := by
  simp [expect, skipWs, hc, hne]

theorem skipWs_more {s : List Char} (h : skipWs s ≠ []) (t : List Char) : skipWs (s ++ t) = skipWs s ++ t := by
  induction s with
  | nil => exact absurd rfl h
  | cons c s ih =>
      by_cases hc : isWs c = true
      · have hstep : ∀ s, skipWs (c :: s) = skipWs s := fun _ => List.dropWhile_cons_of_pos hc
        rw [hstep] at h
        rw [List.cons_append, hstep, hstep, ih h]
      · have hstop : ∀ s, skipWs (c :: s) = c :: s := fun _ => List.dropWhile_cons_of_neg hc
        rw [List.cons_append, hstop, hstop, List.cons_append]

theorem expect_more {d : Char} {s r : List Char} (h : expect d s = some r) (t : List Char) :
    expect d (s ++ t) = some (r ++ t) := by
  rw [expect] at h
  split at h
  · cases h
  next c rest hs =>
    have hne : skipWs s ≠ [] := by simp [hs]
    split at h
    · next hc =>
      obtain rfl := Option.some.inj h
      rw [expect, skipWs_more hne, hs, List.cons_append]
      exact if_pos hc
    · cases h

theorem expect_more_none {d : Char} {s : List Char} (hne : skipWs s ≠ []) (h : expect d s = none) (t : List Char) :
    expect d (s ++ t) = none := by
  rw [expect] at h
  split at h
  · next hs => exact absurd hs hne
  next c rest hs =>
    split at h
    · cases h
    · next hc =>
      rw [expect, skipWs_more hne, hs, List.cons_append]
      exact if_neg hc

theorem skipWs_ne_nil {d : Char} {s r : List Char} (h : expect d s = some r) : skipWs s ≠ [] := by
  intro hs
  rw [expect, hs] at h
  cases h

/-! More fuel reads the same. -/

/-- One reader reads all that another does. -/
def Extends {α : Type} (item' item : Reader α) : Prop := ∀ s r, item s = some r → item' s = some r

section

variable {α : Type} {item item' : Reader α} {close : Char} {n m : Nat}

theorem Extends.readSeq (hi : Extends item' item) (hnm : n ≤ m) :
    Extends (readSeq item' close m) (readSeq item close n) := by
  induction n generalizing m with
  | zero =>
      intro s r h
      cases h
  | succ n ih =>
      intro s r h
      obtain ⟨m, rfl⟩ : ∃ k, m = k + 1 := ⟨m - 1, by omega⟩
      obtain ⟨q, hq, hrest⟩ := Option.bind_eq_some_iff.1 h
      rw [Json.readSeq, hi s q hq, Option.bind_some]
      cases hcomma : expect ',' q.2 with
      | none =>
          rw [hcomma] at hrest
          exact hrest
      | some rest =>
          rw [hcomma] at hrest
          obtain ⟨u, hu, rfl⟩ := Option.map_eq_some_iff.1 hrest
          dsimp only
          rw [ih (Nat.le_of_succ_le_succ hnm) rest u hu, Option.map_some]

theorem Extends.readBlock (hi : Extends item' item) (hnm : n ≤ m) :
    Extends (readBlock item' close m) (readBlock item close n) := by
  intro s r h
  rw [Json.readBlock] at h ⊢
  cases hc : expect close s with
  | none =>
      rw [hc] at h
      exact hi.readSeq hnm s r h
  | some rest =>
      rw [hc] at h
      exact h

theorem Extends.readMember {value value' : Reader Value} (hv : Extends value' value) :
    Extends (readMember value') (readMember value) := by
  intro s r h
  obtain ⟨s₁, h₁, h⟩ := Option.bind_eq_some_iff.1 h
  obtain ⟨k, hk, h⟩ := Option.bind_eq_some_iff.1 h
  obtain ⟨s₂, h₂, h⟩ := Option.bind_eq_some_iff.1 h
  obtain ⟨v, hread, rfl⟩ := Option.map_eq_some_iff.1 h
  rw [Json.readMember, h₁, Option.bind_some, hk, Option.bind_some, h₂, Option.bind_some, hv s₂ v hread,
    Option.map_some]

theorem readValue_extends (hnm : n ≤ m) : Extends (readValue m) (readValue n) := by
  induction n generalizing m with
  | zero =>
      intro s r h
      cases h
  | succ n ih =>
      intro s r h
      obtain ⟨m, rfl⟩ : ∃ k, m = k + 1 := ⟨m - 1, by omega⟩
      have hle := Nat.le_of_succ_le_succ hnm
      rw [readValue] at h ⊢
      split at h
      · obtain ⟨q, hq, rfl⟩ := Option.map_eq_some_iff.1 h
        rw [(ih hle).readMember.readBlock hle _ q hq, Option.map_some]
      · split at h
        · obtain ⟨q, hq, rfl⟩ := Option.map_eq_some_iff.1 h
          rw [(ih hle).readBlock hle _ q hq, Option.map_some]
        · exact h

end

theorem Reads.unique {s r r' : List Char} {v v' : Value} (h : Reads s v r) (h' : Reads s v' r') :
    v = v' ∧ r = r' := by
  obtain ⟨n, h⟩ := h
  obtain ⟨m, h'⟩ := h'
  have hn := readValue_extends (Nat.le_max_left n m) s _ h
  have hm := readValue_extends (Nat.le_max_right n m) s _ h'
  exact Prod.mk.inj (Option.some.inj (hn.symm.trans hm))

/-! A text that goes on. -/

/-- Where something is left behind what was read, more text may follow. -/
def Open {α : Type} (item : Reader α) : Prop :=
  ∀ s a r t, item s = some (a, r) → r ≠ [] → item (s ++ t) = some (a, r ++ t)

theorem Open.readSeq {α : Type} {item : Reader α} (ho : Open item) {close : Char} {n : Nat} {s r : List Char}
    {xs : List α} (h : readSeq item close n s = some (xs, r)) (t : List Char) :
    Json.readSeq item close n (s ++ t) = some (xs, r ++ t) := by
  induction n generalizing s xs with
  | zero => cases h
  | succ n ih =>
      obtain ⟨⟨a, u⟩, ha, hrest⟩ := Option.bind_eq_some_iff.1 h
      dsimp only at hrest
      cases hcomma : expect ',' u with
      | none =>
          rw [hcomma] at hrest
          obtain ⟨v, hv, heq⟩ := Option.map_eq_some_iff.1 hrest
          obtain ⟨rfl, rfl⟩ := Prod.mk.inj heq
          have hu := skipWs_ne_nil hv
          have hne : u ≠ [] := by
            rintro rfl
            exact hu rfl
          rw [Json.readSeq, ho s a u t ha hne, Option.bind_some]
          dsimp only
          rw [expect_more_none hu hcomma, expect_more hv, Option.map_some]
      | some v =>
          rw [hcomma] at hrest
          obtain ⟨⟨ys, w⟩, hw, heq⟩ := Option.map_eq_some_iff.1 hrest
          obtain ⟨rfl, rfl⟩ := Prod.mk.inj heq
          have hne : u ≠ [] := by
            rintro rfl
            exact skipWs_ne_nil hcomma rfl
          rw [Json.readSeq, ho s a u t ha hne, Option.bind_some]
          dsimp only
          rw [expect_more hcomma]
          dsimp only
          rw [ih hw, Option.map_some]

theorem readSeq_ne_blank {α : Type} {item : Reader α} (hi : ∀ s, skipWs s = [] → item s = none) {close : Char}
    {n : Nat} {s r : List Char} {xs : List α} (h : readSeq item close n s = some (xs, r)) : skipWs s ≠ [] := by
  intro hs
  cases n with
  | zero => cases h
  | succ n =>
      rw [readSeq, hi s hs] at h
      cases h

theorem Open.readBlock {α : Type} {item : Reader α} (ho : Open item) (hi : ∀ s, skipWs s = [] → item s = none)
    {close : Char} {n : Nat} {s r : List Char} {xs : List α} (h : readBlock item close n s = some (xs, r))
    (t : List Char) : Json.readBlock item close n (s ++ t) = some (xs, r ++ t) := by
  rw [Json.readBlock] at h ⊢
  cases hc : expect close s with
  | none =>
      rw [hc] at h
      rw [expect_more_none (readSeq_ne_blank hi h) hc]
      exact ho.readSeq h t
  | some rest =>
      rw [hc] at h
      obtain ⟨rfl, rfl⟩ := Prod.mk.inj (Option.some.inj h)
      rw [expect_more hc]

theorem expect_blank {d : Char} {s : List Char} (h : skipWs s = []) : expect d s = none := by rw [expect, h]

theorem readMember_blank (value : Reader Value) {s : List Char} (h : skipWs s = []) : readMember value s = none := by
  rw [readMember, expect_blank h, Option.bind_none]

theorem readValue_blank (n : Nat) {s : List Char} (h : skipWs s = []) : readValue n s = none := by
  cases n with
  | zero => rfl
  | succ n => rw [readValue, expect_blank h, expect_blank h, expect_blank h, h]; rfl

theorem Open.readMember {value : Reader Value} (hv : Open value) : Open (readMember value) := by
  intro s a r t h hr
  obtain ⟨s₁, h₁, h⟩ := Option.bind_eq_some_iff.1 h
  obtain ⟨⟨k, s₂⟩, hk, h⟩ := Option.bind_eq_some_iff.1 h
  obtain ⟨s₃, h₃, h⟩ := Option.bind_eq_some_iff.1 h
  obtain ⟨⟨v, s₄⟩, hread, heq⟩ := Option.map_eq_some_iff.1 h
  obtain ⟨rfl, rfl⟩ := Prod.mk.inj heq
  rw [Json.readMember, expect_more h₁, Option.bind_some, readString_more hk, Option.bind_some]
  dsimp only
  rw [expect_more h₃, Option.bind_some, hv s₃ v s₄ t hread hr, Option.map_some]

theorem readWord_more {word s r : List Char} {v w : Value} (h : readWord word v s = some (w, r)) (t : List Char) :
    readWord word v (s ++ t) = some (w, r ++ t) := by
  rw [readWord] at h
  split at h
  · next hstart =>
    obtain ⟨rfl, rfl⟩ := Prod.mk.inj (Option.some.inj h)
    rw [readWord, if_pos (hstart.trans (List.prefix_append s t)), List.drop_append_of_le_length hstart.length_le]
  · cases h

theorem readScalar_open : Open readScalar := by
  intro s v r t h hr
  cases s with
  | nil => cases h
  | cons c s =>
      rw [readScalar] at h
      rw [List.cons_append, readScalar]
      split at h
      · next hc => rw [if_pos hc, readWord_more h]
      · next hc =>
        rw [if_neg hc]
        split at h
        · next hc => rw [if_pos hc, readWord_more h]
        · next hc =>
          rw [if_neg hc]
          split at h
          · next hc => rw [if_pos hc, readWord_more h]
          · next hc =>
            obtain ⟨⟨n, u⟩, hn, heq⟩ := Option.map_eq_some_iff.1 h
            obtain ⟨rfl, rfl⟩ := Prod.mk.inj heq
            have hmore := readNumber_more hr t hn
            rw [List.cons_append] at hmore
            rw [if_neg hc, hmore, Option.map_some]

theorem readWord_eq {word s r : List Char} {v w : Value} (h : readWord word v s = some (w, r)) : w = v := by
  rw [readWord] at h
  split at h
  · exact (Prod.mk.inj (Option.some.inj h)).1.symm
  · cases h

theorem readScalar_ne_object {s r : List Char} {ms : List (List Char × Value)} :
    readScalar s ≠ some (.object ms, r) := by
  intro h
  cases s with
  | nil => cases h
  | cons c s =>
      rw [readScalar] at h
      split at h
      · cases readWord_eq h
      · split at h
        · cases readWord_eq h
        · split at h
          · cases readWord_eq h
          · obtain ⟨q, -, heq⟩ := Option.map_eq_some_iff.1 h
            cases heq

/-- What is behind a value is left to its reader; behind an object it may be
nothing. -/
theorem readValue_more {n : Nat} {s r : List Char} {v : Value} (h : readValue n s = some (v, r)) (t : List Char)
    (hr : r ≠ [] ∨ ∃ ms, v = .object ms) : readValue n (s ++ t) = some (v, r ++ t) := by
  induction n generalizing s r v t with
  | zero => cases h
  | succ n ih =>
      have hs : skipWs s ≠ [] := by
        intro hs
        rw [readValue_blank _ hs] at h
        cases h
      have ho : Open (readValue n) := fun s v r t h hr => ih h t (.inl hr)
      rw [readValue] at h ⊢
      cases hobject : expect '{' s with
      | some rest =>
          rw [hobject] at h
          obtain ⟨⟨ms, u⟩, hm, heq⟩ := Option.map_eq_some_iff.1 h
          obtain ⟨rfl, rfl⟩ := Prod.mk.inj heq
          rw [expect_more hobject]
          dsimp only
          rw [ho.readMember.readBlock (fun s => readMember_blank _) hm, Option.map_some]
      | none =>
          rw [hobject] at h
          rw [expect_more_none hs hobject]
          dsimp only at h ⊢
          cases harray : expect '[' s with
          | some rest =>
              rw [harray] at h
              obtain ⟨⟨vs, u⟩, hv, heq⟩ := Option.map_eq_some_iff.1 h
              obtain ⟨rfl, rfl⟩ := Prod.mk.inj heq
              rw [expect_more harray]
              dsimp only
              rw [ho.readBlock (fun s => readValue_blank n) hv, Option.map_some]
          | none =>
              rw [harray] at h
              rw [expect_more_none hs harray]
              dsimp only at h ⊢
              cases hstring : expect '"' s with
              | some rest =>
                  rw [hstring] at h
                  obtain ⟨⟨k, u⟩, hk, heq⟩ := Option.map_eq_some_iff.1 h
                  obtain ⟨rfl, rfl⟩ := Prod.mk.inj heq
                  rw [expect_more hstring]
                  dsimp only
                  rw [readString_more hk, Option.map_some]
              | none =>
                  rw [hstring] at h
                  rw [expect_more_none hs hstring, skipWs_more hs]
                  refine readScalar_open _ _ _ t h (hr.resolve_right ?_)
                  rintro ⟨ms, rfl⟩
                  exact readScalar_ne_object h

/-- A text that ends before the object does is no object. -/
theorem not_isText_of_prefix {s t : List Char} {v : Value} {ms : List (List Char × Value)} (hfull : Reads (s ++ t) v [])
    (ht : t ≠ []) : ¬IsText s (.object ms) := by
  rintro ⟨r, ⟨n, h⟩, -⟩
  have hend := (Reads.unique ⟨n, readValue_more h t (.inr ⟨ms, rfl⟩)⟩ hfull).2
  exact ht (List.append_eq_nil_iff.1 hend).2

/-! Reading what was written. -/

mutual

/-- The fuel that reading a value takes. -/
def weight : Value → Nat
  | .array items => weightItems items + 1
  | .object members => weightMembers members + 1
  | _ => 1

def weightItems : List Value → Nat
  | [] => 0
  | v :: vs => weight v + weightItems vs + 1

def weightMembers : List (List Char × Value) → Nat
  | [] => 0
  | (_, v) :: ms => weight v + weightMembers ms + 1

end

theorem stops_delimiter {c : Char} (h : c = ',' ∨ c = '}' ∨ c = ']') (s : List Char) : Stops (c :: s) := by
  rw [stops_cons]
  rcases h with rfl | rfl | rfl <;> decide

/-- An item with its text, which a comma or the bracket ends. -/
def ReadsAs {α : Type} (item : Reader α) (close : Char) (x : α) (text : List Char) : Prop :=
  ∀ c s, c = ',' ∨ c = close → item (text ++ c :: s) = some (x, c :: s)

theorem readSeq_join {α : Type} {item : Reader α} {close : Char} (hclose : isWs close = false) (hcomma : close ≠ ',')
    {xs : List α} {texts : List (List Char)} (h : List.Forall₂ (ReadsAs item close) xs texts) (hne : xs ≠ [])
    {n : Nat} (hn : xs.length ≤ n) (r : List Char) :
    readSeq item close n (List.intercalate [','] texts ++ close :: r) = some (xs, r) := by
  induction h generalizing n with
  | nil => exact absurd rfl hne
  | @cons x text xs texts hx hrest ih =>
      obtain ⟨n, rfl⟩ : ∃ k, n = k + 1 := ⟨n - 1, by rw [List.length_cons] at hn; omega⟩
      cases hrest with
      | nil =>
          rw [List.intercalate_singleton, readSeq, hx close r (.inr rfl), Option.bind_some]
          dsimp only
          rw [expect_other hclose hcomma, expect_same hclose, Option.map_some]
      | @cons y text' ys texts' hy hys =>
          rw [List.intercalate_cons_cons, List.append_assoc, List.append_assoc, readSeq, List.singleton_append,
            hx ',' _ (.inl rfl), Option.bind_some]
          dsimp only
          rw [expect_same (by decide)]
          dsimp only
          rw [ih (List.cons_ne_nil _ _) (Nat.le_of_succ_le_succ hn), Option.map_some]

theorem ne_of_isDigit {c d : Char} (hc : c.isDigit = true) (hd : d.isDigit = false) : c ≠ d := by
  rintro rfl
  exact absurd hc (by simp [hd])

theorem isWs_of_isDigit {c : Char} (h : c.isDigit = true) : isWs c = false := by
  simp [isWs, ne_of_isDigit h]

theorem number_head (n : Number) : ∃ c s, n.text = c :: s ∧ (c = '-' ∨ c.isDigit = true) := by
  rw [Number.text]
  cases n.negative with
  | true => exact ⟨'-', _, rfl, .inl rfl⟩
  | false =>
      obtain ⟨d, ds, hd⟩ := List.exists_cons_of_ne_nil (@Nat.toDigits_ne_nil n.int 10)
      exact ⟨d, _, by rw [hd]; rfl, .inr (isDigit_toDigits d (hd ▸ List.mem_cons_self))⟩

/-- A written value starts with neither a space nor a closing bracket. -/
theorem print_head (v : Value) : ∃ c s, print v = c :: s ∧ isWs c = false ∧ c ≠ ']' := by
  cases v with
  | null => exact ⟨'n', _, rfl, by decide, by decide⟩
  | bool b => cases b <;> exact ⟨_, _, rfl, by decide, by decide⟩
  | string s => exact ⟨'"', _, rfl, by decide, by decide⟩
  | array items => exact ⟨'[', _, by rw [print], by decide, by decide⟩
  | object members => exact ⟨'{', _, by rw [print], by decide, by decide⟩
  | number n =>
      obtain ⟨c, s, hc, hsign⟩ := number_head n
      rcases hsign with rfl | hdigit
      · exact ⟨'-', s, by rw [print, hc], by decide, by decide⟩
      · exact ⟨c, s, by rw [print, hc], isWs_of_isDigit hdigit, ne_of_isDigit hdigit (by decide)⟩

theorem readBlock_join {α : Type} {item : Reader α} {close : Char} (hclose : isWs close = false) (hcomma : close ≠ ',')
    {xs : List α} {texts : List (List Char)} (h : List.Forall₂ (ReadsAs item close) xs texts)
    (hhead : ∀ t ∈ texts, ∃ c s, t = c :: s ∧ isWs c = false ∧ c ≠ close) {n : Nat} (hn : xs.length ≤ n) (r : List Char) :
    readBlock item close n (List.intercalate [','] texts ++ close :: r) = some (xs, r) := by
  cases h with
  | nil =>
      rw [List.intercalate_nil, List.nil_append, readBlock, expect_same hclose]
  | @cons x text xs texts hx hrest =>
      obtain ⟨c, s, rfl, hc, hne⟩ := hhead text List.mem_cons_self
      have hstart : ∃ u, List.intercalate [','] ((c :: s) :: texts) ++ close :: r = c :: u := by
        cases texts with
        | nil => exact ⟨_, by rw [List.intercalate_singleton]; rfl⟩
        | cons text' texts => exact ⟨_, by rw [List.intercalate_cons_cons]; rfl⟩
      have hseq := readSeq_join hclose hcomma (.cons hx hrest) (List.cons_ne_nil _ _) hn r
      obtain ⟨u, hu⟩ := hstart
      rw [hu] at hseq ⊢
      rw [readBlock, expect_other hc hne]
      exact hseq

theorem length_le_weightItems (vs : List Value) : vs.length ≤ weightItems vs := by
  induction vs with
  | nil => exact Nat.zero_le _
  | cons v vs ih => rw [List.length_cons, weightItems]; omega

theorem length_le_weightMembers (ms : List (List Char × Value)) : ms.length ≤ weightMembers ms := by
  induction ms with
  | nil => exact Nat.zero_le _
  | cons m ms ih =>
      obtain ⟨k, v⟩ := m
      rw [List.length_cons, weightMembers]
      omega

theorem printItems_head (vs : List Value) : ∀ t ∈ printItems vs, ∃ c s, t = c :: s ∧ isWs c = false ∧ c ≠ ']' := by
  induction vs with
  | nil =>
      intro t ht
      cases ht
  | cons v vs ih =>
      intro t ht
      rw [printItems] at ht
      rcases List.mem_cons.1 ht with rfl | ht
      · exact print_head v
      · exact ih t ht

theorem printMembers_head (ms : List (List Char × Value)) :
    ∀ t ∈ printMembers ms, ∃ c s, t = c :: s ∧ isWs c = false ∧ c ≠ '}' := by
  induction ms with
  | nil =>
      intro t ht
      cases ht
  | cons m ms ih =>
      obtain ⟨k, v⟩ := m
      intro t ht
      rw [printMembers] at ht
      rcases List.mem_cons.1 ht with rfl | ht
      · exact ⟨'"', _, rfl, by decide, by decide⟩
      · exact ih t ht

theorem readMember_print {value : Reader Value} {v : Value} {s t : List Char} (hv : value t = some (v, s)) (k : List Char) :
    readMember value (printString k ++ ':' :: t) = some ((k, v), s) := by
  rw [printString, List.cons_append, List.append_assoc, List.singleton_append, readMember, expect_same (by decide),
    Option.bind_some, readString_print, Option.bind_some]
  dsimp only
  rw [expect_same (by decide), Option.bind_some, hv, Option.map_some]

theorem readWord_print (word : List Char) (v : Value) (r : List Char) : readWord word v (word ++ r) = some (v, r) := by
  rw [readWord, if_pos (List.prefix_append word r), List.drop_left]

theorem weight_pos (v : Value) : 0 < weight v := by cases v <;> simp [weight]

/-- A value that starts with no bracket and no quote. -/
theorem readValue_scalar {c : Char} (hws : isWs c = false) (hbrace : c ≠ '{') (hbracket : c ≠ '[') (hquote : c ≠ '"')
    (n : Nat) (s : List Char) : readValue (n + 1) (c :: s) = readScalar (c :: s) := by
  have hskip : skipWs (c :: s) = c :: s := List.dropWhile_cons_of_neg (by simp [hws])
  rw [readValue, expect_other hws hbrace]
  dsimp only
  rw [expect_other hws hbracket]
  dsimp only
  rw [expect_other hws hquote, hskip]

theorem readValue_print_number (x : Number) (n : Nat) {r : List Char} (hr : Stops r) :
    readValue (n + 1) (x.text ++ r) = some (.number x, r) := by
  have hread := readNumber_text x hr
  obtain ⟨c, s, hc, hsign⟩ := number_head x
  have hne : ∀ d : Char, d.isDigit = false → d ≠ '-' → c ≠ d := by
    intro d hd hminus
    rcases hsign with rfl | hdigit
    · exact hminus.symm
    · exact ne_of_isDigit hdigit hd
  have hws : isWs c = false := by
    rcases hsign with rfl | hdigit
    · decide
    · exact isWs_of_isDigit hdigit
  rw [hc, List.cons_append] at hread ⊢
  rw [readValue_scalar hws (hne _ (by decide) (by decide)) (hne _ (by decide) (by decide))
    (hne _ (by decide) (by decide)), readScalar, if_neg (hne _ (by decide) (by decide)),
    if_neg (hne _ (by decide) (by decide)), if_neg (hne _ (by decide) (by decide)), hread, Option.map_some]

mutual

/-- What was written reads as it was, up to a text that ends a number. -/
theorem readValue_print : ∀ (v : Value) (n : Nat) (r : List Char), weight v ≤ n → Stops r →
    readValue n (print v ++ r) = some (v, r)
  | v, 0, _, h, _ => absurd h (Nat.not_le.2 (weight_pos v))
  | .null, n + 1, r, _, _ =>
      (readValue_scalar (by decide) (by decide) (by decide) (by decide) n _).trans (readWord_print "ull".toList .null r)
  | .bool true, n + 1, r, _, _ =>
      (readValue_scalar (by decide) (by decide) (by decide) (by decide) n _).trans
        (readWord_print "rue".toList (.bool true) r)
  | .bool false, n + 1, r, _, _ =>
      (readValue_scalar (by decide) (by decide) (by decide) (by decide) n _).trans
        (readWord_print "alse".toList (.bool false) r)
  | .number x, n + 1, _, _, hr => readValue_print_number x n hr
  | .string s, n + 1, r, _, _ => by
      rw [print, printString, List.cons_append, readValue, expect_other (by decide) (by decide)]
      dsimp only
      rw [expect_other (by decide) (by decide)]
      dsimp only
      rw [expect_same (by decide), List.append_assoc, List.singleton_append]
      dsimp only
      rw [readString_print, Option.map_some]
  | .array items, n + 1, r, h, _ => by
      rw [weight] at h
      have hitems := readItems_print items n (Nat.le_of_succ_le_succ h)
      have hlen := Nat.le_trans (length_le_weightItems items) (Nat.le_of_succ_le_succ h)
      rw [print, List.cons_append, List.append_assoc, List.singleton_append, readValue,
        expect_other (by decide) (by decide)]
      dsimp only
      rw [expect_same (by decide)]
      dsimp only
      rw [readBlock_join (by decide) (by decide) hitems (printItems_head items) hlen, Option.map_some]
  | .object members, n + 1, r, h, _ => by
      rw [weight] at h
      have hmembers := readMembers_print members n (Nat.le_of_succ_le_succ h)
      have hlen := Nat.le_trans (length_le_weightMembers members) (Nat.le_of_succ_le_succ h)
      rw [print, List.cons_append, List.append_assoc, List.singleton_append, readValue, expect_same (by decide)]
      dsimp only
      rw [readBlock_join (by decide) (by decide) hmembers (printMembers_head members) hlen, Option.map_some]

theorem readItems_print : ∀ (vs : List Value) (n : Nat), weightItems vs ≤ n →
    List.Forall₂ (ReadsAs (readValue n) ']') vs (printItems vs)
  | [], _, _ => .nil
  | v :: vs, n, h => by
      rw [weightItems] at h
      refine .cons ?_ (readItems_print vs n (by omega))
      intro c s hc
      exact readValue_print v n (c :: s) (by omega) (stops_delimiter (by tauto) s)

theorem readMembers_print : ∀ (ms : List (List Char × Value)) (n : Nat), weightMembers ms ≤ n →
    List.Forall₂ (ReadsAs (readMember (readValue n)) '}') ms (printMembers ms)
  | [], _, _ => .nil
  | (k, v) :: ms, n, h => by
      rw [weightMembers] at h
      refine .cons ?_ (readMembers_print ms n (by omega))
      intro c s hc
      rw [List.append_assoc, List.cons_append]
      exact readMember_print (readValue_print v n (c :: s) (by omega) (stops_delimiter (by tauto) s)) k

end

theorem reads_print (v : Value) {r : List Char} (hr : Stops r) : Reads (print v ++ r) v r :=
  ⟨weight v, readValue_print v (weight v) r (Nat.le_refl _) hr⟩

theorem isText_print (v : Value) : IsText (print v) v := by
  have h := reads_print v (show Stops [] by simp [Stops])
  rw [List.append_nil] at h
  exact ⟨[], h, rfl⟩

theorem IsText.unique {s : List Char} {v v' : Value} (h : IsText s v) (h' : IsText s v') : v = v' := by
  obtain ⟨r, hr, -⟩ := h
  obtain ⟨r', hr', -⟩ := h'
  exact (hr.unique hr').1

/-! What an object's text must be. -/

/-- The members of an object from here to its end. -/
def ReadsMembers (s : List Char) (ms : List (List Char × Value)) (r : List Char) : Prop :=
  ∃ n m, readSeq (readMember (readValue n)) '}' m s = some (ms, r)

theorem Reads.of_brace {k s r : List Char} {v : Value} (h : Reads ('{' :: (printString k ++ s)) v r) :
    ∃ ms, v = .object ms ∧ ReadsMembers (printString k ++ s) ms r := by
  obtain ⟨n, h⟩ := h
  cases n with
  | zero => cases h
  | succ n =>
      rw [readValue, expect_same (by decide)] at h
      obtain ⟨⟨ms, u⟩, hm, heq⟩ := Option.map_eq_some_iff.1 h
      obtain ⟨rfl, rfl⟩ := Prod.mk.inj heq
      rw [printString, List.cons_append, readBlock, expect_other (by decide) (by decide)] at hm
      exact ⟨ms, rfl, n, n, hm⟩

theorem Reads.of_quote {s u : List Char} {w : Value} (h : Reads ('"' :: s) w u) :
    ∃ k, readString s = some (k, u) ∧ w = .string k := by
  obtain ⟨n, h⟩ := h
  cases n with
  | zero => cases h
  | succ n =>
      rw [readValue, expect_other (by decide) (by decide)] at h
      dsimp only at h
      rw [expect_other (by decide) (by decide)] at h
      dsimp only at h
      rw [expect_same (by decide)] at h
      obtain ⟨⟨k, r⟩, hk, heq⟩ := Option.map_eq_some_iff.1 h
      obtain ⟨rfl, rfl⟩ := Prod.mk.inj heq
      exact ⟨k, hk, rfl⟩

/-- A member, and what may stand behind it. -/
theorem ReadsMembers.of_member {k s r : List Char} {ms : List (List Char × Value)}
    (h : ReadsMembers (printString k ++ ':' :: s) ms r) :
    ∃ v u ms', Reads s v u ∧ ms = (k, v) :: ms' ∧ ((expect ',' u = none ∧ ms' = [] ∧ expect '}' u = some r) ∨
      ∃ u', expect ',' u = some u' ∧ ReadsMembers u' ms' r) := by
  obtain ⟨n, m, h⟩ := h
  cases m with
  | zero => cases h
  | succ m =>
      obtain ⟨⟨a, u⟩, ha, hrest⟩ := Option.bind_eq_some_iff.1 h
      rw [readMember, printString, List.cons_append, expect_same (by decide), Option.bind_some, List.append_assoc,
        List.singleton_append, readString_print, Option.bind_some] at ha
      dsimp only at ha hrest
      rw [expect_same (by decide), Option.bind_some] at ha
      obtain ⟨⟨v, u'⟩, hv, heq⟩ := Option.map_eq_some_iff.1 ha
      obtain ⟨rfl, rfl⟩ := Prod.mk.inj heq
      cases hcomma : expect ',' u' with
      | none =>
          rw [hcomma] at hrest
          obtain ⟨w, hw, heq⟩ := Option.map_eq_some_iff.1 hrest
          obtain ⟨rfl, rfl⟩ := Prod.mk.inj heq
          exact ⟨v, u', [], ⟨n, hv⟩, rfl, .inl ⟨hcomma, rfl, hw⟩⟩
      | some w =>
          rw [hcomma] at hrest
          obtain ⟨⟨ms', r'⟩, hms, heq⟩ := Option.map_eq_some_iff.1 hrest
          obtain ⟨rfl, rfl⟩ := Prod.mk.inj heq
          exact ⟨v, u', ms', ⟨n, hv⟩, rfl, .inr ⟨w, hcomma, n, m, hms⟩⟩

/-- Behind a member that is written out and a comma come the other members. -/
theorem ReadsMembers.of_printed {k s r : List Char} {v : Value} {ms : List (List Char × Value)}
    (h : ReadsMembers (printString k ++ ':' :: (print v ++ ',' :: s)) ms r) :
    ∃ ms', ms = (k, v) :: ms' ∧ ReadsMembers s ms' r := by
  obtain ⟨v', u, ms', hv, rfl, hrest⟩ := h.of_member
  obtain ⟨rfl, rfl⟩ := hv.unique (reads_print v (stops_delimiter (.inl rfl) s))
  rw [expect_same (by decide)] at hrest
  rcases hrest with ⟨hnone, -⟩ | ⟨u', hu', hms⟩
  · cases hnone
  · obtain rfl := Option.some.inj hu'
    exact ⟨ms', rfl, hms⟩

/-! Members by name. -/

def Value.get? (k : List Char) : Value → Option Value
  | .object ms => (ms.find? fun m => m.1 = k).map Prod.snd
  | _ => none

/-- The value at the end of a path of names. -/
def Value.at? (path : List (List Char)) (v : Value) : Option Value := path.foldlM (fun v k => v.get? k) v

end WaybeamVenc.Json
