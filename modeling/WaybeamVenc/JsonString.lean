import Mathlib.Data.Nat.Notation
import Mathlib.Tactic.Common

namespace WaybeamVenc.JsonString

/-- What stands in a string: a character or a unit of UTF-16. -/
inductive Piece
  | plain (c : Char)
  | unit (code : Nat)
deriving DecidableEq

def isHigh (code : Nat) : Bool := 0xD800 ≤ code && code < 0xDC00

def isLow (code : Nat) : Bool := 0xDC00 ≤ code && code < 0xE000

/-- The character of a unit, with a replacement for a surrogate on its own. -/
def unitChar (code : Nat) : Char := if isHigh code || isLow code then Char.ofNat 0xFFFD else Char.ofNat code

def decode : List Piece → List Char
  | [] => []
  | .plain c :: ps => c :: decode ps
  | .unit hi :: .unit lo :: ps =>
    if isHigh hi && isLow lo then Char.ofNat (0x10000 + (hi - 0xD800) * 0x400 + (lo - 0xDC00)) :: decode ps
    else unitChar hi :: decode (.unit lo :: ps)
  | .unit code :: ps => unitChar code :: decode ps

def hexValue (c : Char) : Option Nat :=
  if c.isDigit then some (c.toNat - 48)
  else if 'a' ≤ c ∧ c ≤ 'f' then some (c.toNat - 87)
  else if 'A' ≤ c ∧ c ≤ 'F' then some (c.toNat - 55)
  else none

/-- The character that a backslash and this one stand for. -/
def unescape (c : Char) : Option Char :=
  if c = '"' ∨ c = '\\' ∨ c = '/' then some c
  else if c = 'b' then some '\x08'
  else if c = 'f' then some '\x0c'
  else if c = 'n' then some '\n'
  else if c = 'r' then some '\r'
  else if c = 't' then some '\t'
  else none

/-- Where a reader is: between pieces, behind a backslash, or with some hex
digits still to come. -/
inductive Inside
  | text
  | escape
  | hex (left code : Nat)

/-- The pieces up to the closing quote. -/
def readPieces : Inside → List Char → Option (List Piece × List Char)
  | _, [] => none
  | .text, c :: s =>
    if c = '"' then some ([], s)
    else if c = '\\' then readPieces .escape s
    else if c.toNat < 32 then none
    else (readPieces .text s).map fun r => (.plain c :: r.1, r.2)
  | .escape, c :: s =>
    if c = 'u' then readPieces (.hex 3 0) s
    else (unescape c).bind fun d => (readPieces .text s).map fun r => (.plain d :: r.1, r.2)
  | .hex 0 code, c :: s =>
    (hexValue c).bind fun d => (readPieces .text s).map fun r => (.unit (16 * code + d) :: r.1, r.2)
  | .hex (left + 1) code, c :: s => (hexValue c).bind fun d => readPieces (.hex left (16 * code + d)) s

/-- A string behind its opening quote. -/
def readString (s : List Char) : Option (List Char × List Char) :=
  (readPieces .text s).map fun r => (decode r.1, r.2)

/-- Characters that stand for themselves in a string. -/
def Plain (s : List Char) : Prop := ∀ c ∈ s, c ≠ '"' ∧ c ≠ '\\' ∧ 32 ≤ c.toNat

instance (s : List Char) : Decidable (Plain s) :=
  List.decidableBAll (fun c => c ≠ '"' ∧ c ≠ '\\' ∧ 32 ≤ c.toNat) s

def escapeChar (c : Char) : List Char :=
  if c = '"' ∨ c = '\\' then ['\\', c]
  else if c = '\x08' then ['\\', 'b']
  else if c = '\x0c' then ['\\', 'f']
  else if c = '\n' then ['\\', 'n']
  else if c = '\r' then ['\\', 'r']
  else if c = '\t' then ['\\', 't']
  else if c.toNat < 32 then ['\\', 'u', '0', '0', (c.toNat / 16).digitChar, (c.toNat % 16).digitChar]
  else [c]

def printString (s : List Char) : List Char := '"' :: (s.flatMap escapeChar ++ ['"'])

theorem length_decode (ps : List Piece) : (decode ps).length ≤ ps.length := by
  fun_induction decode ps with
  | case1 => exact Nat.le_refl 0
  | case2 c ps ih => simpa using ih
  | case3 hi lo ps h ih =>
      rw [List.length_cons, List.length_cons, List.length_cons]
      omega
  | case4 hi lo ps h ih => simpa using ih
  | case5 code ps h ih => simpa using ih

theorem decode_unit {code : Nat} (h : code < 0xD800) (ps : List Piece) :
    decode (.unit code :: ps) = Char.ofNat code :: decode ps := by
  have hhigh : isHigh code = false := by simp [isHigh]; omega
  have hlow : isLow code = false := by simp [isLow]; omega
  have hchar : unitChar code = Char.ofNat code := by simp [unitChar, hhigh, hlow]
  cases ps with
  | nil => simp [decode, hchar]
  | cons p ps =>
      cases p with
      | plain c => simp [decode, hchar]
      | unit lo => simp [decode, hhigh, hchar]

/-- The piece that an escaped character reads as. -/
def pieceOf (c : Char) : Piece :=
  if c.toNat < 32 ∧ c ∉ ['\x08', '\x0c', '\n', '\r', '\t'] then .unit c.toNat else .plain c

theorem decode_pieceOf (s : List Char) : decode (s.map pieceOf) = s := by
  induction s with
  | nil => rfl
  | cons c s ih =>
      rw [List.map_cons, pieceOf]
      split
      · next h => rw [decode_unit (by omega), ih, Char.ofNat_toNat]
      · rw [decode, ih]

theorem hexValue_digitChar {n : Nat} (h : n < 16) : hexValue n.digitChar = some n := by
  revert n
  decide

theorem readPieces_escapeChar (c : Char) (s : List Char) :
    readPieces .text (escapeChar c ++ s) = (readPieces .text s).map fun r => (pieceOf c :: r.1, r.2) := by
  by_cases hquote : c = '"' ∨ c = '\\'
  · rcases hquote with rfl | rfl <;> rfl
  by_cases hshort : c ∈ ['\x08', '\x0c', '\n', '\r', '\t']
  · simp only [List.mem_cons, List.not_mem_nil, or_false] at hshort
    rcases hshort with rfl | rfl | rfl | rfl | rfl <;> rfl
  · have hpiece : pieceOf c = if c.toNat < 32 then .unit c.toNat else .plain c := by simp only [pieceOf, hshort]; simp
    simp only [List.mem_cons, List.not_mem_nil, or_false, not_or] at hshort hquote
    obtain ⟨hb, hf, hn, hr, ht⟩ := hshort
    rw [hpiece]
    by_cases hcontrol : c.toNat < 32
    · have hhi := hexValue_digitChar (show c.toNat / 16 < 16 by omega)
      have hlo := hexValue_digitChar (show c.toNat % 16 < 16 by omega)
      have hzero : hexValue '0' = some 0 := rfl
      have hcode : 16 * (16 * (16 * (16 * 0 + 0) + 0) + c.toNat / 16) + c.toNat % 16 = c.toNat := by omega
      have hescape : escapeChar c = ['\\', 'u', '0', '0', (c.toNat / 16).digitChar, (c.toNat % 16).digitChar] := by
        simp [escapeChar, hquote, hb, hf, hn, hr, ht, hcontrol]
      rw [hescape, if_pos hcontrol]
      simp only [List.cons_append, List.nil_append, readPieces, hzero, hhi, hlo, Option.bind_some, hcode]
      rfl
    · have hescape : escapeChar c = [c] := by simp [escapeChar, hquote, hb, hf, hn, hr, ht, hcontrol]
      rw [hescape, if_neg hcontrol, List.singleton_append, readPieces, if_neg hquote.1, if_neg hquote.2,
        if_neg hcontrol]

theorem readString_print (s r : List Char) : readString (s.flatMap escapeChar ++ '"' :: r) = some (s, r) := by
  have hread : readPieces .text (s.flatMap escapeChar ++ '"' :: r) = some (s.map pieceOf, r) := by
    induction s with
    | nil => rfl
    | cons c s ih => rw [List.flatMap_cons, List.append_assoc, readPieces_escapeChar, ih]; rfl
  rw [readString, hread, Option.map_some, decode_pieceOf]

theorem escape_plain {s : List Char} (h : Plain s) : s.flatMap escapeChar = s := by
  induction s with
  | nil => rfl
  | cons c s ih =>
      obtain ⟨hquote, hback, hcontrol⟩ := h c List.mem_cons_self
      have hne : ∀ d : Char, d.toNat < 32 → c ≠ d := fun d hd hcd => absurd (hcd ▸ hcontrol) (Nat.not_le.2 hd)
      have hescape : escapeChar c = [c] := by
        rw [escapeChar, if_neg (not_or.2 ⟨hquote, hback⟩), if_neg (hne _ (by decide)), if_neg (hne _ (by decide)),
          if_neg (hne _ (by decide)), if_neg (hne _ (by decide)), if_neg (hne _ (by decide)),
          if_neg (Nat.not_lt.2 hcontrol)]
      rw [List.flatMap_cons, hescape, ih fun d hd => h d (List.mem_cons_of_mem c hd), List.singleton_append]

/-! What reading a string takes from the text. -/

theorem readPieces_taken {st : Inside} {s r : List Char} {ps : List Piece} (h : readPieces st s = some (ps, r)) :
    ∃ pre, s = pre ++ '"' :: r ∧ ps.length ≤ pre.length := by
  induction s generalizing st ps with
  | nil => cases st <;> cases h
  | cons c s ih =>
      -- the pieces of a rest that is read on as text
      have hpiece : ∀ {p : Piece}, (readPieces .text s).map (fun r => (p :: r.1, r.2)) = some (ps, r) →
          ∃ pre, c :: s = pre ++ '"' :: r ∧ ps.length ≤ pre.length := by
        intro p hread
        obtain ⟨⟨qs, u⟩, hs, heq⟩ := Option.map_eq_some_iff.1 hread
        obtain ⟨rfl, rfl⟩ := Prod.mk.inj heq
        obtain ⟨pre, rfl, hlen⟩ := ih hs
        exact ⟨c :: pre, rfl, Nat.succ_le_succ hlen⟩
      have hon : ∀ {st' : Inside}, readPieces st' s = some (ps, r) →
          ∃ pre, c :: s = pre ++ '"' :: r ∧ ps.length ≤ pre.length := by
        intro st' hread
        obtain ⟨pre, rfl, hlen⟩ := ih hread
        exact ⟨c :: pre, rfl, Nat.le_succ_of_le hlen⟩
      cases st with
      | text =>
          rw [readPieces] at h
          split at h
          · next hquote =>
            obtain ⟨rfl, rfl⟩ := Prod.mk.inj (Option.some.inj h)
            exact ⟨[], by rw [hquote]; rfl, Nat.le_refl 0⟩
          · split at h
            · exact hon h
            · split at h
              · cases h
              · exact hpiece h
      | escape =>
          rw [readPieces] at h
          split at h
          · exact hon h
          · obtain ⟨d, -, hd⟩ := Option.bind_eq_some_iff.1 h
            exact hpiece hd
      | hex left code =>
          cases left with
          | zero =>
              obtain ⟨d, -, hd⟩ := Option.bind_eq_some_iff.1 h
              exact hpiece hd
          | succ left =>
              obtain ⟨d, -, hd⟩ := Option.bind_eq_some_iff.1 h
              exact hon hd

theorem readPieces_more {st : Inside} {s r : List Char} {ps : List Piece} (h : readPieces st s = some (ps, r))
    (t : List Char) : readPieces st (s ++ t) = some (ps, r ++ t) := by
  induction s generalizing st ps with
  | nil => cases st <;> cases h
  | cons c s ih =>
      have hpiece : ∀ {p : Piece}, (readPieces .text s).map (fun r => (p :: r.1, r.2)) = some (ps, r) →
          (readPieces .text (s ++ t)).map (fun r => (p :: r.1, r.2)) = some (ps, r ++ t) := by
        intro p hread
        obtain ⟨⟨qs, u⟩, hs, heq⟩ := Option.map_eq_some_iff.1 hread
        obtain ⟨rfl, rfl⟩ := Prod.mk.inj heq
        rw [ih hs, Option.map_some]
      rw [List.cons_append]
      cases st with
      | text =>
          rw [readPieces] at h ⊢
          split at h
          · next hquote =>
            obtain ⟨rfl, rfl⟩ := Prod.mk.inj (Option.some.inj h)
            rw [if_pos hquote]
          · next hquote =>
            rw [if_neg hquote]
            split at h
            · next hback => rw [if_pos hback, ih h]
            · next hback =>
              rw [if_neg hback]
              split at h
              · cases h
              · next hcontrol => rw [if_neg hcontrol, hpiece h]
      | escape =>
          rw [readPieces] at h ⊢
          split at h
          · next hu => rw [if_pos hu, ih h]
          · next hu =>
            obtain ⟨d, hd, hread⟩ := Option.bind_eq_some_iff.1 h
            rw [if_neg hu, hd, Option.bind_some, hpiece hread]
      | hex left code =>
          cases left with
          | zero =>
              obtain ⟨d, hd, hread⟩ := Option.bind_eq_some_iff.1 h
              rw [readPieces, hd, Option.bind_some, hpiece hread]
          | succ left =>
              obtain ⟨d, hd, hread⟩ := Option.bind_eq_some_iff.1 h
              rw [readPieces, hd, Option.bind_some, ih hread]

theorem readString_more {s r k : List Char} (h : readString s = some (k, r)) (t : List Char) :
    readString (s ++ t) = some (k, r ++ t) := by
  obtain ⟨⟨ps, u⟩, hs, heq⟩ := Option.map_eq_some_iff.1 h
  obtain ⟨rfl, rfl⟩ := Prod.mk.inj heq
  rw [readString, readPieces_more hs, Option.map_some]

/-- As many pieces as there are characters are those characters. -/
theorem plain_of_readPieces {k tail r : List Char} {ps : List Piece}
    (h : readPieces .text (k ++ '"' :: tail) = some (ps, r)) (hlen : k.length ≤ ps.length)
    (htail : ∀ pre, tail ≠ pre ++ '"' :: r) : Plain k ∧ r = tail := by
  induction k generalizing ps with
  | nil =>
      obtain ⟨-, rfl⟩ := Prod.mk.inj (Option.some.inj h)
      exact ⟨fun c hc => absurd hc List.not_mem_nil, rfl⟩
  | cons c k ih =>
      rw [List.cons_append, readPieces] at h
      split at h
      · obtain ⟨rfl, -⟩ := Prod.mk.inj (Option.some.inj h)
        exact absurd hlen (Nat.not_succ_le_zero _)
      next hquote =>
        split at h
        · -- the quote behind them is escaped, and the string goes on
          obtain ⟨pre, hpre, hlonger⟩ := readPieces_taken h
          rcases List.append_eq_append_iff.1 hpre with ⟨mid, rfl, hmid⟩ | ⟨mid, rfl, hmid⟩
          · cases mid with
            | nil =>
                rw [List.append_nil] at hlonger
                exact absurd (Nat.le_trans hlen hlonger) (Nat.not_succ_le_self _)
            | cons d mid => exact absurd (List.cons.inj hmid).2 (htail mid)
          · rw [List.length_cons, List.length_append] at hlen
            omega
        next hback =>
          split at h
          · cases h
          · next hcontrol =>
            obtain ⟨⟨qs, u⟩, hread, heq⟩ := Option.map_eq_some_iff.1 h
            obtain ⟨rfl, rfl⟩ := Prod.mk.inj heq
            obtain ⟨hplain, hend⟩ := ih hread (Nat.le_of_succ_le_succ hlen)
            refine ⟨?_, hend⟩
            intro d hd
            rcases List.mem_cons.1 hd with rfl | hd
            · exact ⟨hquote, hback, Nat.le_of_not_lt hcontrol⟩
            · exact hplain d hd

/-- A text in quotes reads as itself only when its characters do. -/
theorem plain_of_readString {k tail r : List Char} (h : readString (k ++ '"' :: tail) = some (k, r))
    (htail : ∀ pre, tail ≠ pre ++ '"' :: r) : Plain k ∧ r = tail := by
  obtain ⟨⟨ps, u⟩, hs, heq⟩ := Option.map_eq_some_iff.1 h
  obtain ⟨hdecode, rfl⟩ := Prod.mk.inj heq
  refine plain_of_readPieces hs ?_ htail
  rw [← congrArg List.length hdecode]
  exact length_decode ps

end WaybeamVenc.JsonString
