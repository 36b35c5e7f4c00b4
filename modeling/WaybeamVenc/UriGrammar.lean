import Mathlib.Tactic.SplitIfs
import WaybeamVenc.JsonNumber
import WaybeamVenc.OutputUri

namespace WaybeamVenc.UriGrammar

open CNumber OutputSocket OutputUri

/-! A scheme, and the last separator. -/

theorem behind_append (scheme s : CString) : behind scheme (scheme ++ s) = some s := by
  rw [behind, if_pos (List.isPrefixOf_iff_prefix.2 (List.prefix_append scheme s)), List.drop_left]

theorem behind_some {scheme uri s : CString} (h : behind scheme uri = some s) : uri = scheme ++ s := by
  rw [behind] at h
  split at h
  next hfront =>
    obtain ⟨rest, rfl⟩ := List.isPrefixOf_iff_prefix.1 hfront
    rw [List.drop_left] at h
    rw [Option.some.inj h]
  next => cases h

theorem cutLast_missing {sep : Char} {s : CString} (h : sep ∉ s) : cutLast sep s = none := by
  induction s with
  | nil => rfl
  | cons c s ih =>
      rw [List.mem_cons, not_or] at h
      rw [cutLast, ih h.2]
      exact if_neg (Ne.symm h.1)

theorem missing_of_none {sep : Char} {s : CString} (h : cutLast sep s = none) : sep ∉ s := by
  induction s with
  | nil => exact List.not_mem_nil
  | cons c s ih =>
      rw [cutLast] at h
      cases htail : cutLast sep s with
      | some r =>
          rw [htail] at h
          cases h
      | none =>
          rw [htail] at h
          by_cases hc : c = sep
          · rw [if_pos hc] at h
            cases h
          · rw [List.mem_cons, not_or]
            exact ⟨Ne.symm hc, ih htail⟩

theorem cutLast_found {sep : Char} {rest : CString} (h : sep ∉ rest) (front : CString) :
    cutLast sep (front ++ sep :: rest) = some (front, rest) := by
  induction front with
  | nil =>
      rw [List.nil_append, cutLast, cutLast_missing h]
      exact if_pos rfl
  | cons c front ih => rw [List.cons_append, cutLast, ih]

theorem cutLast_some {sep : Char} {s : CString} {r : CString × CString} (h : cutLast sep s = some r) :
    s = r.1 ++ sep :: r.2 ∧ sep ∉ r.2 := by
  induction s generalizing r with
  | nil => cases h
  | cons c s ih =>
      rw [cutLast] at h
      cases htail : cutLast sep s with
      | some r' =>
          rw [htail] at h
          obtain ⟨hs, hno⟩ := ih htail
          obtain rfl := Option.some.inj h
          exact ⟨congrArg (c :: ·) hs, hno⟩
      | none =>
          rw [htail] at h
          by_cases hc : c = sep
          · rw [if_pos hc] at h
            obtain rfl := Option.some.inj h
            exact ⟨congrArg (· :: s) hc, missing_of_none htail⟩
          · rw [if_neg hc] at h
            cases h

/-! The number of a port. -/

def value (ds : CString) : Nat := Nat.ofDigitChars 10 ds 0

theorem isDigit_iff (c : Char) : c.isDigit = true ↔ 48 ≤ c.toNat ∧ c.toNat ≤ 57 := by
  rw [Char.isDigit, Bool.and_eq_true, decide_eq_true_eq, decide_eq_true_eq]
  rfl

theorem digit_ten (c : Char) : digit 10 c = if c.isDigit then some (c.toNat - '0'.toNat) else none := by
  have hzero : '0'.toNat = 48 := rfl
  simp only [digit, isDigit_iff, hzero]
  split_ifs <;> first | rfl | omega

/-- All of a text is read if it is digits and nothing else. -/
theorem takeDigits_all (s : CString) (n m : Nat) :
    takeDigits 10 (some n) s = (some m, []) ↔ (∀ c ∈ s, c.isDigit = true) ∧ m = Nat.ofDigitChars 10 s n := by
  induction s generalizing n with
  | nil =>
      rw [takeDigits, Nat.ofDigitChars_nil]
      constructor
      · intro h
        exact ⟨fun c hc => (List.not_mem_nil hc).elim, (Option.some.inj (Prod.mk.inj h).1).symm⟩
      · rintro ⟨-, rfl⟩
        rfl
  | cons c s ih =>
      rw [takeDigits, Nat.ofDigitChars_cons, List.forall_mem_cons]
      rw [digit_ten]
      cases hc : c.isDigit with
      | true =>
          rw [if_pos rfl]
          simp only [Option.getD_some, ih, true_and, Nat.mul_comm n 10]
      | false =>
          rw [if_neg Bool.false_ne_true]
          constructor
          · intro h
            cases (Prod.mk.inj h).2
          · intro h
            exact absurd h.1.1 Bool.false_ne_true

theorem takeDigits_none (s : CString) (m : Nat) :
    takeDigits 10 none s = (some m, []) ↔ s ≠ [] ∧ (∀ c ∈ s, c.isDigit = true) ∧ m = value s := by
  cases s with
  | nil =>
      constructor
      · intro h
        cases (Prod.mk.inj h).1
      · intro h
        exact absurd rfl h.1
  | cons c s =>
      -- none counts as zero
      have hzero : takeDigits 10 none (c :: s) = (some m, []) ↔ takeDigits 10 (some 0) (c :: s) = (some m, []) := by
        rw [takeDigits, takeDigits]
        cases digit 10 c with
        | some d => rfl
        | none =>
            constructor
            · intro h
              cases (Prod.mk.inj h).1
            · intro h
              cases (Prod.mk.inj h).2
      rw [hzero, takeDigits_all]
      exact ⟨fun h => ⟨List.cons_ne_nil c s, h⟩, fun h => h.2⟩

/-! What strtol lets stand in front of a number. -/

theorem skipSpace_split (s : CString) : ∃ blanks, s = blanks ++ skipSpace s ∧ ∀ c ∈ blanks, isSpace c = true := by
  induction s with
  | nil => exact ⟨[], rfl, fun c hc => (List.not_mem_nil hc).elim⟩
  | cons c s ih =>
      rw [skipSpace]
      cases hc : isSpace c with
      | true =>
          obtain ⟨blanks, hs, hall⟩ := ih
          exact ⟨c :: blanks, congrArg (c :: ·) hs, List.forall_mem_cons.2 ⟨hc, hall⟩⟩
      | false => exact ⟨[], rfl, fun c hc => (List.not_mem_nil hc).elim⟩

theorem skipSpace_blanks {blanks s : CString} (hall : ∀ c ∈ blanks, isSpace c = true) (hs : skipSpace s = s) :
    skipSpace (blanks ++ s) = s := by
  induction blanks with
  | nil => exact hs
  | cons c blanks ih =>
      rw [List.forall_mem_cons] at hall
      rw [List.cons_append, skipSpace, if_pos hall.1, ih hall.2]

theorem not_space_of_isDigit {c : Char} (h : c.isDigit = true) : isSpace c = false := by
  obtain ⟨hlow, hhigh⟩ := (isDigit_iff c).1 h
  have hne : c ≠ ' ' := by
    rintro rfl
    exact absurd hlow (by decide)
  simp only [isSpace, hne, decide_false, Bool.false_or, Bool.and_eq_false_iff, decide_eq_false_iff_not]
  omega

theorem takeSign_digits {ds : CString} (h : ∀ c ∈ ds, c.isDigit = true) : takeSign ds = (false, ds) := by
  cases ds with
  | nil => rfl
  | cons c ds =>
      have hc := h c List.mem_cons_self
      have hminus : c ≠ '-' := by
        rintro rfl
        cases hc
      have hplus : c ≠ '+' := by
        rintro rfl
        cases hc
      simp [takeSign, hminus, hplus]

/-- A sign that changes nothing. -/
def PlusSign (sign : CString) : Prop := sign = [] ∨ sign = ['+']

theorem signed_digits {sign ds : CString} (hsign : PlusSign sign) (hne : ds ≠ []) (hds : ∀ c ∈ ds, c.isDigit = true) :
    skipSpace (sign ++ ds) = sign ++ ds ∧ takeSign (sign ++ ds) = (false, ds) := by
  rcases hsign with rfl | rfl
  · obtain ⟨c, rest, rfl⟩ := List.exists_cons_of_ne_nil hne
    refine ⟨?_, takeSign_digits hds⟩
    rw [List.nil_append, skipSpace, not_space_of_isDigit (hds c List.mem_cons_self)]
    rfl
  · exact ⟨rfl, rfl⟩

theorem takeSign_split (s : CString) : ∃ sign, s = sign ++ (takeSign s).2 ∧ ((takeSign s).1 = false → PlusSign sign) := by
  cases s with
  | nil => exact ⟨[], rfl, fun _ => .inl rfl⟩
  | cons c s =>
      by_cases hminus : c = '-'
      · subst hminus
        exact ⟨['-'], rfl, fun h => by cases h⟩
      · by_cases hplus : c = '+'
        · subst hplus
          exact ⟨['+'], rfl, fun _ => .inr rfl⟩
        · have hsame : takeSign (c :: s) = (false, c :: s) := by simp [takeSign, hminus, hplus]
          rw [hsame]
          exact ⟨[], rfl, fun _ => .inl rfl⟩

/-! The port. -/

/-- A digit string with the value of a port. -/
structure IsPort (ds : CString) (port : UInt16) : Prop where
  nonempty : ds ≠ []
  digits : ∀ c ∈ ds, c.isDigit = true
  value_eq : value ds = port.toNat
  pos : 0 < port.toNat

theorem port_in_range {n : Nat} : ¬ (Int32.ofNat n ≤ 0 ∨ 65535 < Int32.ofNat n) ∧ n < 2 ^ 31 ↔ 0 < n ∧ n ≤ 65535 := by
  constructor
  · rintro ⟨hrange, hn⟩
    rw [not_or, Int32.le_iff_toInt_le, Int32.lt_iff_toInt_lt, Int32.toInt_ofNat_of_lt hn] at hrange
    obtain ⟨hlow, hhigh⟩ := hrange
    have hz : (0 : Int32).toInt = 0 := rfl
    have hm : (65535 : Int32).toInt = 65535 := rfl
    omega
  · rintro ⟨hlow, hhigh⟩
    have hn : n < 2 ^ 31 := by omega
    have hz : (0 : Int32).toInt = 0 := rfl
    have hm : (65535 : Int32).toInt = 65535 := rfl
    rw [not_or, Int32.le_iff_toInt_le, Int32.lt_iff_toInt_lt, Int32.toInt_ofNat_of_lt hn]
    omega

theorem port_toNat {n : Nat} (h : n ≤ 65535) : (Int32.ofNat n).toUInt32.toUInt16.toNat = n := by
  have hword : (Int32.ofNat n).toUInt32.toUInt16.toNat = n % 2 ^ 32 % 2 ^ 16 := rfl
  rw [hword]
  omega

theorem negative_out (n : Nat) : (if 2 ^ 31 ≤ n then Int32.minValue else -Int32.ofNat n) ≤ 0 := by
  split
  · decide
  next hn =>
    have hz : (0 : Int32).toInt = 0 := rfl
    rw [Int32.le_iff_toInt_le, Int32.neg_ofNat, Int32.toInt_ofInt_of_le (by omega) (by omega)]
    omega

/-- The value that strtol returns for a number in the range of a port. -/
theorem strtol_in_range {text : CString} {pval : Int32} (h : strtol text = some (pval, []))
    (hrange : ¬ (pval ≤ 0 ∨ 65535 < pval)) :
    ∃ n, takeDigits 10 none (takeSign (skipSpace text)).2 = (some n, []) ∧ (takeSign (skipSpace text)).1 = false ∧
      pval = Int32.ofNat n ∧ 0 < n ∧ n ≤ 65535 := by
  rw [strtol] at h
  dsimp only at h
  split at h
  · cases h
  next n rest hdigits =>
    obtain ⟨hpval, rfl⟩ := Prod.mk.inj (Option.some.inj h)
    cases hneg : (takeSign (skipSpace text)).1 with
    | true =>
        rw [hneg, if_pos rfl] at hpval
        exact absurd (.inl (hpval ▸ negative_out n)) hrange
    | false =>
        rw [hneg, if_neg Bool.false_ne_true] at hpval
        split at hpval
        · rw [← hpval] at hrange
          exact absurd (.inr (by decide)) hrange
        next hn =>
          rw [← hpval] at hrange
          obtain ⟨hpos, hle⟩ := port_in_range.1 ⟨hrange, Nat.not_le.1 hn⟩
          exact ⟨n, hdigits, rfl, hpval.symm, hpos, hle⟩

/-- A port may have blanks and a plus sign in front of its digits. -/
theorem parsePort_iff (text : CString) (port : UInt16) :
    parsePort text = some port ↔
      ∃ blanks sign ds, text = blanks ++ (sign ++ ds) ∧ (∀ c ∈ blanks, isSpace c = true) ∧ PlusSign sign ∧
        IsPort ds port := by
  constructor
  · intro h
    rw [parsePort] at h
    split at h
    next pval hread =>
      split at h
      · cases h
      next hrange =>
        obtain ⟨n, hdigits, hsign, rfl, hpos, hle⟩ := strtol_in_range hread hrange
        obtain ⟨hne, hall, hval⟩ := (takeDigits_none _ _).1 hdigits
        obtain ⟨blanks, htext, hblanks⟩ := skipSpace_split text
        obtain ⟨sign, hrest, hplus⟩ := takeSign_split (skipSpace text)
        have hport := Option.some.inj h
        refine ⟨blanks, sign, _, ?_, hblanks, hplus hsign, hne, hall, ?_, ?_⟩
        · rw [← hrest, ← htext]
        · rw [← hport, port_toNat hle, hval]
        · rw [← hport, port_toNat hle]
          exact hpos
    next => cases h
  · rintro ⟨blanks, sign, ds, rfl, hblanks, hsign, hport⟩
    obtain ⟨hskip, htake⟩ := signed_digits hsign hport.nonempty hport.digits
    have hdigits : takeDigits 10 none ds = (some port.toNat, []) :=
      (takeDigits_none ds _).2 ⟨hport.nonempty, hport.digits, hport.value_eq.symm⟩
    have hle : port.toNat ≤ 65535 := Nat.le_of_lt_succ port.toNat_lt
    obtain ⟨hrange, hsmall⟩ := port_in_range.2 ⟨hport.pos, hle⟩
    have hread : strtol (blanks ++ (sign ++ ds)) = some (Int32.ofNat port.toNat, []) := by
      rw [strtol, skipSpace_blanks hblanks hskip, htake]
      simp only [hdigits, Bool.false_eq_true, if_false, if_neg (Nat.not_le.2 hsmall)]
    rw [parsePort, hread]
    simp only
    rw [if_neg hrange]
    exact congrArg some (UInt16.toNat_inj.1 (port_toNat hle))

/-! What is accepted. -/

/-- The ways to be accepted, with what comes of them. -/
inductive Parsed (uri : CString) (parsed : OutputUri) : Prop
  | udp (host text : CString) (port : UInt16) : uri = "udp://".toList ++ (host ++ ':' :: text) → host ≠ [] →
      ':' ∉ text → parsePort text = some port → parsed = ⟨.udp, bytes (clip 127 host).1, port, []⟩ → Parsed uri parsed
  | unix (name : CString) : uri = "unix://".toList ++ name → name ≠ [] →
      parsed = ⟨.unix, [], 0, bytes (clip 255 name).1⟩ → Parsed uri parsed
  | shm (name : CString) : uri = "shm://".toList ++ name → name ≠ [] →
      parsed = ⟨.shm, [], 0, bytes (clip 255 name).1⟩ → Parsed uri parsed

theorem parse_udp (host text : CString) (hno : ':' ∉ text) (hne : host ≠ []) :
    vencConfigParseOutputUri ("udp://".toList ++ (host ++ ':' :: text)) =
      (parsePort text).map fun port => ⟨.udp, bytes (clip 127 host).1, port, []⟩ := by
  obtain ⟨c, rest, rfl⟩ := List.exists_cons_of_ne_nil hne
  rw [vencConfigParseOutputUri, behind_append]
  simp only [cutLast_found hno]

theorem parse_iff {uri : CString} {parsed : OutputUri} :
    vencConfigParseOutputUri uri = some parsed ↔ Parsed uri parsed := by
  constructor
  · intro h
    rw [vencConfigParseOutputUri] at h
    split at h
    next p _ _ hudp =>
      split at h
      · cases h
      · cases h
      next host text hne hcut =>
        obtain ⟨port, hport, rfl⟩ := Option.map_eq_some_iff.1 h
        obtain ⟨rfl, hno⟩ := cutLast_some hcut
        exact .udp host text port (behind_some hudp) (fun he => hne he) hno hport rfl
    next p _ hunix =>
      split at h
      · cases h
      next hne =>
        cases h
        exact .unix p (behind_some hunix) hne rfl
    next p _ _ hshm =>
      split at h
      · cases h
      next hne =>
        cases h
        exact .shm p (behind_some hshm) hne rfl
    next => cases h
  · rintro (⟨host, text, port, rfl, hne, hno, hport, rfl⟩ | ⟨name, rfl, hne, rfl⟩ | ⟨name, rfl, hne, rfl⟩)
    · rw [parse_udp host text hno hne, hport]
      rfl
    · have hudp : behind "udp://".toList ("unix://".toList ++ name) = none := rfl
      rw [vencConfigParseOutputUri, hudp, behind_append]
      exact if_neg hne
    · have hudp : behind "udp://".toList ("shm://".toList ++ name) = none := rfl
      have hunix : behind "unix://".toList ("shm://".toList ++ name) = none := rfl
      rw [vencConfigParseOutputUri, hudp, hunix, behind_append]
      exact if_neg hne

/-! The grammar. -/

/-- The URIs that the fields of VencOutputUri have room for. -/
inductive Grammar (uri : CString) : Prop
  | udp (host ds : CString) (port : UInt16) : uri = "udp://".toList ++ (host ++ ':' :: ds) → host ≠ [] →
      host.length ≤ 127 → IsPort ds port → Grammar uri
  | unix (name : CString) : uri = "unix://".toList ++ name → name ≠ [] → name.length ≤ 255 → Grammar uri
  | shm (name : CString) : uri = "shm://".toList ++ name → name ≠ [] → name.length ≤ 255 → Grammar uri

/-- The URI is the parts put together again, but for zeros before the port. -/
def Rebuilds (parsed : OutputUri) (uri : CString) : Prop :=
  match parsed.type with
  | .udp => ∃ zeros, bytes uri = bytes "udp://".toList ++ (parsed.host ++ bytes (':' :: (List.replicate zeros '0' ++
      Nat.toDigits 10 parsed.port.toNat)))
  | .unix => bytes uri = bytes "unix://".toList ++ parsed.endpoint
  | .shm => bytes uri = bytes "shm://".toList ++ parsed.endpoint

/-- The URIs that are accepted beyond the grammar. -/
inductive Loose (uri : CString) : Prop
  | udp (host blanks sign ds : CString) (port : UInt16) :
      uri = "udp://".toList ++ (host ++ ':' :: (blanks ++ (sign ++ ds))) → host ≠ [] →
      (∀ c ∈ blanks, isSpace c = true) → PlusSign sign → IsPort ds port →
      (blanks ≠ [] ∨ sign ≠ [] ∨ 127 < host.length) → Loose uri
  | unix (name : CString) : uri = "unix://".toList ++ name → 255 < name.length → Loose uri
  | shm (name : CString) : uri = "shm://".toList ++ name → 255 < name.length → Loose uri

theorem bytes_append (s t : CString) : bytes (s ++ t) = bytes s ++ bytes t := List.map_append

/-- Digits are those of their value behind some zeros. -/
theorem digits_of_value {ds : CString} (hds : ∀ c ∈ ds, c.isDigit = true) (hpos : 0 < value ds) :
    ∃ zeros, ds = List.replicate zeros '0' ++ Nat.toDigits 10 (value ds) := by
  induction ds with
  | nil => cases hpos
  | cons c ds ih =>
      by_cases hc : c = '0'
      · subst hc
        have hvalue : value ('0' :: ds) = value ds := Nat.ofDigitChars_cons
        rw [hvalue] at hpos ⊢
        obtain ⟨zeros, hzeros⟩ := ih (fun d hd => hds d (List.mem_cons_of_mem _ hd)) hpos
        exact ⟨zeros + 1, congrArg ('0' :: ·) hzeros⟩
      · have hlead : (c :: ds).head? = some '0' → c :: ds = ['0'] := fun h => absurd (Option.some.inj h) hc
        exact ⟨0, (JsonNumber.toDigits_ofDigitChars (List.cons_ne_nil c ds) hds hlead).symm⟩

/-- Within the grammar nothing is cut off. -/
theorem parsed_tight {uri : CString} {parsed : OutputUri} (h : Parsed uri parsed) (hl : ¬ Loose uri) :
    Grammar uri ∧ Rebuilds parsed uri := by
  rcases h with ⟨host, text, port, huri, hne, hno, hport, rfl⟩ | ⟨name, huri, hne, rfl⟩ | ⟨name, huri, hne, rfl⟩
  · obtain ⟨blanks, sign, ds, rfl, hblanks, hsign, hds⟩ := (parsePort_iff text port).1 hport
    have hloose : ¬ (blanks ≠ [] ∨ sign ≠ [] ∨ 127 < host.length) :=
      fun h => hl (.udp host blanks sign ds port huri hne hblanks hsign hds h)
    obtain ⟨hb, hs, hlen⟩ : blanks = [] ∧ sign = [] ∧ host.length ≤ 127 := by
      simpa only [not_or, ne_eq, not_not, Nat.not_lt] using hloose
    subst hb hs
    obtain ⟨zeros, hzeros⟩ := digits_of_value hds.digits (by rw [hds.value_eq]; exact hds.pos)
    refine ⟨.udp host ds port huri hne hlen hds, zeros, ?_⟩
    rw [hds.value_eq] at hzeros
    rw [huri, clip_of_le hlen, ← hzeros, bytes_append, bytes_append]
    rfl
  · have hlen : name.length ≤ 255 := Nat.not_lt.1 fun h => hl (.unix name huri h)
    refine ⟨.unix name huri hne hlen, ?_⟩
    change bytes uri = bytes "unix://".toList ++ bytes (clip 255 name).1
    rw [huri, clip_of_le hlen, bytes_append]
  · have hlen : name.length ≤ 255 := Nat.not_lt.1 fun h => hl (.shm name huri h)
    refine ⟨.shm name huri hne hlen, ?_⟩
    change bytes uri = bytes "shm://".toList ++ bytes (clip 255 name).1
    rw [huri, clip_of_le hlen, bytes_append]

theorem colon_not_mem {ds : CString} (h : ∀ c ∈ ds, c.isDigit = true) : ':' ∉ ds := by
  intro hmem
  cases h ':' hmem

theorem colon_not_mem_text {blanks sign ds : CString} (hblanks : ∀ c ∈ blanks, isSpace c = true) (hsign : PlusSign sign)
    (hds : ∀ c ∈ ds, c.isDigit = true) : ':' ∉ blanks ++ (sign ++ ds) := by
  have hb : ':' ∉ blanks := by
    intro hmem
    cases hblanks ':' hmem
  have hs : ':' ∉ sign := by
    rcases hsign with rfl | rfl
    · exact List.not_mem_nil
    · decide
  rw [List.mem_append, List.mem_append]
  exact not_or.2 ⟨hb, not_or.2 ⟨hs, colon_not_mem hds⟩⟩

theorem grammar_parses {uri : CString} (h : Grammar uri) : ∃ parsed, vencConfigParseOutputUri uri = some parsed := by
  rcases h with ⟨host, ds, port, huri, hne, -, hport⟩ | ⟨name, huri, hne, -⟩ | ⟨name, huri, hne, -⟩
  · have hread := (parsePort_iff ds port).2 ⟨[], [], ds, rfl, fun c hc => (List.not_mem_nil hc).elim, .inl rfl, hport⟩
    exact ⟨_, parse_iff.2 (.udp host ds port huri hne (colon_not_mem hport.digits) hread rfl)⟩
  · exact ⟨_, parse_iff.2 (.unix name huri hne rfl)⟩
  · exact ⟨_, parse_iff.2 (.shm name huri hne rfl)⟩

theorem loose_parses {uri : CString} (h : Loose uri) : ∃ parsed, vencConfigParseOutputUri uri = some parsed := by
  have hlong {name : CString} (hname : 255 < name.length) : name ≠ [] := List.ne_nil_of_length_pos (by omega)
  rcases h with ⟨host, blanks, sign, ds, port, huri, hne, hblanks, hsign, hport, -⟩ | ⟨name, huri, hname⟩ | ⟨name, huri, hname⟩
  · have hread := (parsePort_iff _ port).2 ⟨blanks, sign, ds, rfl, hblanks, hsign, hport⟩
    exact ⟨_, parse_iff.2 (.udp host _ port huri hne (colon_not_mem_text hblanks hsign hport.digits) hread rfl)⟩
  · exact ⟨_, parse_iff.2 (.unix name huri (hlong hname) rfl)⟩
  · exact ⟨_, parse_iff.2 (.shm name huri (hlong hname) rfl)⟩

theorem udp_split {uri front rest front' rest' : CString} (h : uri = "udp://".toList ++ (front ++ ':' :: rest))
    (h' : uri = "udp://".toList ++ (front' ++ ':' :: rest')) (hno : ':' ∉ rest) (hno' : ':' ∉ rest') :
    front = front' ∧ rest = rest' := by
  have hsame := List.append_cancel_left (h.symm.trans h')
  have hcut := congrArg (cutLast ':') hsame
  rw [cutLast_found hno, cutLast_found hno'] at hcut
  exact Prod.mk.inj (Option.some.inj hcut)

/-- What is read by another scheme is not read by this one. -/
theorem schemes_apart {scheme scheme' s s' uri : CString} (h : uri = scheme ++ s) (h' : uri = scheme' ++ s')
    (hno : behind scheme (scheme' ++ s') = none) : False := by
  have hread := behind_append scheme s
  rw [← h, h', hno] at hread
  cases hread

theorem loose_not_grammar {uri : CString} (h : Loose uri) : ¬ Grammar uri := by
  rintro (⟨host', ds', port', huri', -, hlen', hport'⟩ | ⟨name', huri', -, hlen'⟩ | ⟨name', huri', -, hlen'⟩)
  · rcases h with ⟨host, blanks, sign, ds, port, huri, -, hblanks, hsign, hport, hloose⟩ | ⟨name, huri, -⟩ | ⟨name, huri, -⟩
    · obtain ⟨rfl, rfl⟩ := udp_split huri huri' (colon_not_mem_text hblanks hsign hport.digits) (colon_not_mem hport'.digits)
      rcases hloose with hb | hs | hlen
      · obtain ⟨c, rest, rfl⟩ := List.exists_cons_of_ne_nil hb
        have hdigit := hport'.digits c List.mem_cons_self
        have hspace := hblanks c List.mem_cons_self
        rw [not_space_of_isDigit hdigit] at hspace
        cases hspace
      · obtain rfl := hsign.resolve_left hs
        have hdigit := hport'.digits '+' (List.mem_append_right blanks List.mem_cons_self)
        cases hdigit
      · omega
    · exact schemes_apart huri' huri rfl
    · exact schemes_apart huri' huri rfl
  · rcases h with ⟨_, _, _, _, _, huri, -⟩ | ⟨name, huri, hname⟩ | ⟨name, huri, -⟩
    · exact schemes_apart huri' huri rfl
    · obtain rfl := List.append_cancel_left (huri.symm.trans huri')
      omega
    · exact schemes_apart huri' huri rfl
  · rcases h with ⟨_, _, _, _, _, huri, -⟩ | ⟨name, huri, -⟩ | ⟨name, huri, hname⟩
    · exact schemes_apart huri' huri rfl
    · exact schemes_apart huri' huri rfl
    · obtain rfl := List.append_cancel_left (huri.symm.trans huri')
      omega

/-- Exactly the URIs of the grammar are accepted, and all that is parsed is
whole, but for the loose ones. -/
theorem parse_exact_iff (uri : CString) :
    (((vencConfigParseOutputUri uri).isSome ↔ Grammar uri) ∧
        ∀ parsed, vencConfigParseOutputUri uri = some parsed → Rebuilds parsed uri) ↔ ¬ Loose uri := by
  constructor
  · rintro ⟨hexact, -⟩ hloose
    obtain ⟨parsed, hparsed⟩ := loose_parses hloose
    exact loose_not_grammar hloose (hexact.1 (by rw [hparsed]; rfl))
  · intro hloose
    refine ⟨⟨fun h => ?_, fun h => ?_⟩, fun parsed h => (parsed_tight (parse_iff.1 h) hloose).2⟩
    · obtain ⟨parsed, hparsed⟩ := Option.isSome_iff_exists.1 h
      exact (parsed_tight (parse_iff.1 hparsed) hloose).1
    · obtain ⟨parsed, hparsed⟩ := grammar_parses h
      rw [hparsed]
      rfl

def longName : CString := List.replicate 300 'a'

/-- A plus sign before the port is let through, and a long name is cut off. -/
theorem loose_accepted :
    ((vencConfigParseOutputUri "udp://10.0.0.1:+5600".toList).map (·.port) = some 5600 ∧
        ¬ Grammar "udp://10.0.0.1:+5600".toList) ∧
      (vencConfigParseOutputUri ("unix://".toList ++ longName)).map (·.endpoint.length) = some 255 ∧
        ¬ Grammar ("unix://".toList ++ longName) := by
  have hdigits : "5600".toList.all Char.isDigit = true := by decide
  have hport : IsPort "5600".toList 5600 := ⟨by decide, List.all_eq_true.1 hdigits, by decide, by decide⟩
  have hplus : Loose "udp://10.0.0.1:+5600".toList :=
    .udp "10.0.0.1".toList [] ['+'] "5600".toList 5600 rfl (by decide) (fun c hc => (List.not_mem_nil hc).elim)
      (.inr rfl) hport (.inr (.inl (by decide)))
  have hname : 255 < longName.length := by
    rw [longName, List.length_replicate]
    decide
  have hne : longName ≠ [] := List.ne_nil_of_length_pos (Nat.lt_trans (by decide) hname)
  refine ⟨⟨by decide, loose_not_grammar hplus⟩, ?_, loose_not_grammar (.unix longName rfl hname)⟩
  rw [parse_iff.2 (.unix longName rfl hne rfl), Option.map_some, bytes, List.length_map, clip, List.length_take,
    Nat.min_eq_left (Nat.le_of_lt hname)]

end WaybeamVenc.UriGrammar
