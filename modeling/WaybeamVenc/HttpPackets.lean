import Mathlib.Data.List.TakeWhile
import WaybeamVenc.HeaderText
import WaybeamVenc.HttpParse

namespace WaybeamVenc.HttpPackets

open CNumber IqParams Search SetQuery HeaderText HttpParse

/-! A number read from a text that goes on. -/

def signed (negative : Bool) : Option Nat → Int32
  | none => 0
  | some n =>
    if negative then if 2 ^ 31 ≤ n then Int32.minValue else -Int32.ofNat n
    else if 2 ^ 31 ≤ n then Int32.maxValue else Int32.ofNat n

theorem atoi_signed (s : CString) :
    atoi s = signed (takeSign (skipSpace s)).1 (takeDigits 10 none (takeSign (skipSpace s)).2).1 := by
  rw [atoi, strtol]
  generalize takeSign (skipSpace s) = front
  obtain ⟨negative, digits⟩ := front
  dsimp only
  cases takeDigits 10 none digits with
  | mk number rest =>
    cases number with
    | none => rfl
    | some n => rfl

theorem signed_pos_iff {negative : Bool} {n : Nat} : 0 < signed negative (some n) ↔ negative = false ∧ 0 < n := by
  have hzero : (0 : Int32).toInt = 0 := rfl
  rw [Int32.lt_iff_toInt_lt, hzero, signed]
  cases negative with
  | true =>
    rw [if_pos rfl]
    refine iff_of_false ?_ (fun h => Bool.noConfusion h.1)
    split
    · exact (by decide : ¬0 < Int32.minValue.toInt)
    · rw [Int32.toInt_neg, Int32.toInt_ofNat_of_lt (by omega), Int.bmod_eq_of_le (by omega) (by omega)]
      omega
  | false =>
    rw [if_neg Bool.false_ne_true, and_iff_right rfl]
    split
    · have hmax : 0 < Int32.maxValue.toInt := by decide
      exact iff_of_true hmax (by omega)
    · rw [Int32.toInt_ofNat_of_lt (by omega)]
      omega

theorem atoi_append_pos {x : CString} (h : 0 < atoi x) (y : CString) : 0 < atoi (x ++ y) := by
  have hskip : skipSpace x ≠ [] := by
    intro hnil
    rw [atoi_blank hnil] at h
    exact absurd h (by decide)
  rw [atoi_signed] at h
  rw [atoi_signed, skipSpace_append hskip, takeSign_append hskip]
  dsimp only
  cases htake : takeDigits 10 none (takeSign (skipSpace x)).2 with
  | mk number rest =>
    rw [htake] at h
    cases number with
    | none => exact absurd h (by decide : ¬(0 : Int32) < 0)
    | some n =>
      obtain ⟨hsign, hpos⟩ := signed_pos_iff.1 h
      obtain ⟨m, hm, hmore⟩ := takeDigits_append (by decide) htake y
      rw [hmore]
      exact signed_pos_iff.2 ⟨hsign, Nat.lt_of_lt_of_le hpos hm⟩

/-! Content-Length. -/

theorem httpdStrcasestr_append {s needle : CString} {k : Nat} (h : httpdStrcasestr s needle = some k) (t : CString) :
    httpdStrcasestr (s ++ t) needle = some k := by
  rw [httpdStrcasestr, List.map_append]
  exact search_append h _

theorem httpdStrcasestr_length {s : CString} {k : Nat} (h : httpdStrcasestr s contentLengthName = some k) :
    k + 15 ≤ s.length := by
  have hlen := search_length h
  have hname : (contentLengthName.map Char.toLower).length = 15 := by decide
  rwa [hname, List.length_map] at hlen

theorem announced_found {s : CString} {k : Nat} (h : httpdStrcasestr s contentLengthName = some k) (t : CString) :
    announced (s ++ t) = atoi (s.drop (k + 15) ++ t) := by
  rw [announced, httpdStrcasestr_append h]
  dsimp only
  rw [List.drop_append_of_le_length (httpdStrcasestr_length h)]

theorem announced_pos {s : CString} (h : 0 < announced s) (t : CString) : 0 < announced (s ++ t) := by
  cases hfound : httpdStrcasestr s contentLengthName with
  | none =>
    rw [announced, hfound] at h
    exact absurd h (by decide : ¬(0 : Int32) < 0)
  | some k =>
    rw [announced_found hfound]
    rw [announced, hfound] at h
    exact atoi_append_pos h t

/-- The header section's first Content-Length has a value. -/
def Valued (sect : CString) : Prop :=
  ∃ cl, httpdStrcasestr sect contentLengthName = some cl ∧ skipSpace (sect.drop (cl + 15)) ≠ []

theorem announced_valued {sect : CString} (h : Valued (sect ++ ['\n'])) (t : CString) :
    announced (sect ++ ['\n'] ++ t) = announced (sect ++ ['\n']) := by
  obtain ⟨cl, hfound, hvalue⟩ := h
  have hsame : announced (sect ++ ['\n']) = atoi ((sect ++ ['\n']).drop (cl + 15)) := by rw [announced, hfound]
  have hshort : cl + 15 ≤ sect.length := by
    by_contra hlong
    have hlen := httpdStrcasestr_length hfound
    rw [List.length_append, List.length_singleton] at hlen
    have hnil : (sect ++ ['\n']).drop (cl + 15) = [] := by
      apply List.drop_eq_nil_of_le
      rw [List.length_append, List.length_singleton]
      omega
    rw [hnil] at hvalue
    exact hvalue rfl
  rw [announced_found hfound, hsame]
  rw [List.drop_append_of_le_length hshort] at hvalue ⊢
  have hnumber : skipSpace (sect.drop (cl + 15)) ≠ [] := by
    intro hblank
    rw [skipSpace_blank hblank] at hvalue
    exact hvalue rfl
  rw [List.append_assoc, List.singleton_append, atoi_stop rfl hnumber, atoi_stop rfl hnumber]

theorem announced_unvalued {sect : CString} (h : ¬Valued sect) : announced sect = 0 := by
  rw [announced]
  cases hfound : httpdStrcasestr sect contentLengthName with
  | none => rfl
  | some cl =>
    apply atoi_blank
    by_contra hvalue
    exact h ⟨cl, hfound, hvalue⟩

theorem clampLength_le (i : Int32) : clampLength i ≤ httpdMaxBody - 1 := by
  rw [clampLength]
  split <;> split <;> omega

theorem clampLength_negative {i : Int32} (h : ¬0 < i) : clampLength i = 0 := by
  have hclamped : (if i < 0 then 0 else i) = 0 := by
    split
    · rfl
    · next hpos => exact Int32.le_antisymm (Int32.not_lt.1 h) (Int32.not_lt.1 hpos)
  rw [clampLength, hclamped]
  decide

theorem clampLength_positive {i : Int32} (h : 0 < i) : 0 < clampLength i ∧ clampLength i ≤ i.toInt.toNat := by
  have hpos : 0 < i.toInt := Int32.lt_iff_toInt_lt.1 h
  have hclamped : (if i < 0 then 0 else i) = i := if_neg fun hneg => Int32.lt_irrefl (Int32.lt_trans h hneg)
  have hbody : 0 < httpdMaxBody - 1 := by decide
  rw [clampLength, hclamped]
  split <;> omega

theorem clampLength_announced (i : Int32) : clampLength i ≤ i.toInt.toNat := by
  by_cases h : 0 < i
  · exact (clampLength_positive h).2
  · rw [clampLength_negative h]
    exact Nat.zero_le _

/-! The cuts of a stream. -/

variable {stream : List Char} {p l n : Nat}

theorem take_window (hn : n ≤ (window stream).length) : (window stream).take n = stream.take n := by
  rw [window, List.length_take] at hn
  rw [window, List.take_take, Nat.min_eq_left (by omega)]

theorem cut_whole (stream : List Char) : Cut stream (window stream).length := ⟨Nat.le_refl _, Or.inr rfl⟩

theorem cut_unique (hnone : search blankLine (window stream) = none) (h : Cut stream n) : n = (window stream).length := by
  refine h.stop.resolve_left fun hblank => ?_
  obtain ⟨k, hk⟩ := Option.isSome_iff_exists.1 hblank
  have hwhole := search_append hk ((window stream).drop n)
  rw [← take_window h.bound, List.take_append_drop, hnone] at hwhole
  cases hwhole

theorem take_cut (h : p + 4 ≤ n) : stream.take n = stream.take (p + 4) ++ (stream.take n).drop (p + 4) := by
  have hfront : (stream.take n).take (p + 4) = stream.take (p + 4) := by rw [List.take_take, Nat.min_eq_left h]
  rw [← hfront, List.take_append_drop]

section

variable (hp : search blankLine (window stream) = some p)

include hp

theorem blank_within : p + 4 ≤ (window stream).length := search_length hp

theorem blank_taken (hn : p + 4 ≤ n) (hbound : n ≤ (window stream).length) :
    search blankLine (stream.take n) = some p := by
  rw [← take_window hbound]
  exact search_take hp hn

theorem cut_first : Cut stream (p + 4) := by
  refine ⟨blank_within hp, Or.inl ?_⟩
  rw [blank_taken hp (Nat.le_refl _) (blank_within hp)]
  rfl

theorem cut_ge (h : Cut stream n) : p + 4 ≤ n := by
  rcases h.stop with hblank | rfl
  · obtain ⟨k, hk⟩ := Option.isSome_iff_exists.1 hblank
    have hwhole := search_append hk ((window stream).drop n)
    rw [← take_window h.bound, List.take_append_drop, hp] at hwhole
    obtain rfl := Option.some.inj hwhole
    have hlen := search_length hk
    rw [List.length_take] at hlen
    have hfour : blankLine.length = 4 := rfl
    omega
  · exact blank_within hp

theorem head_ends : stream.take (p + 4) = stream.take p ++ blankLine := by
  have hfound := blank_taken hp (Nat.le_refl _) (blank_within hp)
  obtain ⟨back, hback⟩ := search_at hfound
  have hlen := congrArg List.length hback
  have hwithin := blank_within hp
  rw [window, List.length_take] at hwithin
  have hfour : blankLine.length = 4 := rfl
  rw [List.length_append, List.length_drop, List.length_take, hfour] at hlen
  have hnil : back = [] := List.length_eq_zero_iff.1 (by omega)
  have hfront : (stream.take (p + 4)).take p = stream.take p := by rw [List.take_take, Nat.min_eq_left (by omega)]
  rw [hnil, List.append_nil] at hback
  rw [hback, ← hfront, List.take_append_drop]

/-- The first line ends at the blank line or at least a line's end before it. -/
theorem line_before (hl : search crlf (stream.take (p + 4)) = some l) : l = p ∨ l + 2 ≤ p := by
  have hends := head_ends hp
  have hwithin := blank_within hp
  rw [window, List.length_take] at hwithin
  have hplen : (stream.take p).length = p := by
    rw [List.length_take]
    omega
  have hplace : crlf <+: (stream.take (p + 4)).drop p := by
    rw [hends]
    have hdrop : (stream.take p ++ blankLine).drop p = blankLine := by
      rw [List.drop_append_of_le_length (Nat.le_of_eq hplen.symm), List.drop_eq_nil_of_le (Nat.le_of_eq hplen),
        List.nil_append]
    rw [hdrop]
    exact ⟨crlf, rfl⟩
  obtain ⟨j, hj, hfirst⟩ := search_first hplace
  obtain rfl := Option.some.inj (hl.symm.trans hfirst)
  by_contra hnot
  have hone : p = l + 1 := by omega
  obtain ⟨back, hback⟩ := search_at hl
  have hnext : (stream.take (p + 4)).drop p = '\n' :: back := by
    rw [hone, ← List.drop_drop, ← hone, ← hback]
    rfl
  rw [hnext] at hplace
  obtain ⟨more, hmore⟩ := hplace
  have hhead := (List.cons.inj hmore).1
  exact absurd hhead (by decide)

end

theorem cText_plain {x : List Char} (h : '\x00' ∉ x) (y : List Char) : cText (x ++ y) = x ++ cText y := by
  rw [cText, List.takeWhile_append_of_pos (ne_of_missing h)]
  rfl

theorem cText_no_nul {x : List Char} : '\x00' ∉ cText x := by
  intro hmem
  have hne := List.mem_takeWhile_imp (p := fun c => decide (c ≠ '\x00')) hmem
  exact of_decide_eq_true hne rfl

theorem cText_ended {x : List Char} (h : '\x00' ∈ x) (y : List Char) : cText (x ++ y) = cText x := by
  obtain ⟨front, rest, rfl, hfront⟩ := List.eq_append_cons_of_mem h
  rw [cText, cText, List.append_assoc, List.cons_append, takeWhile_found hfront, takeWhile_found hfront]

theorem cText_append (x y : List Char) : cText x <+: cText (x ++ y) := by
  by_cases h : '\x00' ∈ x
  · have hsame := cText_ended h y
    exact hsame ▸ List.prefix_refl (cText x)
  · have hself : cText x = x := takeWhile_missing h
    rw [cText_plain h, hself]
    exact List.prefix_append x _

/-! The answer at a cut. -/

/-- The text behind the request line, as far as it is in raw. -/
def seen (stream : List Char) (l n : Nat) : CString := (cText (stream.take n)).drop (l + 2)

/-- Where a body is found behind the request line, and its length. -/
def place (l : Nat) (headers : CString) : Option (Nat × Nat) :=
  (search blankLine headers).map fun k => (l + 2 + k + 4, clampLength (announced headers))

/-- The request line of a head, none where it is refused. -/
def requestLine (line : CString) : Option (CString × CString × CString) :=
  (cutAt ' ' line).map fun r =>
    let uri := r.2.takeWhile (· ≠ ' ')
    let split := (cutAt '?' uri).getD (uri, [])
    (r.1.take (httpdMaxMethod - 1), split.1.take (httpdMaxPath - 1), split.2.take (httpdMaxQuery - 1))

theorem parseHead_line {raw : List Char} (hl : search crlf (cText raw) = some l) :
    parseHead raw = (requestLine ((cText raw).take l)).map fun r =>
      ⟨r.1, r.2.1, r.2.2, place l ((cText raw).drop (l + 2))⟩ := by
  rw [parseHead, hl, requestLine]
  dsimp only
  cases cutAt ' ' ((cText raw).take l) with
  | none => rfl
  | some r => rfl

def request (line : CString) (body : List Char) : Option HttpRequest :=
  (requestLine line).map fun r => ⟨r.1, r.2.1, r.2.2, body⟩

theorem answer_line (hne : stream.take n ≠ []) (hl : search crlf (cText (stream.take n)) = some l) :
    answer stream n = request ((cText (stream.take n)).take l) (bodyAt stream (place l (seen stream l n))) := by
  rw [answer, if_neg hne, parseHead_line hl, Option.map_map]
  rfl

theorem answer_unterminated (hl : search crlf (cText (stream.take n)) = none) : answer stream n = none := by
  rw [answer, parseHead, hl]
  split
  · rfl
  · rfl

/-- Without a blank line behind the request line there is no body. -/
theorem place_none {headers : CString} (h : search blankLine headers = none) : bodyAt stream (place l headers) = [] := by
  rw [place, h]
  rfl

theorem seen_blank {k : Nat} (h : search blankLine (seen stream l n) = some k) :
    l + 2 + k + 4 ≤ (cText (stream.take n)).length ∧ ∃ j, j ≤ l + 2 + k ∧ search blankLine (stream.take n) = some j := by
  have hlen := search_length h
  have hfour : blankLine.length = 4 := rfl
  rw [seen, List.length_drop, hfour] at hlen
  refine ⟨by omega, ?_⟩
  have hprefix : cText (stream.take n) <+: stream.take n := List.takeWhile_prefix _
  have htext := List.prefix_iff_eq_take.1 hprefix
  rw [seen, htext] at h
  exact search_part h

/-- The head of a stream is complete in raw, and its line ends at l. -/
structure Headed (stream : List Char) (p l : Nat) : Prop where
  blank : search blankLine (window stream) = some p
  line : search crlf (stream.take (p + 4)) = some l
  plain : '\x00' ∉ stream.take (p + 4)

namespace Headed

variable (h : Headed stream p l)

include h

theorem before : l = p ∨ l + 2 ≤ p := line_before h.blank h.line

theorem text (hn : p + 4 ≤ n) :
    cText (stream.take n) = stream.take (p + 4) ++ cText ((stream.take n).drop (p + 4)) := by
  rw [take_cut hn, cText_plain h.plain, ← take_cut hn]

theorem length_head : (stream.take (p + 4)).length = p + 4 := by
  have hwithin := blank_within h.blank
  rw [window, List.length_take] at hwithin
  rw [List.length_take]
  omega

theorem seen_eq (hn : p + 4 ≤ n) :
    seen stream l n = (stream.take (p + 4)).drop (l + 2) ++ cText ((stream.take n).drop (p + 4)) := by
  have hlen := h.length_head
  have hbefore := h.before
  rw [seen, h.text hn, List.drop_append_of_le_length (by omega)]

theorem seen_first : seen stream l (p + 4) = (stream.take (p + 4)).drop (l + 2) := by
  have hnil : (stream.take (p + 4)).drop (p + 4) = [] := List.drop_eq_nil_of_le (Nat.le_of_eq h.length_head)
  rw [h.seen_eq (Nat.le_refl _), hnil]
  exact List.append_nil _

theorem seen_within (hcut : Cut stream n) : seen stream l n <+: seen stream l (window stream).length := by
  have hlast := cut_ge h.blank (cut_whole stream)
  have hn := cut_ge h.blank hcut
  have hmore : (stream.take (window stream).length).drop (p + 4) =
      (stream.take n).drop (p + 4) ++ (stream.take (window stream).length).drop n := by
    have hlen : p + 4 ≤ (stream.take n).length := by
      have hbound := hcut.bound
      rw [window, List.length_take] at hbound
      rw [List.length_take]
      omega
    have hfront : (stream.take (window stream).length).take n = stream.take n := by
      rw [List.take_take, Nat.min_eq_left hcut.bound]
    conv_lhs => rw [← List.take_append_drop n (stream.take (window stream).length)]
    rw [hfront, List.drop_append_of_le_length hlen]
  rw [h.seen_eq hn, h.seen_eq hlast, hmore, List.prefix_append_right_inj]
  exact cText_append _ _

theorem answer_eq (hcut : Cut stream n) :
    answer stream n = request (stream.take l) (bodyAt stream (place l (seen stream l n))) := by
  have hn := cut_ge h.blank hcut
  have hlen := h.length_head
  have hbefore := h.before
  have hfound : search crlf (cText (stream.take n)) = some l := by
    rw [h.text hn]
    exact search_append h.line _
  have hne : stream.take n ≠ [] := by
    intro hnil
    rw [take_cut hn] at hnil
    rw [List.append_eq_nil_iff] at hnil
    rw [hnil.1] at hlen
    cases hlen
  have hline : (cText (stream.take n)).take l = stream.take l := by
    rw [h.text hn, List.take_append_of_le_length (by omega), List.take_take, Nat.min_eq_left (by omega)]
  rw [answer_line hne hfound, hline]

/-- A header line in front puts the body behind the first blank line. -/
theorem place_headers (hn : p + 4 ≤ n) (hheaders : l + 2 ≤ p) :
    place l (seen stream l n) = some (p + 4, clampLength (announced (seen stream l n))) := by
  have hfound := search_drop (blank_taken h.blank (Nat.le_refl _) (blank_within h.blank)) hheaders
  have hseen : search blankLine (seen stream l n) = some (p - (l + 2)) := by
    rw [h.seen_eq hn]
    exact search_append hfound _
  have hplace : l + 2 + (p - (l + 2)) + 4 = p + 4 := by omega
  rw [place, hseen, Option.map_some, hplace]

theorem section_ends : ∃ front, (stream.take (p + 4)).drop (l + 2) = front ++ ['\n'] := by
  have hends := head_ends h.blank
  have hlen := h.length_head
  rw [hends, List.length_append] at hlen
  have hfour : blankLine.length = 4 := rfl
  have hsplit : stream.take p ++ blankLine = (stream.take p ++ ['\r', '\n', '\r']) ++ ['\n'] := by
    rw [List.append_assoc]
    rfl
  refine ⟨(stream.take p ++ ['\r', '\n', '\r']).drop (l + 2), ?_⟩
  rw [hends, hsplit]
  apply List.drop_append_of_le_length
  have hbefore := h.before
  have hthree : ['\r', '\n', '\r'].length = 3 := rfl
  rw [List.length_append, hthree]
  omega

end Headed

/-! Streams without a usable head. -/

theorem answer_bodyless (hseen : ∀ l, search blankLine (seen stream l n) = none) {req : HttpRequest}
    (hreq : answer stream n = some req) : req.body = [] := by
  by_cases hne : stream.take n = []
  · rw [answer, if_pos hne] at hreq
    cases hreq
  · cases hl : search crlf (cText (stream.take n)) with
    | none =>
      rw [answer_unterminated hl] at hreq
      cases hreq
    | some l =>
      rw [answer_line hne hl, place_none (hseen l), request] at hreq
      obtain ⟨r, -, rfl⟩ := Option.map_eq_some_iff.1 hreq
      rfl

theorem seen_unblank (hnone : search blankLine (window stream) = none) (l : Nat) (hn : n ≤ (window stream).length) :
    search blankLine (seen stream l n) = none := by
  cases hseen : search blankLine (seen stream l n) with
  | none => rfl
  | some k =>
    obtain ⟨-, j, -, hj⟩ := seen_blank hseen
    have hwhole := search_append hj ((window stream).drop n)
    rw [← take_window hn, List.take_append_drop, hnone] at hwhole
    cases hwhole

/-- A NUL in the head ends the text in every cut alike. -/
theorem cText_cut (hnul : '\x00' ∈ stream.take (p + 4)) (hn : p + 4 ≤ n) :
    cText (stream.take n) = cText (stream.take (p + 4)) := by
  rw [take_cut hn, cText_ended hnul]

theorem seen_nul (hp : search blankLine (window stream) = some p) (hnul : '\x00' ∈ stream.take (p + 4)) (l : Nat)
    (hn : p + 4 ≤ n) : search blankLine (seen stream l n) = none := by
  have hsame : seen stream l n = seen stream l (p + 4) := by rw [seen, seen, cText_cut hnul hn]
  rw [hsame]
  cases hseen : search blankLine (seen stream l (p + 4)) with
  | none => rfl
  | some k =>
    obtain ⟨hshort, j, hj, hfound⟩ := seen_blank hseen
    obtain rfl := Option.some.inj ((blank_taken hp (Nat.le_refl _) (blank_within hp)).symm.trans hfound)
    have hend : (cText (stream.take (p + 4))).length < (stream.take (p + 4)).length := by
      have hprefix : cText (stream.take (p + 4)) <+: stream.take (p + 4) := List.takeWhile_prefix _
      refine Nat.lt_of_le_of_ne hprefix.length_le fun hlen => ?_
      have hall := hprefix.eq_of_length hlen
      rw [← hall] at hnul
      exact cText_no_nul hnul
    rw [List.length_take] at hend
    omega

theorem answer_nul (hp : search blankLine (window stream) = some p) (hnul : '\x00' ∈ stream.take (p + 4))
    (h : Cut stream n) : answer stream n = answer stream (p + 4) := by
  have hn := cut_ge hp h
  have hwithin := blank_within hp
  have hbound := h.bound
  rw [window, List.length_take] at hwithin hbound
  have hne : ∀ m, p + 4 ≤ m → stream.take m ≠ [] := by
    intro m hm hnil
    have hlength := congrArg List.length hnil
    rw [List.length_take, List.length_nil] at hlength
    omega
  have htext := cText_cut hnul hn
  cases hl : search crlf (cText (stream.take (p + 4))) with
  | none => rw [answer_unterminated hl, answer_unterminated (htext ▸ hl)]
  | some l =>
    rw [answer_line (hne _ (Nat.le_refl _)) hl, answer_line (hne n hn) (htext ▸ hl), place_none (seen_nul hp hnul l hn),
      place_none (seen_nul hp hnul l (Nat.le_refl _)), htext]

/-! When the arrival does not matter. -/

/-- The value of the first header line that is named Content-Length. -/
def lengthField : List CString → Option CString
  | [] => none
  | line :: lines =>
    match cutAt ':' line with
    | some (name, value) => if name.map Char.toLower = "content-length".toList then some value else lengthField lines
    | none => lengthField lines

/-- The Content-Length that the header lines give, 0 without one. -/
def given (stream : List Char) : ℕ :=
  match readHead '\r' '\n' rawRoom (window stream) with
  | some (_ :: fields, _) => ((lengthField fields).map fun value => (atoi value).toInt.toNat).getD 0
  | _ => 0

/-- What is asked of a parse over all arrivals of a stream. -/
structure Kept (stream : List Char) : Prop where
  same : ∀ feed feed', Split stream feed → Split stream feed' → parseRequest feed = parseRequest feed'
  bounded : ∀ feed req, Split stream feed → parseRequest feed = some req →
    req.body.length ≤ httpdMaxBody - 1 ∧ req.body.length ≤ given stream

/-- With header lines the Content-Length has a value there, or nothing within
reach of raw reads as one above 0; without them no second blank line within
reach is followed by a body of such a length. -/
def Settled (stream : List Char) (p l : Nat) : Prop :=
  if l = p then
    ∀ k, search blankLine (seen stream l (window stream).length) = some k →
      announced (seen stream l (window stream).length) ≤ 0 ∨ stream.drop (l + 2 + k + 4) = []
  else
    Valued ((stream.take (p + 4)).drop (l + 2)) ∨ announced (seen stream l (window stream).length) ≤ 0

/-- Another header line holds the name, or the line's own value is blank, and the
number behind it is above the one that is given; and so many bytes do follow. -/
def Overstated (stream : List Char) (p l : Nat) : Prop :=
  given stream < (announced ((stream.take (p + 4)).drop (l + 2))).toInt.toNat ∧ given stream < httpdMaxBody - 1 ∧
    given stream < (stream.drop (p + 4)).length

def Safe (stream : List Char) : Prop :=
  ∀ p l, Headed stream p l → ' ' ∈ stream.take l → Settled stream p l ∧ ¬Overstated stream p l

theorem kept_iff_cuts (stream : List Char) : Kept stream ↔
    (∀ n n', Cut stream n → Cut stream n' → answer stream n = answer stream n') ∧
      ∀ n req, Cut stream n → answer stream n = some req →
        req.body.length ≤ httpdMaxBody - 1 ∧ req.body.length ≤ given stream := by
  constructor
  · intro h
    refine ⟨?_, ?_⟩
    · intro n n' hn hn'
      obtain ⟨feed, hsplit, hfeed⟩ := parseRequest_realised hn
      obtain ⟨feed', hsplit', hfeed'⟩ := parseRequest_realised hn'
      rw [← hfeed, ← hfeed', h.same feed feed' hsplit hsplit']
    · intro n req hn hreq
      obtain ⟨feed, hsplit, hfeed⟩ := parseRequest_realised hn
      exact h.bounded feed req hsplit (hfeed.trans hreq)
  · rintro ⟨hsame, hbounded⟩
    refine ⟨?_, ?_⟩
    · intro feed feed' hsplit hsplit'
      obtain ⟨n, hn, hfeed⟩ := parseRequest_cut hsplit
      obtain ⟨n', hn', hfeed'⟩ := parseRequest_cut hsplit'
      rw [hfeed, hfeed', hsame n n' hn hn']
    · intro feed req hsplit hreq
      obtain ⟨n, hn, hfeed⟩ := parseRequest_cut hsplit
      exact hbounded n req hn (hfeed.symm.trans hreq)

theorem requestLine_isSome {line : CString} : (requestLine line).isSome ↔ ' ' ∈ line := by
  rw [requestLine, Option.isSome_map, cutAt_eq]
  split
  · next h => exact iff_of_true rfl h
  · next h => exact iff_of_false Bool.false_ne_true h

theorem request_refused {line : CString} (h : ' ' ∉ line) (body : List Char) : request line body = none := by
  cases hline : requestLine line with
  | none => rw [request, hline, Option.map_none]
  | some r => exact absurd (requestLine_isSome.1 (hline ▸ rfl)) h

theorem request_body {line : CString} {body body' : List Char} (hline : ' ' ∈ line) :
    request line body = request line body' ↔ body = body' := by
  obtain ⟨r, hr⟩ := Option.isSome_iff_exists.1 (requestLine_isSome.2 hline)
  rw [request, request, hr, Option.map_some, Option.map_some, Option.some.injEq, HttpRequest.mk.injEq]
  simp only [true_and]

theorem within_given (hstated : ¬Overstated stream p l) {m : Nat}
    (hm : m ≤ min (clampLength (announced ((stream.take (p + 4)).drop (l + 2)))) (stream.drop (p + 4)).length) :
    m ≤ given stream := by
  have hannounced := clampLength_announced (announced ((stream.take (p + 4)).drop (l + 2)))
  have hmax := clampLength_le (announced ((stream.take (p + 4)).drop (l + 2)))
  rw [Overstated] at hstated
  omega

theorem announced_shorter {s t : CString} (h : s <+: t) (ht : ¬0 < announced t) : ¬0 < announced s := by
  obtain ⟨more, rfl⟩ := h
  exact fun hs => ht (announced_pos hs more)

namespace Headed

variable (h : Headed stream p l)

include h

theorem announced_value (hvalued : Valued ((stream.take (p + 4)).drop (l + 2))) (hn : p + 4 ≤ n) :
    announced (seen stream l n) = announced ((stream.take (p + 4)).drop (l + 2)) := by
  obtain ⟨front, hfront⟩ := h.section_ends
  rw [h.seen_eq hn, hfront]
  rw [hfront] at hvalued
  exact announced_valued hvalued _

theorem body_headers (hn : p + 4 ≤ n) (hheaders : l + 2 ≤ p) : bodyAt stream (place l (seen stream l n)) =
    (stream.drop (p + 4)).take (clampLength (announced (seen stream l n))) := by
  rw [h.place_headers hn hheaders, bodyAt]

theorem body_first (hline : l = p) : bodyAt stream (place l (seen stream l (p + 4))) = [] := by
  apply place_none
  cases hseen : search blankLine (seen stream l (p + 4)) with
  | none => rfl
  | some k =>
    have hlen := search_length hseen
    have hfour : blankLine.length = 4 := rfl
    rw [h.seen_first, List.length_drop, h.length_head, hfour] at hlen
    omega

/-- With the headers settled every cut has the same body, as long as the number
behind the first Content-Length and what follows admit. -/
theorem body_settled (hsettled : Settled stream p l) (hcut : Cut stream n) :
    bodyAt stream (place l (seen stream l n)) = bodyAt stream (place l (seen stream l (p + 4))) ∧
      (bodyAt stream (place l (seen stream l n))).length ≤ min
        (clampLength (announced ((stream.take (p + 4)).drop (l + 2)))) (stream.drop (p + 4)).length := by
  have hn := cut_ge h.blank hcut
  have hprefix := h.seen_within hcut
  rw [Settled] at hsettled
  split at hsettled
  · next hline =>
    have hempty : bodyAt stream (place l (seen stream l n)) = [] := by
      cases hseen : search blankLine (seen stream l n) with
      | none => exact place_none hseen
      | some k =>
        obtain ⟨more, hmore⟩ := hprefix
        have hlast : search blankLine (seen stream l (window stream).length) = some k := hmore ▸ search_append hseen more
        rw [place, hseen, Option.map_some, bodyAt]
        rcases hsettled k hlast with hzero | hend
        · have hnone := announced_shorter (h.seen_within hcut) (Int32.not_lt.2 hzero)
          rw [clampLength_negative hnone, List.take_zero]
        · rw [hend, List.take_nil]
    rw [hempty, h.body_first hline]
    exact ⟨rfl, Nat.zero_le _⟩
  · next hline =>
    have hheaders : l + 2 ≤ p := h.before.resolve_left hline
    rw [h.body_headers hn hheaders, h.body_headers (Nat.le_refl _) hheaders]
    rcases hsettled with hvalued | hzero
    · rw [h.announced_value hvalued hn, h.announced_value hvalued (Nat.le_refl _)]
      exact ⟨rfl, Nat.le_of_eq List.length_take⟩
    · have hnone := Int32.not_lt.2 hzero
      rw [clampLength_negative (announced_shorter hprefix hnone),
        clampLength_negative (announced_shorter (h.seen_within (cut_first h.blank)) hnone), List.take_zero]
      exact ⟨rfl, Nat.zero_le _⟩

/-- A number above the given one makes the body longer than that. -/
theorem body_overstated (hstated : Overstated stream p l) :
    given stream < (bodyAt stream (place l (seen stream l (p + 4)))).length := by
  obtain ⟨hnumber, hmax, hrest⟩ := hstated
  have hpos : 0 < announced ((stream.take (p + 4)).drop (l + 2)) := by
    rw [Int32.lt_iff_toInt_lt]
    change 0 < (announced ((stream.take (p + 4)).drop (l + 2))).toInt
    omega
  have hline : l ≠ p := by
    rintro rfl
    have hnone : httpdStrcasestr ((stream.take (l + 4)).drop (l + 2)) contentLengthName = none := by
      cases hfound : httpdStrcasestr ((stream.take (l + 4)).drop (l + 2)) contentLengthName with
      | none => rfl
      | some k =>
        have hlen := httpdStrcasestr_length hfound
        rw [List.length_drop, h.length_head] at hlen
        omega
    rw [announced, hnone] at hpos
    exact absurd hpos (by decide : ¬(0 : Int32) < 0)
  have hclamp : given stream < clampLength (announced ((stream.take (p + 4)).drop (l + 2))) := by
    have hlarge : clampLength (announced ((stream.take (p + 4)).drop (l + 2))) =
        min (announced ((stream.take (p + 4)).drop (l + 2))).toInt.toNat (httpdMaxBody - 1) := by
      have hneg : ¬announced ((stream.take (p + 4)).drop (l + 2)) < 0 :=
        fun hneg => Int32.lt_irrefl (Int32.lt_trans hpos hneg)
      have hbody : 0 < httpdMaxBody := by decide
      rw [clampLength, if_neg hneg]
      split <;> omega
    omega
  rw [h.body_headers (Nat.le_refl _) (h.before.resolve_left hline), h.seen_first, List.length_take]
  omega

/-- And otherwise the longest cut has a body that the first has not. -/
theorem settled_of_body (hsame : bodyAt stream (place l (seen stream l (window stream).length)) =
    bodyAt stream (place l (seen stream l (p + 4)))) : Settled stream p l := by
  have hlast := cut_ge h.blank (cut_whole stream)
  rw [Settled]
  split
  · next hline =>
    intro k hk
    rw [h.body_first hline, place, hk, Option.map_some, bodyAt, List.take_eq_nil_iff] at hsame
    rcases hsame with hzero | hend
    · left
      refine Int32.not_lt.1 fun hpos => ?_
      exact absurd hzero (Nat.pos_iff_ne_zero.1 (clampLength_positive hpos).1)
    · exact Or.inr hend
  · next hline =>
    have hheaders : l + 2 ≤ p := h.before.resolve_left hline
    by_cases hvalued : Valued ((stream.take (p + 4)).drop (l + 2))
    · exact Or.inl hvalued
    · right
      have hfirst : announced (seen stream l (p + 4)) = 0 := by
        rw [h.seen_first]
        exact announced_unvalued hvalued
      refine Int32.not_lt.1 fun hpos => ?_
      have hclamp : clampLength 0 = 0 := clampLength_negative (by decide)
      rw [h.body_headers hlast hheaders, h.body_headers (Nat.le_refl _) hheaders, hfirst, hclamp, List.take_zero,
        List.take_eq_nil_iff] at hsame
      rcases hsame with hzero | hend
      · exact absurd hzero (Nat.pos_iff_ne_zero.1 (clampLength_positive hpos).1)
      · have hrest : (stream.take (window stream).length).drop (p + 4) = [] := by
          rw [List.drop_take, hend, List.take_nil]
        have hequal : seen stream l (window stream).length = seen stream l (p + 4) := by
          rw [h.seen_eq hlast, hrest, h.seen_first]
          exact List.append_nil _
        rw [hequal, hfirst] at hpos
        exact absurd hpos (by decide)

end Headed

theorem crlf_within (hp : search blankLine (window stream) = some p) :
    ∃ l, search crlf (stream.take (p + 4)) = some l := by
  obtain ⟨back, hback⟩ := search_at (blank_taken hp (Nat.le_refl _) (blank_within hp))
  have hplace : crlf <+: (stream.take (p + 4)).drop p := ⟨crlf ++ back, hback⟩
  obtain ⟨l, -, hl⟩ := search_first hplace
  exact ⟨l, hl⟩

theorem bounded_of_empty {req : HttpRequest} (h : req.body = []) (stream : List Char) :
    req.body.length ≤ httpdMaxBody - 1 ∧ req.body.length ≤ given stream := by
  rw [h]
  exact ⟨Nat.zero_le _, Nat.zero_le _⟩

theorem bodyAt_place_le (l : Nat) (headers : CString) : (bodyAt stream (place l headers)).length ≤ httpdMaxBody - 1 := by
  cases hplace : search blankLine headers with
  | none =>
    rw [place_none hplace]
    exact Nat.zero_le _
  | some k =>
    rw [place, hplace, Option.map_some, bodyAt]
    exact Nat.le_trans (List.length_take_le _ _) (clampLength_le _)

/-- The result of a parse is the same however the stream arrives, with a body
within its bounds, exactly when the headers are settled and state no more than
is given. -/
theorem packets_iff (stream : List Char) : Kept stream ↔ Safe stream := by
  rw [kept_iff_cuts]
  constructor
  · rintro ⟨hsame, hbounded⟩ p l h hline
    refine ⟨?_, fun hstated => ?_⟩
    · have hcuts := hsame _ _ (cut_whole stream) (cut_first h.blank)
      rw [h.answer_eq (cut_whole stream), h.answer_eq (cut_first h.blank), request_body hline] at hcuts
      exact h.settled_of_body hcuts
    · obtain ⟨r, hr⟩ := Option.isSome_iff_exists.1 (requestLine_isSome.2 hline)
      have hanswer := h.answer_eq (cut_first h.blank)
      rw [request, hr, Option.map_some] at hanswer
      exact Nat.not_lt_of_le (hbounded _ _ (cut_first h.blank) hanswer).2 (h.body_overstated hstated)
  · intro hsafe
    cases hp : search blankLine (window stream) with
    | none =>
      refine ⟨?_, ?_⟩
      · intro n n' hn hn'
        rw [cut_unique hp hn, cut_unique hp hn']
      · intro n req hn hreq
        exact bounded_of_empty (answer_bodyless (fun l => seen_unblank hp l hn.bound) hreq) stream
    | some p =>
      by_cases hnul : '\x00' ∈ stream.take (p + 4)
      · refine ⟨?_, ?_⟩
        · intro n n' hn hn'
          rw [answer_nul hp hnul hn, answer_nul hp hnul hn']
        · intro n req hn hreq
          exact bounded_of_empty (answer_bodyless (fun l => seen_nul hp hnul l (cut_ge hp hn)) hreq) stream
      · obtain ⟨l, hl⟩ := crlf_within hp
        have h : Headed stream p l := ⟨hp, hl, hnul⟩
        by_cases hline : ' ' ∈ stream.take l
        · obtain ⟨hsettled, hstated⟩ := hsafe p l h hline
          refine ⟨?_, ?_⟩
          · intro n n' hn hn'
            rw [h.answer_eq hn, h.answer_eq hn', (h.body_settled hsettled hn).1, (h.body_settled hsettled hn').1]
          · intro n req hn hreq
            rw [h.answer_eq hn, request] at hreq
            obtain ⟨r, -, rfl⟩ := Option.map_eq_some_iff.1 hreq
            exact ⟨bodyAt_place_le l _, within_given hstated (h.body_settled hsettled hn).2⟩
        · refine ⟨?_, ?_⟩
          · intro n n' hn hn'
            rw [h.answer_eq hn, h.answer_eq hn', request_refused hline, request_refused hline]
          · intro n req hn hreq
            rw [h.answer_eq hn, request_refused hline] at hreq
            cases hreq

/-! A body that reads like a header. -/

def tricky : List Char := "POST /x HTTP/1.0\r\nA: b\r\n\r\ncontent-length:3".toList

theorem body_as_header : ¬ ∀ stream : List Char, Kept stream := by
  intro h
  have hwhole : parseRequest [tricky] = some ⟨"POST".toList, "/x".toList, [], "con".toList⟩ := by decide +kernel
  have hparts : parseRequest [tricky.take 26, tricky.drop 26] = some ⟨"POST".toList, "/x".toList, [], []⟩ := by
    decide +kernel
  have hsame := (h tricky).same [tricky] [tricky.take 26, tricky.drop 26] ⟨by decide, by decide⟩ ⟨by decide, by decide⟩
  rw [hwhole, hparts] at hsame
  exact absurd hsame (by decide)

end WaybeamVenc.HttpPackets
