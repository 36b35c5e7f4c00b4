import WaybeamVenc.IqParams
import WaybeamVenc.Search
import WaybeamVenc.SetQuery

namespace WaybeamVenc.HttpParse

open CNumber IqParams Search SetQuery

def httpdMaxMethod : Nat := 8

def httpdMaxPath : Nat := 256

def httpdMaxQuery : Nat := 512

def httpdMaxBody : Nat := 8192

def rawRoom : Nat := httpdMaxBody + 2048 - 1

def crlf : List Char := ['\r', '\n']

def blankLine : List Char := ['\r', '\n', '\r', '\n']

structure HttpRequest where
  method : CString
  path : CString
  query : CString
  body : List Char
deriving DecidableEq

/-- The bytes of a connection in the pieces that arrive; a read takes what it
has room for from the first, and behind the last there is an end or a timeout. -/
abbrev Feed := List (List Char)

/-- The bytes in raw after the first loop, and what is still to be read. -/
def readHeaders : Feed → List Char → List Char × Feed
  | [], raw => (raw, [])
  | chunk :: feed, raw =>
    let room := rawRoom - raw.length
    if room = 0 then (raw, chunk :: feed)
    -- the read fills raw, which ends the loop with or without a blank line
    else if room < chunk.length then (raw ++ chunk.take room, chunk.drop room :: feed)
    else if (search blankLine (raw ++ chunk)).isSome then (raw ++ chunk, feed)
    else readHeaders feed (raw ++ chunk)

def readBody : Feed → Nat → List Char → List Char
  | [], _, body => body
  | chunk :: feed, contentLen, body =>
    if contentLen ≤ body.length then body
    else readBody feed contentLen (body ++ chunk.take (contentLen - body.length))

def httpdStrcasestr (haystack needle : CString) : Option Nat :=
  search (needle.map Char.toLower) (haystack.map Char.toLower)

def contentLengthName : CString := "content-length:".toList

/-- The number behind the first Content-Length in a text, 0 without one. -/
def announced (headers : CString) : Int32 :=
  match httpdStrcasestr headers contentLengthName with
  | none => 0
  | some cl => atoi (headers.drop (cl + 15))

def clampLength (contentLen : Int32) : Nat :=
  let contentLen := if contentLen < 0 then 0 else contentLen
  if httpdMaxBody ≤ contentLen.toInt.toNat then httpdMaxBody - 1 else contentLen.toInt.toNat

/-- The request line, and where the body starts and its length where the
headers end. -/
structure Head where
  method : CString
  path : CString
  query : CString
  body : Option (Nat × Nat)

def cText (raw : List Char) : CString := raw.takeWhile (· ≠ '\x00')

def parseHead (raw : List Char) : Option Head :=
  let text := cText raw
  match search crlf text with
  | none => none
  | some lineEnd =>
    match cutAt ' ' (text.take lineEnd) with
    | none => none
    | some (method, uri) =>
      let uri := uri.takeWhile (· ≠ ' ')
      let split := (cutAt '?' uri).getD (uri, [])
      let headers := text.drop (lineEnd + 2)
      some
        { method := method.take (httpdMaxMethod - 1)
          path := split.1.take (httpdMaxPath - 1)
          query := split.2.take (httpdMaxQuery - 1)
          body := (search blankLine headers).map fun k => (lineEnd + 2 + k + 4, clampLength (announced headers)) }

/-- parse_request, none where it returns -1. -/
def parseRequest (feed : Feed) : Option HttpRequest :=
  let (raw, rest) := readHeaders feed []
  if raw = [] then none
  else
    match parseHead raw with
    | none => none
    | some head =>
      some
        { method := head.method
          path := head.path
          query := head.query
          body :=
            match head.body with
            | none => []
            | some (start, contentLen) => readBody rest contentLen ((raw.drop start).take contentLen) }

/-! What a parse has seen of the stream. -/

structure Split (stream : List Char) (feed : Feed) : Prop where
  nonempty : ∀ chunk ∈ feed, chunk ≠ []
  whole : feed.flatten = stream

def window (stream : List Char) : List Char := stream.take rawRoom

/-- Where the first loop may stop. -/
structure Cut (stream : List Char) (n : Nat) : Prop where
  bound : n ≤ (window stream).length
  stop : (search blankLine (stream.take n)).isSome ∨ n = (window stream).length

def bodyAt (stream : List Char) : Option (Nat × Nat) → List Char
  | none => []
  | some (start, contentLen) => (stream.drop start).take contentLen

def answer (stream : List Char) (n : Nat) : Option HttpRequest :=
  if stream.take n = [] then none
  else (parseHead (stream.take n)).map fun head => ⟨head.method, head.path, head.query, bodyAt stream head.body⟩

theorem take_middle (front mid back : List Char) {n : Nat} (h : front.length ≤ n) :
    (front ++ mid.take (n - front.length) ++ back).take n = (front ++ mid ++ back).take n := by
  by_cases hmid : mid.length ≤ n - front.length
  · rw [List.take_of_length_le hmid]
  · have hfull : (front ++ mid.take (n - front.length)).length = n := by
      rw [List.length_append, List.length_take]
      omega
    have hlong : n ≤ (front ++ mid).length := by
      rw [List.length_append]
      omega
    rw [List.take_append_of_le_length (Nat.le_of_eq hfull.symm), List.take_append_of_le_length hlong,
      List.take_of_length_le (Nat.le_of_eq hfull), List.take_append, List.take_of_length_le h]

theorem readBody_eq (feed : Feed) {contentLen : Nat} {body : List Char} (h : body.length ≤ contentLen) :
    readBody feed contentLen body = (body ++ feed.flatten).take contentLen := by
  induction feed generalizing body with
  | nil => rw [readBody, List.flatten_nil, List.append_nil, List.take_of_length_le h]
  | cons chunk feed ih =>
    rw [readBody]
    split
    · next hfull =>
      have hlen : body.length = contentLen := Nat.le_antisymm h hfull
      rw [List.take_append_of_le_length hfull, ← hlen, List.take_length]
    · next hroom =>
      have hshort : (body ++ chunk.take (contentLen - body.length)).length ≤ contentLen := by
        rw [List.length_append, List.length_take]
        omega
      rw [ih hshort, take_middle body chunk _ h, List.flatten_cons, List.append_assoc]

/-- One pass of the first loop after another, from the bytes it has. -/
theorem readHeaders_cut (feed : Feed) {raw : List Char} (hraw : raw.length ≤ rawRoom) :
    (readHeaders feed raw).1 ++ (readHeaders feed raw).2.flatten = raw ++ feed.flatten ∧
      (readHeaders feed raw).1.length ≤ rawRoom ∧
      ((search blankLine (readHeaders feed raw).1).isSome ∨ (readHeaders feed raw).1.length = rawRoom ∨
        (readHeaders feed raw).2 = []) := by
  induction feed generalizing raw with
  | nil => exact ⟨rfl, hraw, Or.inr (Or.inr rfl)⟩
  | cons chunk feed ih =>
    rw [readHeaders]
    split
    · next hfull => exact ⟨rfl, hraw, Or.inr (Or.inl (Nat.le_antisymm hraw (Nat.le_of_sub_eq_zero hfull)))⟩
    · next hroom =>
      split
      · next hlong =>
        have hlen : (raw ++ chunk.take (rawRoom - raw.length)).length = rawRoom := by
          rw [List.length_append, List.length_take]
          omega
        refine ⟨?_, Nat.le_of_eq hlen, Or.inr (Or.inl hlen)⟩
        rw [List.flatten_cons, List.append_assoc, ← List.append_assoc (chunk.take _), List.take_append_drop,
          List.flatten_cons]
      · next hshort =>
        have hlen : (raw ++ chunk).length ≤ rawRoom := by
          rw [List.length_append]
          omega
        split
        · next hblank =>
          refine ⟨?_, hlen, Or.inl hblank⟩
          rw [List.flatten_cons, List.append_assoc]
        · rw [List.flatten_cons, ← List.append_assoc]
          exact ih hlen

theorem head_bound {raw : List Char} {head : Head} {start contentLen : Nat} (h : parseHead raw = some head)
    (hbody : head.body = some (start, contentLen)) : start ≤ raw.length := by
  have htext : (cText raw).length ≤ raw.length := (List.takeWhile_prefix _).length_le
  rw [parseHead] at h
  dsimp only at h
  split at h
  · cases h
  · split at h
    · cases h
    · cases h
      obtain ⟨k, hk, hplace⟩ := Option.map_eq_some_iff.1 hbody
      have hlen := search_length hk
      have hfour : blankLine.length = 4 := rfl
      rw [List.length_drop, hfour] at hlen
      obtain ⟨rfl, -⟩ := Prod.mk.inj hplace
      omega

theorem parseRequest_eq {stream : List Char} {n : Nat} {feed rest : Feed}
    (hread : readHeaders feed [] = (stream.take n, rest)) (hrest : rest.flatten = stream.drop n) :
    parseRequest feed = answer stream n := by
  rw [parseRequest, hread, answer]
  dsimp only
  split
  · rfl
  · cases hhead : parseHead (stream.take n) with
    | none => rfl
    | some head =>
      rw [Option.map_some]
      dsimp only
      cases hbody : head.body with
      | none => rfl
      | some place =>
        obtain ⟨start, contentLen⟩ := place
        have hstart := head_bound hhead hbody
        have hlen : (((stream.take n).drop start).take contentLen).length ≤ contentLen := List.length_take_le _ _
        have hwhole : (stream.take n).drop start ++ stream.drop n = stream.drop start := by
          rw [← List.drop_append_of_le_length hstart, List.take_append_drop]
        have hnil := take_middle [] ((stream.take n).drop start) (stream.drop n) (Nat.zero_le contentLen)
        rw [List.nil_append, List.nil_append, List.length_nil, Nat.sub_zero] at hnil
        dsimp only [bodyAt]
        rw [readBody_eq rest hlen, hrest, ← hwhole, hnil]

/-- However a stream arrives, the request is that of one of its cuts. -/
theorem parseRequest_cut {stream : List Char} {feed : Feed} (h : Split stream feed) :
    ∃ n, Cut stream n ∧ parseRequest feed = answer stream n := by
  obtain ⟨hwhole, hbound, hstop⟩ := @readHeaders_cut feed [] (Nat.zero_le rawRoom)
  rw [List.nil_append, h.whole] at hwhole
  have htake : stream.take (readHeaders feed []).1.length = (readHeaders feed []).1 := by
    rw [← hwhole, List.take_left]
  have hdrop : (readHeaders feed []).2.flatten = stream.drop (readHeaders feed []).1.length := by
    rw [← hwhole, List.drop_left]
  have hlen : (readHeaders feed []).1.length ≤ stream.length := by
    rw [← hwhole, List.length_append]
    omega
  refine ⟨(readHeaders feed []).1.length, ⟨?_, ?_⟩, parseRequest_eq (Prod.ext htake.symm rfl) hdrop⟩
  · rw [window, List.length_take]
    omega
  · rw [htake]
    rcases hstop with hblank | hfull | hend
    · exact Or.inl hblank
    · right
      rw [window, List.length_take]
      omega
    · right
      rw [hend, List.flatten_nil, List.append_nil] at hwhole
      rw [window, List.length_take, ← hwhole]
      omega

theorem parseRequest_realised {stream : List Char} {n : Nat} (h : Cut stream n) :
    ∃ feed, Split stream feed ∧ parseRequest feed = answer stream n := by
  have hn := h.bound
  rw [window, List.length_take] at hn
  by_cases hzero : n = 0
  · subst hzero
    have hempty : stream = [] := by
      rcases h.stop with hblank | hend
      · exact absurd hblank (by rw [List.take_zero]; decide)
      · rw [window, List.length_take] at hend
        apply List.length_eq_zero_iff.1
        have hroom : 0 < rawRoom := by decide
        omega
    subst hempty
    exact ⟨[], ⟨fun chunk hc => absurd hc List.not_mem_nil, rfl⟩, rfl⟩
  · have hfirst : stream.take n ≠ [] := by
      intro hnil
      have hlength := congrArg List.length hnil
      rw [List.length_take, List.length_nil] at hlength
      omega
    have hroom : ¬rawRoom - ([] : List Char).length = 0 := by decide
    have hfits : ¬rawRoom - ([] : List Char).length < (stream.take n).length := by
      rw [List.length_take, List.length_nil]
      omega
    by_cases hmore : stream.drop n = []
    · refine ⟨[stream.take n], ⟨?_, ?_⟩, ?_⟩
      · intro chunk hc
        rwa [List.mem_singleton.1 hc]
      · rw [List.flatten_singleton, ← List.append_nil (stream.take n), ← hmore, List.take_append_drop]
      · apply @parseRequest_eq stream n _ []
        · rw [readHeaders, if_neg hroom, if_neg hfits, List.nil_append]
          split
          · rfl
          · rfl
        · rw [hmore]
          rfl
    · refine ⟨[stream.take n, stream.drop n], ⟨?_, ?_⟩, ?_⟩
      · intro chunk hc
        rcases List.mem_cons.1 hc with rfl | hc
        · exact hfirst
        · rwa [List.mem_singleton.1 hc]
      · rw [List.flatten_cons, List.flatten_singleton, List.take_append_drop]
      · apply @parseRequest_eq stream n _ [stream.drop n]
        · rw [readHeaders, if_neg hroom, if_neg hfits, List.nil_append]
          split
          · rfl
          · next hnone =>
            have hfull : n = rawRoom := by
              have hend := h.stop.resolve_left hnone
              have hrest : 0 < (stream.drop n).length := List.length_pos_iff.2 hmore
              rw [window, List.length_take] at hend
              rw [List.length_drop] at hrest
              omega
            rw [readHeaders, List.length_take, if_pos (by omega)]
        · exact List.flatten_singleton

end WaybeamVenc.HttpParse
