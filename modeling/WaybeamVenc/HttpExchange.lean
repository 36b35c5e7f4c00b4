import WaybeamVenc.HttpPackets
import WaybeamVenc.HttpRoutes
import WaybeamVenc.HttpWire
import WaybeamVenc.SaveLoad
import WaybeamVenc.UriGrammar

namespace WaybeamVenc.HttpExchange

open CNumber Search SetQuery HeaderText HttpParse HttpPackets HttpRoutes HttpWire

/-- What dispatch sends where no route matches. -/
def noRoute : Answer where
  content := .json
  status := (ApiBodies.httpdSendError 404 "not_found" "no matching route").status
  body := (ApiBodies.httpdSendError 404 "not_found" "no matching route").body
  status_lt := by decide
  body_lt := Nat.lt_of_le_of_lt (List.length_take_le _ _) (by decide)

variable (handle : Handler → HttpRequest → Answer)

def dispatch (routes : List HttpRoute) (req : HttpRequest) : Answer :=
  match routeFor routes req with
  | some r => handle r.handler req
  | none => noRoute

/-- What httpd_thread does with a connection; it closes one whose request is
refused, and -1 is then that of parse_request. -/
def serve (routes : List HttpRoute) (feed : Feed) (sends : List SendResult) : Int32 × Socket :=
  match parseRequest feed with
  | none => (-1, ⟨[], sends⟩)
  | some req => httpdSend (dispatch handle routes req) ⟨[], sends⟩

/-! A client's request. -/

def firstLine (method path query version : CString) : CString :=
  method ++ ' ' :: (path ++ (if query = [] then [] else '?' :: query) ++ ' ' :: version)

/-- A Content-Length line: the name in any case, blanks on either side of the
number. -/
def LengthLine (n : ℕ) (line : CString) : Prop :=
  ∃ name lead trail : CString, line = name ++ ':' :: (lead ++ (decimal n ++ trail)) ∧
    name.map Char.toLower = "content-length".toList ∧ ∀ c ∈ lead ++ trail, c = ' ' ∨ c = '\t'

/-- The first header line that holds the text content-length: is the
Content-Length itself, or there is none and no body. -/
def Framed (fields : List CString) (n : ℕ) : Prop :=
  (n = 0 ∧ ∀ line ∈ fields, httpdStrcasestr line contentLengthName = none) ∨
    ∃ before line after, fields = before ++ line :: after ∧ LengthLine n line ∧
      ∀ other ∈ before, httpdStrcasestr other contentLengthName = none

/-- A request within the bounds of the server. -/
structure ClientRequest where
  method : CString
  path : CString
  query : CString
  version : CString
  fields : List CString
  body : List Char
  word : ' ' ∉ method ∧ ' ' ∉ path ∧ '?' ∉ path ∧ ' ' ∉ query
  method_short : method.length < httpdMaxMethod
  path_short : path.length < httpdMaxPath
  query_short : query.length < httpdMaxQuery
  body_short : body.length < httpdMaxBody
  head_short : (writeHead '\r' '\n' (firstLine method path query version :: fields)).length ≤ rawRoom
  line_clean : '\r' ∉ firstLine method path query version ∧ '\x00' ∉ firstLine method path query version
  fields_clean : ∀ line ∈ fields, Line '\r' line ∧ '\x00' ∉ line
  framed : Framed fields body.length

/-! Its Content-Length. -/

theorem strcasestr_line {line : CString} (h : httpdStrcasestr line contentLengthName = none) (t : CString) :
    httpdStrcasestr (line ++ '\r' :: '\n' :: t) contentLengthName =
      (httpdStrcasestr t contentLengthName).map (· + (line.length + 2)) := by
  have hr : '\r' ∉ contentLengthName.map Char.toLower := by decide
  have hn : '\n' ∉ contentLengthName.map Char.toLower := by decide
  have hne : contentLengthName.map Char.toLower ≠ [] := by decide
  have hnil : search (contentLengthName.map Char.toLower) [] = none := by decide
  rw [httpdStrcasestr] at h
  have hcrlf : ('\r' :: '\n' :: t).map Char.toLower = '\r' :: '\n' :: t.map Char.toLower := rfl
  have hbehind := search_apart hn hne hnil (t.map Char.toLower)
  rw [List.nil_append] at hbehind
  rw [httpdStrcasestr, List.map_append, hcrlf, search_apart hr hne h, hbehind, Option.map_map, List.length_map]
  congr 1
  funext k
  change k + 1 + (line.length + 1) = k + (line.length + 2)
  omega

theorem strcasestr_lines {lines : List CString} (h : ∀ line ∈ lines, httpdStrcasestr line contentLengthName = none)
    (t : CString) : httpdStrcasestr (lines.flatMap (· ++ crlf) ++ t) contentLengthName =
      (httpdStrcasestr t contentLengthName).map (· + (lines.flatMap (· ++ crlf)).length) := by
  induction lines with
  | nil => simp
  | cons line lines ih =>
      obtain ⟨hfirst, hrest⟩ := List.forall_mem_cons.1 h
      have htext : (line :: lines).flatMap (· ++ crlf) ++ t =
          line ++ '\r' :: '\n' :: (lines.flatMap (· ++ crlf) ++ t) := by
        simp [crlf]
      have hlen : ((line :: lines).flatMap (· ++ crlf)).length = (lines.flatMap (· ++ crlf)).length + (line.length + 2) := by
        simp only [List.flatMap_cons, List.length_append]
        have htwo : crlf.length = 2 := rfl
        omega
      rw [htext, strcasestr_line hfirst, ih hrest, Option.map_map, hlen]
      congr 1
      funext k
      change k + (lines.flatMap (· ++ crlf)).length + (line.length + 2) = _
      omega

/-- A number between blanks, and any text behind that does not go on with a digit. -/
theorem atoi_decimal {n : ℕ} (h : n < 2 ^ 31) {lead : CString} (hlead : ∀ c ∈ lead, isSpace c = true) {c : Char}
    (hc : digit 10 c = none) (rest : CString) : IqParams.atoi (lead ++ (decimal n ++ c :: rest)) = Int32.ofNat n := by
  have hdigits := decimal_digits n
  have hown : skipSpace (decimal n) = decimal n := by
    cases hd : decimal n with
    | nil => exact absurd hd (decimal_ne n)
    | cons c ds =>
        rw [skipSpace, UriGrammar.not_space_of_isDigit (hdigits c (hd ▸ List.mem_cons_self))]
        rfl
  have hskip : skipSpace (lead ++ decimal n) = decimal n := UriGrammar.skipSpace_blanks hlead hown
  have hnumber : skipSpace (lead ++ decimal n) ≠ [] := by
    rw [hskip]
    exact decimal_ne n
  have hread := SaveLoad.takeDigits_toDigits n []
  rw [List.append_nil] at hread
  rw [← List.append_assoc, IqParams.atoi_stop hc hnumber, atoi_signed, hskip, UriGrammar.takeSign_digits hdigits]
  dsimp only
  rw [decimal, hread, takeDigits, signed, if_neg Bool.false_ne_true, if_neg (Nat.not_le_of_lt h)]

theorem announced_length {n : ℕ} (h : n < 2 ^ 31) {before : List CString} {line : CString} (hline : LengthLine n line)
    (hbefore : ∀ other ∈ before, httpdStrcasestr other contentLengthName = none) (rest : CString) :
    announced (before.flatMap (· ++ crlf) ++ line ++ '\r' :: rest) = Int32.ofNat n := by
  obtain ⟨name, lead, trail, rfl, hname, hblank⟩ := hline
  have hlen : name.length = 14 := by
    rw [← List.length_map Char.toLower, hname]
    rfl
  have hfirst : httpdStrcasestr (name ++ [':']) contentLengthName = some 0 := by
    have hlower : (name ++ [':']).map Char.toLower = contentLengthName.map Char.toLower := by
      rw [List.map_append, hname]
      decide
    rw [httpdStrcasestr, hlower]
    decide
  have hfound : httpdStrcasestr (before.flatMap (· ++ crlf) ++ (name ++ [':'])) contentLengthName =
      some (before.flatMap (· ++ crlf)).length := by
    rw [strcasestr_lines hbefore, hfirst, Option.map_some, Nat.zero_add]
  have htext : before.flatMap (· ++ crlf) ++ (name ++ ':' :: (lead ++ (decimal n ++ trail))) ++ '\r' :: rest =
      before.flatMap (· ++ crlf) ++ (name ++ [':']) ++ (lead ++ (decimal n ++ (trail ++ '\r' :: rest))) := by
    simp
  have hdrop : (before.flatMap (· ++ crlf) ++ (name ++ [':'])).drop ((before.flatMap (· ++ crlf)).length + 15) = [] := by
    apply List.drop_eq_nil_of_le
    rw [List.length_append, List.length_append, hlen]
    exact Nat.le_refl _
  have hspace : ∀ c ∈ lead, isSpace c = true := by
    intro c hc
    rcases hblank c (List.mem_append_left trail hc) with rfl | rfl <;> decide
  rw [htext, announced_found hfound, hdrop, List.nil_append]
  cases trail with
  | nil => exact atoi_decimal h hspace (by decide) rest
  | cons c trail =>
      have hc : digit 10 c = none := by
        rcases hblank c (by simp) with rfl | rfl <;> decide
      exact atoi_decimal h hspace hc (trail ++ '\r' :: rest)

theorem clampLength_ofNat {n : ℕ} (h : n < httpdMaxBody) : clampLength (Int32.ofNat n) = n := by
  have hmax : httpdMaxBody = 8192 := rfl
  have hint : (Int32.ofNat n).toInt = n := Int32.toInt_ofNat_of_lt (by omega)
  have hneg : ¬Int32.ofNat n < 0 := by
    rw [Int32.lt_iff_toInt_lt, hint]
    exact Int.not_lt.2 (Int.natCast_nonneg n)
  rw [clampLength, if_neg hneg, hint, Int.toNat_natCast, if_neg (Nat.not_le_of_lt h)]

namespace ClientRequest

variable (r : ClientRequest)

def line : CString := firstLine r.method r.path r.query r.version

def head : CString := writeHead '\r' '\n' (r.line :: r.fields)

def text : List Char := r.head ++ r.body

/-- What the server makes of it. -/
def received : HttpRequest := ⟨r.method, r.path, r.query, r.body⟩

theorem head_plain : '\x00' ∉ r.head := by
  have hlines : ∀ line ∈ r.line :: r.fields, '\x00' ∉ line :=
    List.forall_mem_cons.2 ⟨r.line_clean.2, fun line hline => (r.fields_clean line hline).2⟩
  rw [head]
  generalize r.line :: r.fields = lines at hlines
  induction lines with
  | nil => decide
  | cons line lines ih =>
      obtain ⟨hfirst, hrest⟩ := List.forall_mem_cons.1 hlines
      simp [writeHead, hfirst, ih hrest]

theorem requestLine_line : requestLine r.line = some (r.method, r.path, r.query) := by
  obtain ⟨hmethod, hpath, hmark, hquery⟩ := r.word
  have htarget : ' ' ∉ r.path ++ (if r.query = [] then [] else '?' :: r.query) := by
    split <;> simp [hpath, hquery]
  have huri : (r.path ++ (if r.query = [] then [] else '?' :: r.query) ++ ' ' :: r.version).takeWhile (· ≠ ' ') =
      r.path ++ (if r.query = [] then [] else '?' :: r.query) := takeWhile_found htarget _
  have hm : r.method.take (httpdMaxMethod - 1) = r.method := List.take_of_length_le (Nat.le_sub_one_of_lt r.method_short)
  have hp : r.path.take (httpdMaxPath - 1) = r.path := List.take_of_length_le (Nat.le_sub_one_of_lt r.path_short)
  have hq : r.query.take (httpdMaxQuery - 1) = r.query := List.take_of_length_le (Nat.le_sub_one_of_lt r.query_short)
  rw [requestLine, line, firstLine, cutAt_found hmethod, Option.map_some]
  dsimp only
  rw [huri]
  by_cases hnone : r.query = []
  · rw [if_pos hnone, List.append_nil, cutAt_eq, if_neg hmark]
    simp [hm, hp, hnone]
  · rw [if_neg hnone, cutAt_found hmark]
    simp [hm, hp, hq]

/-! Where its parts are in the stream. -/

theorem head_length : 4 ≤ r.head.length := by
  have hrest : r.fields.length < (writeHead '\r' '\n' r.fields).length := length_writeHead r.fields
  simp only [head, writeHead, List.length_append, List.length_cons]
  cases hfields : r.fields with
  | nil => simp [writeHead]
  | cons _ _ =>
      rw [hfields, List.length_cons] at hrest
      omega

theorem text_take : r.text.take (r.head.length - 4 + 4) = r.head := by
  have hlen := r.head_length
  have hsum : r.head.length - 4 + 4 = r.head.length := by omega
  rw [text, hsum, List.take_left']
  rfl

theorem headed : Headed r.text (r.head.length - 4) r.line.length where
  blank := by
    have hne : '\r' ≠ '\n' := by decide
    have hfound : search blankLine r.text = some (r.head.length - 4) :=
      search_blank hne r.line_clean.1 (fun line hline => (r.fields_clean line hline).1) r.body
    have hlen := r.head_length
    have hshort : r.head.length ≤ rawRoom := r.head_short
    have hfour : blankLine.length = 4 := rfl
    exact search_take hfound (by omega)
  line := by
    rw [r.text_take, head, writeHead]
    exact search_line r.line_clean.1 _
  plain := by
    rw [r.text_take]
    exact r.head_plain

theorem line_taken : r.text.take r.line.length = r.line := by
  rw [text, head, writeHead, List.append_assoc, List.take_left']
  rfl

/-- What the server sees behind the request line. -/
theorem seen_fields {n : ℕ} (hn : r.head.length - 4 + 4 ≤ n) : ∃ more,
    seen r.text r.line.length n = writeHead '\r' '\n' r.fields ++ more ∧ (r.body = [] → more = []) := by
  refine ⟨cText ((r.text.take n).drop (r.head.length - 4 + 4)), ?_, ?_⟩
  · rw [r.headed.seen_eq hn, r.text_take, head, writeHead, List.drop_append, List.drop_eq_nil_of_le (by omega),
      List.nil_append]
    have htwo : r.line.length + 2 - r.line.length = 2 := by omega
    rw [htwo]
    rfl
  · intro hnone
    have hlen := r.head_length
    have hdrop : (r.text.take n).drop (r.head.length - 4 + 4) = [] := by
      apply List.drop_eq_nil_of_le
      rw [List.length_take, text, hnone, List.append_nil]
      omega
    rw [hdrop]
    rfl

/-- The body as it was sent, wherever the reads of the head ended. -/
theorem body_seen {n : ℕ} (hcut : Cut r.text n) : bodyAt r.text (place r.line.length (seen r.text r.line.length n)) = r.body := by
  have hn := cut_ge r.headed.blank hcut
  obtain ⟨more, hseen, hmore⟩ := r.seen_fields hn
  rcases r.framed with ⟨hzero, hunnamed⟩ | ⟨before, line, after, hfields, hline, hbefore⟩
  · have hbody : r.body = [] := List.eq_nil_of_length_eq_zero hzero
    have hnone : announced (seen r.text r.line.length n) = 0 := by
      have hlines := strcasestr_lines hunnamed crlf
      have hblank : httpdStrcasestr crlf contentLengthName = none := by decide
      have hwritten : writeHead '\r' '\n' r.fields = r.fields.flatMap (· ++ crlf) ++ crlf := by
        have happend : writeHead '\r' '\n' (r.fields ++ []) = _ := writeHead_append r.fields []
        rwa [List.append_nil] at happend
      rw [hblank, ← hwritten] at hlines
      rw [hseen, hmore hbody, List.append_nil, announced, hlines]
      rfl
    rw [place, hnone, hbody]
    cases search blankLine (seen r.text r.line.length n) <;> rfl
  · have hlong : r.body.length < 2 ^ 31 := Nat.lt_trans r.body_short (by decide)
    have hlength : announced (seen r.text r.line.length n) = Int32.ofNat r.body.length := by
      have hwritten : writeHead '\r' '\n' r.fields = before.flatMap (· ++ crlf) ++ writeHead '\r' '\n' (line :: after) := by
        rw [hfields]
        exact writeHead_append before (line :: after)
      rw [hseen, hwritten, writeHead, ← List.append_assoc, List.append_assoc _ _ more]
      exact announced_length hlong hline hbefore _
    have hbehind : r.line.length + 2 ≤ r.head.length - 4 := by
      obtain ⟨name, lead, trail, rfl, hname, -⟩ := hline
      have hlen : name.length = 14 := by
        rw [← List.length_map Char.toLower, hname]
        rfl
      simp only [head, hfields, writeHead, writeHead_append, List.length_append, List.length_cons, hlen]
      omega
    rw [r.headed.place_headers hn hbehind, hlength, clampLength_ofNat r.body_short]
    have hlen := r.head_length
    have hsum : r.head.length - 4 + 4 = r.head.length := by omega
    rw [bodyAt, hsum, text, List.drop_left', List.take_length]
    rfl

/-- However its bytes arrive, the server takes the request for what it is. -/
theorem parsed {feed : Feed} (h : Split r.text feed) : parseRequest feed = some r.received := by
  obtain ⟨n, hcut, hparse⟩ := parseRequest_cut h
  rw [hparse, r.headed.answer_eq hcut, r.line_taken, r.body_seen hcut, request, r.requestLine_line]
  rfl

end ClientRequest

theorem dispatch_most_specific {route : HttpRoute} {req : HttpRequest} (h : MostSpecific route req) :
    dispatch handle apiRoutes req = handle route.handler req := by
  rw [dispatch, (routeFor_apiRoutes req route).2 h]

theorem dispatch_unserved {req : HttpRequest} (h : ∀ route ∈ apiRoutes, ¬Serves route req) :
    dispatch handle apiRoutes req = noRoute := by
  cases hroute : routeFor apiRoutes req with
  | none => rw [dispatch, hroute]
  | some route =>
      obtain ⟨hmem, hserves, -⟩ := (routeFor_apiRoutes req route).1 hroute
      exact absurd hserves (h route hmem)

/-- A request that arrives in any pieces and an answer that leaves in any pieces,
once the routes are registered: where the sends all went out, the client reads
what the most specific route answers, or that nothing serves the request; else
it reads no reply. -/
theorem exchange {Cfg Cb : Type} (first : Call Cfg Cb) (rest : List (Call Cfg Cb)) (req : ClientRequest) {feed : Feed}
    (hfeed : Split req.text feed) (sends : List SendResult) :
    let served := serve handle (registrations ({} : Api Cfg Cb) (first :: rest)).routes feed sends
    (∀ route, MostSpecific route req.received →
      readReply served.2.wire = if served.1 = 0 then some (handle route.handler req.received).reply else none) ∧
      ((∀ route ∈ apiRoutes, ¬Serves route req.received) →
        readReply served.2.wire = if served.1 = 0 then some noRoute.reply else none) := by
  have hserved : serve handle (registrations ({} : Api Cfg Cb) (first :: rest)).routes feed sends =
      httpdSend (dispatch handle apiRoutes req.received) ⟨[], sends⟩ := by
    rw [serve, req.parsed hfeed, registrations_table]
  dsimp only
  rw [hserved]
  constructor
  · intro route hroute
    rw [dispatch_most_specific handle hroute]
    exact httpdSend_read _ sends
  · intro hnone
    rw [dispatch_unserved handle hnone]
    exact httpdSend_read _ sends

/-! A request with a body as a browser sends it, in two pieces, answered in
three sends. -/

def importRequest : ClientRequest where
  method := "POST".toList
  path := "/api/v1/iq/import".toList
  query := []
  version := "HTTP/1.1".toList
  fields := ["Host: venc".toList, "Accept: */*".toList, "content-length: 2".toList,
    "Content-Type: application/json".toList]
  body := "[]".toList
  word := by decide
  method_short := by decide
  path_short := by decide
  query_short := by decide
  body_short := by decide
  head_short := by decide
  line_clean := by decide
  fields_clean := by
    simp only [List.forall_mem_cons, List.not_mem_nil, false_implies, implies_true, and_true]
    refine ⟨⟨⟨?_, ?_⟩, ?_⟩, ⟨⟨?_, ?_⟩, ?_⟩, ⟨⟨?_, ?_⟩, ?_⟩, ⟨⟨?_, ?_⟩, ?_⟩⟩ <;> decide
  framed := by
    refine .inr ⟨["Host: venc".toList, "Accept: */*".toList], "content-length: 2".toList,
      ["Content-Type: application/json".toList], rfl, ⟨"content-length".toList, [' '], [], by decide, rfl, by simp⟩,
      ?_⟩
    decide

def accepted : Answer where
  content := .json
  status := 200
  body := "[]".toList
  status_lt := by decide
  body_lt := by decide

def inTwo : Feed := [importRequest.text.take 20, importRequest.text.drop 20]

theorem inTwo_splits : Split importRequest.text inTwo := by
  refine ⟨by decide, ?_⟩
  simp [inTwo]

theorem exchange_import :
    readReply (serve (fun _ _ => accepted) (registrations ({} : Api Unit Unit) [⟨(), none, none⟩]).routes inTwo
      [.taken 10, .interrupted, .taken 100, .taken 100]).2.wire = some accepted.reply := by
  have himport : MostSpecific ⟨"POST".toList, "/api/v1/iq/import".toList, .iqImport⟩ importRequest.received :=
    (routeFor_apiRoutes _ _).1 (by decide)
  have hread := (exchange (fun _ _ => accepted) (⟨(), none, none⟩ : Call Unit Unit) [] importRequest inTwo_splits
    [.taken 10, .interrupted, .taken 100, .taken 100]).1 _ himport
  rw [if_pos (by decide +kernel)] at hread
  exact hread

end WaybeamVenc.HttpExchange
