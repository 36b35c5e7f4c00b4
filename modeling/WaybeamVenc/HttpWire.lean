import WaybeamVenc.ApiBodies
import WaybeamVenc.HeaderText
import WaybeamVenc.HttpParse

namespace WaybeamVenc.HttpWire

open CNumber ApiBodies HeaderText HttpParse SetQuery

/-- What a call of send does with the bytes it is given. -/
inductive SendResult
  | taken (n : ℕ)
  | interrupted
  | failed
deriving DecidableEq

/-- The bytes a client's connection carried, and how its next sends go; behind
the last the connection is gone. -/
structure Socket where
  wire : List Char
  sends : List SendResult

def writeSocketAll (buf wire : List Char) : List SendResult → Int32 × Socket
  | [] => if buf = [] then (0, ⟨wire, []⟩) else (-1, ⟨wire, []⟩)
  | s :: sends =>
    if buf = [] then (0, ⟨wire, s :: sends⟩)
    else
      match s with
      | .interrupted => writeSocketAll buf wire sends
      | .failed => (-1, ⟨wire, sends⟩)
      | .taken 0 => (-1, ⟨wire, sends⟩)
      | .taken (n + 1) => writeSocketAll (buf.drop (n + 1)) (wire ++ buf.take (n + 1)) sends

def decimal (n : ℕ) : CString := Nat.toDigits 10 n

def statusText : ℕ → CString
  | 200 => "OK".toList
  | 400 => "Bad Request".toList
  | 404 => "Not Found".toList
  | 405 => "Method Not Allowed".toList
  | 409 => "Conflict".toList
  | 500 => "Internal Server Error".toList
  | 501 => "Not Implemented".toList
  | _ => "Unknown".toList

/-- The header of send_response, and with an encoding the one of
httpd_send_html_gz. -/
def headerText (status : ℕ) (contentType encoding : CString) (len : ℕ) : CString :=
  "HTTP/1.0 ".toList ++ (decimal status ++ (' ' :: (statusText status ++ (crlf ++
    ("Content-Type: ".toList ++ (contentType ++ (crlf ++
      (encoding ++
        ("Content-Length: ".toList ++ (decimal len ++ (crlf ++
          ("Connection: close".toList ++ blankLine))))))))))))

def sendHeaded (status : ℕ) (contentType encoding : CString) (body : List Char) (sock : Socket) : Int32 × Socket :=
  let (ret, sock) := writeSocketAll (snprintf 512 (headerText status contentType encoding body.length)) sock.wire sock.sends
  if ret ≠ 0 then (-1, sock)
  else
    let (ret, sock) := writeSocketAll body sock.wire sock.sends
    if ret ≠ 0 then (-1, sock) else (0, sock)

def sendResponse (status : ℕ) (contentType : CString) (body : List Char) (sock : Socket) : Int32 × Socket :=
  sendHeaded status contentType [] body sock

/-- The functions a handler answers with. -/
inductive Content
  | json | text | html | htmlGz
deriving DecidableEq

def Content.type : Content → CString
  | .json => "application/json".toList
  | .text => "text/plain; charset=utf-8".toList
  | .html | .htmlGz => "text/html; charset=utf-8".toList

def Content.encoding : Content → CString
  | .htmlGz => "Content-Encoding: gzip".toList ++ crlf
  | _ => []

/-- A handler's answer, its numbers in the range of an int. -/
structure Answer where
  content : Content
  status : ℕ
  body : List Char
  status_lt : status < 2 ^ 31
  body_lt : body.length < 2 ^ 31

def httpdSend (a : Answer) (sock : Socket) : Int32 × Socket :=
  match a.content with
  | .htmlGz => sendHeaded a.status a.content.type a.content.encoding a.body sock
  | _ => sendResponse a.status a.content.type a.body sock

/-! What a client makes of the bytes. -/

structure Reply where
  status : ℕ
  fields : List (CString × CString)
  body : List Char
deriving DecidableEq

def readStatus (line : CString) : Option ℕ :=
  (cutAt ' ' line).bind fun (version, rest) =>
    let code := rest.takeWhile Char.isDigit
    if version = "HTTP/1.0".toList ∧ code ≠ [] then some (Nat.ofDigitChars 10 code 0) else none

def readField (line : CString) : Option (CString × CString) :=
  (cutAt ':' line).map fun (name, value) => (name, value.dropWhile (· = ' '))

def readNumber (s : CString) : Option ℕ :=
  if s ≠ [] ∧ s.all Char.isDigit then some (Nat.ofDigitChars 10 s 0) else none

/-- The reply in what came before the end of the connection, none if its head
or its body is not whole. -/
def readReply (wire : List Char) : Option Reply :=
  match readHead '\r' '\n' (wire.length + 1) wire with
  | some (line :: lines, rest) =>
    let fields := lines.filterMap readField
    (readStatus line).bind fun status =>
      ((fields.lookup "Content-Length".toList).bind readNumber).bind fun len =>
        if rest.length < len then none else some ⟨status, fields, rest.take len⟩
  | _ => none

def contentFields (c : Content) : List (CString × CString) :=
  ("Content-Type".toList, c.type) :: if c = .htmlGz then [("Content-Encoding".toList, "gzip".toList)] else []

def Answer.reply (a : Answer) : Reply :=
  { status := a.status
    fields := contentFields a.content ++
      [("Content-Length".toList, decimal a.body.length), ("Connection".toList, "close".toList)]
    body := a.body }

/-! What a run of sends leaves on the wire. -/

/-- A part of the bytes behind those that were there, all of them with 0. -/
structure Wrote (buf wire : List Char) (r : Int32 × Socket) : Prop where
  code : r.1 = 0 ∨ r.1 = -1
  bytes : ∃ k, k ≤ buf.length ∧ r.2.wire = wire ++ buf.take k ∧ (r.1 = 0 ↔ k = buf.length)

theorem Wrote.none {buf wire : List Char} (h : buf ≠ []) (sends : List SendResult) : Wrote buf wire (-1, ⟨wire, sends⟩) := by
  refine ⟨Or.inr rfl, 0, Nat.zero_le _, by simp, ?_⟩
  have hpos := List.length_pos_iff.2 h
  simp only [show ¬((-1 : Int32) = 0) by decide, false_iff]
  omega

theorem writeSocketAll_wrote (buf wire : List Char) (sends : List SendResult) :
    Wrote buf wire (writeSocketAll buf wire sends) := by
  induction sends generalizing buf wire with
  | nil =>
      by_cases hbuf : buf = []
      · simp only [writeSocketAll, hbuf, if_true]
        exact ⟨Or.inl rfl, 0, by simp⟩
      · simp only [writeSocketAll, hbuf, if_false]
        exact Wrote.none hbuf []
  | cons s sends ih =>
      by_cases hbuf : buf = []
      · simp only [writeSocketAll, hbuf, if_true]
        exact ⟨Or.inl rfl, 0, by simp⟩
      · simp only [writeSocketAll, hbuf, if_false]
        cases s with
        | interrupted => exact ih buf wire
        | failed => exact Wrote.none hbuf sends
        | taken n =>
            cases n with
            | zero => exact Wrote.none hbuf sends
            | succ n =>
                obtain ⟨hcode, k, hk, hwire, hall⟩ := ih (buf.drop (n + 1)) (wire ++ buf.take (n + 1))
                rw [List.length_drop] at hk
                refine ⟨hcode, min (n + 1) buf.length + k, by omega, ?_, ?_⟩
                · have htake : buf.take (min (n + 1) buf.length + k) = buf.take (n + 1) ++ (buf.drop (n + 1)).take k := by
                    by_cases hn : n + 1 ≤ buf.length
                    · rw [Nat.min_eq_left hn, List.take_add]
                    · rw [Nat.min_eq_right (by omega), List.drop_eq_nil_of_le (by omega), List.take_nil, List.append_nil,
                        List.take_of_length_le (by omega), List.take_of_length_le (by omega)]
                  rw [hwire, htake, List.append_assoc]
                · rw [hall, List.length_drop]
                  omega

theorem Wrote.whole {buf wire : List Char} {r : Int32 × Socket} (h : Wrote buf wire r) (hret : r.1 = 0) :
    r.2.wire = wire ++ buf := by
  obtain ⟨-, k, -, hwire, hall⟩ := h
  rw [hwire, hall.1 hret, List.take_length]

/-- One buffer behind another is like the two in one. -/
theorem Wrote.behind {head body wire : List Char} {r r' : Int32 × Socket} (h : Wrote head wire r) (hret : r.1 = 0)
    (h' : Wrote body r.2.wire r') : Wrote (head ++ body) wire r' := by
  obtain ⟨hcode, k, hk, hwire, hall⟩ := h'
  refine ⟨hcode, head.length + k, ?_, ?_, ?_⟩
  · rw [List.length_append]
    omega
  · rw [hwire, h.whole hret, List.take_length_add_append, List.append_assoc]
  · rw [hall, List.length_append]
    omega

theorem Wrote.stopped {head wire : List Char} {r : Int32 × Socket} (h : Wrote head wire r) (hret : r.1 ≠ 0)
    (body : List Char) : Wrote (head ++ body) wire (-1, r.2) := by
  obtain ⟨-, k, hk, hwire, hall⟩ := h
  have hless : k ≠ head.length := fun hk => hret (hall.2 hk)
  refine ⟨Or.inr rfl, k, ?_, ?_, ?_⟩
  · rw [List.length_append]
    omega
  · rw [hwire, List.take_append_of_le_length hk]
  · simp only [show ¬((-1 : Int32) = 0) by decide, false_iff, List.length_append]
    omega

theorem Wrote.code_kept {buf wire : List Char} {r : Int32 × Socket} (h : Wrote buf wire r) :
    (if r.1 ≠ 0 then (-1, r.2) else (0, r.2)) = r := by
  obtain ⟨code, sock⟩ := r
  rcases h.code with rfl | rfl <;> rfl

theorem sendHeaded_wrote (status : ℕ) (contentType encoding : CString) (body : List Char) (sock : Socket) :
    Wrote (snprintf 512 (headerText status contentType encoding body.length) ++ body) sock.wire
      (sendHeaded status contentType encoding body sock) := by
  have hhead := writeSocketAll_wrote (snprintf 512 (headerText status contentType encoding body.length)) sock.wire sock.sends
  rw [sendHeaded]
  generalize writeSocketAll (snprintf 512 (headerText status contentType encoding body.length)) sock.wire sock.sends = r at hhead
  by_cases hret : r.1 = 0
  · have hbody := writeSocketAll_wrote body r.2.wire r.2.sends
    simp only [hret, ne_eq, not_true_eq_false, if_false]
    rw [hbody.code_kept]
    exact hhead.behind hret hbody
  · simp only [ne_eq, hret, not_false_eq_true, if_true]
    exact hhead.stopped hret body

/-! The header as lines. -/

theorem decimal_digits (n : ℕ) : ∀ c ∈ decimal n, c.isDigit = true := JsonNumber.isDigit_toDigits

theorem decimal_ne (n : ℕ) : decimal n ≠ [] := by simp [decimal]

theorem decimal_short {n : ℕ} (h : n < 2 ^ 31) : (decimal n).length ≤ 10 :=
  (Nat.length_toDigits_le_iff (by decide) (by decide)).2 (Nat.lt_trans h (by decide))

theorem statusText_short (status : ℕ) : (statusText status).length ≤ 21 := by
  unfold statusText
  split <;> decide

theorem statusText_clean (status : ℕ) : '\r' ∉ statusText status := by
  unfold statusText
  split <;> decide

/-- The status line and the fields of a header. -/
def statusLine (status : ℕ) : CString := "HTTP/1.0 ".toList ++ decimal status ++ ' ' :: statusText status

def fieldLine (f : CString × CString) : CString := f.1 ++ ':' :: ' ' :: f.2

def Answer.header (a : Answer) : CString := headerText a.status a.content.type a.content.encoding a.body.length

theorem header_lines (a : Answer) :
    a.header = writeHead '\r' '\n' (statusLine a.status :: a.reply.fields.map fieldLine) := by
  obtain ⟨content, status, body, _, _⟩ := a
  have htype : "Content-Type: ".toList = "Content-Type".toList ++ [':', ' '] := by decide
  have hlength : "Content-Length: ".toList = "Content-Length".toList ++ [':', ' '] := by decide
  have hclose : "Connection: close".toList = "Connection".toList ++ [':', ' '] ++ "close".toList := by decide
  have hgzip : "Content-Encoding: gzip".toList = "Content-Encoding".toList ++ [':', ' '] ++ "gzip".toList := by decide
  unfold Answer.header headerText statusLine
  rw [htype, hlength, hclose]
  cases content with
  | htmlGz =>
      unfold Answer.reply contentFields Content.type Content.encoding
      rw [hgzip]
      generalize "HTTP/1.0 ".toList = version
      simp [writeHead, fieldLine, crlf, blankLine]
  | json | text | html =>
      unfold Answer.reply contentFields Content.type Content.encoding
      generalize "HTTP/1.0 ".toList = version
      simp [writeHead, fieldLine, crlf, blankLine]

/-- The header fits its buffer. -/
theorem header_fits (a : Answer) : a.header.length < 512 := by
  have hstatus := decimal_short a.status_lt
  have hlen := decimal_short a.body_lt
  have htext := statusText_short a.status
  have htype : a.content.type.length ≤ 25 := by cases a.content <;> decide
  have hencoding : a.content.encoding.length ≤ 24 := by cases a.content <;> decide
  unfold Answer.header headerText
  simp only [crlf, blankLine, List.length_append, List.length_cons, List.length_nil, String.length_toList]
  have h1 : "HTTP/1.0 ".length = 9 := rfl
  have h2 : "Content-Type: ".length = 14 := rfl
  have h3 : "Content-Length: ".length = 16 := rfl
  have h4 : "Connection: close".length = 17 := rfl
  omega

/-- All that a handler's answer puts on the wire. -/
def Answer.text (a : Answer) : List Char := a.header ++ a.body

theorem httpdSend_wrote (a : Answer) (sock : Socket) : Wrote a.text sock.wire (httpdSend a sock) := by
  have hsent := sendHeaded_wrote a.status a.content.type a.content.encoding a.body sock
  have hwhole : snprintf 512 a.header = a.header := List.take_of_length_le (Nat.le_of_lt_succ (header_fits a))
  have hsame : httpdSend a sock = sendHeaded a.status a.content.type a.content.encoding a.body sock := by
    rw [httpdSend]
    cases a.content <;> rfl
  rw [hsame, Answer.text, ← hwhole]
  exact hsent

/-! What the client reads. -/

theorem fieldLine_clean {f : CString × CString} (hname : '\r' ∉ f.1) (hvalue : '\r' ∉ f.2) : Line '\r' (fieldLine f) :=
  ⟨by simp [fieldLine], by simp [fieldLine, hname, hvalue]⟩

theorem decimal_clean (n : ℕ) : '\r' ∉ decimal n := fun h => absurd (decimal_digits n _ h) (by decide)

theorem reply_fields_clean (a : Answer) : ∀ f ∈ a.reply.fields, '\r' ∉ f.1 ∧ '\r' ∉ f.2 ∧ ':' ∉ f.1 ∧ f.2.head? ≠ some ' ' := by
  have hlen := decimal_clean a.body.length
  have hhead : (decimal a.body.length).head? ≠ some ' ' := by
    intro h
    have hdigit := decimal_digits a.body.length ' ' (List.mem_of_head? h)
    exact absurd hdigit (by decide)
  intro f hf
  simp only [Answer.reply, List.mem_append, List.mem_cons, List.not_mem_nil, or_false] at hf
  rcases hf with hcontent | rfl | rfl
  · revert f
    cases a.content <;> decide
  · exact ⟨(by decide : '\r' ∉ "Content-Length".toList), hlen, (by decide : ':' ∉ "Content-Length".toList), hhead⟩
  · decide

theorem head_lines_clean (a : Answer) : ∀ line ∈ statusLine a.status :: a.reply.fields.map fieldLine, Line '\r' line := by
  intro line hline
  rcases List.mem_cons.1 hline with rfl | hfield
  · unfold statusLine
    exact ⟨by simp, by simp [decimal_clean, statusText_clean]⟩
  · obtain ⟨f, hf, rfl⟩ := List.mem_map.1 hfield
    obtain ⟨hname, hvalue, -⟩ := reply_fields_clean a f hf
    exact fieldLine_clean hname hvalue

theorem cutAt_found {sep : Char} {x : CString} (hx : sep ∉ x) (y : CString) : cutAt sep (x ++ sep :: y) = some (x, y) := by
  induction x with
  | nil => simp [cutAt]
  | cons c x ih =>
      obtain ⟨hc, hx⟩ := not_or.1 (List.mem_cons.not.1 hx)
      simp [cutAt, Ne.symm hc, ih hx]

theorem readField_line {f : CString × CString} (hname : ':' ∉ f.1) (hvalue : f.2.head? ≠ some ' ') :
    readField (fieldLine f) = some f := by
  obtain ⟨name, value⟩ := f
  rw [readField, fieldLine, cutAt_found hname, Option.map_some]
  cases value with
  | nil => rfl
  | cons c value =>
      have hc : c ≠ ' ' := fun h => hvalue (congrArg some h)
      simp [hc]

theorem readFields (a : Answer) : (a.reply.fields.map fieldLine).filterMap readField = a.reply.fields := by
  have hclean := reply_fields_clean a
  generalize a.reply.fields = fields at hclean
  induction fields with
  | nil => rfl
  | cons f fields ih =>
      obtain ⟨⟨-, -, hname, hvalue⟩, hmore⟩ := List.forall_mem_cons.1 hclean
      rw [List.map_cons, List.filterMap_cons_some (readField_line hname hvalue), ih hmore]

theorem readStatus_line (status : ℕ) : readStatus (statusLine status) = some status := by
  have hspace : ' ' ∉ "HTTP/1.0".toList := by decide
  have hline : statusLine status = "HTTP/1.0".toList ++ ' ' :: (decimal status ++ ' ' :: statusText status) := by
    unfold statusLine
    simp
  have hcode : (decimal status ++ ' ' :: statusText status).takeWhile Char.isDigit = decimal status := by
    rw [List.takeWhile_append_of_pos (decimal_digits status)]
    simp
  rw [readStatus, hline, cutAt_found hspace, Option.bind_some]
  simp only [hcode, decimal_ne, ne_eq, not_false_eq_true, and_self, if_true]
  rw [decimal, Nat.ofDigitChars_ten_toDigits]

theorem readNumber_decimal (n : ℕ) : readNumber (decimal n) = some n := by
  have hall : (decimal n).all Char.isDigit = true := List.all_eq_true.2 (decimal_digits n)
  simp only [readNumber, hall, decimal_ne, ne_eq, not_false_eq_true, and_self, if_true]
  rw [decimal, Nat.ofDigitChars_ten_toDigits]

theorem lookup_length (a : Answer) : a.reply.fields.lookup "Content-Length".toList = some (decimal a.body.length) := by
  obtain ⟨content, status, body, _, _⟩ := a
  cases content <;> rfl

/-- What a client reads once the head of an answer and some of its body are there. -/
theorem readReply_head (a : Answer) {wire rest : List Char} (hhead : readHead '\r' '\n' (wire.length + 1) wire =
    some (statusLine a.status :: a.reply.fields.map fieldLine, rest)) :
    readReply wire = if rest.length < a.body.length then none else some ⟨a.status, a.reply.fields, rest.take a.body.length⟩ := by
  rw [readReply, hhead]
  dsimp only
  rw [readFields, readStatus_line, lookup_length]
  simp [readNumber_decimal]

theorem head_read (a : Answer) (rest : List Char) {fuel : ℕ} (hfuel : a.header.length < fuel) :
    readHead '\r' '\n' fuel (a.header ++ rest) = some (statusLine a.status :: a.reply.fields.map fieldLine, rest) := by
  rw [header_lines]
  apply readHead_written (head_lines_clean a)
  rw [header_lines] at hfuel
  exact Nat.lt_trans (length_writeHead _) hfuel

theorem text_read (a : Answer) : readHead '\r' '\n' (a.text.length + 1) a.text =
    some (statusLine a.status :: a.reply.fields.map fieldLine, a.body) := by
  apply head_read a a.body
  rw [Answer.text, List.length_append]
  omega

theorem readReply_whole (a : Answer) : readReply a.text = some a.reply := by
  rw [readReply_head a (text_read a)]
  simp [Answer.reply]

/-- Of an answer that broke off nothing is taken for a reply. -/
theorem readReply_broken (a : Answer) {wire : List Char} (hwire : wire <+: a.text) (hne : wire ≠ a.text) :
    readReply wire = none := by
  obtain ⟨more, hmore⟩ := hwire
  have hnil : more ≠ [] := by
    rintro rfl
    exact hne (by simpa using hmore)
  cases hhead : readHead '\r' '\n' (wire.length + 1) wire with
  | none => rw [readReply, hhead]
  | some found =>
      obtain ⟨lines, rest⟩ := found
      have hlen : wire.length + 1 ≤ a.text.length + 1 := by
        rw [← hmore, List.length_append]
        omega
      have hlater : readHead '\r' '\n' (a.text.length + 1) (wire ++ more) = some (lines, rest ++ more) :=
        readHead_append hlen hhead
      rw [hmore, text_read] at hlater
      obtain ⟨rfl, hbody⟩ := Prod.mk.inj (Option.some.inj hlater)
      rw [readReply_head a hhead, if_pos]
      have hpos := List.length_pos_iff.2 hnil
      rw [hbody, List.length_append]
      omega

/-- The return value and the client agree: 0 where the reply arrives as it was
sent, and else the client sees that it did not. -/
theorem httpdSend_read (a : Answer) (sends : List SendResult) :
    readReply (httpdSend a ⟨[], sends⟩).2.wire = if (httpdSend a ⟨[], sends⟩).1 = 0 then some a.reply else none := by
  have hwrote := httpdSend_wrote a ⟨[], sends⟩
  split
  · next hret =>
      rw [hwrote.whole hret, List.nil_append]
      exact readReply_whole a
  · next hret =>
      obtain ⟨-, k, hk, hwire, hall⟩ := hwrote
      rw [List.nil_append] at hwire
      apply readReply_broken a
      · rw [hwire]
        exact List.take_prefix k a.text
      · intro heq
        apply hret
        have hlen := congrArg List.length (hwire.symm.trans heq)
        rw [List.length_take] at hlen
        exact hall.2 (by omega)

end WaybeamVenc.HttpWire
