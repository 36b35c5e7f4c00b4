import WaybeamVenc.Json
import WaybeamVenc.SensorSelect

namespace WaybeamVenc.SensorModes

open CNumber JsonNumber JsonString Json SensorSelect

/-- A buffer on the heap: what was written, where the next byte goes, the size, and
whether every write so far began in front of its end. -/
structure Buffer where
  text : List Char
  off : ℕ
  cap : ℕ
  inside : Bool

variable (memory : ℕ → Bool)

/-- The loop of modes_json_grow, which doubles at most so often; memory says which
sizes realloc finds room for. Where it finds none, the buffer is freed as it is. -/
def modesJsonGrow (need : ℕ) : ℕ → Buffer → Except Buffer Buffer
  | 0, b => .ok b
  | n + 1, b =>
    if need ≤ b.cap - b.off then .ok b
    else if memory (b.cap * 2) then modesJsonGrow need n { b with cap := b.cap * 2 }
    else .error b

/-- off moves by the whole length of the text also where it does not fit. -/
def snprintf (t : CString) (b : Buffer) : Buffer :=
  { b with
    text := b.text ++ t.take (b.cap - b.off - 1)
    off := b.off + t.length
    inside := b.inside && decide (b.off < b.cap) }

def putChar (c : Char) (b : Buffer) : Buffer :=
  { b with text := b.text ++ [c], off := b.off + 1, inside := b.inside && decide (b.off < b.cap) }

/-- Room for a text, a comma if it is not the first, and the text. -/
def put (need : ℕ) (first : Bool) (t : CString) (b : Buffer) : Except Buffer Buffer :=
  (modesJsonGrow memory need need b).map fun b => snprintf t (if first then b else putChar ',' b)

/-- The text behind w bytes in a buffer of this size. -/
def jsonEscapeInto (dstSz : ℕ) : ℕ → CString → CString
  | _, [] => []
  | w, c :: src =>
    if w + 2 < dstSz then
      if c = '"' ∨ c = '\\' then '\\' :: c :: jsonEscapeInto dstSz (w + 2) src
      else if c.toNat < 32 then jsonEscapeInto dstSz w src
      else c :: jsonEscapeInto dstSz (w + 1) src
    else []

/-- A mode with its description, a string in 32 bytes. -/
structure ModeRes where
  res : SnrRes
  desc : CString
  desc_short : desc.length < 32

structure Listing where
  queryResCount : ℕ → Option UInt32
  getRes : ℕ → ℕ → Option ModeRes

def intText (z : ℤ) : CString := (if z < 0 then ['-'] else []) ++ Nat.toDigits 10 z.natAbs

def key (name : String) : CString := '"' :: (name.toList ++ ['"', ':'])

structure Request where
  forcedPad : Int32
  selectedPad : Int32
  selectedMode : Int32

variable (r : Request) (sensors : Listing)

def isSelected (p idx : ℕ) : Bool := (p : ℤ) = r.selectedPad.toInt && (UInt32.ofNat idx).toInt32 = r.selectedMode

def headText : CString :=
  '{' :: (key "ok" ++ "true".toList ++ ',' :: (key "data" ++ '{' :: (key "selected_pad" ++ intText r.selectedPad.toInt ++
    ',' :: (key "selected_mode" ++ intText r.selectedMode.toInt ++ ',' :: (key "pads" ++ ['['])))))

def padText (p : ℕ) : CString := '{' :: (key "pad" ++ intText p ++ ',' :: (key "modes" ++ ['[']))

def modeText (p idx : ℕ) (m : ModeRes) : CString :=
  '{' :: (key "index" ++ intText idx ++ ',' :: (key "width" ++ intText m.res.crop.width.toNat ++
    ',' :: (key "height" ++ intText m.res.crop.height.toNat ++ ',' :: (key "min_fps" ++ intText m.res.rates.minFps.toNat ++
      ',' :: (key "max_fps" ++ intText m.res.rates.maxFps.toNat ++
        ',' :: (key "desc" ++ '"' :: (jsonEscapeInto 96 0 m.desc ++ '"' ::
          ',' :: (key "selected" ++ (if isSelected r p idx then "true" else "false").toList ++ ['}']))))))))

def addMode (p : ℕ) (acc : Buffer × Bool) (idx : ℕ) : Except Buffer (Buffer × Bool) :=
  match sensors.getRes p idx with
  | none => .ok acc
  | some m => (put memory 512 acc.2 (modeText r p idx m) acc.1).map fun b => (b, false)

def addPad (acc : Buffer × Bool) (p : ℕ) : Except Buffer (Buffer × Bool) :=
  match sensors.queryResCount p with
  | none => .ok acc
  | some count =>
    (put memory 64 acc.2 (padText p) acc.1).bind fun b =>
      ((List.range count.toNat).foldlM (addMode memory r sensors p) (b, true)).bind fun modes =>
        (put memory 8 true [']', '}'] modes.1).map fun b => (b, false)

def pads : List ℕ := if 0 ≤ r.forcedPad ∧ r.forcedPad ≤ 3 then [r.forcedPad.toInt.toNat] else [0, 1, 2, 3]

/-- The buffer of sensor_modes_json at its end, or as it was when memory ran out. -/
def modesBuffer : Except Buffer Buffer :=
  if memory 4096 then
    ((pads r).foldlM (addPad memory r sensors) (snprintf (headText r) ⟨[], 0, 4096, true⟩, true)).bind fun acc =>
      put memory 8 true [']', '}', '}'] acc.1
  else .error ⟨[], 0, 0, true⟩

def sensorModesJson : Option CString := (modesBuffer memory r sensors).toOption.map Buffer.text

/-! What a writer leaves in the buffer. -/

/-- Every byte is there, and there is one more for the end of the string. -/
structure Full (b : Buffer) : Prop where
  length : b.text.length = b.off
  room : b.off < b.cap
  inside : b.inside = true

/-- No memory, or the text behind what was there; no write reached the end. -/
def Writes (t : List Char) (b : Buffer) (x : Except Buffer Buffer) : Prop :=
  (∃ b', x = .error b' ∧ b'.inside = true ∧ ∃ size, memory size = false) ∨
    ∃ b', x = .ok b' ∧ b'.text = b.text ++ t ∧ Full b'

theorem modesJsonGrow_spec (need : ℕ) {fuel : ℕ} {b : Buffer} (hb : Full b) (hfuel : need ≤ b.cap - b.off + fuel) :
    (∃ b', modesJsonGrow memory need fuel b = .error b' ∧ b'.inside = true ∧ ∃ size, memory size = false) ∨
      ∃ b', modesJsonGrow memory need fuel b = .ok b' ∧ b'.text = b.text ∧ b'.off = b.off ∧ Full b' ∧
        need ≤ b'.cap - b'.off := by
  induction fuel generalizing b with
  | zero => exact Or.inr ⟨b, rfl, rfl, rfl, hb, hfuel⟩
  | succ fuel ih =>
      have hroom := hb.room
      rw [modesJsonGrow]
      split
      · next henough => exact Or.inr ⟨b, rfl, rfl, rfl, hb, henough⟩
      · split
        · have hlarger : b.cap ≤ b.cap * 2 := Nat.le_mul_of_pos_right _ two_pos
          have hgrown : Full { b with cap := b.cap * 2 } := ⟨hb.length, Nat.lt_of_lt_of_le hroom hlarger, hb.inside⟩
          have hmore : need ≤ b.cap * 2 - b.off + fuel := by omega
          exact ih hgrown hmore
        · next hnone => exact Or.inl ⟨b, rfl, hb.inside, b.cap * 2, by simpa using hnone⟩

def comma (first : Bool) : List Char := if first then [] else [',']

theorem put_writes {need : ℕ} {t : CString} (ht : t.length + 1 < need) (first : Bool) {b : Buffer} (hb : Full b) :
    Writes memory (comma first ++ t) b (put memory need first t b) := by
  have hgrow := modesJsonGrow_spec memory need hb (Nat.le_add_left need _)
  rcases hgrow with ⟨b', hnone, hinside, hsize⟩ | ⟨b', hgrown, htext, hoff, hfull, hneed⟩
  · exact Or.inl ⟨b', by rw [put, hnone]; rfl, hinside, hsize⟩
  · refine Or.inr ⟨_, by rw [put, hgrown]; rfl, ?_⟩
    have hlen := hfull.length
    have hroom := hfull.room
    cases first with
    | true =>
        have hwhole : t.take (b'.cap - b'.off - 1) = t := List.take_of_length_le (by omega)
        refine ⟨?_, ?_, ?_, ?_⟩
        · simp [snprintf, comma, hwhole, htext]
        · simp [snprintf, hwhole, hlen]
        · simp only [snprintf, if_true]
          omega
        · simp [snprintf, hfull.inside, hroom]
    | false =>
        have hwhole : t.take (b'.cap - (b'.off + 1) - 1) = t := List.take_of_length_le (by omega)
        have hnext : b'.off + 1 < b'.cap := by omega
        refine ⟨?_, ?_, ?_, ?_⟩
        · simp [snprintf, putChar, comma, hwhole, htext]
        · simp [snprintf, putChar, hwhole, hlen]
          omega
        · simp only [snprintf, putChar, Bool.false_eq_true, if_false]
          omega
        · simp [snprintf, putChar, hfull.inside, hroom, hnext]

/-- Entries with commas between them, also in front of the first one if there were
some before. -/
def joined (first : Bool) (ts : List (List Char)) : List Char :=
  if first then List.intercalate [','] ts else ts.flatMap (',' :: ·)

theorem joined_cons (first : Bool) (t : List Char) (ts : List (List Char)) :
    joined first (t :: ts) = comma first ++ t ++ joined false ts := by
  cases first with
  | false => simp [joined, comma]
  | true =>
      have htail : ∀ (t : List Char) (ts : List (List Char)),
          List.intercalate [','] (t :: ts) = t ++ ts.flatMap (',' :: ·) := by
        intro t ts
        induction ts generalizing t with
        | nil => simp [List.intercalate_singleton]
        | cons u ts ih => simp [List.intercalate_cons_cons, ih]
      simp [joined, comma, htail]

/-- A step that writes one entry, or none and keeps the buffer. -/
def Enters {α : Type} (f : Buffer × Bool → α → Except Buffer (Buffer × Bool)) (item : α → Option (List Char)) (x : α) :
    Prop :=
  match item x with
  | none => ∀ acc, f acc x = .ok acc
  | some t => ∀ b first, Full b →
      ∃ y, f (b, first) x = y.map (fun b => (b, false)) ∧ Writes memory (comma first ++ t) b y

theorem foldlM_writes {α : Type} {f : Buffer × Bool → α → Except Buffer (Buffer × Bool)} {item : α → Option (List Char)}
    (l : List α) (h : ∀ x ∈ l, Enters memory f item x) {b : Buffer} (hb : Full b) (first : Bool) :
    Writes memory (joined first (l.filterMap item)) b ((l.foldlM f (b, first)).map Prod.fst) := by
  induction l generalizing b first with
  | nil => exact Or.inr ⟨b, rfl, by cases first <;> simp [joined, List.intercalate_nil], hb⟩
  | cons x l ih =>
      obtain ⟨hx, hl⟩ := List.forall_mem_cons.1 h
      rw [Enters] at hx
      cases hitem : item x with
      | none =>
          rw [hitem] at hx
          have hsame := hx (b, first)
          rw [List.foldlM_cons, hsame, List.filterMap_cons_none hitem]
          exact ih hl hb first
      | some t =>
          rw [hitem] at hx
          obtain ⟨y, hy, hwrites⟩ := hx b first hb
          rw [List.foldlM_cons, hy, List.filterMap_cons_some hitem, joined_cons]
          rcases hwrites with ⟨b', rfl, hinside, hsize⟩ | ⟨b', rfl, htext, hfull⟩
          · exact Or.inl ⟨b', rfl, hinside, hsize⟩
          · rcases ih hl hfull false with hfailed | ⟨b'', hok, htext', hfull'⟩
            · exact Or.inl hfailed
            · refine Or.inr ⟨b'', hok, ?_, hfull'⟩
              rw [htext', htext]
              simp

theorem Writes.bind {s t : List Char} {b : Buffer} {x : Except Buffer Buffer} {g : Buffer → Except Buffer Buffer}
    (h : Writes memory s b x) (hg : ∀ b', Full b' → Writes memory t b' (g b')) :
    Writes memory (s ++ t) b (x.bind g) := by
  rcases h with ⟨b', rfl, hinside, hsize⟩ | ⟨b', rfl, htext, hfull⟩
  · exact Or.inl ⟨b', rfl, hinside, hsize⟩
  · rcases hg b' hfull with hfailed | ⟨b'', hok, htext', hfull'⟩
    · exact Or.inl hfailed
    · refine Or.inr ⟨b'', hok, ?_, hfull'⟩
      rw [htext', htext, List.append_assoc]

/-- What comes after a loop reads the buffer alone. -/
theorem bind_fst (x : Except Buffer (Buffer × Bool)) (g : Buffer → Except Buffer Buffer) :
    (x.bind fun acc => g acc.1) = (x.map Prod.fst).bind g := by
  cases x <;> rfl

/-! How long the entries are. -/

theorem intText_length {z : ℤ} (h : z.natAbs < 2 ^ 32) : (intText z).length ≤ 11 := by
  have hdigits : (Nat.toDigits 10 z.natAbs).length ≤ 10 :=
    (Nat.length_toDigits_le_iff (by decide) (by decide)).2 (Nat.lt_trans h (by decide))
  rw [intText, List.length_append]
  split
  · rw [List.length_singleton]
    omega
  · rw [List.length_nil]
    omega

theorem key_length (name : String) : (key name).length = name.length + 3 := by
  simp [key, String.length_toList]

theorem jsonEscapeInto_length (dstSz w : ℕ) (src : CString) : (jsonEscapeInto dstSz w src).length ≤ 2 * src.length := by
  induction src generalizing w with
  | nil => simp [jsonEscapeInto]
  | cons c src ih =>
      have htwo := ih (w + 2)
      have hnone := ih w
      have hone := ih (w + 1)
      rw [jsonEscapeInto]
      split
      · split
        · simp only [List.length_cons]
          omega
        · split
          · simp only [List.length_cons]
            omega
          · simp only [List.length_cons]
            omega
      · simp

theorem modeText_length (p : ℕ) {idx : ℕ} (hidx : idx < 2 ^ 32) (m : ModeRes) :
    (modeText r p idx m).length + 1 < 512 := by
  have h0 : (intText idx).length ≤ 11 := intText_length hidx
  have h1 : (intText m.res.crop.width.toNat).length ≤ 11 :=
    intText_length (Nat.lt_trans m.res.crop.width.toNat_lt (by decide))
  have h2 : (intText m.res.crop.height.toNat).length ≤ 11 :=
    intText_length (Nat.lt_trans m.res.crop.height.toNat_lt (by decide))
  have h3 : (intText m.res.rates.minFps.toNat).length ≤ 11 := intText_length m.res.rates.minFps.toNat_lt
  have h4 : (intText m.res.rates.maxFps.toNat).length ≤ 11 := intText_length m.res.rates.maxFps.toNat_lt
  have hdesc := jsonEscapeInto_length 96 0 m.desc
  have hshort := m.desc_short
  have hflag : (if isSelected r p idx then "true" else "false").toList.length ≤ 5 := by
    split <;> decide
  have hnames : "index".length = 5 ∧ "width".length = 5 ∧ "height".length = 6 ∧ "min_fps".length = 7 ∧
      "max_fps".length = 7 ∧ "desc".length = 4 ∧ "selected".length = 8 := by decide
  unfold modeText
  simp only [List.length_cons, List.length_append, List.length_nil, key_length]
  omega

theorem padText_length {p : ℕ} (hp : p ≤ 3) : (padText p).length + 1 < 64 := by
  have hnum : (intText p).length ≤ 11 := intText_length (show (p : ℤ).natAbs < 2 ^ 32 by omega)
  have hnames : "pad".length = 3 ∧ "modes".length = 5 := by decide
  unfold padText
  simp only [List.length_cons, List.length_append, List.length_nil, key_length]
  omega

theorem headText_length : (headText r).length < 4096 := by
  have hbound : ∀ i : Int32, i.toInt.natAbs < 2 ^ 32 := by
    intro i
    have hle := i.toInt_le
    have hge := i.le_toInt
    have hmax : Int32.maxValue.toInt = 2147483647 := rfl
    have hmin : Int32.minValue.toInt = -2147483648 := rfl
    omega
  have hpad := intText_length (hbound r.selectedPad)
  have hmode := intText_length (hbound r.selectedMode)
  have hnames : "ok".length = 2 ∧ "data".length = 4 ∧ "selected_pad".length = 12 ∧ "selected_mode".length = 13 ∧
      "pads".length = 4 ∧ "true".toList.length = 4 := by decide
  unfold headText
  simp only [List.length_cons, List.length_append, List.length_nil, key_length]
  omega

theorem pads_le : ∀ p ∈ pads r, p ≤ 3 := by
  rw [pads]
  split
  · next hforced =>
      have hhigh : r.forcedPad.toInt ≤ 3 := Int32.le_iff_toInt_le.1 hforced.2
      intro p hp
      rw [List.mem_singleton.1 hp]
      omega
  · decide

/-! The whole text. -/

def modeItem (p idx : ℕ) : Option (List Char) := (sensors.getRes p idx).map (modeText r p idx)

def modeTexts (p : ℕ) (count : UInt32) : List (List Char) := (List.range count.toNat).filterMap (modeItem r sensors p)

def padItem (p : ℕ) : Option (List Char) :=
  (sensors.queryResCount p).map fun count => padText p ++ (joined true (modeTexts r sensors p count) ++ [']', '}'])

theorem addMode_enters (p : ℕ) {idx : ℕ} (hidx : idx < 2 ^ 32) :
    Enters memory (addMode memory r sensors p) (modeItem r sensors p) idx := by
  rw [Enters, modeItem]
  cases hres : sensors.getRes p idx with
  | none =>
      intro acc
      rw [addMode, hres]
  | some m =>
      intro b first hb
      refine ⟨put memory 512 first (modeText r p idx m) b, ?_, put_writes memory (modeText_length r p hidx m) first hb⟩
      rw [addMode, hres]

theorem addPad_enters {p : ℕ} (hp : p ≤ 3) : Enters memory (addPad memory r sensors) (padItem r sensors) p := by
  rw [Enters, padItem]
  cases hcount : sensors.queryResCount p with
  | none =>
      intro acc
      rw [addPad, hcount]
  | some count =>
      intro b first hb
      refine ⟨(put memory 64 first (padText p) b).bind fun b =>
        (((List.range count.toNat).foldlM (addMode memory r sensors p) (b, true)).map Prod.fst).bind
          (put memory 8 true [']', '}']), ?_, ?_⟩
      · rw [addPad, hcount]
        cases put memory 64 first (padText p) b with
        | error b' => rfl
        | ok b' =>
            simp only [Except.bind]
            cases (List.range count.toNat).foldlM (addMode memory r sensors p) (b', true) <;> rfl
      · have hmodes : ∀ b', Full b' → Writes memory (joined true (modeTexts r sensors p count)) b'
            (((List.range count.toNat).foldlM (addMode memory r sensors p) (b', true)).map Prod.fst) := by
          intro b' hb'
          apply foldlM_writes memory _ _ hb'
          intro idx hidx
          exact addMode_enters memory r sensors p (Nat.lt_trans (List.mem_range.1 hidx) count.toNat_lt)
        rw [← List.append_assoc]
        apply (put_writes memory (padText_length hp) first hb).bind memory
        intro b' hb'
        have hend : ([']', '}'] : CString).length + 1 < 8 := by decide
        exact (hmodes b' hb').bind memory fun b'' hb'' => put_writes memory hend true hb''

def listingText : List Char := headText r ++ (joined true ((pads r).filterMap (padItem r sensors)) ++ [']', '}', '}'])

/-- The text is whole unless memory ran out. -/
theorem modesBuffer_writes :
    Writes memory (listingText r sensors) ⟨[], 0, 4096, true⟩ (modesBuffer memory r sensors) := by
  rw [modesBuffer]
  split
  · have hhead := headText_length r
    have hwhole : (headText r).take 4095 = headText r := List.take_of_length_le (by omega)
    have hfull : Full (snprintf (headText r) ⟨[], 0, 4096, true⟩) :=
      ⟨by simp [snprintf, hwhole], by simpa [snprintf] using hhead, by simp [snprintf]⟩
    have hpads : Writes memory (joined true ((pads r).filterMap (padItem r sensors)))
        (snprintf (headText r) ⟨[], 0, 4096, true⟩)
        (((pads r).foldlM (addPad memory r sensors) (snprintf (headText r) ⟨[], 0, 4096, true⟩, true)).map Prod.fst) := by
      apply foldlM_writes memory _ _ hfull
      intro p hp
      exact addPad_enters memory r sensors (pads_le r p hp)
    have hend : ([']', '}', '}'] : CString).length + 1 < 8 := by decide
    rw [bind_fst]
    rcases hpads.bind memory fun b hb => put_writes memory hend true hb with hfailed | ⟨b, hok, htext, hlast⟩
    · exact Or.inl hfailed
    · refine Or.inr ⟨b, hok, ?_, hlast⟩
      rw [htext]
      simp [snprintf, hwhole, listingText, comma]
  · next hnone => exact Or.inl ⟨_, rfl, rfl, 4096, by simpa using hnone⟩

/-! The tree of a listing. -/

/-- A description without its control characters. -/
def printable (desc : CString) : CString := desc.filter fun c => decide (32 ≤ c.toNat)

def intValue (z : ℤ) : Value := .number (Number.ofInt z)

def modeValue (p idx : ℕ) (m : ModeRes) : Value :=
  .object [("index".toList, intValue idx), ("width".toList, intValue m.res.crop.width.toNat),
    ("height".toList, intValue m.res.crop.height.toNat), ("min_fps".toList, intValue m.res.rates.minFps.toNat),
    ("max_fps".toList, intValue m.res.rates.maxFps.toNat), ("desc".toList, .string (printable m.desc)),
    ("selected".toList, .bool (isSelected r p idx))]

def padValue (p : ℕ) (count : UInt32) : Value :=
  .object [("pad".toList, intValue p),
    ("modes".toList, .array ((List.range count.toNat).filterMap fun idx => (sensors.getRes p idx).map (modeValue r p idx)))]

/-- What the sensors answered, the pads and modes that fail left out. -/
def modesTree : Value :=
  .object [("ok".toList, .bool true),
    ("data".toList, .object [("selected_pad".toList, intValue r.selectedPad.toInt),
      ("selected_mode".toList, intValue r.selectedMode.toInt),
      ("pads".toList, .array ((pads r).filterMap fun p => (sensors.queryResCount p).map (padValue r sensors p)))])]

theorem jsonEscapeInto_whole {dstSz w : ℕ} {src : CString} (h : w + 2 * src.length < dstSz) :
    jsonEscapeInto dstSz w src = (printable src).flatMap escapeChar := by
  induction src generalizing w with
  | nil => rfl
  | cons c src ih =>
      rw [List.length_cons] at h
      rw [jsonEscapeInto, if_pos (by omega)]
      by_cases hquote : c = '"' ∨ c = '\\'
      · have hprintable : 32 ≤ c.toNat := by rcases hquote with rfl | rfl <;> decide
        rw [if_pos hquote, ih (by omega)]
        simp [printable, hprintable, escapeChar, hquote]
      · by_cases hlow : c.toNat < 32
        · rw [if_neg hquote, if_pos hlow, ih (by omega)]
          simp [printable, Nat.not_le_of_lt hlow]
        · have hprintable : 32 ≤ c.toNat := Nat.le_of_not_lt hlow
          have hplain : Plain [c] := by
            intro d hd
            rw [List.mem_singleton.1 hd]
            obtain ⟨hq, hb⟩ := not_or.1 hquote
            exact ⟨hq, hb, hprintable⟩
          have hchar : escapeChar c = [c] := by simpa using escape_plain hplain
          rw [if_neg hquote, if_neg hlow, ih (by omega)]
          simp [printable, hprintable, hchar]

theorem print_int (z : ℤ) : print (intValue z) = intText z := by
  simp [print, intValue, Number.ofInt, Number.text, intText]

theorem print_key {name : String} (h : Plain name.toList) (v : List Char) :
    printString name.toList ++ ':' :: v = key name ++ v := by
  simp [printString, key, escape_plain h]

theorem printItems_map (vs : List Value) : printItems vs = vs.map print := by
  induction vs with
  | nil => rfl
  | cons v vs ih => rw [printItems, ih, List.map_cons]

theorem print_mode (p idx : ℕ) (m : ModeRes) : print (modeValue r p idx m) = modeText r p idx m := by
  have hdesc : print (.string (printable m.desc)) = '"' :: (jsonEscapeInto 96 0 m.desc ++ ['"']) := by
    have hshort := m.desc_short
    rw [jsonEscapeInto_whole (by omega), print, printString]
  have h1 : ∀ v, printString "index".toList ++ ':' :: v = key "index" ++ v := print_key (by decide)
  have h2 : ∀ v, printString "width".toList ++ ':' :: v = key "width" ++ v := print_key (by decide)
  have h3 : ∀ v, printString "height".toList ++ ':' :: v = key "height" ++ v := print_key (by decide)
  have h4 : ∀ v, printString "min_fps".toList ++ ':' :: v = key "min_fps" ++ v := print_key (by decide)
  have h5 : ∀ v, printString "max_fps".toList ++ ':' :: v = key "max_fps" ++ v := print_key (by decide)
  have h6 : ∀ v, printString "desc".toList ++ ':' :: v = key "desc" ++ v := print_key (by decide)
  have h7 : ∀ v, printString "selected".toList ++ ':' :: v = key "selected" ++ v := print_key (by decide)
  have hflag : print (.bool (isSelected r p idx)) = (if isSelected r p idx then "true" else "false").toList := by rw [print]
  unfold modeText
  rw [modeValue, print]
  simp only [printMembers, h1, h2, h3, h4, h5, h6, h7, print_int, hdesc, hflag, List.intercalate_cons_cons,
    List.intercalate_singleton, List.append_assoc, List.cons_append, List.nil_append]

theorem print_pad (p : ℕ) (count : UInt32) :
    print (padValue r sensors p count) = padText p ++ (joined true (modeTexts r sensors p count) ++ [']', '}']) := by
  have hmodes : ((List.range count.toNat).filterMap fun idx => (sensors.getRes p idx).map (modeValue r p idx)).map print =
      modeTexts r sensors p count := by
    rw [List.map_filterMap, modeTexts]
    congr 1
    funext idx
    simp [modeItem, Function.comp_def, print_mode]
  have h1 : ∀ v, printString "pad".toList ++ ':' :: v = key "pad" ++ v := print_key (by decide)
  have h2 : ∀ v, printString "modes".toList ++ ':' :: v = key "modes" ++ v := print_key (by decide)
  unfold padText
  rw [padValue, print]
  simp only [printMembers, print, h1, h2, print_int, printItems_map, hmodes, joined, if_true, List.intercalate_cons_cons,
    List.intercalate_singleton, List.append_assoc, List.cons_append, List.nil_append]

theorem print_modes : print (modesTree r sensors) = listingText r sensors := by
  have hpads : ((pads r).filterMap fun p => (sensors.queryResCount p).map (padValue r sensors p)).map print =
      (pads r).filterMap (padItem r sensors) := by
    rw [List.map_filterMap]
    congr 1
    funext p
    simp [padItem, Function.comp_def, print_pad]
  have h1 : ∀ v, printString "ok".toList ++ ':' :: v = key "ok" ++ v := print_key (by decide)
  have h2 : ∀ v, printString "data".toList ++ ':' :: v = key "data" ++ v := print_key (by decide)
  have h3 : ∀ v, printString "selected_pad".toList ++ ':' :: v = key "selected_pad" ++ v := print_key (by decide)
  have h4 : ∀ v, printString "selected_mode".toList ++ ':' :: v = key "selected_mode" ++ v := print_key (by decide)
  have h5 : ∀ v, printString "pads".toList ++ ':' :: v = key "pads" ++ v := print_key (by decide)
  unfold listingText headText
  rw [modesTree, print]
  simp only [printMembers, print, h1, h2, h3, h4, h5, print_int, printItems_map, hpads, joined, if_true,
    List.intercalate_cons_cons, List.intercalate_singleton, List.append_assoc, List.cons_append, List.nil_append]

/-- Whatever the sensors answer, and whatever bytes their descriptions hold, the
listing is a JSON text of exactly those answers, or memory ran out; either way no
write reached the end of the buffer. -/
theorem modes_read_back : (∀ text, sensorModesJson memory r sensors = some text → IsText text (modesTree r sensors)) ∧
    (sensorModesJson memory r sensors = none → ∃ size, memory size = false) ∧
      ∀ b, modesBuffer memory r sensors = .ok b ∨ modesBuffer memory r sensors = .error b → b.inside = true := by
  rcases modesBuffer_writes memory r sensors with ⟨b, herror, hinside, hsize⟩ | ⟨b, hok, htext, hfull⟩
  · rw [sensorModesJson, herror]
    refine ⟨nofun, fun _ => hsize, ?_⟩
    rintro b' (hb' | hb')
    · cases hb'
    · cases hb'
      exact hinside
  · rw [sensorModesJson, hok]
    refine ⟨fun text hsome => ?_, nofun, ?_⟩
    · obtain rfl := Option.some.inj hsome
      rw [htext, List.nil_append, ← print_modes]
      exact isText_print _
    · rintro b' (hb' | hb')
      · cases hb'
        exact hfull.inside
      · cases hb'

/-- One mode, with a quote, a backslash and a line feed in its description. -/
def quoted : Listing where
  queryResCount p := if p = 0 then some 1 else none
  getRes _ _ := some ⟨⟨⟨0, 0, 1920, 1080⟩, ⟨1920, 1080⟩, ⟨3, 90⟩⟩, ['a', '"', '\\', '\n', 'b'], by decide⟩

example : sensorModesJson (fun _ => true) ⟨-1, 0, 0⟩ quoted =
    some ('{' :: ("\"ok\":true,\"data\":".toList ++ '{' :: ("\"selected_pad\":0,\"selected_mode\":0,\"pads\":[".toList ++
      '{' :: ("\"pad\":0,\"modes\":[".toList ++ '{' :: ("\"index\":0,\"width\":1920,\"height\":1080,".toList ++
        "\"min_fps\":3,\"max_fps\":90,\"desc\":\"a\\\"\\\\b\",\"selected\":true".toList ++
          ['}', ']', '}', ']', '}', '}']))))) := by
  decide +kernel

end WaybeamVenc.SensorModes
