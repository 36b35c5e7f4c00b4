import WaybeamVenc.IqParams

namespace WaybeamVenc.IqImportBounds

open CNumber ConfigLoad ByteBuffer IqParams

def valBufSize : Nat := 512

/-- A write to val_buf: the index and the number of bytes it may cover. -/
structure Write where
  pos : Nat
  size : UInt32
deriving DecidableEq

def Write.Inside (w : Write) : Prop := w.pos < valBufSize ∧ w.pos + w.size.toNat ≤ valBufSize

instance (w : Write) : Decidable w.Inside := inferInstanceAs (Decidable (_ ∧ _))

/-- The loop's state: val_buf, the index of the next write and the writes so
far. -/
structure Printer where
  cells : Buffer
  pos : Nat
  writes : List Write

def ascii (s : CString) : List UInt8 := s.map fun c => UInt8.ofNat c.toNat

def putChar (c : UInt8) (p : Printer) : Printer :=
  { cells := store p.cells p.pos [c], pos := p.pos + 1, writes := p.writes ++ [⟨p.pos, 1⟩] }

/-- snprintf behind what is printed: it stores what its size leaves room for
and answers the whole length. -/
def snprintf (text : CString) (p : Printer) : Printer :=
  let size := UInt32.ofNat valBufSize - UInt32.ofNat p.pos
  { cells := if size = 0 then p.cells else store p.cells p.pos (ascii (text.take (size.toNat - 1)) ++ [0])
    pos := p.pos + text.length
    writes := p.writes ++ [⟨p.pos, size⟩] }

def separate (p : Printer) : Printer := if 0 < p.pos ∧ p.pos < valBufSize - 1 then putChar 44 p else p

def printElement (p : Printer) (item : CJson Unit) : Printer := snprintf (intText (valueint item)) (separate p)

def terminate (p : Printer) : Printer :=
  { p with cells := store p.cells p.pos [0], writes := p.writes ++ [⟨p.pos, 1⟩] }

def printArray (p : Printer) (items : List (CJson Unit)) : Printer :=
  terminate (items.foldl printElement { p with pos := 0 })

def printInt (p : Printer) (i : Int32) : Printer := snprintf (intText i) { p with pos := 0 }

/-- What one member of a fields object leaves of val_buf. -/
def printField (p : Printer) (fld : String × CJson Unit) : Printer :=
  match fld.2 with
  | .array items => printArray p items
  | .number i _ => printInt p i
  | _ => p

def printValue (p : Printer) (item : CJson Unit) : Printer :=
  match item.item "value" with
  | some (.bool b) => printInt p (if b then 1 else 0)
  | some (.number i _) => printInt p i
  | _ => p

def printItem (p : Printer) (entry : String × CJson Unit) : Printer :=
  if entry.1.toList.head? = some '_' then p
  else
    match entry.2.item "fields" with
    | some (.object fields) => fields.foldl printField p
    | _ => printValue p entry.2

/-- The members an import goes through, where the parser makes a document of
the text it is given. -/
def importMembers (parse : CString → Option (CJson Unit)) (jsonStr : Option CString) : List (String × CJson Unit) :=
  match jsonStr.bind parse with
  | none => []
  | some root =>
    match (root.item "data").getD root with
    | .object members => members
    | _ => []

/-- What an import does with val_buf; both backends hold the same loops. -/
def iqImportPrint (parse : CString → Option (CJson Unit)) (cells : Buffer) (jsonStr : Option CString) : Printer :=
  (importMembers parse jsonStr).foldl printItem ⟨cells, 0, []⟩

def star6eIqImportPrint (parse : CString → Option (CJson Unit)) (cells : Buffer) (jsonStr : Option CString) : Printer :=
  iqImportPrint parse cells jsonStr

def marukoIqImportPrint (parse : CString → Option (CJson Unit)) (cells : Buffer) (jsonStr : Option CString) : Printer :=
  iqImportPrint parse cells jsonStr

def AllInside (p : Printer) : Prop := ∀ w ∈ p.writes, w.Inside

/-- The length of an array printed, a comma behind every number. -/
def textLength : List (CJson Unit) → Nat
  | [] => 0
  | item :: items => (intText (valueint item)).length + 1 + textLength items

def Reached (members : List (String × CJson Unit)) (items : List (CJson Unit)) : Prop :=
  ∃ entry ∈ members, entry.1.toList.head? ≠ some '_' ∧
    ∃ fields, entry.2.item "fields" = some (.object fields) ∧ ∃ name, (name, .array items) ∈ fields

/-! The index. -/

theorem intText_pos (i : Int32) : 0 < (intText i).length := by
  rw [intText]
  split
  · exact Nat.succ_pos _
  · exact Nat.length_toDigits_pos

theorem inside_one {pos : Nat} : Write.Inside ⟨pos, 1⟩ ↔ pos < valBufSize := by
  simp only [Write.Inside, UInt32.reduceToNat]
  omega

theorem size_toNat {pos : Nat} (hpos : pos < valBufSize) :
    (UInt32.ofNat valBufSize - UInt32.ofNat pos).toNat = valBufSize - pos := by
  rw [valBufSize] at hpos ⊢
  rw [UInt32.toNat_sub_of_le]
  all_goals simp [UInt32.le_iff_toNat_le]
  all_goals omega

theorem inside_rest {pos : Nat} :
    Write.Inside ⟨pos, UInt32.ofNat valBufSize - UInt32.ofNat pos⟩ ↔ pos < valBufSize := by
  constructor
  · exact And.left
  · intro hpos
    refine ⟨hpos, ?_⟩
    rw [size_toNat hpos]
    exact (Nat.add_sub_cancel' (Nat.le_of_lt hpos)).le

theorem allInside_append {p : Printer} {w : Write} {cells : Buffer} {pos : Nat} :
    AllInside ⟨cells, pos, p.writes ++ [w]⟩ ↔ AllInside p ∧ w.Inside := by
  simp only [AllInside, List.mem_append, List.mem_singleton, or_imp, forall_and, forall_eq]

theorem allInside_putChar {p : Printer} {c : UInt8} : AllInside (putChar c p) ↔ AllInside p ∧ p.pos < valBufSize :=
  allInside_append.trans (and_congr_right' inside_one)

theorem allInside_snprintf {p : Printer} {text : CString} :
    AllInside (snprintf text p) ↔ AllInside p ∧ p.pos < valBufSize :=
  allInside_append.trans (and_congr_right' inside_rest)

theorem allInside_terminate {p : Printer} : AllInside (terminate p) ↔ AllInside p ∧ p.pos < valBufSize :=
  allInside_append.trans (and_congr_right' inside_one)

theorem printElement_pos_pos (p : Printer) (item : CJson Unit) : 0 < (printElement p item).pos :=
  Nat.lt_of_lt_of_le (intText_pos _) (Nat.le_add_left _ _)

/-- Once a number is printed, every later one takes a comma and its own
length; where there is no room for the comma the number runs past the end. -/
theorem printed_behind {items : List (CJson Unit)} {p : Printer} (hpos : 0 < p.pos) :
    AllInside (terminate (items.foldl printElement p)) ↔ AllInside p ∧ p.pos + textLength items < valBufSize := by
  induction items generalizing p with
  | nil => exact allInside_terminate
  | cons item items ih =>
    rw [List.foldl_cons, ih (printElement_pos_pos p item), printElement, allInside_snprintf]
    have hlen := intText_pos (valueint item)
    by_cases hroom : p.pos < valBufSize - 1
    · have hseparate : separate p = putChar 44 p := if_pos ⟨hpos, hroom⟩
      rw [hseparate, allInside_putChar, and_assoc, and_assoc]
      apply and_congr_right'
      simp only [snprintf, putChar, textLength]
      omega
    · have hseparate : separate p = p := if_neg fun h => hroom h.2
      rw [hseparate, and_assoc]
      apply and_congr_right'
      simp only [snprintf, textLength]
      omega

theorem printArray_inside {p : Printer} {items : List (CJson Unit)} :
    AllInside (printArray p items) ↔ AllInside p ∧ textLength items ≤ valBufSize := by
  cases items with
  | nil => exact allInside_terminate.trans (and_congr_right' (iff_of_true (Nat.succ_pos _) (Nat.zero_le _)))
  | cons item items =>
    have hfirst : printElement { p with pos := 0 } item = snprintf (intText (valueint item)) { p with pos := 0 } := rfl
    rw [printArray, List.foldl_cons, printed_behind (printElement_pos_pos _ item), hfirst, allInside_snprintf, and_assoc]
    apply and_congr_right'
    simp only [snprintf, textLength, valBufSize]
    omega

theorem printInt_inside {p : Printer} {i : Int32} : AllInside (printInt p i) ↔ AllInside p :=
  allInside_snprintf.trans (and_iff_left (Nat.succ_pos _))

/-! The loops over the members. -/

theorem foldl_inside {α : Type} {step : Printer → α → Printer} {Fits : α → Prop}
    (hstep : ∀ p x, AllInside (step p x) ↔ AllInside p ∧ Fits x) (xs : List α) (p : Printer) :
    AllInside (xs.foldl step p) ↔ AllInside p ∧ ∀ x ∈ xs, Fits x := by
  induction xs generalizing p with
  | nil => exact (and_iff_left fun x hx => absurd hx List.not_mem_nil).symm
  | cons x xs ih => rw [List.foldl_cons, ih, hstep, List.forall_mem_cons, and_assoc]

theorem printField_inside (p : Printer) (fld : String × CJson Unit) :
    AllInside (printField p fld) ↔ AllInside p ∧ ∀ items, fld.2 = .array items → textLength items ≤ valBufSize := by
  obtain ⟨name, value⟩ := fld
  cases value with
  | array items =>
    simp only [CJson.array.injEq, forall_eq']
    exact printArray_inside
  | number i d =>
    simp only [reduceCtorEq, false_implies, implies_true, and_true]
    exact printInt_inside
  | _ =>
    simp only [reduceCtorEq, false_implies, implies_true, and_true]
    exact Iff.rfl

theorem printValue_inside {p : Printer} {item : CJson Unit} : AllInside (printValue p item) ↔ AllInside p := by
  rw [printValue.eq_def]
  split
  · exact printInt_inside
  · exact printInt_inside
  · exact Iff.rfl

theorem printItem_inside (p : Printer) (entry : String × CJson Unit) :
    AllInside (printItem p entry) ↔
      AllInside p ∧ ∀ items, Reached [entry] items → textLength items ≤ valBufSize := by
  have hreached : ∀ items, Reached [entry] items ↔ entry.1.toList.head? ≠ some '_' ∧
      ∃ fields, entry.2.item "fields" = some (.object fields) ∧ ∃ name, (name, .array items) ∈ fields := by
    intro items
    simp only [Reached, List.mem_singleton, exists_eq_left]
  simp only [hreached]
  rw [printItem]
  split
  · next hskip =>
    exact (and_iff_left fun items h => absurd hskip h.1).symm
  · next hname =>
    split
    · next fields hfields =>
      rw [foldl_inside printField_inside]
      apply and_congr_right'
      constructor
      · rintro h items ⟨-, fields', hfields', name, hmem⟩
        obtain rfl : fields = fields' := CJson.object.inj (Option.some.inj (hfields.symm.trans hfields'))
        exact h _ hmem items rfl
      · rintro h ⟨name, value⟩ hmem items rfl
        exact h items ⟨hname, fields, hfields, name, hmem⟩
    · next hnone =>
      rw [printValue_inside]
      exact (and_iff_left fun items h => absurd h.2.choose_spec.1 (hnone _)).symm

theorem members_inside {members : List (String × CJson Unit)} {cells : Buffer} :
    AllInside (members.foldl printItem ⟨cells, 0, []⟩) ↔
      ∀ items, Reached members items → textLength items ≤ valBufSize := by
  rw [foldl_inside printItem_inside]
  have hnone : AllInside ⟨cells, 0, []⟩ := fun w hw => absurd hw List.not_mem_nil
  rw [and_iff_right hnone]
  constructor
  · rintro h items ⟨entry, hentry, hrest⟩
    exact h entry hentry items ⟨entry, List.mem_singleton_self entry, hrest⟩
  · rintro h entry hentry items ⟨entry', hentry', hrest⟩
    obtain rfl := List.mem_singleton.1 hentry'
    exact h items ⟨entry', hentry, hrest⟩

/-- Every write of an import lands in val_buf exactly when every array it
prints takes at most 511 characters with its commas, and so leaves room for
the terminator. -/
theorem import_inside_iff (parse : CString → Option (CJson Unit)) (cells : Buffer) (jsonStr : Option CString) :
    (AllInside (star6eIqImportPrint parse cells jsonStr) ↔
      ∀ items, Reached (importMembers parse jsonStr) items → textLength items ≤ valBufSize) ∧
    (AllInside (marukoIqImportPrint parse cells jsonStr) ↔
      ∀ items, Reached (importMembers parse jsonStr) items → textLength items ≤ valBufSize) :=
  ⟨members_inside, members_inside⟩

/-! What val_buf holds where there is room. -/

structure Holds (p : Printer) (s : CString) : Prop where
  pos : p.pos = s.length
  text : load p.cells 0 s.length = ascii s

theorem load_add (buf : Buffer) (offset m n : Nat) :
    load buf offset (m + n) = load buf offset m ++ load buf (offset + m) n := by
  rw [load, List.range_add, List.map_append, List.map_map]
  congr 1
  apply List.map_congr_left
  intro k _
  exact congrArg buf (Nat.add_assoc offset m k).symm

theorem load_store_behind {cells : Buffer} {pos : Nat} {bytes more : List UInt8} :
    load (store cells pos (bytes ++ more)) 0 (pos + bytes.length) = load cells 0 pos ++ bytes := by
  have hbytes : load (store cells pos (bytes ++ more)) pos bytes.length = bytes := by
    have hall : load (store cells pos (bytes ++ more)) pos (bytes.length + more.length) = bytes ++ more :=
      List.length_append ▸ load_store
    rw [load_add] at hall
    exact List.append_inj_left hall load_length
  rw [load_add, Nat.zero_add, hbytes, load_store_disjoint (Or.inr (Nat.zero_add pos).le)]

theorem ascii_append (s text : CString) : ascii (s ++ text) = ascii s ++ ascii text := List.map_append

theorem ascii_length (s : CString) : (ascii s).length = s.length := List.length_map _

theorem Holds.store {p : Printer} {s : CString} (h : Holds p s) (text : CString) (more : List UInt8) :
    load (store p.cells p.pos (ascii text ++ more)) 0 (s ++ text).length = ascii (s ++ text) := by
  rw [ascii_append, ← h.text, List.length_append, ← h.pos, ← ascii_length text]
  exact load_store_behind

theorem Holds.putComma {p : Printer} {s : CString} (h : Holds p s) : Holds (putChar 44 p) (s ++ [',']) where
  pos := by rw [List.length_append, ← h.pos]; rfl
  text := h.store [','] []

theorem Holds.snprintf {p : Printer} {s text : CString} (h : Holds p s) (hroom : s.length + text.length < valBufSize) :
    Holds (snprintf text p) (s ++ text) where
  pos := by rw [List.length_append, ← h.pos]; rfl
  text := by
    have hpos : p.pos < valBufSize := by rw [h.pos]; omega
    have hsize := size_toNat hpos
    have hne : UInt32.ofNat valBufSize - UInt32.ofNat p.pos ≠ 0 := by
      intro hzero
      rw [hzero] at hsize
      exact absurd hsize (Nat.sub_pos_of_lt hpos).ne
    have htake : text.take ((UInt32.ofNat valBufSize - UInt32.ofNat p.pos).toNat - 1) = text := by
      apply List.take_of_length_le
      rw [hsize, h.pos]
      omega
    rw [IqImportBounds.snprintf, if_neg hne, htake]
    exact h.store text [0]

theorem Holds.printed {items : List (CJson Unit)} {p : Printer} {s : CString} (h : Holds p s) (hs : s ≠ [])
    (hroom : s.length + textLength items < valBufSize) :
    Holds (items.foldl printElement p) (s ++ items.flatMap fun item => ',' :: intText (valueint item)) := by
  induction items generalizing p s with
  | nil => rwa [List.flatMap_nil, List.append_nil]
  | cons item items ih =>
    rw [textLength] at hroom
    have hseparate : separate p = putChar 44 p := by
      have hpos : 0 < p.pos := h.pos ▸ List.length_pos_iff.2 hs
      exact if_pos ⟨hpos, by rw [h.pos]; omega⟩
    have hitem : Holds (printElement p item) (s ++ [','] ++ intText (valueint item)) := by
      rw [printElement, hseparate]
      refine h.putComma.snprintf ?_
      rw [List.length_append, List.length_singleton]
      omega
    have hne : s ++ [','] ++ intText (valueint item) ≠ [] :=
      List.append_ne_nil_of_left_ne_nil (List.append_ne_nil_of_left_ne_nil hs _) _
    have hlen : (s ++ [','] ++ intText (valueint item)).length + textLength items < valBufSize := by
      simp only [List.length_append, List.length_singleton]
      omega
    have hrest := ih hitem hne hlen
    rw [List.append_assoc, List.append_assoc] at hrest
    rw [List.foldl_cons, List.flatMap_cons, List.cons_append]
    exact hrest

theorem joined_cons (text : CString) (texts : List CString) :
    joined (text :: texts) = text ++ texts.flatMap fun t => ',' :: t := by
  induction texts generalizing text with
  | nil => exact (List.append_nil text).symm
  | cons t texts ih =>
    have hstep : joined (text :: t :: texts) = text ++ ',' :: joined (t :: texts) := rfl
    rw [hstep, ih t, List.flatMap_cons, List.cons_append]

theorem terminate_holds {p : Printer} {s : CString} (h : Holds p s) :
    load (terminate p).cells 0 (s.length + 1) = ascii s ++ [0] := by
  rw [← h.text, ← h.pos]
  exact @load_store_behind p.cells p.pos [0] []

/-- An array with room leaves its text and the terminator in val_buf. -/
theorem printArray_holds (p : Printer) {items : List (CJson Unit)} {text : CString}
    (htext : fieldText (.array items) = some text) (hroom : textLength items ≤ valBufSize) :
    load (printArray p items).cells 0 (text.length + 1) = ascii text ++ [0] := by
  obtain rfl := Option.some.inj htext
  have hempty : Holds { p with pos := 0 } [] := ⟨rfl, rfl⟩
  cases items with
  | nil => exact terminate_holds hempty
  | cons item items =>
    have hlen := intText_pos (valueint item)
    rw [textLength] at hroom
    have hfirst : Holds (printElement { p with pos := 0 } item) (intText (valueint item)) :=
      hempty.snprintf (by simp only [List.length_nil]; omega)
    have hall := @Holds.printed items _ _ hfirst (List.length_pos_iff.1 hlen) (by omega)
    rw [List.map_cons, joined_cons, List.flatMap_map, printArray, List.foldl_cons]
    exact terminate_holds hall

/-! A matrix of 257 zeros. -/

def zeros (n : Nat) : List (CJson Unit) := List.replicate n (.number 0 ())

theorem textLength_zeros (n : Nat) : textLength (zeros n) = 2 * n := by
  induction n with
  | zero => rfl
  | succ n ih =>
    have hlen : (intText (valueint (.number 0 ()))).length = 1 := rfl
    rw [zeros, List.replicate_succ, textLength, hlen, ← zeros, ih]
    omega

def bodyFront : CString :=
  '{' :: ("\"colortrans\":".toList ++ '{' :: ("\"fields\":".toList ++ '{' :: "\"matrix\":[0".toList))

def bodyBack : CString := [']', '}', '}', '}']

def zerosBody (n : Nat) : CString := bodyFront ++ (List.replicate n [',', '0']).flatten ++ bodyBack

def zerosDocument (n : Nat) : CJson Unit :=
  .object [("colortrans", .object [("fields", .object [("matrix", .array (zeros (n + 1)))])])]

def parseZeros (n : Nat) (body : CString) : Option (CJson Unit) :=
  if body = zerosBody n then some (zerosDocument n) else none

theorem commaZeros_length (n : Nat) : (List.replicate n [',', '0']).flatten.length = 2 * n := by
  induction n with
  | zero => rfl
  | succ n ih =>
    rw [List.replicate_succ, List.flatten_cons, List.length_append, ih]
    exact Nat.add_comm 2 (2 * n)

theorem zerosBody_length (n : Nat) : (zerosBody n).length = 2 * n + 40 := by
  have hfront : bodyFront.length = 36 := by decide
  have hback : bodyBack.length = 4 := by decide
  rw [zerosBody, List.length_append, List.length_append, commaZeros_length, hfront, hback]
  omega

theorem zerosDocument_reached (n : Nat) :
    Reached (importMembers (parseZeros n) (some (zerosBody n))) (zeros (n + 1)) := by
  have hdata : (zerosDocument n).item "data" = none := rfl
  rw [importMembers, Option.bind_some, parseZeros, if_pos rfl]
  simp only [hdata, Option.getD_none]
  have hname : "colortrans".toList.head? ≠ some '_' := by decide
  exact ⟨_, List.mem_singleton_self _, hname, _, rfl, "matrix", List.mem_singleton_self _⟩

/-- A body of some hundred bytes sends the last terminator behind val_buf. -/
theorem matrix_runs_out :
    ¬ ∀ (parse : CString → Option (CJson Unit)) (cells : Buffer) (body : CString), body.length ≤ 8191 →
      AllInside (star6eIqImportPrint parse cells (some body)) ∧
        AllInside (marukoIqImportPrint parse cells (some body)) := by
  intro h
  have hlen : (zerosBody 256).length ≤ 8191 := by
    rw [zerosBody_length]
    decide
  have hinside := (h (parseZeros 256) (fun _ => 0) (zerosBody 256) hlen).1
  have hfits := members_inside.1 hinside _ (zerosDocument_reached 256)
  rw [textLength_zeros] at hfits
  exact absurd hfits (by decide)

end WaybeamVenc.IqImportBounds
