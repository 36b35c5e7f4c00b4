import WaybeamVenc.ApiJson
import WaybeamVenc.IntegerText
import WaybeamVenc.SaveLoad

namespace WaybeamVenc.RequestedValue

open CNumber Config FieldTable Json JsonNumber JsonString ApiBodies ApiValues ApiJson SetQuery IntegerText

/-! What a set asks for. -/

inductive Requested
  | bool (b : Bool)
  | integer (z : ℤ)
  | string (s : CString)
  | size (width height : ℤ)

/-- Two numbers and the character between them, with nothing behind. -/
def readExtent (s : CString) : Option (ℤ × ℤ) :=
  match readInteger 10 s with
  | some (w, 'x' :: rest) => (whole (readInteger 10 rest)).map fun h => (w, h)
  | _ => none

def readSize (s : CString) : Option (ℤ × ℤ) :=
  if s = "720p".toList then some (1280, 720)
  else if s = "1080p".toList then some (1920, 1080)
  else if s = "4MP".toList then some (2688, 1520)
  else readExtent s

/-- The value that a text stands for in a field, of whatever size. -/
def requested : FieldType → CString → Option Requested
  | .bool, s =>
    if s = "true".toList ∨ s = "1".toList then some (.bool true)
    else if s = "false".toList ∨ s = "0".toList then some (.bool false)
    else none
  | .int, s | .uint, s | .uint16, s => (whole (readInteger 10 s)).map .integer
  | .uint8, s => (whole (readInteger 0 s)).map .integer
  | .string, s => some (.string s)
  | .size, s => (readSize s).map fun wh => .size wh.1 wh.2
  | .double, _ | .float, _ => none

/-- The JSON value that tells it. -/
def Shows : Requested → Value → Prop
  | .bool b, .bool b' => b' = b
  | .integer z, .number n => n.value = z
  | .string s, .string t => t = s
  | .size w h, .string t => ∃ width height : UInt32, t = ConfigSave.sizeText width height ∧
      (width.toNat : ℤ) = w ∧ (height.toNat : ℤ) = h
  | _, _ => False

def integerRange : FieldType → ℤ × ℤ
  | .int => (-2 ^ 31, 2 ^ 31 - 1)
  | .uint => (0, 2 ^ 32 - 1)
  | .uint8 => (0, 255)
  | .uint16 => (0, 65535)
  | _ => (0, 0)

/-- The characters that a member has room for. -/
def room : CType → ℕ
  | .str n => n
  | _ => 0

/-- A value that a field of a type and with some room can have, and that a get
with some key has room to tell. -/
def Representable (type : FieldType) (room : ℕ) (key : CString) : Requested → Prop
  | .bool _ => True
  | .integer z => (integerRange type).1 ≤ z ∧ z ≤ (integerRange type).2
  | .string s => s.length ≤ room ∧ fieldBodyLength key (printString s) false ≤ 511
  | .size w h => (0 ≤ w ∧ w ≤ 2 ^ 32 - 1) ∧ (0 ≤ h ∧ h ≤ 2 ^ 32 - 1)

/-- A text whose first 255 characters ask for what the whole text asks for, which
can be represented. -/
def Kept (type : FieldType) (room : ℕ) (key value : CString) : Prop :=
  ∃ r, requested type value = some r ∧ requested type (value.take 255) = some r ∧ Representable type room key r

/-! What a field stores. -/

section

variable {D F : Type} [CFloat D F]

/-- The value that a field of a type and with some room has for a text. -/
inductive Parsed (room : ℕ) (s : CString) : FieldType → FieldValue D F → Prop
  | bool {b : Bool} (h : parseValue (D := D) (F := F) .bool s = some b) : Parsed room s .bool (.member .bool b)
  | int {i : Int32} (h : whole (strtol s) = some i) : Parsed room s .int (.member .int i)
  | uint {n : UInt32} (h : whole (strtoul 10 s) = some n) : Parsed room s .uint (.member .uint32 n)
  | uint8 {n : UInt32} (h : whole (strtoul 0 s) = some n) (hle : ¬255 < n) :
      Parsed room s .uint8 (.member .uint8 n.toUInt8)
  | uint16 {n : UInt32} (h : whole (strtoul 10 s) = some n) (hle : ¬65535 < n) :
      Parsed room s .uint16 (.member .uint16 n.toUInt16)
  | string : Parsed room s .string (.member (.str room) (clip room s))
  | size {width height : UInt32} (h : parseSize s = some (width, height)) : Parsed room s .size (.size width height)

theorem parsed_member {type : FieldType} {m : Member} (typed : type.readsAt m = true)
    (htype : type ≠ .double ∧ type ≠ .float) (hsize : type ≠ .size) {s : CString} {v : m.type.Val D F}
    (hv : parseValue m.type s = some v) : Parsed (room m.type) s type (.member m.type v) := by
  unfold FieldType.readsAt at typed
  revert v typed
  generalize m.type = t
  intro typed v hv
  cases type with
  | size => exact absurd rfl hsize
  | double => exact absurd rfl htype.1
  | float => exact absurd rfl htype.2
  | bool =>
      cases t with
      | bool => exact .bool hv
      | _ => cases typed
  | int =>
      cases t with
      | int => exact .int hv
      | _ => cases typed
  | uint =>
      cases t with
      | uint32 => exact .uint hv
      | _ => cases typed
  | uint8 =>
      cases t with
      | uint8 =>
          obtain ⟨n, hn, hif⟩ := Option.bind_eq_some_iff.1 hv
          split at hif
          · cases hif
          · obtain rfl := Option.some.inj hif
            exact .uint8 hn ‹_›
      | _ => cases typed
  | uint16 =>
      cases t with
      | uint16 =>
          obtain ⟨n, hn, hif⟩ := Option.bind_eq_some_iff.1 hv
          split at hif
          · cases hif
          · obtain rfl := Option.some.inj hif
            exact .uint16 hn ‹_›
      | _ => cases typed
  | string =>
      cases t with
      | str n =>
          obtain rfl := Option.some.inj hv
          exact .string
      | _ => cases typed

/-- A field whose members are as a text writes them has the value of the text. -/
theorem parsed_of_writes {f : FieldDesc} {s : CString} {ws : List (Write D F)} {cfg : VencConfig D F}
    (htype : f.type ≠ .double ∧ f.type ≠ .float) (hws : f.writes s = some ws) (hcfg : ∀ w ∈ ws, cfg w.1 = w.2) :
    Parsed (room f.offset.type) s f.type (fieldToJsonValueFromCfg cfg f) := by
  obtain ⟨key, type, mutability, m, typed⟩ := f
  unfold FieldTable.FieldDesc.writes at hws
  unfold fieldToJsonValueFromCfg
  dsimp only at htype hws ⊢
  by_cases hsize : type = .size
  · subst hsize
    obtain ⟨⟨width, height⟩, hparse, rfl⟩ := Option.map_eq_some_iff.1 hws
    have hwidth : cfg .video0Width = width := hcfg ⟨.video0Width, width⟩ (by simp)
    have hheight : cfg .video0Height = height := hcfg ⟨.video0Height, height⟩ (by simp)
    dsimp only
    rw [hwidth, hheight]
    exact .size hparse
  · have hmap : (parseValue m.type s).map (fun v => [(⟨m, v⟩ : Write D F)]) = some ws := by
      cases type with
      | size => exact absurd rfl hsize
      | _ => exact hws
    obtain ⟨v, hv, rfl⟩ := Option.map_eq_some_iff.1 hmap
    have hvalue := parsed_member typed htype hsize hv
    have hstored : cfg m = v := hcfg ⟨m, v⟩ List.mem_cons_self
    rw [← hstored] at hvalue
    cases type with
    | size => exact absurd rfl hsize
    | _ => exact hvalue

end

/-! What a get tells of it. -/

theorem whole_eq_some {α : Type} {x : Option (α × CString)} {v : α} : whole x = some v ↔ x = some (v, []) := by
  rcases x with _ | ⟨a, _ | ⟨c, s⟩⟩
  · exact iff_of_false (by simp [whole]) (by simp)
  · simp [whole]
  · exact iff_of_false (by simp [whole]) (by simp)

theorem toDigits_short {n : ℕ} (h : n < 2 ^ 32) : (Nat.toDigits 10 n).length ≤ 10 :=
  (Nat.length_toDigits_le_iff (by decide) (by decide)).2 (Nat.lt_trans h (by decide))

theorem scanSize_cases {s : CString} {w h : UInt32} (hs : scanSize s = some (w, h)) :
    ∃ rest rest' W H, readInteger 10 s = some (W, 'x' :: rest) ∧ Keeps 0 (2 ^ 32 - 1) W w.toNat ∧
      readInteger 10 rest = some (H, rest') ∧ Keeps 0 (2 ^ 32 - 1) H h.toNat := by
  rw [scanSize] at hs
  split at hs
  next width rest hwidth =>
    obtain ⟨⟨height, rest'⟩, hheight, heq⟩ := Option.map_eq_some_iff.1 hs
    obtain ⟨rfl, rfl⟩ := Prod.mk.inj heq
    obtain ⟨W, hW, hkeeps⟩ := strtoul_keeps hwidth
    obtain ⟨H, hH, hkeeps'⟩ := strtoul_keeps hheight
    exact ⟨rest, rest', W, H, hW, hkeeps, hH, hkeeps'⟩
  · cases hs

theorem readExtent_cases {s : CString} {W H : ℤ} (hs : readExtent s = some (W, H)) :
    ∃ rest, readInteger 10 s = some (W, 'x' :: rest) ∧ readInteger 10 rest = some (H, []) := by
  rw [readExtent] at hs
  split at hs
  next width rest hwidth =>
    obtain ⟨height, hheight, heq⟩ := Option.map_eq_some_iff.1 hs
    obtain ⟨rfl, rfl⟩ := Prod.mk.inj heq
    exact ⟨rest, hwidth, whole_eq_some.1 hheight⟩
  · cases hs

theorem parseSize_keeps {s : CString} {w h : UInt32} {W H : ℤ} (hp : parseSize s = some (w, h))
    (hr : readSize s = some (W, H)) : Keeps 0 (2 ^ 32 - 1) W w.toNat ∧ Keeps 0 (2 ^ 32 - 1) H h.toNat := by
  have hpreset : ∀ a b : UInt32, some (a, b) = some (w, h) → some ((a.toNat : ℤ), (b.toNat : ℤ)) = some (W, H) →
      Keeps 0 (2 ^ 32 - 1) W w.toNat ∧ Keeps 0 (2 ^ 32 - 1) H h.toNat := by
    intro a b hp hr
    obtain ⟨rfl, rfl⟩ := Prod.mk.inj (Option.some.inj hp)
    obtain ⟨rfl, rfl⟩ := Prod.mk.inj (Option.some.inj hr)
    have ha := a.toNat_lt
    have hb := b.toNat_lt
    exact ⟨⟨by omega, by omega, fun _ _ => rfl⟩, ⟨by omega, by omega, fun _ _ => rfl⟩⟩
  rw [parseSize] at hp
  rw [readSize] at hr
  by_cases h720 : s = "720p".toList
  · rw [if_pos h720] at hp hr
    exact hpreset 1280 720 hp hr
  rw [if_neg h720] at hp hr
  by_cases h1080 : s = "1080p".toList
  · rw [if_pos h1080] at hp hr
    exact hpreset 1920 1080 hp hr
  rw [if_neg h1080] at hp hr
  by_cases h4mp : s = "4MP".toList
  · rw [if_pos h4mp] at hp hr
    exact hpreset 2688 1520 hp hr
  rw [if_neg h4mp] at hp hr
  obtain ⟨rest, rest', W', H', hW', hkeeps, hH', hkeeps'⟩ := scanSize_cases hp
  obtain ⟨rest₁, hW, hH⟩ := readExtent_cases hr
  obtain ⟨rfl, hrest⟩ := Prod.mk.inj (Option.some.inj (hW'.symm.trans hW))
  obtain rfl := (List.cons.inj hrest).2
  obtain ⟨rfl, -⟩ := Prod.mk.inj (Option.some.inj (hH'.symm.trans hH))
  exact ⟨hkeeps, hkeeps'⟩

theorem not_preset {s : CString} (h : 255 ≤ s.length) :
    s ≠ "720p".toList ∧ s ≠ "1080p".toList ∧ s ≠ "4MP".toList := by
  refine ⟨?_, ?_, ?_⟩ <;> rintro rfl <;> exact absurd h (by decide)

/-- The front of a text with a size that is taken for a size itself is one of
the same width, with a height that the whole exceeds. -/
theorem readSize_take {value : CString} {w h : UInt32} {W H : ℤ} (hp : parseSize (value.take 255) = some (w, h))
    (hr : readSize value = some (W, H)) : ∃ H', readSize (value.take 255) = some (W, H') ∧ Between H' H := by
  by_cases hlen : value.length ≤ 255
  · rw [List.take_of_length_le hlen]
    exact ⟨H, hr, by rw [Between]; omega⟩
  · have hlong : 255 ≤ (value.take 255).length := by
      rw [List.length_take]
      omega
    obtain ⟨h₁, h₂, h₃⟩ := not_preset (s := value) (by omega)
    rw [readSize, if_neg h₁, if_neg h₂, if_neg h₃, ← List.take_append_drop 255 value] at hr
    obtain ⟨h₁, h₂, h₃⟩ := not_preset hlong
    rw [parseSize, if_neg h₁, if_neg h₂, if_neg h₃] at hp
    rw [readSize, if_neg h₁, if_neg h₂, if_neg h₃]
    obtain ⟨rest, rest', W', H', hW', -, hH', -⟩ := scanSize_cases hp
    obtain ⟨rest₁, hW, hH⟩ := readExtent_cases hr
    rw [readInteger_ended hW'] at hW
    obtain ⟨rfl, hrest⟩ := Prod.mk.inj (Option.some.inj hW)
    obtain rfl := (List.cons.inj hrest).2
    cases rest' with
    | cons c rest' =>
        rw [readInteger_ended hH'] at hH
        cases (Prod.mk.inj (Option.some.inj hH)).2
    | nil =>
        refine ⟨H', ?_, between_of_append hH' hH⟩
        simp only [readExtent, hW', whole_eq_some.2 hH', Option.map_some]

section

variable {D F : Type} [CFloat D F] [PrintDouble D] {key value : CString} {n : ℕ}

theorem Parsed.json {type : FieldType} {s : CString} {v : FieldValue D F} (h : Parsed n s type v) :
    ∃ j, fieldJson v = some j := by
  cases h <;> exact ⟨_, rfl⟩

/-- The stored value is what a text asks for, and the answer has room for it. -/
def Tells (key value : CString) (type : FieldType) (v : FieldValue D F) : Prop :=
  (∃ r j, requested type value = some r ∧ fieldJson v = some j ∧ Shows r j) ∧
    fieldBodyLength key (fieldText v) false ≤ 511

theorem tells_integer {type : FieldType} {base : ℕ} {y x : ℤ} {v : FieldValue D F}
    (htype : ∀ s, requested type s = (whole (readInteger base s)).map .integer)
    (hrange : (integerRange type).1 ≤ 0 ∧ 0 ≤ (integerRange type).2)
    (hread : readInteger base (value.take 255) = some (y, []))
    (hkeeps : Keeps (integerRange type).1 (integerRange type).2 y x)
    (hjson : fieldJson v = some (.number (.ofInt x))) (hshort : fieldBodyLength key (fieldText v) false ≤ 511) :
    Tells key value type v ↔ Kept type n key value := by
  have htake : requested type (value.take 255) = some (.integer y) := by
    rw [htype, whole_eq_some.2 hread, Option.map_some]
  have hsame : ∀ z, readInteger base value = some (z, []) →
      (x = z ↔ y = z ∧ (integerRange type).1 ≤ z ∧ z ≤ (integerRange type).2) := by
    intro z hz
    rw [← List.take_append_drop 255 value] at hz
    exact hkeeps.eq_iff_of_between hrange.1 hrange.2 (between_of_append hread hz)
  rw [Tells, and_iff_left hshort, Kept, htake, hjson]
  constructor
  · rintro ⟨r, j, hr, hj, hshows⟩
    obtain rfl := Option.some.inj hj
    rw [htype] at hr
    obtain ⟨z, hz, rfl⟩ := Option.map_eq_some_iff.1 hr
    rw [Shows, Number.value_ofInt] at hshows
    obtain ⟨rfl, hin⟩ := (hsame z (whole_eq_some.1 hz)).1 (by exact_mod_cast hshows)
    exact ⟨.integer y, by rw [htype, hz, Option.map_some], rfl, hin⟩
  · rintro ⟨r, hr, hy, hin⟩
    obtain rfl := Option.some.inj hy
    refine ⟨.integer y, _, hr, rfl, ?_⟩
    rw [htype] at hr
    obtain ⟨z, hz, hzy⟩ := Option.map_eq_some_iff.1 hr
    obtain rfl := Requested.integer.inj hzy
    rw [Shows, Number.value_ofInt, (hsame z (whole_eq_some.1 hz)).2 ⟨rfl, hin⟩]

theorem tells_bool {b : Bool} (h : parseValue (D := D) (F := F) .bool (value.take 255) = some b)
    (hkey : key.length ≤ 127) : Tells key value .bool (.member .bool b : FieldValue D F) ↔ Kept .bool n key value := by
  have htake : requested .bool (value.take 255) = some (.bool b) := by
    rw [parseValue] at h
    rw [requested]
    split_ifs at h ⊢ <;> cases h <;> rfl
  have hshort : fieldBodyLength key (fieldText (.member .bool b : FieldValue D F)) false ≤ 511 := by
    have htext : ((if b then "true" else "false").toList).length ≤ 5 := by
      cases b <;> decide
    have hsame : fieldText (.member .bool b : FieldValue D F) = (if b then "true" else "false").toList := rfl
    rw [← hsame] at htext
    rw [fieldBodyLength, if_neg Bool.false_ne_true]
    omega
  rw [Tells, and_iff_left hshort, Kept, htake]
  constructor
  · rintro ⟨r, j, hr, hj, hshows⟩
    obtain rfl := Option.some.inj hj
    cases r with
    | bool b' =>
        obtain rfl : b = b' := hshows
        exact ⟨_, hr, rfl, trivial⟩
    | integer | string | size => cases hshows
  · rintro ⟨r, hr, hb, -⟩
    obtain rfl := Option.some.inj hb
    exact ⟨_, _, hr, rfl, rfl⟩

theorem tells_string : Tells key value .string (.member (.str n) (clip n (value.take 255)) : FieldValue D F) ↔
    Kept .string n key value := by
  constructor
  · rintro ⟨⟨r, j, hr, hj, hshows⟩, hshort⟩
    obtain rfl := Option.some.inj hr
    obtain rfl := Option.some.inj hj
    have hvalue : (value.take 255).take n = value := hshows
    have hlength := congrArg List.length hvalue
    rw [List.length_take, List.length_take] at hlength
    have htake : value.take 255 = value := List.take_of_length_le (by omega)
    refine ⟨.string value, rfl, by rw [htake]; rfl, by omega, ?_⟩
    have htext : fieldText (.member (.str n) (clip n (value.take 255)) : FieldValue D F) = printString value :=
      congrArg printString hvalue
    rwa [htext] at hshort
  · rintro ⟨r, hr, htake, hfits⟩
    obtain rfl := Option.some.inj hr
    obtain ⟨hroom, hshort⟩ := hfits
    have hvalue : (value.take 255).take n = value := by
      rw [Requested.string.inj (Option.some.inj htake), List.take_of_length_le hroom]
    refine ⟨⟨_, _, rfl, rfl, hvalue⟩, ?_⟩
    have htext : fieldText (.member (.str n) (clip n (value.take 255)) : FieldValue D F) = printString value :=
      congrArg printString hvalue
    rwa [htext]

theorem length_sizeText (width height : UInt32) : (ConfigSave.sizeText width height).length ≤ 21 := by
  have hwidth := toDigits_short width.toNat_lt
  have hheight := toDigits_short height.toNat_lt
  rw [ConfigSave.sizeText, ConfigSave.decimal, ConfigSave.decimal, List.length_append, List.length_cons]
  omega

omit [CFloat D F] [PrintDouble D] in
theorem sizeText_inj {w h w' h' : UInt32} (heq : ConfigSave.sizeText w h = ConfigSave.sizeText w' h') :
    w = w' ∧ h = h' := by
  have hparse := SaveLoad.parseSize_sizeText w h
  rw [heq, SaveLoad.parseSize_sizeText] at hparse
  obtain ⟨rfl, rfl⟩ := Prod.mk.inj (Option.some.inj hparse)
  exact ⟨rfl, rfl⟩

theorem tells_size {w h : UInt32} (hp : parseSize (value.take 255) = some (w, h)) (hkey : key.length ≤ 127) :
    Tells key value .size (.size w h : FieldValue D F) ↔ Kept .size n key value := by
  have hshort : fieldBodyLength key (fieldText (.size w h : FieldValue D F)) false ≤ 511 := by
    have hlength := length_sizeText w h
    rw [fieldBodyLength, if_neg Bool.false_ne_true, fieldText, List.length_cons, List.length_append,
      List.length_singleton]
    omega
  rw [Tells, and_iff_left hshort]
  constructor
  · rintro ⟨r, j, hr, hj, hshows⟩
    obtain rfl := Option.some.inj hj
    obtain ⟨⟨W, H⟩, hread, rfl⟩ := Option.map_eq_some_iff.1 hr
    obtain ⟨w', h', htext, hw, hh⟩ := hshows
    obtain ⟨rfl, rfl⟩ := sizeText_inj htext
    obtain ⟨H', htake, hbetween⟩ := readSize_take hp hread
    obtain ⟨hkeeps, hkeeps'⟩ := parseSize_keeps hp htake
    obtain ⟨-, hW⟩ := (hkeeps.eq_iff_of_between (by decide) (by decide) (by rw [Between]; omega)).1 hw
    obtain ⟨rfl, hH⟩ := (hkeeps'.eq_iff_of_between (by decide) (by decide) hbetween).1 hh
    refine ⟨_, hr, ?_, hW, hH⟩
    rw [requested, htake, Option.map_some]
  · rintro ⟨r, hr, htake, hfits⟩
    obtain ⟨⟨W, H⟩, hread, rfl⟩ := Option.map_eq_some_iff.1 htake
    obtain ⟨⟨hW, hW'⟩, hH, hH'⟩ := hfits
    obtain ⟨hkeeps, hkeeps'⟩ := parseSize_keeps hp hread
    exact ⟨_, _, hr, rfl, w, h, rfl, hkeeps.exact hW hW', hkeeps'.exact hH hH'⟩

theorem length_ofInt_short {z : ℤ} (hlow : -2 ^ 32 < z) (hhigh : z < 2 ^ 32) : (Number.ofInt z).text.length ≤ 11 := by
  have hdigits : (Nat.toDigits 10 z.natAbs).length ≤ 10 := toDigits_short (by omega)
  have hsign : (if z < 0 then ['-'] else []).length ≤ 1 := by
    split <;> decide
  simp only [Number.ofInt, Number.text, if_true, Option.elim_none, List.append_nil, List.length_append, decide_eq_true_eq]
  omega

theorem tells_iff {type : FieldType} {v : FieldValue D F} (h : Parsed n (value.take 255) type v)
    (hkey : key.length ≤ 127) : Tells key value type v ↔ Kept type n key value := by
  have hshort : ∀ x : ℤ, -2 ^ 32 < x → x < 2 ^ 32 → fieldText v = (Number.ofInt x).text →
      fieldBodyLength key (fieldText v) false ≤ 511 := by
    intro x hlow hhigh htext
    have hlength := length_ofInt_short hlow hhigh
    rw [fieldBodyLength, if_neg Bool.false_ne_true, htext]
    omega
  cases h with
  | bool h => exact tells_bool h hkey
  | string => exact tells_string
  | size h => exact tells_size h hkey
  | @int i h =>
      obtain ⟨y, hread, hkeeps⟩ := strtol_keeps (whole_eq_some.1 h)
      have hlow := i.le_toInt
      have hhigh := i.toInt_lt
      exact tells_integer (fun _ => rfl) (by decide) hread hkeeps rfl (hshort _ (by omega) (by omega) rfl)
  | @uint k h =>
      obtain ⟨y, hread, hkeeps⟩ := strtoul_keeps (whole_eq_some.1 h)
      have hlt := k.toNat_lt
      exact tells_integer (fun _ => rfl) (by decide) hread hkeeps rfl
        (hshort k.toNat (by omega) (by omega) (text_ofNat _).symm)
  | @uint8 k h hle =>
      obtain ⟨y, hread, hkeeps⟩ := strtoul_keeps (whole_eq_some.1 h)
      have hle' : k.toNat ≤ 255 := UInt32.le_iff_toNat_le.1 (UInt32.not_lt.1 hle)
      have hsame : k.toUInt8.toNat = k.toNat := by
        rw [UInt32.toNat_toUInt8]
        omega
      have hkeeps' := hkeeps.narrow (show (255 : ℤ) ≤ 2 ^ 32 - 1 by decide) (by omega)
      rw [← hsame] at hkeeps'
      exact tells_integer (fun _ => rfl) (by decide) hread hkeeps' rfl
        (hshort k.toUInt8.toNat (by omega) (by omega) (text_ofNat _).symm)
  | @uint16 k h hle =>
      obtain ⟨y, hread, hkeeps⟩ := strtoul_keeps (whole_eq_some.1 h)
      have hle' : k.toNat ≤ 65535 := UInt32.le_iff_toNat_le.1 (UInt32.not_lt.1 hle)
      have hsame : k.toUInt16.toNat = k.toNat := by
        rw [UInt32.toNat_toUInt16]
        omega
      have hkeeps' := hkeeps.narrow (show (65535 : ℤ) ≤ 2 ^ 32 - 1 by decide) (by omega)
      rw [← hsame] at hkeeps'
      exact tells_integer (fun _ => rfl) (by decide) hread hkeeps' rfl
        (hshort k.toUInt16.toNat (by omega) (by omega) (text_ofNat _).symm)

end

end WaybeamVenc.RequestedValue
