import Mathlib.Tactic.SplitIfs

namespace WaybeamVenc.Crc

variable (poly : BitVec 32)

/-- One place of a cyclic redundancy check, most significant bit first. -/
def shift (c : BitVec 32) : BitVec 32 := if c.msb then (c <<< 1) ^^^ poly else c <<< 1

def shifts : Nat → BitVec 32 → BitVec 32
  | 0, c => c
  | n + 1, c => shifts n (shift poly c)

def atTop (b : BitVec 8) : BitVec 32 := b.setWidth 32 <<< 24

def topByte (c : BitVec 32) : BitVec 8 := (c >>> 24).setWidth 8

def feed (c : BitVec 32) (b : UInt8) : BitVec 32 := shifts poly 8 (c ^^^ atTop b.toBitVec)

def crc (c : BitVec 32) (bytes : List UInt8) : BitVec 32 := bytes.foldl (feed poly) c

/-- Eight shifts of every octet. -/
def entry (i : BitVec 8) : BitVec 32 := shifts poly 8 (atTop i)

/-- The remainder as it follows a message, most significant byte first. -/
def trailer (c : BitVec 32) : List UInt8 :=
  [⟨topByte c⟩, ⟨topByte (c <<< 8)⟩, ⟨topByte (c <<< 16)⟩, ⟨topByte (c <<< 24)⟩]

theorem shift_xor (a b : BitVec 32) : shift poly (a ^^^ b) = shift poly a ^^^ shift poly b := by
  simp only [shift, BitVec.msb_xor, BitVec.shiftLeft_xor_distrib]
  cases a.msb <;> cases b.msb <;> simp only [Bool.xor_false, Bool.xor_true, Bool.not_false, Bool.not_true,
    if_true, Bool.false_eq_true, if_false]
  · rw [BitVec.xor_assoc]
  · rw [BitVec.xor_assoc, BitVec.xor_assoc, BitVec.xor_comm _ poly]
  · calc a <<< 1 ^^^ b <<< 1 = a <<< 1 ^^^ b <<< 1 ^^^ (poly ^^^ poly) := by
          rw [BitVec.xor_self, BitVec.xor_zero]
      _ = a <<< 1 ^^^ poly ^^^ (b <<< 1 ^^^ poly) := by ac_rfl

theorem shifts_xor (n : Nat) (a b : BitVec 32) :
    shifts poly n (a ^^^ b) = shifts poly n a ^^^ shifts poly n b := by
  induction n generalizing a b with
  | zero => rfl
  | succ n ih => rw [shifts, shift_xor, ih]; rfl

theorem shifts_low (n : Nat) (c : BitVec 32) (h : ∀ i, i < n → c.getMsbD i = false) :
    shifts poly n c = c <<< n := by
  induction n generalizing c with
  | zero => simp [shifts]
  | succ n ih =>
      have hmsb : c.msb = false := h 0 (Nat.succ_pos n)
      have hshift : shift poly c = c <<< 1 := by simp [shift, hmsb]
      rw [shifts, hshift, ih]
      · rw [← BitVec.shiftLeft_add, Nat.add_comm]
      · intro i hi
        rw [BitVec.getMsbD_shiftLeft]
        exact h (i + 1) (Nat.succ_lt_succ hi)

theorem topByte_getLsbD (c : BitVec 32) (i : Nat) (hi : i < 8) : (topByte c).getLsbD i = c.getLsbD (24 + i) := by
  simp [topByte, hi]

theorem atTop_getLsbD (b : BitVec 8) (i : Nat) (hi : i < 32) :
    (atTop b).getLsbD i = (decide (24 ≤ i) && b.getLsbD (i - 24)) := by
  simp only [atTop, BitVec.getLsbD_shiftLeft, BitVec.getLsbD_setWidth, hi, decide_true, Bool.true_and]
  by_cases h : i < 24
  · simp [h, show ¬ 24 ≤ i by omega]
  · simp [h, show 24 ≤ i by omega, show i - 24 < 32 by omega]

theorem low_clear (c : BitVec 32) (i : Nat) (hi : i < 8) : (c ^^^ atTop (topByte c)).getMsbD i = false := by
  rw [BitVec.getMsbD_xor, BitVec.getMsbD_eq_getLsbD, BitVec.getMsbD_eq_getLsbD, atTop_getLsbD _ _ (by omega),
    topByte_getLsbD _ _ (by omega)]
  have hindex : 24 + (32 - 1 - i - 24) = 32 - 1 - i := by omega
  simp [hindex, show 24 ≤ 31 - i by omega]

theorem low_shift (c : BitVec 32) : (c ^^^ atTop (topByte c)) <<< 8 = c <<< 8 := by
  apply BitVec.eq_of_getLsbD_eq
  intro i hi
  simp only [BitVec.getLsbD_shiftLeft, BitVec.getLsbD_xor, hi, decide_true, Bool.true_and]
  by_cases h : i < 8
  · simp [h]
  · rw [atTop_getLsbD _ _ (by omega)]
    simp [show ¬ 24 ≤ i - 8 by omega]

/-- Eight shifts: the entry of the top byte, and the rest moved up by a byte. -/
theorem shifts_eight (c : BitVec 32) : shifts poly 8 c = (c <<< 8) ^^^ entry poly (topByte c) := by
  have hsplit : c = (c ^^^ atTop (topByte c)) ^^^ atTop (topByte c) := by
    rw [BitVec.xor_assoc, BitVec.xor_self, BitVec.xor_zero]
  calc shifts poly 8 c = shifts poly 8 ((c ^^^ atTop (topByte c)) ^^^ atTop (topByte c)) := by rw [← hsplit]
    _ = shifts poly 8 (c ^^^ atTop (topByte c)) ^^^ entry poly (topByte c) := shifts_xor poly 8 _ _
    _ = (c <<< 8) ^^^ entry poly (topByte c) := by
      rw [shifts_low poly 8 _ (fun i hi => low_clear c i hi), low_shift]

theorem topByte_xor (a b : BitVec 32) : topByte (a ^^^ b) = topByte a ^^^ topByte b := by
  simp [topByte, BitVec.ushiftRight_xor_distrib]

theorem topByte_atTop (b : BitVec 8) : topByte (atTop b) = b := by
  apply BitVec.eq_of_getLsbD_eq
  intro i hi
  rw [topByte_getLsbD _ _ hi, atTop_getLsbD _ _ (by omega)]
  simp

theorem atTop_shift (b : BitVec 8) : atTop b <<< 8 = 0#32 := by
  apply BitVec.eq_of_getLsbD_eq
  intro i hi
  rw [BitVec.getLsbD_shiftLeft]
  by_cases h : i < 8
  · simp [h]
  · rw [atTop_getLsbD _ _ (by omega)]
    simp [show ¬ 24 ≤ i - 8 by omega]

/-- A byte at a time from a table of the entries. -/
theorem feed_eq_entry (c : BitVec 32) (b : UInt8) :
    feed poly c b = (c <<< 8) ^^^ entry poly (topByte c ^^^ b.toBitVec) := by
  rw [feed, shifts_eight, topByte_xor, topByte_atTop, BitVec.shiftLeft_xor_distrib, atTop_shift,
    BitVec.xor_zero]

theorem entry_zero : entry poly 0#8 = 0#32 := by
  have hclear : atTop 0#8 = 0#32 := by decide
  rw [entry, hclear, shifts_low poly 8 0#32 (fun i _ => by simp)]
  rfl

theorem feed_top (c : BitVec 32) : feed poly c ⟨topByte c⟩ = c <<< 8 := by
  rw [feed_eq_entry, BitVec.xor_self, entry_zero, BitVec.xor_zero]

/-- A message followed by its remainder leaves none. -/
theorem crc_trailer (c : BitVec 32) : crc poly c (trailer c) = 0#32 := by
  have h (n : Nat) : feed poly (c <<< n) ⟨topByte (c <<< n)⟩ = c <<< (n + 8) := by
    rw [feed_top, BitVec.shiftLeft_add]
  have h0 : feed poly c ⟨topByte c⟩ = c <<< 8 := feed_top poly c
  simp only [crc, trailer, List.foldl_cons, List.foldl_nil, h0, h]
  exact BitVec.shiftLeft_eq_zero (Nat.le_refl 32)

theorem crc_append (c : BitVec 32) (xs ys : List UInt8) : crc poly c (xs ++ ys) = crc poly (crc poly c xs) ys :=
  List.foldl_append

/-! The message a bit at a time. -/

/-- The register takes in one bit of the message. -/
def shiftIn (c : BitVec 32) (bit : Bool) : BitVec 32 := if c.msb ^^ bit then (c <<< 1) ^^^ poly else c <<< 1

/-- The bits of an octet, most significant first. -/
def messageBits (b : UInt8) : List Bool := (List.range 8).map b.toBitVec.getMsbD

def crcBits (c : BitVec 32) (bits : List Bool) : BitVec 32 := bits.foldl (shiftIn poly) c

def leadingBits : Nat → BitVec 32 → List Bool
  | 0, _ => []
  | n + 1, c => c.msb :: leadingBits n (c <<< 1)

theorem shift_xor_in (c d : BitVec 32) : shift poly (c ^^^ d) = shiftIn poly c d.msb ^^^ d <<< 1 := by
  simp only [shift, shiftIn, BitVec.msb_xor, BitVec.shiftLeft_xor_distrib]
  split
  · rw [BitVec.xor_assoc, BitVec.xor_comm _ poly, BitVec.xor_assoc]
  · rfl

/-- Bits that stand in the register already are taken in from its top. -/
theorem shifts_xor_in (n : Nat) (c d : BitVec 32) :
    shifts poly n (c ^^^ d) = crcBits poly c (leadingBits n d) ^^^ d <<< n := by
  induction n generalizing c d with
  | zero => simp [shifts, leadingBits, crcBits]
  | succ n ih =>
      rw [shifts, shift_xor_in, ih, ← BitVec.shiftLeft_add, Nat.add_comm 1 n]
      rfl

theorem leadingBits_eq (n : Nat) (c : BitVec 32) : leadingBits n c = (List.range n).map c.getMsbD := by
  induction n generalizing c with
  | zero => rfl
  | succ n ih =>
      rw [leadingBits, ih, List.range_succ_eq_map, List.map_cons, List.map_map]
      have htail : (List.range n).map (c <<< 1).getMsbD = (List.range n).map (c.getMsbD ∘ Nat.succ) :=
        List.map_congr_left fun i _ => by rw [BitVec.getMsbD_shiftLeft, Function.comp_apply]
      rw [htail]
      rfl

theorem atTop_bits (b : UInt8) : leadingBits 8 (atTop b.toBitVec) = messageBits b := by
  rw [leadingBits_eq, messageBits]
  refine List.map_congr_left fun i hi => ?_
  have hlt : i < 8 := List.mem_range.1 hi
  have hplace : 31 - i - 24 = 7 - i := by omega
  rw [BitVec.getMsbD_eq_getLsbD, BitVec.getMsbD_eq_getLsbD, atTop_getLsbD _ _ (by omega)]
  simp [hlt, hplace, show i < 32 by omega, show 24 ≤ 31 - i by omega]

theorem feed_eq_bits (c : BitVec 32) (b : UInt8) : feed poly c b = crcBits poly c (messageBits b) := by
  rw [feed, shifts_xor_in, atTop_bits, atTop_shift, BitVec.xor_zero]

/-- An octet at a time is a bit at a time. -/
theorem crc_eq_bits (c : BitVec 32) (bytes : List UInt8) :
    crc poly c bytes = crcBits poly c (bytes.flatMap messageBits) := by
  induction bytes generalizing c with
  | nil => rfl
  | cons b bytes ih =>
      have hstep : crc poly c (b :: bytes) = crc poly (feed poly c b) bytes := rfl
      rw [hstep, ih, feed_eq_bits, List.flatMap_cons]
      exact List.foldl_append.symm

end WaybeamVenc.Crc
