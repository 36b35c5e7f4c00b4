import Mathlib.Data.List.GetD
import Mathlib.Tactic.NormNum

namespace WaybeamVenc.ByteBuffer

abbrev Buffer := Nat → UInt8

def load (buf : Buffer) (offset n : Nat) : List UInt8 := (List.range n).map fun k => buf (offset + k)

/-- A memcpy of bytes to an offset. -/
def store (buf : Buffer) (offset : Nat) (bytes : List UInt8) : Buffer := fun i =>
  if offset ≤ i ∧ i < offset + bytes.length then bytes.getD (i - offset) 0 else buf i

variable {buf : Buffer} {offset other n : Nat} {bytes bytes' : List UInt8}

theorem store_at {k : Nat} (hk : k < bytes.length) : store buf offset bytes (offset + k) = bytes.getD k 0 := by
  rw [store, if_pos ⟨Nat.le_add_right _ _, Nat.add_lt_add_left hk _⟩, Nat.add_sub_cancel_left]

theorem store_off {i : Nat} (hi : i < offset ∨ offset + bytes.length ≤ i) : store buf offset bytes i = buf i := by
  rw [store, if_neg (by omega)]

theorem load_getD {k : Nat} (hk : k < n) : (load buf offset n).getD k 0 = buf (offset + k) := by
  rw [load, List.getD_eq_getElem?_getD, List.getElem?_map, List.getElem?_range hk]
  rfl

theorem load_length : (load buf offset n).length = n := by
  rw [load, List.length_map, List.length_range]

theorem store_load : store buf offset (load buf offset n) = buf := by
  funext i
  rw [store, load_length]
  split
  · next h => rw [load_getD (by omega), Nat.add_sub_cancel' h.1]
  · rfl

theorem load_store : load (store buf offset bytes) offset bytes.length = bytes := by
  apply List.ext_getElem load_length
  intro k hk hk'
  have hget : (load (store buf offset bytes) offset bytes.length).getD k 0 = store buf offset bytes (offset + k) :=
    load_getD hk'
  rw [store_at hk', List.getD_eq_getElem _ _ hk, List.getD_eq_getElem _ _ hk'] at hget
  exact hget

theorem load_store_disjoint (h : offset + bytes.length ≤ other ∨ other + n ≤ offset) :
    load (store buf offset bytes) other n = load buf other n := by
  apply List.map_congr_left
  intro k hk
  have hlt := List.mem_range.1 hk
  exact store_off (by omega)

theorem store_store (h : bytes.length = bytes'.length) :
    store (store buf offset bytes) offset bytes' = store buf offset bytes' := by
  funext i
  by_cases hi : offset ≤ i ∧ i < offset + bytes'.length
  · rw [store, if_pos hi, store, if_pos hi]
  · rw [store_off (by omega), store_off (by omega), store_off (by omega)]

theorem store_comm (h : offset + bytes.length ≤ other ∨ other + bytes'.length ≤ offset) :
    store (store buf offset bytes) other bytes' = store (store buf other bytes') offset bytes := by
  funext i
  simp only [store]
  split
  · next hi =>
    rw [if_neg (by omega)]
  · rfl

/-! Words, lowest byte first. -/

def bytes16 (v : UInt16) : List UInt8 := [v.toUInt8, (v >>> 8).toUInt8]

def bytes32 (v : UInt32) : List UInt8 :=
  [v.toUInt8, (v >>> 8).toUInt8, (v >>> 16).toUInt8, (v >>> 24).toUInt8]

def word16 : List UInt8 → UInt16
  | [b0, b1] => b0.toUInt16 ||| (b1.toUInt16 <<< 8)
  | _ => 0

def word32 : List UInt8 → UInt32
  | [b0, b1, b2, b3] => b0.toUInt32 ||| (b1.toUInt32 <<< 8) ||| (b2.toUInt32 <<< 16) ||| (b3.toUInt32 <<< 24)
  | _ => 0

theorem high_bits {m k i : Nat} (hm : m < 2 ^ k) (hi : k ≤ i) : m.testBit i = false :=
  Nat.testBit_lt_two_pow (Nat.lt_of_lt_of_le hm (Nat.pow_le_pow_right (by decide) hi))

theorem word16_bytes16 (v : UInt16) : word16 (bytes16 v) = v := by
  apply UInt16.toNat_inj.1
  apply Nat.eq_of_testBit_eq
  intro i
  have hv := fun h => high_bits (i := i) v.toNat_lt h
  simp only [word16, bytes16, UInt16.toNat_or, UInt16.toNat_shiftLeft, UInt8.toNat_toUInt16, UInt16.toNat_toUInt8,
    UInt16.toNat_shiftRight, UInt16.reduceToNat, Nat.testBit_or, Nat.testBit_mod_two_pow, Nat.testBit_shiftLeft,
    Nat.testBit_shiftRight]
  grind

theorem word32_bytes32 (v : UInt32) : word32 (bytes32 v) = v := by
  apply UInt32.toNat_inj.1
  apply Nat.eq_of_testBit_eq
  intro i
  have hv := fun h => high_bits (i := i) v.toNat_lt h
  simp only [word32, bytes32, UInt32.toNat_or, UInt32.toNat_shiftLeft, UInt8.toNat_toUInt32, UInt32.toNat_toUInt8,
    UInt32.toNat_shiftRight, UInt32.reduceToNat, Nat.testBit_or, Nat.testBit_mod_two_pow, Nat.testBit_shiftLeft,
    Nat.testBit_shiftRight]
  grind

theorem byte_ext {x y : UInt8} (h : ∀ i, x.toNat.testBit i = y.toNat.testBit i) : x = y :=
  UInt8.toNat_inj.1 (Nat.eq_of_testBit_eq h)

theorem bytes16_word16 (b0 b1 : UInt8) : bytes16 (word16 [b0, b1]) = [b0, b1] := by
  have hlow : (word16 [b0, b1]).toUInt8 = b0 := by
    apply byte_ext
    intro i
    have h0 := fun h => high_bits (i := i) b0.toNat_lt h
    simp only [word16, UInt16.toNat_toUInt8, UInt16.toNat_or, UInt16.toNat_shiftLeft, UInt8.toNat_toUInt16,
      UInt16.reduceToNat, Nat.testBit_or, Nat.testBit_mod_two_pow, Nat.testBit_shiftLeft]
    grind
  have hhigh : (word16 [b0, b1] >>> 8).toUInt8 = b1 := by
    apply byte_ext
    intro i
    have h1 := fun h => high_bits (i := i) b1.toNat_lt h
    have h0 := fun h => high_bits (i := 8 + i) b0.toNat_lt h
    simp only [word16, UInt16.toNat_toUInt8, UInt16.toNat_or, UInt16.toNat_shiftLeft, UInt16.toNat_shiftRight,
      UInt8.toNat_toUInt16, UInt16.reduceToNat, Nat.testBit_or, Nat.testBit_mod_two_pow, Nat.testBit_shiftLeft,
      Nat.testBit_shiftRight]
    grind
  rw [bytes16, hlow, hhigh]

theorem byte_word32 (b0 b1 b2 b3 : UInt8) (k : UInt32) {b : UInt8} {j : Nat} (hk : k.toNat % 32 = 8 * j)
    (hb : [b0, b1, b2, b3][j]? = some b) : (word32 [b0, b1, b2, b3] >>> k).toUInt8 = b := by
  apply byte_ext
  intro i
  have h0 := fun n h => high_bits (i := n) b0.toNat_lt h
  have h1 := fun n h => high_bits (i := n) b1.toNat_lt h
  have h2 := fun n h => high_bits (i := n) b2.toNat_lt h
  have h3 := fun n h => high_bits (i := n) b3.toNat_lt h
  simp only [word32, UInt32.toNat_toUInt8, UInt32.toNat_or, UInt32.toNat_shiftLeft, UInt32.toNat_shiftRight,
    UInt8.toNat_toUInt32, UInt32.reduceToNat, Nat.testBit_or, Nat.testBit_mod_two_pow, Nat.testBit_shiftLeft,
    Nat.testBit_shiftRight, hk]
  match j with
  | 0 | 1 | 2 | 3 =>
    cases hb
    grind

theorem bytes32_word32 (b0 b1 b2 b3 : UInt8) : bytes32 (word32 [b0, b1, b2, b3]) = [b0, b1, b2, b3] := by
  have h0 := byte_word32 b0 b1 b2 b3 0 (j := 0) rfl rfl
  have h1 := byte_word32 b0 b1 b2 b3 8 (j := 1) rfl rfl
  have h2 := byte_word32 b0 b1 b2 b3 16 (j := 2) rfl rfl
  have h3 := byte_word32 b0 b1 b2 b3 24 (j := 3) rfl rfl
  rw [UInt32.shiftRight_zero] at h0
  rw [bytes32, h0, h1, h2, h3]

theorem bytes32_of16 (w : UInt16) : bytes32 w.toUInt32 = bytes16 w ++ [0, 0] := by
  have hlow : w.toUInt32.toUInt8 = w.toUInt8 := rfl
  have hbyte : ∀ k : Nat, w.toUInt32.toNat >>> k = w.toNat >>> k := fun _ => rfl
  have hlt := w.toNat_lt
  have hhigh : ∀ k : UInt32, 16 ≤ k.toNat → k.toNat < 32 → (w.toUInt32 >>> k).toUInt8 = 0 := by
    intro k hk hk'
    apply UInt8.toNat_inj.1
    rw [UInt32.toNat_toUInt8, UInt32.toNat_shiftRight, Nat.mod_eq_of_lt hk', hbyte,
      Nat.shiftRight_eq_zero _ _ (Nat.lt_of_lt_of_le hlt (Nat.pow_le_pow_right (by decide) hk))]
    rfl
  have hmid : (w.toUInt32 >>> 8).toUInt8 = (w >>> 8).toUInt8 := rfl
  rw [bytes32, hlow, hmid, hhigh 16 (by decide) (by decide), hhigh 24 (by decide) (by decide)]
  rfl

theorem bytes32_of8 (b : UInt8) : bytes32 b.toUInt32 = [b] ++ [0, 0, 0] := by
  have h := bytes32_of16 b.toUInt16
  have hzero : (b.toUInt16 >>> 8).toUInt8 = 0 := by
    apply UInt8.toNat_inj.1
    have hlt := b.toNat_lt
    have hmod : (b.toUInt16 >>> 8).toUInt8.toNat = b.toNat >>> 8 % 256 := rfl
    rw [hmod, Nat.shiftRight_eq_zero _ _ hlt]
    rfl
  have hwide : b.toUInt16.toUInt32 = b.toUInt32 := UInt32.toNat_inj.1 rfl
  rw [bytes16, hzero, hwide, UInt8.toUInt8_toUInt16] at h
  exact h

theorem store_front (buf : Buffer) (offset : Nat) {front front' : List UInt8} (rest : List UInt8)
    (h : front.length = front'.length) :
    store (store buf offset (front ++ rest)) offset front' = store buf offset (front' ++ rest) := by
  funext i
  by_cases hi : offset ≤ i ∧ i < offset + front'.length
  · have hfront : offset ≤ i ∧ i < offset + (front' ++ rest).length := by
      rw [List.length_append]
      omega
    rw [store, if_pos hi, store, if_pos hfront, List.getD_append _ _ _ _ (by omega)]
  · rw [store_off (by omega)]
    by_cases hrest : offset ≤ i ∧ i < offset + (front' ++ rest).length
    · have hrest' : offset ≤ i ∧ i < offset + (front ++ rest).length := by
        rw [List.length_append, h, ← List.length_append]
        exact hrest
      rw [store, if_pos hrest', store, if_pos hrest, List.getD_append_right _ _ _ _ (by omega),
        List.getD_append_right _ _ _ _ (by omega), h]
    · rw [store_off (by rw [List.length_append, h, ← List.length_append]; omega), store_off (by omega)]

end WaybeamVenc.ByteBuffer
