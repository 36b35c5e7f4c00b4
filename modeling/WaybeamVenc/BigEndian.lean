import Mathlib.Data.List.Basic
import Mathlib.Tactic.Ring

namespace WaybeamVenc.BigEndian

/-- The last n bytes of a number, the most significant one first. -/
def bytes : Nat → Nat → List UInt8
  | 0, _ => []
  | n + 1, v => UInt8.ofNat (v / 256 ^ n) :: bytes n v

def number (bs : List UInt8) : Nat := bs.foldl (fun acc b => acc * 256 + b.toNat) 0

/-- The number in so many bytes from an offset on. -/
def field (bs : List UInt8) (offset n : Nat) : Nat := number ((bs.drop offset).take n)

@[simp] theorem length_bytes (n v : Nat) : (bytes n v).length = n := by
  induction n with
  | zero => rfl
  | succ n ih => simp [bytes, ih]

theorem foldl_number (bs : List UInt8) (acc : Nat) :
    bs.foldl (fun acc b => acc * 256 + b.toNat) acc = acc * 256 ^ bs.length + number bs := by
  induction bs generalizing acc with
  | nil => simp [number]
  | cons b bs ih =>
      simp only [number, List.foldl_cons, List.length_cons, Nat.zero_mul, Nat.zero_add]
      rw [ih, ih b.toNat]
      ring

theorem number_cons (b : UInt8) (bs : List UInt8) : number (b :: bs) = b.toNat * 256 ^ bs.length + number bs := by
  simpa [number] using foldl_number bs b.toNat

theorem number_bytes (n v : Nat) : number (bytes n v) = v % 256 ^ n := by
  induction n with
  | zero => simp [bytes, number, Nat.mod_one]
  | succ n ih =>
      rw [bytes, number_cons, length_bytes, ih, UInt8.toNat_ofNat', Nat.pow_succ 256, Nat.mod_mul (x := v)]
      simp only [Nat.add_comm, Nat.mul_comm, Nat.reducePow]

/-- A field behind what stands before it. -/
theorem field_append {front back : List UInt8} {offset : Nat} (h : front.length = offset) (n v : Nat) :
    field (front ++ (bytes n v ++ back)) offset n = v % 256 ^ n := by
  subst h
  simp [field, number_bytes]

end WaybeamVenc.BigEndian
