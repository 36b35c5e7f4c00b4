import Mathlib.Data.Prod.Lex
import WaybeamVenc.RotatingBuffer

namespace WaybeamVenc.MotionRing

open RotatingBuffer

structure Timespec where
  sec : Int
  nsec : Int
deriving DecidableEq

structure EisMotionSample (F : Type) where
  ts : Timespec
  gyroX : F
  gyroY : F
  gyroZ : F
deriving DecidableEq

structure ImuRingSample (F : Type) where
  ts : Timespec
  gyroX : F
  gyroY : F
  gyroZ : F
  accelX : F
  accelY : F
  accelZ : F
deriving DecidableEq

def motionRingCapacity : Nat := 2048

instance : NeZero motionRingCapacity := ⟨by decide⟩

/-- EisMotionRing and ImuRing differ in their samples only. -/
structure Ring (S : Type) where
  buf : Vector S motionRingCapacity
  head : Nat
  count : Nat

section

variable {S : Type}

def init (zero : S) : Ring S := ⟨Vector.replicate _ zero, 0, 0⟩

def push (r : Ring S) (s : S) : Ring S where
  buf := store r.buf r.head s
  head := (r.head + 1) % motionRingCapacity
  count := if r.count < motionRingCapacity then r.count + 1 else r.count

/-- a is not before b. -/
def tsGe (a b : Timespec) : Bool :=
  if a.sec ≠ b.sec then decide (b.sec < a.sec) else decide (b.nsec ≤ a.nsec)

/-- The loop over the slots from i on, with what was copied to out so far and
how much that is. -/
def readLoop (r : Ring S) (keep : S → Bool) (start maxOut : Nat) : Nat → Nat → Nat × List S → Nat × List S
  | 0, _, acc => acc
  | left + 1, i, (n, out) =>
    if n < maxOut then
      let s := slot r.buf ((start + i) % motionRingCapacity)
      readLoop r keep start maxOut left (i + 1) (if keep s then (n + 1, out ++ [s]) else (n, out))
    else (n, out)

/-- The samples copied to out, and their number. -/
def readRange (ts : S → Timespec) (r : Ring S) (t0 t1 : Timespec) (maxOut : Nat) : Nat × List S :=
  if r.count = 0 then (0, [])
  else
    let start := if r.count < motionRingCapacity then 0 else r.head
    readLoop r (fun s => tsGe (ts s) t0 && tsGe t1 (ts s)) start maxOut r.count 0 (0, [])

end

section

variable {F : Type}

def eisRingInit [Zero F] : Ring (EisMotionSample F) := init ⟨⟨0, 0⟩, 0, 0, 0⟩

def eisRingPush (r : Ring (EisMotionSample F)) (s : EisMotionSample F) : Ring (EisMotionSample F) := push r s

def eisRingReadRange (r : Ring (EisMotionSample F)) (t0 t1 : Timespec) (maxOut : Nat) :
    Nat × List (EisMotionSample F) := readRange EisMotionSample.ts r t0 t1 maxOut

def imuRingInit [Zero F] : Ring (ImuRingSample F) := init ⟨⟨0, 0⟩, 0, 0, 0, 0, 0, 0⟩

def imuRingPush (r : Ring (ImuRingSample F)) (s : ImuRingSample F) : Ring (ImuRingSample F) := push r s

def imuRingReadRange (r : Ring (ImuRingSample F)) (t0 t1 : Timespec) (maxOut : Nat) :
    Nat × List (ImuRingSample F) := readRange ImuRingSample.ts r t0 t1 maxOut

end

/-! Times in their order. -/

def Timespec.key (t : Timespec) : Lex (Int × Int) := toLex (t.sec, t.nsec)

theorem Timespec.key_injective : Function.Injective Timespec.key := by
  rintro ⟨sec, nsec⟩ ⟨sec', nsec'⟩ h
  obtain ⟨rfl, rfl⟩ := Prod.mk.inj h
  rfl

instance : LinearOrder Timespec := LinearOrder.lift' Timespec.key Timespec.key_injective

theorem tsGe_iff (a b : Timespec) : tsGe a b = true ↔ b ≤ a := by
  have hle : b ≤ a ↔ b.sec < a.sec ∨ b.sec = a.sec ∧ b.nsec ≤ a.nsec := Prod.Lex.toLex_le_toLex
  rw [hle, tsGe]
  split
  next hne => simp [Ne.symm hne]
  next heq => simp [not_not.mp heq]

/-! A ring and all that was ever pushed to it. -/

section

variable {S : Type}

structure Holds (r : Ring S) (pushed : List S) : Prop where
  written : Written r.buf pushed
  head : r.head = pushed.length % motionRingCapacity
  count : r.count = min pushed.length motionRingCapacity

theorem init_holds (zero : S) : Holds (init zero) [] := ⟨written_nil _, rfl, rfl⟩

theorem push_holds {r : Ring S} {pushed : List S} (h : Holds r pushed) (s : S) : Holds (push r s) (pushed ++ [s]) where
  written := by
    rw [push, h.head, store_mod]
    exact h.written.push s
  head := by
    rw [push, h.head, List.length_append, List.length_singleton, Nat.mod_add_mod]
  count := by
    have hcount := h.count
    simp only [push, List.length_append, List.length_singleton]
    split <;> omega

theorem pushes_hold {r : Ring S} {pushed : List S} (h : Holds r pushed) (ss : List S) :
    Holds (ss.foldl push r) (pushed ++ ss) := by
  induction ss generalizing r pushed with
  | nil => simpa using h
  | cons s ss ih => simpa using ih (push_holds h s)

/-- What a ring still has of what was pushed. -/
def newest (pushed : List S) : List S := pushed.drop (pushed.length - motionRingCapacity)

theorem readLoop_eq (r : Ring S) (keep : S → Bool) (start maxOut left i : Nat) (out : List S) :
    readLoop r keep start maxOut left i (out.length, out) =
      let kept := ((List.range' i left).map fun j => slot r.buf (start + j)).filter keep
      ((out ++ kept.take (maxOut - out.length)).length, out ++ kept.take (maxOut - out.length)) := by
  induction left generalizing i out with
  | zero => simp [readLoop]
  | succ left ih =>
      rw [readLoop, slot_mod, List.range'_succ, List.map_cons]
      split
      next hroom =>
        dsimp only
        cases hkeep : keep (slot r.buf (start + i)) with
        | true =>
            have hmore := ih (i + 1) (out ++ [slot r.buf (start + i)])
            rw [List.length_append, List.length_singleton] at hmore
            have htake : maxOut - out.length = maxOut - (out.length + 1) + 1 := by omega
            rw [if_pos rfl, hmore, List.filter_cons_of_pos hkeep, htake, List.take_succ_cons]
            simp only [List.append_assoc, List.singleton_append]
        | false =>
            rw [if_neg Bool.false_ne_true, ih, List.filter_cons_of_neg (by simp [hkeep])]
      next hfull =>
        have hnone : maxOut - out.length = 0 := by omega
        simp [hnone]

/-- A query finds what it asks for among the newest samples. -/
theorem readRange_eq {r : Ring S} {pushed : List S} (h : Holds r pushed) (ts : S → Timespec) (t0 t1 : Timespec)
    (maxOut : Nat) :
    let found := ((newest pushed).filter fun s => t0 ≤ ts s ∧ ts s ≤ t1).take maxOut
    readRange ts r t0 t1 maxOut = (found.length, found) := by
  intro found
  have hcount := h.count
  have hkeep : (fun s => tsGe (ts s) t0 && tsGe t1 (ts s)) = fun s => decide (t0 ≤ ts s ∧ ts s ≤ t1) := by
    funext s
    rw [Bool.eq_iff_iff, Bool.and_eq_true, tsGe_iff, tsGe_iff, decide_eq_true_eq]
  rw [readRange]
  split
  next hempty =>
    have hnil : pushed = [] := by
      have hzero : motionRingCapacity ≠ 0 := by decide
      exact List.length_eq_zero_iff.mp (by omega)
    have hfound : found = [] := by simp [found, newest, hnil]
    rw [hfound]
    rfl
  next hsome =>
    have hslots : (List.range' 0 r.count).map
        (fun j => slot r.buf ((if r.count < motionRingCapacity then 0 else r.head) + j)) = newest pushed := by
      have hnewest := h.written.newest (k := r.count) (by omega) (by omega)
      have hdrop : pushed.length - r.count = pushed.length - motionRingCapacity := by omega
      rw [newest, ← hdrop, ← hnewest, ← List.range_eq_range']
      apply List.map_congr_left
      intro j _
      apply slot_congr
      split
      next hfew =>
        rw [show pushed.length - r.count = 0 by omega]
      next hfull =>
        -- the oldest sample is in the slot that the next push goes to
        have hback : (pushed.length - r.count) % motionRingCapacity = pushed.length % motionRingCapacity := by
          rw [show r.count = motionRingCapacity by omega, ← Nat.mod_eq_sub_mod (by omega)]
        rw [h.head, Nat.mod_add_mod, ← Nat.mod_add_mod (pushed.length - r.count), hback, Nat.mod_add_mod]
    have hloop := readLoop_eq r (fun s => tsGe (ts s) t0 && tsGe t1 (ts s))
      (if r.count < motionRingCapacity then 0 else r.head) maxOut r.count 0 []
    dsimp only
    rw [List.length_nil] at hloop
    rw [hloop, hslots, hkeep]
    simp [found]

end

/-- A query finds the first samples of its range among the last that were
pushed, in the order they came. -/
theorem read_range_exact {F : Type} [Zero F] (t0 t1 : Timespec) (maxOut : Nat) :
    (∀ pushed : List (EisMotionSample F),
      let found := ((pushed.drop (pushed.length - 2048)).filter fun s => t0 ≤ s.ts ∧ s.ts ≤ t1).take maxOut
      eisRingReadRange (pushed.foldl eisRingPush eisRingInit) t0 t1 maxOut = (found.length, found)) ∧
    ∀ pushed : List (ImuRingSample F),
      let found := ((pushed.drop (pushed.length - 2048)).filter fun s => t0 ≤ s.ts ∧ s.ts ≤ t1).take maxOut
      imuRingReadRange (pushed.foldl imuRingPush imuRingInit) t0 t1 maxOut = (found.length, found) := by
  constructor
  · intro pushed
    exact readRange_eq (pushes_hold (init_holds _) pushed) EisMotionSample.ts t0 t1 maxOut
  · intro pushed
    exact readRange_eq (pushes_hold (init_holds _) pushed) ImuRingSample.ts t0 t1 maxOut

end WaybeamVenc.MotionRing
