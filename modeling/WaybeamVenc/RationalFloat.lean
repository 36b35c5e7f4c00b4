import Mathlib.Algebra.Order.Floor.Ring
import Mathlib.Data.Rat.Floor
import WaybeamVenc.Config

namespace WaybeamVenc.RationalFloat

open CNumber Config

/-- strtod for a decimal number without an exponent. -/
def strtod (s : CString) : Option (Rat × CString) :=
  let (negative, s) := takeSign (skipSpace s)
  match takeDigits 10 none s with
  | (none, _) => none
  | (some n, '.' :: s) =>
    let (f, rest) := takeDigits 10 (some 0) s
    let q : Rat := n + (f.getD 0 : Rat) / 10 ^ (s.length - rest.length)
    some (if negative then -q else q, rest)
  | (some n, rest) => some (if negative then -(n : Rat) else n, rest)

/-- Exact numbers in the place of the doubles and the floats, to run the program
with. -/
instance : CFloat Rat Rat where
  ofRat q := q
  ofUInt32 n := n.toNat
  toUInt32 q := UInt32.ofNat q.floor.toNat
  mul := (· * ·)
  add := (· + ·)
  lt x y := x < y
  le x y := x ≤ y
  finite _ := true
  strtod := strtod
  toFloat q := q
  ofFloat q := q

end WaybeamVenc.RationalFloat
