import Mathlib.Algebra.Order.Group.Abs
import Mathlib.Algebra.Order.Ring.Int
import Mathlib.Data.List.Basic
import Mathlib.Tactic.Linarith
import Mathlib.Tactic.Ring

namespace WaybeamVenc.LineRaster

/-- A line between two points of the grid. -/
structure Line where
  x0 : Int
  y0 : Int
  x1 : Int
  y1 : Int
deriving DecidableEq

namespace Line

variable (l : Line)

def dx : Int := |l.x1 - l.x0|

def dy : Int := -|l.y1 - l.y0|

def sx : Int := if l.x0 < l.x1 then 1 else -1

def sy : Int := if l.y0 < l.y1 then 1 else -1

/-- The number of steps along the longer side. -/
def steps : Nat := max (l.x1 - l.x0).natAbs (l.y1 - l.y0).natAbs

end Line

structure Cursor where
  x : Int
  y : Int
  err : Int
deriving DecidableEq

def first (l : Line) : Cursor := ⟨l.x0, l.y0, l.dx + l.dy⟩

/-- One turn of the loop: both tests see the error as it was. -/
def next (l : Line) (c : Cursor) : Cursor :=
  let e2 := 2 * c.err
  let c := if l.dy ≤ e2 then { c with err := c.err + l.dy, x := c.x + l.sx } else c
  if e2 ≤ l.dx then { c with err := c.err + l.dx, y := c.y + l.sy } else c

/-- The points up to the end of the line, where the loop breaks off. -/
def trace (l : Line) : Nat → Cursor → Option (List (Int × Int))
  | 0, _ => none
  | fuel + 1, c =>
    if c.x = l.x1 ∧ c.y = l.y1 then some [(c.x, c.y)]
    else (trace l fuel (next l c)).map ((c.x, c.y) :: ·)

/-- After k turns the cursor has gone k units along the longer side, and along
the other one as far as the line has, to within half a unit. -/
structure OnLine (l : Line) (k : Nat) (c : Cursor) (p q : Int) : Prop where
  x : c.x = l.x0 + l.sx * p
  y : c.y = l.y0 + l.sy * q
  err : c.err = l.dx + l.dy + (l.dx * q + l.dy * p)
  wide : -l.dy ≤ l.dx → p = k ∧ -l.dx ≤ 2 * (l.dx * q + l.dy * p) ∧ 2 * (l.dx * q + l.dy * p) ≤ l.dx
  tall : l.dx < -l.dy → q = k ∧ l.dy ≤ 2 * (l.dx * q + l.dy * p) ∧ 2 * (l.dx * q + l.dy * p) ≤ -l.dy

variable {l : Line} {k : Nat} {c : Cursor} {p q : Int}

theorem dx_nonneg (l : Line) : 0 ≤ l.dx := abs_nonneg _

theorem dy_nonpos (l : Line) : l.dy ≤ 0 := neg_nonpos.mpr (abs_nonneg _)

theorem steps_eq (l : Line) : (l.steps : Int) = max l.dx (-l.dy) := by
  simp [Line.steps, Line.dx, Line.dy]

theorem sx_mul_dx (l : Line) : l.x0 + l.sx * l.dx = l.x1 := by
  unfold Line.sx Line.dx
  rcases lt_or_ge l.x0 l.x1 with h | h
  · rw [if_pos h, abs_of_nonneg (by omega)]
    omega
  · rw [if_neg (by omega), abs_of_nonpos (by omega)]
    omega

theorem sy_mul_dy (l : Line) : l.y0 + l.sy * -l.dy = l.y1 := by
  unfold Line.sy Line.dy
  rcases lt_or_ge l.y0 l.y1 with h | h
  · rw [if_pos h, abs_of_nonneg (by omega)]
    omega
  · rw [if_neg (by omega), abs_of_nonpos (by omega)]
    omega

theorem onLine_first (l : Line) : OnLine l 0 (first l) 0 0 := by
  have hdx := dx_nonneg l
  have hdy := dy_nonpos l
  constructor
  · simp [first]
  · simp [first]
  · simp [first]
  · intro _
    simp [hdx]
  · intro _
    simp [hdy]

def xMove (l : Line) (c : Cursor) : Int := if l.dy ≤ 2 * c.err then 1 else 0

def yMove (l : Line) (c : Cursor) : Int := if 2 * c.err ≤ l.dx then 1 else 0

theorem next_eq (l : Line) (c : Cursor) :
    next l c = ⟨c.x + l.sx * xMove l c, c.y + l.sy * yMove l c, c.err + (l.dx * yMove l c + l.dy * xMove l c)⟩ := by
  unfold next xMove yMove
  by_cases hx : l.dy ≤ 2 * c.err <;> by_cases hy : 2 * c.err ≤ l.dx <;> simp [hx, hy, add_assoc, add_comm l.dy]

/-- A turn always moves along the longer side, and along the other one when that
keeps the error within bounds. -/
theorem OnLine.next (h : OnLine l k c p q) : OnLine l (k + 1) (next l c) (p + xMove l c) (q + yMove l c) := by
  have hdx := dx_nonneg l
  have hdy := dy_nonpos l
  have herr := h.err
  have hsum : l.dx * (q + yMove l c) + l.dy * (p + xMove l c) =
      l.dx * q + l.dy * p + (l.dx * yMove l c + l.dy * xMove l c) := by ring
  constructor
  · rw [next_eq, h.x]
    ring
  · rw [next_eq, h.y]
    ring
  · rw [next_eq, h.err]
    ring
  · intro hwide
    obtain ⟨hp, hlow, hhigh⟩ := h.wide hwide
    have hx : xMove l c = 1 := if_pos (by omega)
    rw [hsum, hx]
    by_cases hy : 2 * c.err ≤ l.dx <;> simp only [yMove, hy, if_true, if_false] <;> omega
  · intro htall
    obtain ⟨hq, hlow, hhigh⟩ := h.tall htall
    have hy : yMove l c = 1 := if_pos (by omega)
    rw [hsum, hy]
    by_cases hx : l.dy ≤ 2 * c.err <;> simp only [xMove, hx, if_true, if_false] <;> omega

/-- A cursor stays between the ends. -/
theorem OnLine.between (h : OnLine l k c p q) (hk : k ≤ l.steps) (hne : 0 < l.steps) : 0 ≤ p ∧ p ≤ l.dx ∧ 0 ≤ q ∧ q ≤ -l.dy := by
  have hdx := dx_nonneg l
  have hdy := dy_nonpos l
  have hsteps : (k : Int) ≤ max l.dx (-l.dy) := by
    rw [← steps_eq]
    exact_mod_cast hk
  have hlong : 0 < max l.dx (-l.dy) := by
    rw [← steps_eq]
    exact_mod_cast hne
  rcases lt_or_ge l.dx (-l.dy) with htall | hwide
  · obtain ⟨hq, hlow, hhigh⟩ := h.tall htall
    rw [max_eq_right htall.le] at hsteps
    have hqb : q ≤ -l.dy := by omega
    have hpos : 0 < -l.dy := by omega
    refine ⟨?_, ?_, by omega, hqb⟩
    · by_contra hneg
      have hone : -l.dy * p ≤ -l.dy * -1 := Int.mul_le_mul_of_nonneg_left (by omega) (by omega)
      have htwo : 0 ≤ l.dx * q := Int.mul_nonneg hdx (by omega)
      have hsign : -l.dy * p = -(l.dy * p) := by ring
      omega
    · by_contra hmore
      have hone : -l.dy * (l.dx + 1) ≤ -l.dy * p := Int.mul_le_mul_of_nonneg_left (by omega) (by omega)
      have htwo : l.dx * q ≤ l.dx * -l.dy := Int.mul_le_mul_of_nonneg_left hqb hdx
      have hsign : -l.dy * (l.dx + 1) = l.dx * -l.dy + -l.dy := by ring
      have hsign' : -l.dy * p = -(l.dy * p) := by ring
      omega
  · obtain ⟨hp, hlow, hhigh⟩ := h.wide hwide
    rw [max_eq_left hwide] at hsteps hlong
    have hpa : p ≤ l.dx := by omega
    refine ⟨by omega, hpa, ?_, ?_⟩
    · by_contra hneg
      have hone : l.dx * q ≤ l.dx * -1 := Int.mul_le_mul_of_nonneg_left (by omega) hdx
      have htwo : 0 ≤ -l.dy * p := Int.mul_nonneg (by omega) (by omega)
      have hsign : -l.dy * p = -(l.dy * p) := by ring
      omega
    · by_contra hmore
      have hone : l.dx * (-l.dy + 1) ≤ l.dx * q := Int.mul_le_mul_of_nonneg_left (by omega) hdx
      have htwo : -l.dy * p ≤ -l.dy * l.dx := Int.mul_le_mul_of_nonneg_left hpa (by omega)
      have hsign : l.dx * (-l.dy + 1) = -l.dy * l.dx + l.dx := by ring
      have hsign' : -l.dy * p = -(l.dy * p) := by ring
      omega

theorem sx_cases (l : Line) : l.sx = 1 ∨ l.sx = -1 := by
  unfold Line.sx
  split <;> simp

theorem sy_cases (l : Line) : l.sy = 1 ∨ l.sy = -1 := by
  unfold Line.sy
  split <;> simp

theorem OnLine.at_end (h : OnLine l k c p q) (hk : k = l.steps) (hne : 0 < l.steps) : c.x = l.x1 ∧ c.y = l.y1 := by
  obtain ⟨-, hpa, -, hqb⟩ := h.between hk.le hne
  have hk' : (k : Int) = max l.dx (-l.dy) := by rw [hk, steps_eq]
  have hdx := dx_nonneg l
  have hdy := dy_nonpos l
  have hends : p = l.dx ∧ q = -l.dy := by
    rcases lt_or_ge l.dx (-l.dy) with htall | hwide
    · obtain ⟨hq, hlow, hhigh⟩ := h.tall htall
      have hq' : q = -l.dy := by rw [hq, hk', max_eq_right htall.le]
      refine ⟨le_antisymm hpa ?_, hq'⟩
      by_contra hless
      have hone : -l.dy * 1 ≤ -l.dy * (l.dx - p) := Int.mul_le_mul_of_nonneg_left (by omega) (by omega)
      have hsum : l.dx * q + l.dy * p = -l.dy * (l.dx - p) := by rw [hq']; ring
      omega
    · obtain ⟨hp, hlow, hhigh⟩ := h.wide hwide
      have hp' : p = l.dx := by rw [hp, hk', max_eq_left hwide]
      have hpos : 0 < l.dx := by
        have hlong : 0 < (k : Int) := by omega
        omega
      refine ⟨hp', le_antisymm hqb ?_⟩
      by_contra hless
      have hone : l.dx * 1 ≤ l.dx * (-l.dy - q) := Int.mul_le_mul_of_nonneg_left (by omega) hdx
      have hsum : l.dx * q + l.dy * p = -(l.dx * (-l.dy - q)) := by rw [hp']; ring
      omega
  rw [h.x, h.y, hends.1, hends.2]
  exact ⟨sx_mul_dx l, sy_mul_dy l⟩

theorem OnLine.before_end (h : OnLine l k c p q) (hk : k < l.steps) : ¬(c.x = l.x1 ∧ c.y = l.y1) := by
  have hk' : (k : Int) < max l.dx (-l.dy) := by
    rw [← steps_eq]
    exact_mod_cast hk
  rintro ⟨hx, hy⟩
  rw [h.x, ← sx_mul_dx l] at hx
  rw [h.y, ← sy_mul_dy l] at hy
  rcases lt_or_ge l.dx (-l.dy) with htall | hwide
  · rw [max_eq_right htall.le] at hk'
    have hq := (h.tall htall).1
    rcases sy_cases l with hs | hs <;> rw [hs] at hy <;> omega
  · rw [max_eq_left hwide] at hk'
    have hp := (h.wide hwide).1
    rcases sx_cases l with hs | hs <;> rw [hs] at hx <;> omega

/-- From k turns on the loop draws what is left of the line and breaks off. -/
theorem trace_onLine (h : OnLine l k c p q) (hne : 0 < l.steps) {n fuel : Nat} (hn : k + n = l.steps) (hfuel : n < fuel) :
    ∃ pts, trace l fuel c = some pts ∧ pts.length = n + 1 ∧
      ∀ i (hi : i < pts.length), ∃ c' p' q', OnLine l (k + i) c' p' q' ∧ pts[i] = (c'.x, c'.y) := by
  induction n generalizing k c p q fuel with
  | zero =>
      obtain ⟨fuel, rfl⟩ := Nat.exists_eq_add_of_lt hfuel
      refine ⟨[(c.x, c.y)], ?_, rfl, ?_⟩
      · rw [trace, if_pos (h.at_end hn hne)]
      · intro i hi
        obtain rfl : i = 0 := by simpa using hi
        exact ⟨c, p, q, h, rfl⟩
  | succ n ih =>
      obtain ⟨fuel, rfl⟩ := Nat.exists_eq_add_of_lt hfuel
      obtain ⟨pts, htrace, hlen, hpts⟩ := ih h.next (by omega) (show n < n + 1 + fuel by omega)
      refine ⟨(c.x, c.y) :: pts, ?_, by simp [hlen], ?_⟩
      · rw [trace, if_neg (h.before_end (by omega)), htrace]
        rfl
      · intro i hi
        cases i with
        | zero => exact ⟨c, p, q, h, rfl⟩
        | succ i =>
            obtain ⟨c', p', q', hline, hpt⟩ := hpts i (by simpa using hi)
            exact ⟨c', p', q', by rwa [Nat.add_right_comm] at hline, hpt⟩

/-- The i-th point of a line: i units along the longer side, on the point of the
grid that is nearest to the line there, between the ends. -/
structure Close (l : Line) (i : Nat) (pt : Int × Int) : Prop where
  wide : |l.y1 - l.y0| ≤ |l.x1 - l.x0| →
    pt.1 = l.x0 + l.sx * i ∧ 2 * |(|l.x1 - l.x0|) * (pt.2 - l.y0) - (l.y1 - l.y0) * i| ≤ |l.x1 - l.x0|
  tall : |l.x1 - l.x0| < |l.y1 - l.y0| →
    pt.2 = l.y0 + l.sy * i ∧ 2 * |(|l.y1 - l.y0|) * (pt.1 - l.x0) - (l.x1 - l.x0) * i| ≤ |l.y1 - l.y0|
  inX : min l.x0 l.x1 ≤ pt.1 ∧ pt.1 ≤ max l.x0 l.x1
  inY : min l.y0 l.y1 ≤ pt.2 ∧ pt.2 ≤ max l.y0 l.y1

theorem abs_unit_mul {u v : Int} (hu : u = 1 ∨ u = -1) : |u * v| = |v| := by
  rcases hu with rfl | rfl <;> simp

theorem OnLine.close (h : OnLine l k c p q) (hk : k ≤ l.steps) (hne : 0 < l.steps) : Close l k (c.x, c.y) := by
  obtain ⟨hp0, hpa, hq0, hqb⟩ := h.between hk hne
  have hxend := sx_mul_dx l
  have hyend := sy_mul_dy l
  have hx := h.x
  have hy := h.y
  constructor
  · intro hwide
    obtain ⟨hp, hlow, hhigh⟩ := h.wide (by simpa [Line.dx, Line.dy] using hwide)
    have hdist : l.dx * (c.y - l.y0) - (l.y1 - l.y0) * k = l.sy * (l.dx * q + l.dy * p) := by
      rw [← hyend, hy, ← hp]
      ring
    refine ⟨by rw [hx, hp], ?_⟩
    change 2 * |l.dx * (c.y - l.y0) - (l.y1 - l.y0) * k| ≤ l.dx
    rw [hdist, abs_unit_mul (sy_cases l)]
    rcases abs_cases (l.dx * q + l.dy * p) with ⟨habs, -⟩ | ⟨habs, -⟩ <;> rw [habs] <;> omega
  · intro htall
    obtain ⟨hq, hlow, hhigh⟩ := h.tall (by simpa [Line.dx, Line.dy] using htall)
    have hdist : -l.dy * (c.x - l.x0) - (l.x1 - l.x0) * k = l.sx * -(l.dx * q + l.dy * p) := by
      rw [← hxend, hx, ← hq]
      ring
    have hdy : |l.y1 - l.y0| = -l.dy := by simp [Line.dy]
    refine ⟨by rw [hy, hq], ?_⟩
    rw [hdy, hdist, abs_unit_mul (sx_cases l), abs_neg]
    rcases abs_cases (l.dx * q + l.dy * p) with ⟨habs, -⟩ | ⟨habs, -⟩ <;> rw [habs] <;> omega
  · rcases sx_cases l with hs | hs <;> rw [hs] at hx hxend <;> simp only <;> omega
  · rcases sy_cases l with hs | hs <;> rw [hs] at hy hyend <;> simp only <;> omega

/-- The loop ends by itself: it draws one point for each unit of the longer side
and both ends, and every point as near to the line as the grid allows. -/
theorem trace_first (l : Line) {fuel : Nat} (hfuel : l.steps < fuel) :
    ∃ pts, trace l fuel (first l) = some pts ∧ pts.length = l.steps + 1 ∧
      pts.head? = some (l.x0, l.y0) ∧ pts.getLast? = some (l.x1, l.y1) ∧
        ∀ i (hi : i < pts.length), Close l i pts[i] := by
  rcases Nat.eq_zero_or_pos l.steps with hzero | hne
  · obtain ⟨fuel, rfl⟩ := Nat.exists_eq_add_of_lt hfuel
    have hsame : l.x0 = l.x1 ∧ l.y0 = l.y1 := by
      simp only [Line.steps] at hzero
      omega
    refine ⟨[(l.x0, l.y0)], ?_, by simp [hzero], rfl, by simp [hsame], ?_⟩
    · rw [trace, if_pos (by simpa [first] using hsame)]
      rfl
    · intro i hi
      obtain rfl : i = 0 := by simpa using hi
      obtain ⟨hx, hy⟩ := hsame
      constructor <;> simp [hx, hy]
  · obtain ⟨pts, htrace, hlen, hpts⟩ := trace_onLine (onLine_first l) hne (Nat.zero_add _) hfuel
    refine ⟨pts, htrace, hlen, ?_, ?_, ?_⟩
    · cases fuel with
      | zero => cases hfuel
      | succ fuel =>
          rw [trace, if_neg ((onLine_first l).before_end hne)] at htrace
          obtain ⟨rest, -, rfl⟩ := Option.map_eq_some_iff.mp htrace
          rfl
    · obtain ⟨c', p', q', hline, hpt⟩ := hpts l.steps (by omega)
      have hend := hline.at_end (by omega) hne
      rw [List.getLast?_eq_getElem?, List.getElem?_eq_getElem (by omega)]
      simp only [hlen, Nat.add_sub_cancel]
      rw [hpt, hend.1, hend.2]
    · intro i hi
      obtain ⟨c', p', q', hline, hpt⟩ := hpts i hi
      rw [Nat.zero_add] at hline
      rw [hpt]
      exact hline.close (by omega) hne

end WaybeamVenc.LineRaster
