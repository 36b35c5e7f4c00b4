import Mathlib.Algebra.Order.Group.Abs
import Mathlib.Algebra.Order.Ring.Int
import Mathlib.Data.List.Basic

namespace WaybeamVenc.ClockOffset

/-- A request and its answer: the first and the last time on the clock of the
one that asks, the two in between on the clock of the one that answers. -/
structure Exchange where
  t1 : Int
  t2 : Int
  t3 : Int
  t4 : Int
deriving DecidableEq

namespace Exchange

/-- The time spent on the way. -/
def roundTrip (e : Exchange) : Int := (e.t4 - e.t1) - (e.t3 - e.t2)

/-- The estimate, in whole units and towards zero. -/
def offset (e : Exchange) : Int := ((e.t2 - e.t1) + (e.t3 - e.t4)).tdiv 2

/-- No message arrives before it was sent, where the second clock is ahead of
the first one by theta, up to a drift. -/
structure Causal (theta drift : Int) (e : Exchange) : Prop where
  request : e.t1 + theta ≤ e.t2 + drift
  answered : e.t2 ≤ e.t3
  reply : e.t3 ≤ e.t4 + theta + drift

theorem two_mul_tdiv_two (x : Int) : x - 1 ≤ 2 * x.tdiv 2 ∧ 2 * x.tdiv 2 ≤ x + 1 := by
  have hsplit := Int.mul_tdiv_add_tmod x 2
  have hlow : -2 < x.tmod 2 := Int.lt_tmod_of_pos x (by decide)
  have hhigh : x.tmod 2 < 2 := Int.tmod_lt_of_pos x (by decide)
  constructor <;> omega

/-- The estimate is off by at most half the time on the way, the drift, and half
a unit for the rounding. -/
theorem Causal.offset_error {theta drift : Int} {e : Exchange} (h : e.Causal theta drift) :
    2 * |e.offset - theta| ≤ e.roundTrip + 1 + 2 * drift := by
  obtain ⟨hrequest, -, hreply⟩ := h
  unfold offset roundTrip
  obtain ⟨hlow, hhigh⟩ := two_mul_tdiv_two ((e.t2 - e.t1) + (e.t3 - e.t4))
  rcases abs_cases (((e.t2 - e.t1) + (e.t3 - e.t4)).tdiv 2 - theta) with ⟨habs, -⟩ | ⟨habs, -⟩ <;> rw [habs] <;> omega

end Exchange

/-- Of several exchanges, one that spent the least time on the way. -/
structure Quickest (es : List Exchange) (e : Exchange) : Prop where
  mem : e ∈ es
  least : ∀ e' ∈ es, e.roundTrip ≤ e'.roundTrip

/-- The quickest exchange bounds its error by every one of them. -/
theorem Quickest.offset_error {theta drift : Int} {es : List Exchange} {e : Exchange} (h : Quickest es e)
    (hcausal : ∀ e' ∈ es, e'.Causal theta drift) {e' : Exchange} (he' : e' ∈ es) :
    2 * |e.offset - theta| ≤ e'.roundTrip + 1 + 2 * drift := by
  have hown := (hcausal e h.mem).offset_error
  have hle := h.least e' he'
  omega

end WaybeamVenc.ClockOffset
