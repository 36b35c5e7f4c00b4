import Mathlib.Logic.Function.Basic

namespace WaybeamVenc.SharedFields

variable {F : Type} {V : F → Type} {α : Type}

/-- A reader of shared fields: one load a step, the rest depending on the value. -/
inductive Loads (V : F → Type) (α : Type)
  | done (a : α)
  | load (f : F) (k : V f → Loads V α)

/-- What the reader computes when nobody writes meanwhile. -/
def Loads.eval (mem : (f : F) → V f) : Loads V α → α
  | .done a => a
  | .load f k => (k (mem f)).eval mem

abbrev Change (V : F → Type) := (f : F) × V f

def Change.apply [DecidableEq F] (mem : (f : F) → V f) (c : Change V) : (f : F) → V f :=
  Function.update mem c.1 c.2

@[simp] theorem Loads.eval_done (mem : (f : F) → V f) (a : α) : (Loads.done a : Loads V α).eval mem = a := rfl

@[simp] theorem Loads.eval_load (mem : (f : F) → V f) (f : F) (k : V f → Loads V α) :
    (Loads.load f k).eval mem = (k (mem f)).eval mem := rfl

end WaybeamVenc.SharedFields
