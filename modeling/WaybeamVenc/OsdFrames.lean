import Mathlib.Data.List.Induction
import Mathlib.Tactic.SplitIfs
import WaybeamVenc.DebugOsd
import WaybeamVenc.Runs

namespace WaybeamVenc.OsdFrames

open LineRaster DebugOsd Runs

variable {g : Canvas} {d d' : Dirty} {x y : Int}

structure OnCanvas (g : Canvas) (x y : Int) : Prop where
  left : 0 ≤ x
  right : x < g.width
  top : 0 ≤ y
  bottom : y < g.height

structure Within (d : Dirty) (x y : Int) : Prop where
  left : d.x0 ≤ x
  right : x ≤ d.x1
  top : d.y0 ≤ y
  bottom : y ≤ d.y1

def address (g : Canvas) (x y : Int) : Int := y * g.stridePx + x

/-- A write to a pixel of the canvas inside a box. -/
def Inside (g : Canvas) (d : Dirty) (w : Int × UInt16) : Prop :=
  ∃ x y, OnCanvas g x y ∧ Within d x y ∧ w.1 = address g x y

/-- A box whose borders are those of the canvas at most. -/
structure Fits (g : Canvas) (d : Dirty) : Prop where
  left : 0 ≤ d.x0
  right : d.x1 < g.width
  top : 0 ≤ d.y0
  bottom : d.y1 < g.height

structure Grows (d d' : Dirty) : Prop where
  left : d'.x0 ≤ d.x0
  right : d.x1 ≤ d'.x1
  top : d'.y0 ≤ d.y0
  bottom : d.y1 ≤ d'.y1

/-- What is painted stays on the canvas and in the dirty box. -/
structure Covers (g : Canvas) (d : Dirty) (p : Painted) : Prop where
  grows : Grows d p.dirty
  fits : Fits g d → Fits g p.dirty
  inside : ∀ w ∈ p.writes, Inside g p.dirty w

theorem Grows.refl (d : Dirty) : Grows d d := ⟨le_refl _, le_refl _, le_refl _, le_refl _⟩

theorem Grows.trans {d'' : Dirty} (h : Grows d d') (k : Grows d' d'') : Grows d d'' :=
  ⟨k.left.trans h.left, h.right.trans k.right, k.top.trans h.top, h.bottom.trans k.bottom⟩

theorem Within.mono (h : Within d x y) (hgrows : Grows d d') : Within d' x y :=
  ⟨hgrows.left.trans h.left, h.right.trans hgrows.right, hgrows.top.trans h.top, h.bottom.trans hgrows.bottom⟩

theorem Inside.mono {w : Int × UInt16} (h : Inside g d w) (hgrows : Grows d d') : Inside g d' w := by
  obtain ⟨x, y, hon, hin, haddr⟩ := h
  exact ⟨x, y, hon, hin.mono hgrows, haddr⟩

/-- Two pixels of the canvas do not share an address. -/
theorem address_inj {x' y' : Int} (h : OnCanvas g x y) (h' : OnCanvas g x' y') (heq : address g x y = address g x' y') :
    x = x' ∧ y = y' := by
  have hstride := g.stride
  have hmod : ∀ {u v : Int}, OnCanvas g u v → address g u v % g.stridePx = u := by
    intro u v hon
    have hright := hon.right
    rw [address, add_comm, Int.add_mul_emod_self_right]
    exact Int.emod_eq_of_lt hon.left (by omega)
  have hx : x = x' := by rw [← hmod h, heq, hmod h']
  have hpos : (g.stridePx : Int) ≠ 0 := by
    have hwidth := g.width_pos
    omega
  refine ⟨hx, Int.eq_of_mul_eq_mul_right hpos ?_⟩
  simp only [address, hx] at heq
  omega

theorem dirtyExpand_grows (g : Canvas) (d : Dirty) (x y : Int) : Grows d (dirtyExpand g d x y) := by
  constructor <;> simp only [dirtyExpand] <;> split_ifs <;> omega

theorem Fits.expand (h : Fits g d) (x y : Int) : Fits g (dirtyExpand g d x y) := by
  have hwidth := g.width_pos
  have hheight := g.height_pos
  obtain ⟨hleft, hright, htop, hbottom⟩ := h
  constructor <;> simp only [dirtyExpand, clampTo] <;> split_ifs <;> omega

theorem clampTo_mono {size : Nat} {u v : Int} (h : u ≤ v) : clampTo size u ≤ clampTo size v := by
  simp only [clampTo]
  split_ifs <;> omega

theorem clampTo_self {size : Nat} {v : Int} (h : 0 ≤ v) (h' : v < size) : clampTo size v = v := by
  simp only [clampTo]
  split_ifs <;> omega

/-- The two corners, in any order, bring everything between them that is on the
canvas. -/
theorem within_ends (d : Dirty) {x0 y0 x1 y1 : Int} (h : OnCanvas g x y) (hx : min x0 x1 ≤ x) (hx' : x ≤ max x0 x1)
    (hy : min y0 y1 ≤ y) (hy' : y ≤ max y0 y1) : Within (dirtyExpand g (dirtyExpand g d x0 y0) x1 y1) x y := by
  have hleft : clampTo g.width (min x0 x1) ≤ clampTo g.width x := clampTo_mono hx
  have hright : clampTo g.width x ≤ clampTo g.width (max x0 x1) := clampTo_mono hx'
  have htop : clampTo g.height (min y0 y1) ≤ clampTo g.height y := clampTo_mono hy
  have hbottom : clampTo g.height y ≤ clampTo g.height (max y0 y1) := clampTo_mono hy'
  rw [clampTo_self h.left h.right] at hleft hright
  rw [clampTo_self h.top h.bottom] at htop hbottom
  rcases le_total x0 x1 with hx01 | hx01 <;> rcases le_total y0 y1 with hy01 | hy01 <;>
    simp only [min_eq_left, min_eq_right, max_eq_left, max_eq_right, hx01, hy01] at hleft hright htop hbottom <;>
      constructor <;> simp only [dirtyExpand] <;> split_ifs <;> omega

theorem inside_putPixel {color : UInt16} (h : OnCanvas g x y → Within d x y) : ∀ w ∈ putPixel g x y color, Inside g d w := by
  intro w hw
  unfold putPixel at hw
  split_ifs at hw with hout
  · cases hw
  · have hon : OnCanvas g x y := by
      constructor <;> omega
    rw [List.mem_singleton.mp hw]
    exact ⟨x, y, hon, h hon, rfl⟩

theorem inside_fillRow {virtAddr n : Nat} {color : UInt16}
    (h : ∀ k : Nat, k < n → OnCanvas g (x + k) y ∧ Within d (x + k) y) :
    ∀ w ∈ fillRow virtAddr (y * g.stridePx + x) n color, Inside g d w := by
  intro w hw
  rw [fillRow_eq] at hw
  obtain ⟨k, hk, rfl⟩ := List.mem_map.mp hw
  obtain ⟨hon, hin⟩ := h k (List.mem_range.mp hk)
  exact ⟨x + k, y, hon, hin, by simp only [address]; ring⟩

theorem corners_grow (g : Canvas) (d : Dirty) (x0 y0 x1 y1 : Int) :
    Grows d (dirtyExpand g (dirtyExpand g d x0 y0) x1 y1) :=
  (dirtyExpand_grows g d x0 y0).trans (dirtyExpand_grows g _ x1 y1)

theorem corners_fit (h : Fits g d) (x0 y0 x1 y1 : Int) : Fits g (dirtyExpand g (dirtyExpand g d x0 y0) x1 y1) :=
  (h.expand x0 y0).expand x1 y1

/-! The drawing functions. -/

theorem rect_covers (g : Canvas) (virtAddr : Nat) (d : Dirty) (x y w h color : UInt16) (filled : Bool) :
    Covers g d (debugOsdRect g virtAddr d x y w h color filled) := by
  simp only [debugOsdRect]
  split
  next => exact ⟨Grows.refl d, id, by simp⟩
  next hsome =>
    have hw : 0 < w.toNat := Nat.pos_of_ne_zero fun h0 => hsome (.inl (UInt16.toNat_inj.mp h0))
    have hh : 0 < h.toNat := Nat.pos_of_ne_zero fun h0 => hsome (.inr (.inl (UInt16.toNat_inj.mp h0)))
    generalize hx1 : (if (g.width : Int) ≤ x.toNat + w.toNat - 1 then (g.width : Int) - 1 else x.toNat + w.toNat - 1) = x1
    generalize hy1 : (if (g.height : Int) ≤ y.toNat + h.toNat - 1 then (g.height : Int) - 1 else y.toNat + h.toNat - 1) = y1
    have hx1' : (x.toNat : Int) ≤ x1 ∧ x1 < g.width := by
      rw [← hx1]
      split_ifs <;> omega
    have hy1' : (y.toNat : Int) ≤ y1 ∧ y1 < g.height := by
      rw [← hy1]
      split_ifs <;> omega
    refine ⟨corners_grow _ _ _ _ _ _, fun h => corners_fit h _ _ _ _, ?_⟩
    have hon : ∀ u v : Int, x.toNat ≤ u → u ≤ x1 → y.toNat ≤ v → v ≤ y1 → OnCanvas g u v ∧
        Within (dirtyExpand g (dirtyExpand g d x.toNat y.toNat) x1 y1) u v := by
      intro u v hu hu' hv hv'
      have hcanvas : OnCanvas g u v := by
        constructor <;> omega
      exact ⟨hcanvas, within_ends d hcanvas (by omega) (by omega) (by omega) (by omega)⟩
    obtain ⟨n, hn⟩ : ∃ n : Nat, x1 - x.toNat + 1 = n := ⟨(x1 - x.toNat + 1).toNat, by omega⟩
    have hrow : ∀ v : Int, y.toNat ≤ v → v ≤ y1 → ∀ w' ∈ fillRow virtAddr (v * g.stridePx + x.toNat) (x1 - x.toNat + 1) color,
        Inside g (dirtyExpand g (dirtyExpand g d x.toNat y.toNat) x1 y1) w' := by
      intro v hv hv'
      rw [hn]
      exact inside_fillRow fun k hk => hon _ _ (by omega) (by omega) hv hv'
    have hrows : ∀ v ∈ (List.range (y1 - y.toNat + 1).toNat).map fun k : Nat => (y.toNat : Int) + (k : Int),
        (y.toNat : Int) ≤ v ∧ v ≤ y1 := by
      intro v hv
      obtain ⟨k, hk, rfl⟩ := List.mem_map.mp hv
      have hk' := List.mem_range.mp hk
      omega
    intro w' hw'
    simp only [rectRows] at hw'
    split_ifs at hw'
    · obtain ⟨v, hv, hmem⟩ := List.mem_flatMap.mp hw'
      exact hrow v (hrows v hv).1 (hrows v hv).2 w' hmem
    · simp only [List.mem_append, List.mem_flatMap, List.mem_cons, List.not_mem_nil, or_false] at hw'
      rcases hw' with (hw' | hw') | ⟨v, hv, rfl | rfl⟩
      · exact hrow _ (le_refl _) hy1'.1 w' hw'
      · exact hrow _ hy1'.1 (le_refl _) w' hw'
      · exact ⟨x.toNat, v, (hon _ _ (le_refl _) hx1'.1 (hrows v hv).1 (hrows v hv).2).1,
          (hon _ _ (le_refl _) hx1'.1 (hrows v hv).1 (hrows v hv).2).2, rfl⟩
      · exact ⟨x1, v, (hon _ _ hx1'.1 (le_refl _) (hrows v hv).1 (hrows v hv).2).1,
          (hon _ _ hx1'.1 (le_refl _) (hrows v hv).1 (hrows v hv).2).2, rfl⟩

theorem point_covers (g : Canvas) (d : Dirty) (x y color : UInt16) (size : Int) :
    Covers g d (debugOsdPoint g d x y color size) := by
  refine ⟨corners_grow _ _ _ _ _ _, fun h => corners_fit h _ _ _ _, ?_⟩
  intro w hw
  obtain ⟨k, hk, hmem⟩ := List.mem_flatMap.mp hw
  have hk' := List.mem_range.mp hk
  rcases List.mem_append.mp hmem with hmem | hmem
  · exact inside_putPixel (fun hon => within_ends d hon (by omega) (by omega) (by omega) (by omega)) w hmem
  · exact inside_putPixel (fun hon => within_ends d hon (by omega) (by omega) (by omega) (by omega)) w hmem

/-- A line between any two points is drawn to its end. -/
theorem line_covers (g : Canvas) (d : Dirty) (x0 y0 x1 y1 color : UInt16) :
    ∃ p, debugOsdLine g lineFuel d x0 y0 x1 y1 color = some p ∧ Covers g d p := by
  obtain ⟨pts, htrace, -, -, -, hclose⟩ := trace_first _ (steps_lt x0 y0 x1 y1)
  refine ⟨_, by rw [debugOsdLine, htrace]; rfl, corners_grow _ _ _ _ _ _, fun h => corners_fit h _ _ _ _, ?_⟩
  intro w hw
  obtain ⟨pt, hpt, hmem⟩ := List.mem_flatMap.mp hw
  obtain ⟨i, hi, rfl⟩ := List.getElem_of_mem hpt
  obtain ⟨hxlow, hxhigh⟩ := (hclose i hi).inX
  obtain ⟨hylow, hyhigh⟩ := (hclose i hi).inY
  exact inside_putPixel (fun hon => within_ends d hon hxlow hxhigh hylow hyhigh) w hmem

theorem block_inside {virtAddr : Nat} {cx cy : Int} {color : UInt16}
    (h : ∀ u v, OnCanvas g u v → cx ≤ u → u < cx + g.fontScale → cy ≤ v → v < cy + g.fontScale → Within d u v) :
    ∀ w ∈ drawBlock g virtAddr cx cy color, Inside g d w := by
  intro w hw
  obtain ⟨sy, hsy, hmem⟩ := List.mem_flatMap.mp hw
  have hsy' := List.mem_range.mp hsy
  simp only at hmem
  split_ifs at hmem with hout hfits
  · cases hmem
  · refine inside_fillRow (fun k hk => ?_) w hmem
    have hon : OnCanvas g (cx + k) (cy + sy) := by
      constructor <;> omega
    exact ⟨hon, h _ _ hon (by omega) (by omega) (by omega) (by omega)⟩
  · obtain ⟨sx, hsx, hpix⟩ := List.mem_flatMap.mp hmem
    have hsx' := List.mem_range.mp hsx
    exact inside_putPixel (fun hon => h _ _ hon (by omega) (by omega) (by omega) (by omega)) w hpix

theorem char_covers (g : Canvas) (virtAddr : Nat) (d : Dirty) (px py : Int) (ch : UInt8) (color : UInt16) :
    Covers g d (drawChar g virtAddr d px py ch color) := by
  refine ⟨corners_grow _ _ _ _ _ _, fun h => corners_fit h _ _ _ _, ?_⟩
  intro w hw
  obtain ⟨gy, hgy, hmem⟩ := List.mem_flatMap.mp hw
  obtain ⟨gx, hgx, hmem⟩ := List.mem_flatMap.mp hmem
  have hgy' := List.mem_range.mp hgy
  have hgx' := List.mem_range.mp hgx
  split_ifs at hmem
  · cases hmem
  · have hx : (gx : Int) * g.fontScale + g.fontScale ≤ 5 * g.fontScale := by
      exact_mod_cast Nat.succ_mul gx g.fontScale ▸ Nat.mul_le_mul_right g.fontScale hgx'
    have hy : (gy : Int) * g.fontScale + g.fontScale ≤ 8 * g.fontScale := by
      exact_mod_cast Nat.succ_mul gy g.fontScale ▸ Nat.mul_le_mul_right g.fontScale hgy'
    have hx0 : 0 ≤ (gx : Int) * g.fontScale := by positivity
    have hy0 : 0 ≤ (gy : Int) * g.fontScale := by positivity
    exact block_inside (fun u v hon hu hu' hv hv' =>
      within_ends d hon (by omega) (by omega) (by omega) (by omega)) w hmem

theorem string_covers (g : Canvas) (virtAddr : Nat) (y : Int) (color : UInt16) (str : List UInt8) (x : Int) {p : Painted}
    (h : Covers g d p) : Covers g d (drawString g virtAddr y color str x p) := by
  induction str generalizing x p with
  | nil => exact h
  | cons ch str ih =>
      have hchar := char_covers g virtAddr p.dirty x y ch color
      apply ih
      refine ⟨h.grows.trans hchar.grows, fun hfits => hchar.fits (h.fits hfits), ?_⟩
      intro w hw
      rcases List.mem_append.mp hw with hw | hw
      · exact (h.inside w hw).mono hchar.grows
      · exact hchar.inside w hw

theorem text_covers (g : Canvas) (virtAddr : Nat) (d : Dirty) (row : Int) (label value : List UInt8) :
    Covers g d (debugOsdText g virtAddr d row label value) := by
  simp only [debugOsdText]
  split
  · exact ⟨Grows.refl d, id, by simp⟩
  · exact string_covers g virtAddr _ _ _ _ (rect_covers g virtAddr d _ _ _ _ _ _)

/-! Frames. -/

inductive DrawOp
  | rect (x y w h color : UInt16) (filled : Bool)
  | point (x y color : UInt16) (size : Int)
  | line (x0 y0 x1 y1 color : UInt16)
  | text (row : Int) (label value : List UInt8)

def draw (g : Canvas) (virtAddr : Nat) (d : Dirty) : DrawOp → Option Painted
  | .rect x y w h color filled => some (debugOsdRect g virtAddr d x y w h color filled)
  | .point x y color size => some (debugOsdPoint g d x y color size)
  | .line x0 y0 x1 y1 color => debugOsdLine g lineFuel d x0 y0 x1 y1 color
  | .text row label value => some (debugOsdText g virtAddr d row label value)

/-- One drawing call after the other. -/
def drawAll (g : Canvas) (virtAddr : Nat) : List DrawOp → Painted → Option Painted
  | [], p => some p
  | op :: ops, p => (draw g virtAddr p.dirty op).bind fun q => drawAll g virtAddr ops ⟨p.writes ++ q.writes, q.dirty⟩

def paint (mem : Int → UInt16) (ws : Writes) : Int → UInt16 := ws.foldl (fun mem w => Function.update mem w.1 w.2) mem

/-- The buffers of the region, the one that is mapped, and the box that is to be
cleared next. -/
structure Screen where
  mem : Nat → Int → UInt16
  buffer : Nat
  dirty : Dirty

/-- The rows of the dirty box, up to the last one of the canvas. -/
def clearDirty (g : Canvas) (virtAddr : Nat) (d : Dirty) : Writes :=
  if d.x0 ≤ d.x1 ∧ d.y0 ≤ d.y1 then
    let last := if d.y1 < g.height then d.y1 else g.height - 1
    (List.range (last - d.y0 + 1).toNat).flatMap fun k : Nat =>
      fillRow virtAddr ((d.y0 + (k : Int)) * g.stridePx + d.x0) (d.x1 - d.x0 + 1) 0
  else []

inductive Action
  | beginFrame (canvasInfo : Option Nat)
  | draw (op : DrawOp)
  | endFrame

section

-- the overlay, and where each buffer is mapped
variable (g : Canvas) (virtAddr : Nat → Nat)

def debugOsdBeginFrame (s : Screen) : Option Nat → Screen
  | none => s
  | some b =>
    { mem := Function.update s.mem b (paint (s.mem b) (clearDirty g (virtAddr b) s.dirty))
      buffer := b
      dirty := emptyDirty g }

def drawStep (s : Screen) (p : Painted) : Screen :=
  { s with
    mem := Function.update s.mem s.buffer (paint (s.mem s.buffer) p.writes)
    dirty := p.dirty }

/-- What debug_osd_create leaves: the mapped buffer cleared, any other as it was. -/
def debugOsdCreate (mem : Nat → Int → UInt16) (b : Nat) : Screen where
  mem := Function.update mem b
    (paint (mem b) ((List.range g.height).flatMap fun y : Nat => span ((y : Int) * g.stridePx) g.width 0))
  buffer := b
  dirty := emptyDirty g

def step (s : Screen) : Action → Option Screen
  | .beginFrame canvasInfo => some (debugOsdBeginFrame g virtAddr s canvasInfo)
  | .draw op => (OsdFrames.draw g (virtAddr s.buffer) s.dirty op).map (drawStep s)
  | .endFrame => some s

end

/-- A query that succeeds maps the one buffer there is. -/
def OneBuffer (b : Nat) : Action → Prop
  | .beginFrame (some b') => b' = b
  | _ => True

/-- A query that succeeds begins a new drawing; where it fails, the frame goes on
with the one before. -/
def drawn (ops : List DrawOp) : Action → List DrawOp
  | .beginFrame (some _) => []
  | .draw op => ops ++ [op]
  | _ => ops

/-- The calls since the last query that succeeded. -/
def drawnSince (as : List Action) : List DrawOp := as.foldl drawn []

variable {virtAddr : Nat → Nat} {s t : Screen} {a : Action} {mem mem' : Int → UInt16} {ws : Writes}

theorem paint_append (mem : Int → UInt16) (ws ws' : Writes) : paint mem (ws ++ ws') = paint (paint mem ws) ws' := by
  simp [paint]

theorem paint_cases (mem : Int → UInt16) (ws : Writes) (i : Int) :
    (paint mem ws i = mem i ∧ ∀ w ∈ ws, w.1 ≠ i) ∨ ∃ w ∈ ws, w.1 = i ∧ paint mem ws i = w.2 := by
  induction ws using List.reverseRecOn with
  | nil => exact .inl ⟨rfl, by simp⟩
  | append_singleton ws w ih =>
      rw [paint_append]
      by_cases hw : w.1 = i
      · subst hw
        exact .inr ⟨w, by simp, rfl, by simp [paint]⟩
      · have hsame : paint (paint mem ws) [w] i = paint mem ws i := by simp [paint, Ne.symm hw]
        rw [hsame]
        rcases ih with ⟨heq, hnot⟩ | ⟨v, hv, hvi, heq⟩
        · refine .inl ⟨heq, ?_⟩
          intro v hv
          rcases List.mem_append.mp hv with hv | hv
          · exact hnot v hv
          · rwa [List.mem_singleton.mp hv]
        · exact .inr ⟨v, by simp [hv], hvi, heq⟩

theorem paint_congr {i : Int} (h : mem i = mem' i) (ws : Writes) : paint mem ws i = paint mem' ws i := by
  induction ws using List.reverseRecOn with
  | nil => exact h
  | append_singleton ws w ih =>
      rw [paint_append, paint_append]
      by_cases hw : i = w.1
      · subst hw
        simp [paint]
      · simpa [paint, hw] using ih

theorem fits_empty (g : Canvas) : Fits g (emptyDirty g) := by
  have hwidth := g.width_pos
  have hheight := g.height_pos
  constructor <;> simp only [emptyDirty] <;> omega

theorem clearDirty_color (g : Canvas) (virtAddr : Nat) (d : Dirty) : ∀ w ∈ clearDirty g virtAddr d, w.2 = 0 := by
  intro w hw
  unfold clearDirty at hw
  split at hw
  next hbox =>
    obtain ⟨k, -, hmem⟩ := List.mem_flatMap.mp hw
    obtain ⟨n, hn⟩ : ∃ n : Nat, d.x1 - d.x0 + 1 = n := ⟨(d.x1 - d.x0 + 1).toNat, by omega⟩
    rw [hn, fillRow_eq] at hmem
    obtain ⟨j, -, rfl⟩ := List.mem_map.mp hmem
    rfl
  next => cases hw

/-- Clearing writes every pixel in the box, and none elsewhere. -/
theorem mem_clearDirty (h : Fits g d) (virtAddr : Nat) (i : Int) :
    (∃ w ∈ clearDirty g virtAddr d, w.1 = i) ↔ ∃ x y, OnCanvas g x y ∧ Within d x y ∧ i = address g x y := by
  obtain ⟨hleft, hright, htop, hbottom⟩ := h
  unfold clearDirty
  split
  next hbox =>
    obtain ⟨n, hn⟩ : ∃ n : Nat, d.x1 - d.x0 + 1 = n := ⟨(d.x1 - d.x0 + 1).toNat, by omega⟩
    simp only [hn, fillRow_eq]
    constructor
    · rintro ⟨w, hw, rfl⟩
      obtain ⟨k, hk, hmem⟩ := List.mem_flatMap.mp hw
      obtain ⟨j, hj, rfl⟩ := List.mem_map.mp hmem
      have hk' := List.mem_range.mp hk
      have hj' := List.mem_range.mp hj
      refine ⟨d.x0 + j, d.y0 + k, ?_, ?_, ?_⟩
      · constructor <;> omega
      · constructor <;> omega
      · simp only [address]
        ring
    · rintro ⟨x, y, hon, hin, rfl⟩
      obtain ⟨hxl, hxr, hyt, hyb⟩ := hin
      refine ⟨(address g x y, 0), List.mem_flatMap.mpr ⟨(y - d.y0).toNat, ?_, ?_⟩, rfl⟩
      · rw [List.mem_range]
        omega
      · refine List.mem_map.mpr ⟨(x - d.x0).toNat, ?_, ?_⟩
        · rw [List.mem_range]
          omega
        · have hx : ((x - d.x0).toNat : Int) = x - d.x0 := by omega
          have hy : ((y - d.y0).toNat : Int) = y - d.y0 := by omega
          simp only [hx, hy, address, Prod.mk.injEq, and_true]
          ring
  next hbox =>
    constructor
    · rintro ⟨w, hw, -⟩
      cases hw
    · rintro ⟨x, y, -, hin, -⟩
      obtain ⟨hxl, hxr, hyt, hyb⟩ := hin
      exact absurd ⟨hxl.trans hxr, hyt.trans hyb⟩ hbox

theorem draw_covers (g : Canvas) (virtAddr : Nat) (d : Dirty) (op : DrawOp) :
    ∃ p, draw g virtAddr d op = some p ∧ Covers g d p := by
  cases op with
  | rect x y w h color filled => exact ⟨_, rfl, rect_covers g virtAddr d x y w h color filled⟩
  | point x y color size => exact ⟨_, rfl, point_covers g d x y color size⟩
  | line x0 y0 x1 y1 color => exact line_covers g d x0 y0 x1 y1 color
  | text row label value => exact ⟨_, rfl, text_covers g virtAddr d row label value⟩

theorem drawAll_concat {virtAddr : Nat} {ops : List DrawOp} {op : DrawOp} {p q r : Painted}
    (h : drawAll g virtAddr ops p = some q) (hop : draw g virtAddr q.dirty op = some r) :
    drawAll g virtAddr (ops ++ [op]) p = some ⟨q.writes ++ r.writes, r.dirty⟩ := by
  induction ops generalizing p with
  | nil =>
      cases h
      simp [drawAll, hop]
  | cons op' ops ih =>
      obtain ⟨r', hr', hrest⟩ := Option.bind_eq_some_iff.mp h
      rw [List.cons_append, drawAll, hr']
      exact ih hrest

/-- A query that succeeds blanks the box of the frame before, and leaves the rest
of the buffer that it maps as that buffer held it. -/
theorem query_blanks (hfits : Fits g s.dirty) (b : Nat) (hon : OnCanvas g x y) :
    (Within s.dirty x y → (debugOsdBeginFrame g virtAddr s (some b)).mem b (address g x y) = 0) ∧
      (¬Within s.dirty x y →
        (debugOsdBeginFrame g virtAddr s (some b)).mem b (address g x y) = s.mem b (address g x y)) := by
  simp only [debugOsdBeginFrame, Function.update_self]
  have hbox := mem_clearDirty hfits (virtAddr b) (address g x y)
  rcases paint_cases (s.mem b) (clearDirty g (virtAddr b) s.dirty) (address g x y) with ⟨hkept, hnone⟩ | ⟨w, hw, haddr, heq⟩
  · refine ⟨fun hin => ?_, fun _ => hkept⟩
    obtain ⟨w, hw, haddr⟩ := hbox.mpr ⟨x, y, hon, hin, rfl⟩
    exact absurd haddr (hnone w hw)
  · refine ⟨fun _ => heq.trans (clearDirty_color g _ _ w hw), fun hout => ?_⟩
    obtain ⟨u, v, hon', hin, haddr'⟩ := hbox.mp ⟨w, hw, haddr⟩
    obtain ⟨rfl, rfl⟩ := address_inj hon hon' haddr'
    exact absurd hin hout

/-- The canvas shows some calls over a blank one, all of it in the box. -/
structure Shows (g : Canvas) (virtAddr : Nat → Nat) (b : Nat) (s : Screen) (ops : List DrawOp) (p : Painted) : Prop where
  all : drawAll g (virtAddr b) ops ⟨[], emptyDirty g⟩ = some p
  buffer : s.buffer = b
  dirty : s.dirty = p.dirty
  fits : Fits g p.dirty
  inside : ∀ w ∈ p.writes, Inside g p.dirty w
  shown : ∀ x y, OnCanvas g x y → s.mem b (address g x y) = paint (fun _ => 0) p.writes (address g x y)

theorem created_blank (mem : Nat → Int → UInt16) (b : Nat) (hon : OnCanvas g x y) :
    (debugOsdCreate g mem b).mem b (address g x y) = 0 := by
  obtain ⟨hxl, hxr, hyt, hyb⟩ := hon
  simp only [debugOsdCreate, Function.update_self]
  rcases paint_cases (mem b) ((List.range g.height).flatMap fun y : Nat => span ((y : Int) * g.stridePx) g.width 0)
    (address g x y) with ⟨-, hnone⟩ | ⟨w, hw, -, heq⟩
  · have hx : ((x.toNat : Nat) : Int) = x := by omega
    have hy : ((y.toNat : Nat) : Int) = y := by omega
    refine absurd ?_ (hnone (address g x y, 0) (List.mem_flatMap.mpr ⟨y.toNat, ?_, List.mem_map.mpr ⟨x.toNat, ?_, ?_⟩⟩))
    · rfl
    · rw [List.mem_range]
      omega
    · rw [List.mem_range]
      omega
    · rw [hx, hy, address]
  · obtain ⟨k, -, hmem⟩ := List.mem_flatMap.mp hw
    obtain ⟨j, -, rfl⟩ := List.mem_map.mp hmem
    rw [heq]

theorem shows_created (mem : Nat → Int → UInt16) (b : Nat) :
    Shows g virtAddr b (debugOsdCreate g mem b) [] ⟨[], emptyDirty g⟩ where
  all := rfl
  buffer := rfl
  dirty := rfl
  fits := fits_empty g
  inside := by simp
  shown _ _ hon := created_blank mem b hon

/-- What the box does not hold is blank, so that nothing is left when it is
cleared. -/
theorem Shows.beginFrame {b : Nat} {ops : List DrawOp} {p : Painted} (h : Shows g virtAddr b s ops p) :
    Shows g virtAddr b (debugOsdBeginFrame g virtAddr s (some b)) [] ⟨[], emptyDirty g⟩ := by
  refine ⟨rfl, rfl, rfl, fits_empty g, by simp, fun x y hon => ?_⟩
  obtain ⟨hblank, hkept⟩ := @query_blanks _ _ _ virtAddr s (h.dirty ▸ h.fits) b hon
  by_cases hin : Within s.dirty x y
  · exact hblank hin
  · rw [hkept hin, h.shown x y hon]
    rcases paint_cases (fun _ => 0) p.writes (address g x y) with ⟨heq, -⟩ | ⟨w, hw, haddr, -⟩
    · exact heq
    · obtain ⟨u, v, hon', hin', haddr'⟩ := h.inside w hw
      obtain ⟨rfl, rfl⟩ := address_inj hon hon' (haddr.symm.trans haddr')
      exact absurd (h.dirty ▸ hin') hin

theorem Shows.draw {b : Nat} {ops : List DrawOp} {p : Painted} (h : Shows g virtAddr b s ops p) (op : DrawOp) :
    ∃ q t, OsdFrames.step g virtAddr s (.draw op) = some t ∧ Shows g virtAddr b t (ops ++ [op]) q := by
  obtain ⟨q, hq, hcovers⟩ := draw_covers g (virtAddr b) p.dirty op
  have hstep : OsdFrames.step g virtAddr s (.draw op) = some (drawStep s q) := by
    simp only [OsdFrames.step, h.buffer, h.dirty, hq, Option.map_some]
  refine ⟨_, drawStep s q, hstep, drawAll_concat h.all hq, h.buffer, rfl, hcovers.fits h.fits, ?_, ?_⟩
  · intro w hw
    rcases List.mem_append.mp hw with hw | hw
    · exact (h.inside w hw).mono hcovers.grows
    · exact hcovers.inside w hw
  · intro x y hon
    simp only [drawStep, h.buffer, Function.update_self]
    rw [paint_append]
    exact paint_congr (h.shown x y hon) q.writes

theorem Shows.step {b : Nat} {ops : List DrawOp} {p : Painted} (h : Shows g virtAddr b s ops p) (hone : OneBuffer b a) :
    ∃ q t, OsdFrames.step g virtAddr s a = some t ∧ Shows g virtAddr b t (drawn ops a) q := by
  cases a with
  | beginFrame canvasInfo =>
      cases canvasInfo with
      | none => exact ⟨p, s, rfl, h⟩
      | some b' =>
          obtain rfl : b' = b := hone
          exact ⟨_, _, rfl, h.beginFrame⟩
  | draw op => exact h.draw op
  | endFrame => exact ⟨p, s, rfl, h⟩

theorem Shows.run {b : Nat} {as : List Action} {ops : List DrawOp} {p : Painted} (h : Shows g virtAddr b s ops p)
    (hone : ∀ a ∈ as, OneBuffer b a) :
    ∃ q t, Runs.run (OsdFrames.step g virtAddr) s as = some t ∧ Shows g virtAddr b t (as.foldl drawn ops) q := by
  induction as generalizing s ops p with
  | nil => exact ⟨p, s, rfl, h⟩
  | cons a as ih =>
      obtain ⟨q, t, hstep, hshows⟩ := h.step (hone a (List.mem_cons_self ..))
      obtain ⟨r, u, hrun, hshows'⟩ := ih hshows fun a' ha' => hone a' (List.mem_cons_of_mem _ ha')
      refine ⟨r, u, ?_, hshows'⟩
      rw [Runs.run, hstep]
      exact hrun

theorem step_fits (h : Fits g s.dirty) (hstep : OsdFrames.step g virtAddr s a = some t) : Fits g t.dirty := by
  cases a with
  | beginFrame canvasInfo =>
      cases hstep
      cases canvasInfo with
      | none => exact h
      | some b => exact fits_empty g
  | draw op =>
      obtain ⟨p, hp, rfl⟩ := Option.map_eq_some_iff.mp hstep
      obtain ⟨q, hq, hcovers⟩ := draw_covers g (virtAddr s.buffer) s.dirty op
      obtain rfl : p = q := Option.some.inj (hp.symm.trans hq)
      exact hcovers.fits h
  | endFrame =>
      cases hstep
      exact h

theorem reached_fits {mem : Nat → Int → UInt16} {first : Nat}
    (h : Reaches (OsdFrames.step g virtAddr) (debugOsdCreate g mem first) s) : Fits g s.dirty :=
  h.invariant (fun s => Fits g s.dirty) (fits_empty g) fun _ _ _ hfits _ hstep => step_fits hfits hstep

/-- With one buffer, the canvas shows at every moment of every run what was drawn
since the last query that succeeded over a blank one. With several, all that a
query clears of the buffer that it maps is the box of the frame before. -/
theorem frame_shows_its_drawing (mem : Nat → Int → UInt16) (first : Nat) :
    (∀ as : List Action, (∀ a ∈ as, OneBuffer first a) →
      ∃ t p, run (OsdFrames.step g virtAddr) (debugOsdCreate g mem first) as = some t ∧
        drawAll g (virtAddr first) (drawnSince as) ⟨[], emptyDirty g⟩ = some p ∧
          ∀ x y, OnCanvas g x y → t.mem first (address g x y) = paint (fun _ => 0) p.writes (address g x y)) ∧
      ∀ s, Reaches (OsdFrames.step g virtAddr) (debugOsdCreate g mem first) s → ∀ b x y, OnCanvas g x y →
        (Within s.dirty x y → (debugOsdBeginFrame g virtAddr s (some b)).mem b (address g x y) = 0) ∧
          (¬Within s.dirty x y →
            (debugOsdBeginFrame g virtAddr s (some b)).mem b (address g x y) = s.mem b (address g x y)) := by
  constructor
  · intro as hone
    obtain ⟨p, t, hrun, hshows⟩ := (@shows_created g virtAddr mem first).run hone
    exact ⟨t, p, hrun, hshows.all, hshows.shown⟩
  · intro s hs b x y hon
    exact query_blanks (reached_fits hs) b hon

def small : Canvas := ⟨6, 4, 8, 1, by decide, by decide, by decide, by decide, by decide⟩

def twoFrames (second : Option Nat) : List Action :=
  [.beginFrame (some 0), .draw (.rect 3 1 2 2 7 true), .endFrame, .beginFrame second, .draw (.line 0 0 2 2 5)]

/-- The box of the first frame is gone in the second one, unless its query
failed. -/
theorem frame_shows_its_drawing_twice :
    (∃ t, run (OsdFrames.step small fun _ => 4) (debugOsdCreate small (fun _ _ => 9) 0) (twoFrames (some 0)) = some t ∧
      t.mem 0 (address small 1 1) = 5 ∧ t.mem 0 (address small 4 2) = 0) ∧
      ∃ t, run (OsdFrames.step small fun _ => 4) (debugOsdCreate small (fun _ _ => 9) 0) (twoFrames none) = some t ∧
        t.mem 0 (address small 1 1) = 5 ∧ t.mem 0 (address small 4 2) = 7 := by
  constructor
  · obtain ⟨t, p, hrun, hp, hshows⟩ := (@frame_shows_its_drawing small (fun _ => 4) (fun _ _ => 9) 0).1 (twoFrames (some 0))
      (by simp [twoFrames, OneBuffer])
    refine ⟨t, hrun, ?_, ?_⟩
    · rw [hshows 1 1 (by constructor <;> decide)]
      cases hp
      decide
    · rw [hshows 4 2 (by constructor <;> decide)]
      cases hp
      decide
  · obtain ⟨t, p, hrun, hp, hshows⟩ := (@frame_shows_its_drawing small (fun _ => 4) (fun _ _ => 9) 0).1 (twoFrames none)
      (by simp [twoFrames, OneBuffer])
    refine ⟨t, hrun, ?_, ?_⟩
    · rw [hshows 1 1 (by constructor <;> decide)]
      cases hp
      decide
    · rw [hshows 4 2 (by constructor <;> decide)]
      cases hp
      decide

-- with two buffers in turn, the box is still in its own when that comes back
example : ((run (OsdFrames.step small fun _ => 4) (debugOsdCreate small (fun _ _ => 0) 0)
    (twoFrames (some 1) ++ [.endFrame, .beginFrame (some 0)])).map fun t => t.mem 0 (address small 4 2)) = some 7 := by decide

def OffCanvas (g : Canvas) (i : Int) : Prop := ∀ x y, OnCanvas g x y → i ≠ address g x y

theorem paint_off {i : Int} (hoff : OffCanvas g i) (hin : ∀ w ∈ ws, Inside g d w) : paint mem ws i = mem i := by
  rcases paint_cases mem ws i with ⟨hkept, -⟩ | ⟨w, hw, haddr, -⟩
  · exact hkept
  · obtain ⟨x, y, hon, -, heq⟩ := hin w hw
    exact absurd (haddr.symm.trans heq) (hoff x y hon)

theorem created_off {i : Int} (hoff : OffCanvas g i) (mem : Nat → Int → UInt16) (first b : Nat) :
    (debugOsdCreate g mem first).mem b i = mem b i := by
  by_cases hb : b = first
  · subst hb
    simp only [debugOsdCreate, Function.update_self]
    refine @paint_off g ⟨0, 0, g.width - 1, g.height - 1⟩ _ _ _ hoff fun w hw => ?_
    obtain ⟨k, hk, hmem⟩ := List.mem_flatMap.mp hw
    obtain ⟨j, hj, rfl⟩ := List.mem_map.mp hmem
    have hk' := List.mem_range.mp hk
    have hj' := List.mem_range.mp hj
    refine ⟨j, k, ?_, ?_, rfl⟩
    · constructor <;> omega
    · constructor <;> simp only <;> omega
  · simp only [debugOsdCreate, Function.update_of_ne hb]

theorem step_off {i : Int} (hoff : OffCanvas g i) (hfits : Fits g s.dirty)
    (hstep : OsdFrames.step g virtAddr s a = some t) (b : Nat) : t.mem b i = s.mem b i := by
  cases a with
  | beginFrame canvasInfo =>
      cases hstep
      cases canvasInfo with
      | none => rfl
      | some next =>
          by_cases hb : b = next
          · subst hb
            simp only [debugOsdBeginFrame, Function.update_self]
            exact paint_off hoff fun w hw => (mem_clearDirty hfits (virtAddr b) w.1).mp ⟨w, hw, rfl⟩
          · simp only [debugOsdBeginFrame, Function.update_of_ne hb]
  | draw op =>
      obtain ⟨p, hp, rfl⟩ := Option.map_eq_some_iff.mp hstep
      obtain ⟨q, hq, hcovers⟩ := draw_covers g (virtAddr s.buffer) s.dirty op
      obtain rfl : p = q := Option.some.inj (hp.symm.trans hq)
      by_cases hb : b = s.buffer
      · subst hb
        simp only [drawStep, Function.update_self]
        exact paint_off hoff hcovers.inside
      · simp only [drawStep, Function.update_of_ne hb]
  | endFrame =>
      cases hstep
      rfl

/-- In every run, whatever buffers the SDK maps, nothing is written off the
canvas. -/
theorem writes_on_canvas {mem : Nat → Int → UInt16} {first : Nat}
    (h : Reaches (OsdFrames.step g virtAddr) (debugOsdCreate g mem first) s) (b : Nat) {i : Int} (hoff : OffCanvas g i) :
    s.mem b i = mem b i := by
  have hinv := h.invariant (fun s => Fits g s.dirty ∧ ∀ b, s.mem b i = mem b i) ⟨fits_empty g, created_off hoff mem first⟩
    fun s a t hs _ hstep => ⟨step_fits hs.1 hstep, fun b => (step_off hoff hs.1 hstep b).trans (hs.2 b)⟩
  exact hinv.2 b

def clipped : List Action :=
  [.beginFrame (some 1), .draw (.rect 2 1 65535 9 7 false), .draw (.point 0 0 3 2), .draw (.line 3 2 8 5 4)]

/-- A box, a cross and a line that reach over the border. -/
theorem writes_on_canvas_clipped :
    ∃ s, run (OsdFrames.step small fun _ => 2) (debugOsdCreate small (fun _ _ => 9) 0) clipped = some s ∧ s.mem 1 14 = 9 := by
  obtain ⟨s, hs⟩ : ∃ s, run (OsdFrames.step small fun _ => 2) (debugOsdCreate small (fun _ _ => 9) 0) clipped = some s :=
    ⟨_, rfl⟩
  refine ⟨s, hs, writes_on_canvas (reaches_of_run _ hs) 1 ?_⟩
  intro x y hon heq
  obtain ⟨hxl, hxr, hyt, hyb⟩ := hon
  simp only [address, small] at heq hxr hyb
  omega

end WaybeamVenc.OsdFrames
