import Mathlib.Algebra.Order.Ring.Int
import Mathlib.Data.List.Basic
import Mathlib.Tactic.Ring
import WaybeamVenc.LineRaster

namespace WaybeamVenc.DebugOsd

open LineRaster

/-- The size of the overlay and its rows in pixels, as the region was made: no
larger than a sensor, whose sizes have sixteen bits. -/
structure Canvas where
  width : Nat
  height : Nat
  stridePx : Nat
  fontScale : Nat
  width_pos : 0 < width
  width_le : width ≤ 65535
  height_pos : 0 < height
  height_le : height ≤ 65535
  stride : width ≤ stridePx

/-- DirtyRect: a box with its borders, empty where they are crossed. -/
structure Dirty where
  x0 : Int
  y0 : Int
  x1 : Int
  y1 : Int
deriving DecidableEq

/-- The pixels that are written, by their distance from virtAddr. -/
abbrev Writes := List (Int × UInt16)

structure Painted where
  writes : Writes
  dirty : Dirty
deriving DecidableEq

def emptyDirty (g : Canvas) : Dirty := ⟨g.width, g.height, 0, 0⟩

def clampTo (size : Nat) (v : Int) : Int :=
  let v := if v < 0 then 0 else v
  if (size : Int) ≤ v then size - 1 else v

def dirtyExpand (g : Canvas) (d : Dirty) (x y : Int) : Dirty :=
  let x := clampTo g.width x
  let y := clampTo g.height y
  { x0 := if x < d.x0 then x else d.x0
    y0 := if y < d.y0 then y else d.y0
    x1 := if d.x1 < x then x else d.x1
    y1 := if d.y1 < y then y else d.y1 }

def putPixel (g : Canvas) (x y : Int) (color : UInt16) : Writes :=
  if x < 0 ∨ g.width ≤ x ∨ y < 0 ∨ g.height ≤ y then [] else [(y * g.stridePx + x, color)]

/-! Row fill. -/

/-- So many pixels from a place on. -/
def span (place : Int) (n : Nat) (color : UInt16) : Writes := (List.range n).map fun k : Nat => (place + (k : Int), color)

/-- The first loop: single pixels up to a multiple of sixteen bytes. -/
def headLoop (virtAddr : Nat) (row count : Int) (color : UInt16) : Nat → Int → Writes × Int
  | 0, i => ([], i)
  | fuel + 1, i =>
    if i < count ∧ (virtAddr + 2 * (row + i)) % 16 ≠ 0 then
      let (writes, j) := headLoop virtAddr row count color fuel (i + 1)
      ((row + i, color) :: writes, j)
    else ([], i)

/-- Eight pixels at once from there on, and the rest one by one. -/
def fillRow (virtAddr : Nat) (row count : Int) (color : UInt16) : Writes :=
  let (head, i) := headLoop virtAddr row count color count.toNat 0
  let chunks := (count - i).tdiv 8
  let body := (List.range chunks.toNat).flatMap fun j : Nat => span (row + i + 8 * (j : Int)) 8 color
  let i := i + chunks * 8
  head ++ body ++ span (row + i) (count - i).toNat color

/-! Text. -/

/-- The glyphs from the space on: eight rows of five pixels. -/
def gFont8x8 : List (List UInt8) := [
    [0x00, 0x00, 0x00, 0x00, 0x00, 0x00, 0x00, 0x00], [0x04, 0x04, 0x04, 0x04, 0x04, 0x00, 0x04, 0x00],
    [0x0A, 0x0A, 0x0A, 0x00, 0x00, 0x00, 0x00, 0x00], [0x0A, 0x0A, 0x1F, 0x0A, 0x1F, 0x0A, 0x0A, 0x00],
    [0x04, 0x0F, 0x14, 0x0E, 0x05, 0x1E, 0x04, 0x00], [0x18, 0x19, 0x02, 0x04, 0x08, 0x13, 0x03, 0x00],
    [0x08, 0x14, 0x14, 0x08, 0x15, 0x12, 0x0D, 0x00], [0x04, 0x04, 0x08, 0x00, 0x00, 0x00, 0x00, 0x00],
    [0x02, 0x04, 0x08, 0x08, 0x08, 0x04, 0x02, 0x00], [0x08, 0x04, 0x02, 0x02, 0x02, 0x04, 0x08, 0x00],
    [0x00, 0x04, 0x15, 0x0E, 0x15, 0x04, 0x00, 0x00], [0x00, 0x04, 0x04, 0x1F, 0x04, 0x04, 0x00, 0x00],
    [0x00, 0x00, 0x00, 0x00, 0x00, 0x04, 0x04, 0x08], [0x00, 0x00, 0x00, 0x1F, 0x00, 0x00, 0x00, 0x00],
    [0x00, 0x00, 0x00, 0x00, 0x00, 0x00, 0x04, 0x00], [0x00, 0x01, 0x02, 0x04, 0x08, 0x10, 0x00, 0x00],
    [0x0E, 0x11, 0x13, 0x15, 0x19, 0x11, 0x0E, 0x00], [0x04, 0x0C, 0x04, 0x04, 0x04, 0x04, 0x0E, 0x00],
    [0x0E, 0x11, 0x01, 0x02, 0x04, 0x08, 0x1F, 0x00], [0x1F, 0x02, 0x04, 0x02, 0x01, 0x11, 0x0E, 0x00],
    [0x02, 0x06, 0x0A, 0x12, 0x1F, 0x02, 0x02, 0x00], [0x1F, 0x10, 0x1E, 0x01, 0x01, 0x11, 0x0E, 0x00],
    [0x06, 0x08, 0x10, 0x1E, 0x11, 0x11, 0x0E, 0x00], [0x1F, 0x01, 0x02, 0x04, 0x08, 0x08, 0x08, 0x00],
    [0x0E, 0x11, 0x11, 0x0E, 0x11, 0x11, 0x0E, 0x00], [0x0E, 0x11, 0x11, 0x0F, 0x01, 0x02, 0x0C, 0x00],
    [0x00, 0x00, 0x04, 0x00, 0x00, 0x04, 0x00, 0x00], [0x00, 0x00, 0x04, 0x00, 0x00, 0x04, 0x04, 0x08],
    [0x02, 0x04, 0x08, 0x10, 0x08, 0x04, 0x02, 0x00], [0x00, 0x00, 0x1F, 0x00, 0x1F, 0x00, 0x00, 0x00],
    [0x08, 0x04, 0x02, 0x01, 0x02, 0x04, 0x08, 0x00], [0x0E, 0x11, 0x01, 0x02, 0x04, 0x00, 0x04, 0x00],
    [0x0E, 0x11, 0x17, 0x15, 0x17, 0x10, 0x0E, 0x00], [0x0E, 0x11, 0x11, 0x1F, 0x11, 0x11, 0x11, 0x00],
    [0x1E, 0x11, 0x11, 0x1E, 0x11, 0x11, 0x1E, 0x00], [0x0E, 0x11, 0x10, 0x10, 0x10, 0x11, 0x0E, 0x00],
    [0x1C, 0x12, 0x11, 0x11, 0x11, 0x12, 0x1C, 0x00], [0x1F, 0x10, 0x10, 0x1E, 0x10, 0x10, 0x1F, 0x00],
    [0x1F, 0x10, 0x10, 0x1E, 0x10, 0x10, 0x10, 0x00], [0x0E, 0x11, 0x10, 0x17, 0x11, 0x11, 0x0F, 0x00],
    [0x11, 0x11, 0x11, 0x1F, 0x11, 0x11, 0x11, 0x00], [0x0E, 0x04, 0x04, 0x04, 0x04, 0x04, 0x0E, 0x00],
    [0x07, 0x02, 0x02, 0x02, 0x02, 0x12, 0x0C, 0x00], [0x11, 0x12, 0x14, 0x18, 0x14, 0x12, 0x11, 0x00],
    [0x10, 0x10, 0x10, 0x10, 0x10, 0x10, 0x1F, 0x00], [0x11, 0x1B, 0x15, 0x15, 0x11, 0x11, 0x11, 0x00],
    [0x11, 0x19, 0x15, 0x13, 0x11, 0x11, 0x11, 0x00], [0x0E, 0x11, 0x11, 0x11, 0x11, 0x11, 0x0E, 0x00],
    [0x1E, 0x11, 0x11, 0x1E, 0x10, 0x10, 0x10, 0x00], [0x0E, 0x11, 0x11, 0x11, 0x15, 0x12, 0x0D, 0x00],
    [0x1E, 0x11, 0x11, 0x1E, 0x14, 0x12, 0x11, 0x00], [0x0E, 0x11, 0x10, 0x0E, 0x01, 0x11, 0x0E, 0x00],
    [0x1F, 0x04, 0x04, 0x04, 0x04, 0x04, 0x04, 0x00], [0x11, 0x11, 0x11, 0x11, 0x11, 0x11, 0x0E, 0x00],
    [0x11, 0x11, 0x11, 0x11, 0x0A, 0x0A, 0x04, 0x00], [0x11, 0x11, 0x11, 0x15, 0x15, 0x1B, 0x11, 0x00],
    [0x11, 0x11, 0x0A, 0x04, 0x0A, 0x11, 0x11, 0x00], [0x11, 0x11, 0x0A, 0x04, 0x04, 0x04, 0x04, 0x00],
    [0x1F, 0x01, 0x02, 0x04, 0x08, 0x10, 0x1F, 0x00], [0x0E, 0x08, 0x08, 0x08, 0x08, 0x08, 0x0E, 0x00],
    [0x00, 0x10, 0x08, 0x04, 0x02, 0x01, 0x00, 0x00], [0x0E, 0x02, 0x02, 0x02, 0x02, 0x02, 0x0E, 0x00],
    [0x04, 0x0A, 0x11, 0x00, 0x00, 0x00, 0x00, 0x00], [0x00, 0x00, 0x00, 0x00, 0x00, 0x00, 0x1F, 0x00],
    [0x08, 0x04, 0x02, 0x00, 0x00, 0x00, 0x00, 0x00], [0x00, 0x00, 0x0E, 0x01, 0x0F, 0x11, 0x0F, 0x00],
    [0x10, 0x10, 0x1E, 0x11, 0x11, 0x11, 0x1E, 0x00], [0x00, 0x00, 0x0E, 0x11, 0x10, 0x11, 0x0E, 0x00],
    [0x01, 0x01, 0x0F, 0x11, 0x11, 0x11, 0x0F, 0x00], [0x00, 0x00, 0x0E, 0x11, 0x1F, 0x10, 0x0E, 0x00],
    [0x06, 0x08, 0x1C, 0x08, 0x08, 0x08, 0x08, 0x00], [0x00, 0x00, 0x0F, 0x11, 0x0F, 0x01, 0x0E, 0x00],
    [0x10, 0x10, 0x1E, 0x11, 0x11, 0x11, 0x11, 0x00], [0x04, 0x00, 0x0C, 0x04, 0x04, 0x04, 0x0E, 0x00],
    [0x02, 0x00, 0x06, 0x02, 0x02, 0x12, 0x0C, 0x00], [0x10, 0x10, 0x12, 0x14, 0x18, 0x14, 0x12, 0x00],
    [0x0C, 0x04, 0x04, 0x04, 0x04, 0x04, 0x0E, 0x00], [0x00, 0x00, 0x1A, 0x15, 0x15, 0x11, 0x11, 0x00],
    [0x00, 0x00, 0x1E, 0x11, 0x11, 0x11, 0x11, 0x00], [0x00, 0x00, 0x0E, 0x11, 0x11, 0x11, 0x0E, 0x00],
    [0x00, 0x00, 0x1E, 0x11, 0x1E, 0x10, 0x10, 0x00], [0x00, 0x00, 0x0F, 0x11, 0x0F, 0x01, 0x01, 0x00],
    [0x00, 0x00, 0x16, 0x19, 0x10, 0x10, 0x10, 0x00], [0x00, 0x00, 0x0F, 0x10, 0x0E, 0x01, 0x1E, 0x00],
    [0x08, 0x08, 0x1C, 0x08, 0x08, 0x09, 0x06, 0x00], [0x00, 0x00, 0x11, 0x11, 0x11, 0x13, 0x0D, 0x00],
    [0x00, 0x00, 0x11, 0x11, 0x11, 0x0A, 0x04, 0x00], [0x00, 0x00, 0x11, 0x11, 0x15, 0x15, 0x0A, 0x00],
    [0x00, 0x00, 0x11, 0x0A, 0x04, 0x0A, 0x11, 0x00], [0x00, 0x00, 0x11, 0x11, 0x0F, 0x01, 0x0E, 0x00],
    [0x00, 0x00, 0x1F, 0x02, 0x04, 0x08, 0x1F, 0x00], [0x02, 0x04, 0x04, 0x08, 0x04, 0x04, 0x02, 0x00],
    [0x04, 0x04, 0x04, 0x04, 0x04, 0x04, 0x04, 0x00], [0x08, 0x04, 0x04, 0x02, 0x04, 0x04, 0x08, 0x00],
    [0x00, 0x00, 0x08, 0x15, 0x02, 0x00, 0x00, 0x00]]

def glyph (ch : UInt8) : List UInt8 :=
  let ch := if ch < 0x20 ∨ 0x7e < ch then 0x3f else ch
  gFont8x8.getD (ch.toNat - 0x20) []

/-- One pixel of a glyph, scaled. -/
def drawBlock (g : Canvas) (virtAddr : Nat) (cx cy : Int) (color : UInt16) : Writes :=
  (List.range g.fontScale).flatMap fun sy : Nat =>
    let rowY := cy + (sy : Int)
    if rowY < 0 ∨ g.height ≤ rowY then []
    else if 0 ≤ cx ∧ cx + g.fontScale ≤ g.width then fillRow virtAddr (rowY * g.stridePx + cx) g.fontScale color
    else (List.range g.fontScale).flatMap fun sx : Nat => putPixel g (cx + (sx : Int)) rowY color

def drawChar (g : Canvas) (virtAddr : Nat) (d : Dirty) (px py : Int) (ch : UInt8) (color : UInt16) : Painted where
  dirty := dirtyExpand g (dirtyExpand g d px py) (px + 5 * g.fontScale - 1) (py + 8 * g.fontScale - 1)
  writes := (List.range 8).flatMap fun gy : Nat => (List.range 5).flatMap fun gx : Nat =>
    if ((glyph ch).getD gy 0 &&& (0x10 >>> UInt8.ofNat gx)) = 0 then []
    else drawBlock g virtAddr (px + gx * g.fontScale) (py + gy * g.fontScale) color

def drawString (g : Canvas) (virtAddr : Nat) (y : Int) (color : UInt16) : List UInt8 → Int → Painted → Painted
  | [], _, p => p
  | ch :: str, x, p =>
    let q := drawChar g virtAddr p.dirty x y ch color
    drawString g virtAddr y color str (x + 6 * g.fontScale) ⟨p.writes ++ q.writes, q.dirty⟩

/-! Shapes. -/

def rectRows (g : Canvas) (virtAddr : Nat) (x0 y0 x1 y1 : Int) (color : UInt16) (filled : Bool) : Writes :=
  let width := x1 - x0 + 1
  let rows := (List.range (y1 - y0 + 1).toNat).map fun k : Nat => y0 + (k : Int)
  if filled then rows.flatMap fun row => fillRow virtAddr (row * g.stridePx + x0) width color
  else
    fillRow virtAddr (y0 * g.stridePx + x0) width color ++ fillRow virtAddr (y1 * g.stridePx + x0) width color ++
      rows.flatMap fun row => [(row * g.stridePx + x0, color), (row * g.stridePx + x1, color)]

def debugOsdRect (g : Canvas) (virtAddr : Nat) (d : Dirty) (x y w h color : UInt16) (filled : Bool) : Painted :=
  let x0 : Int := x.toNat
  let y0 : Int := y.toNat
  let x1 := x0 + w.toNat - 1
  let y1 := y0 + h.toNat - 1
  if w = 0 ∨ h = 0 ∨ g.width ≤ x0 ∨ g.height ≤ y0 then ⟨[], d⟩
  else
    let x1 := if g.width ≤ x1 then (g.width : Int) - 1 else x1
    let y1 := if g.height ≤ y1 then (g.height : Int) - 1 else y1
    ⟨rectRows g virtAddr x0 y0 x1 y1 color filled, dirtyExpand g (dirtyExpand g d x0 y0) x1 y1⟩

def debugOsdPoint (g : Canvas) (d : Dirty) (x y color : UInt16) (size : Int) : Painted where
  dirty := dirtyExpand g (dirtyExpand g d (x.toNat - size) (y.toNat - size)) (x.toNat + size) (y.toNat + size)
  writes := (List.range (2 * size + 1).toNat).flatMap fun k : Nat =>
    let t := (k : Int) - size
    putPixel g (x.toNat + t) y.toNat color ++ putPixel g x.toNat (y.toNat + t) color

/-- The loop of debug_osd_line has no bound of its own; none where this one is
not enough. -/
def debugOsdLine (g : Canvas) (fuel : Nat) (d : Dirty) (x0 y0 x1 y1 color : UInt16) : Option Painted :=
  let l : Line := ⟨x0.toNat, y0.toNat, x1.toNat, y1.toNat⟩
  (trace l fuel (first l)).map fun pts =>
    ⟨pts.flatMap fun pt => putPixel g pt.1 pt.2 color, dirtyExpand g (dirtyExpand g d x0.toNat y0.toNat) x1.toNat y1.toNat⟩

/-- More than the longest line has points to go. -/
def lineFuel : Nat := 65536

def debugOsdWhite : UInt16 := 0xFFFF

def debugOsdSemitransBlack : UInt16 := 0xA000

/-- debug_osd_text with the value as vsnprintf puts it together. -/
def debugOsdText (g : Canvas) (virtAddr : Nat) (d : Dirty) (row : Int) (label value : List UInt8) : Painted :=
  let s : Int := g.fontScale
  let charH := 8 * s
  let y := (8 + row * (charH + 2 * s)) % 65536
  if g.height < y + charH then ⟨[], d⟩
  else
    let line := (label ++ [0x3a, 0x20] ++ value.take 47).take 63
    let bgW := UInt16.ofInt (line.length * (6 * s) + 4 * s)
    let bgY := if y - s < 0 then 0 else y - s
    let bg := debugOsdRect g virtAddr d 6 (UInt16.ofInt bgY) bgW (UInt16.ofInt (charH + 2 * s)) debugOsdSemitransBlack true
    drawString g virtAddr y debugOsdWhite line 8 bg

/-! A filled row is every one of its pixels once, however it is aligned. -/

theorem span_add (place : Int) (n m : Nat) (color : UInt16) :
    span place (n + m) color = span place n color ++ span (place + n) m color := by
  simp [span, List.range_add, Function.comp_def, add_assoc]

theorem span_succ (place : Int) (n : Nat) (color : UInt16) :
    span place (n + 1) color = (place, color) :: span (place + 1) n color := by
  rw [Nat.add_comm, span_add]
  simp [span]

theorem headLoop_eq (virtAddr : Nat) (row count : Int) (color : UInt16) (fuel : Nat) (i : Int) :
    ∃ m : Nat, headLoop virtAddr row count color fuel i = (span (row + i) m color, i + m) ∧ m ≤ (count - i).toNat := by
  induction fuel generalizing i with
  | zero => exact ⟨0, by simp [headLoop, span], Nat.zero_le _⟩
  | succ fuel ih =>
      rw [headLoop]
      split
      next hgo =>
        obtain ⟨m, hm, hle⟩ := ih (i + 1)
        refine ⟨m + 1, ?_, by omega⟩
        rw [hm, span_succ]
        simp [add_assoc, add_comm (1 : Int)]
      next => exact ⟨0, by simp [span], Nat.zero_le _⟩

theorem chunks_eq (place : Int) (chunks : Nat) (color : UInt16) :
    ((List.range chunks).flatMap fun j : Nat => span (place + 8 * (j : Int)) 8 color) = span place (8 * chunks) color := by
  induction chunks with
  | zero => rfl
  | succ chunks ih =>
      rw [List.range_succ, List.flatMap_append, ih, Nat.mul_succ, span_add]
      simp

theorem fillRow_eq (virtAddr : Nat) (row : Int) (count : Nat) (color : UInt16) :
    fillRow virtAddr row count color = span row count color := by
  obtain ⟨m, hhead, hle⟩ := headLoop_eq virtAddr row count color count 0
  have hle' : m ≤ count := by omega
  have hchunks : ((count : Int) - m).tdiv 8 = ((count - m) / 8 : Nat) := by
    rw [← Nat.cast_sub hle']
    rfl
  simp only [fillRow, Int.toNat_natCast, hhead, add_zero, zero_add, hchunks, chunks_eq]
  have hrest : ((count : Int) - (m + ((count - m) / 8 : Nat) * 8)).toNat = (count - m) % 8 := by omega
  have hsplit : count = m + (8 * ((count - m) / 8) + (count - m) % 8) := by omega
  conv_rhs => rw [hsplit, span_add, span_add]
  rw [hrest, List.append_assoc]
  congr 3
  push_cast
  ring

theorem steps_lt (x0 y0 x1 y1 : UInt16) : (⟨x0.toNat, y0.toNat, x1.toNat, y1.toNat⟩ : Line).steps < lineFuel := by
  have hx0 := x0.toNat_lt
  have hy0 := y0.toNat_lt
  have hx1 := x1.toNat_lt
  have hy1 := y1.toNat_lt
  simp only [Line.steps, lineFuel]
  omega

/-- The loop of debug_osd_line ends for any two points, however long it is let
run: it goes from the one to the other, a unit of the longer side at a time, and
always on the pixel next to the line. -/
theorem line_drawn (g : Canvas) (more : Nat) (d : Dirty) (x0 y0 x1 y1 color : UInt16) :
    ∃ pts : List (Int × Int),
      (debugOsdLine g (lineFuel + more) d x0 y0 x1 y1 color).map (·.writes) =
          some (pts.flatMap fun pt => putPixel g pt.1 pt.2 color) ∧
        pts.length = max ((x1.toNat : Int) - x0.toNat).natAbs ((y1.toNat : Int) - y0.toNat).natAbs + 1 ∧
          pts.head? = some ((x0.toNat : Int), (y0.toNat : Int)) ∧ pts.getLast? = some ((x1.toNat : Int), (y1.toNat : Int)) ∧
            ∀ i (hi : i < pts.length), Close ⟨x0.toNat, y0.toNat, x1.toNat, y1.toNat⟩ i pts[i] := by
  obtain ⟨pts, htrace, hrest⟩ := trace_first _ (Nat.lt_add_right more (steps_lt x0 y0 x1 y1))
  refine ⟨pts, ?_, hrest⟩
  simp [debugOsdLine, htrace]

end WaybeamVenc.DebugOsd
