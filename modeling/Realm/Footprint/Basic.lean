/-
  Realm.Footprint.Basic — which cells around a center an area effect reaches.

  A footprint is authored as a grid of tokens, row by row.  One that is copied, mirrored or flipped
  onto a canvas of another size keeps the cells that fit there.
-/
import Std.Data.ExtTreeSet

namespace Realm

/-! ## §1. Cells. -/

/-- A cell of a grid.  Cells are ordered row by row. -/
structure Cell where
  row : Nat
  col : Nat
deriving Repr, DecidableEq

namespace Cell

instance : Ord Cell := ⟨compareLex (compareOn row) (compareOn col)⟩

instance : Std.TransOrd Cell :=
  inferInstanceAs (Std.TransCmp (compareLex (compareOn row) (compareOn col)))

instance : Std.LawfulEqOrd Cell where
  eq_of_compare {a b} h := by
    have h' : (compare a.row b.row).then (compare a.col b.col) = .eq := h
    obtain ⟨hr, hc⟩ := Ordering.then_eq_eq.mp h'
    have hr := Std.LawfulEqOrd.eq_of_compare hr
    have hc := Std.LawfulEqOrd.eq_of_compare hc
    cases a
    cases b
    simp_all

end Cell

/-! ## §2. Footprints. -/

/-- The affected cells of a grid and its center, the cell that is laid on the target. -/
structure Footprint where
  rows : Nat
  cols : Nat
  cells : Std.ExtTreeSet Cell := {}
  center : Cell := ⟨0, 0⟩
deriving DecidableEq

namespace Footprint

/-- A grid without affected cells. -/
def blank (rows cols : Nat) : Footprint := { rows, cols }

/-- Whether a cell is affected. -/
def affects (f : Footprint) (c : Cell) : Bool := f.cells.contains c

/-- The affected cells, row by row. -/
def affected (f : Footprint) : List Cell := f.cells.toList

/-- How many cells are affected. -/
def size (f : Footprint) : Nat := f.cells.size

/-- Whether a cell lies on the grid. -/
def holds (f : Footprint) (c : Cell) : Bool := c.row < f.rows && c.col < f.cols

/-- Marks a cell of the grid as affected. -/
def mark (f : Footprint) (c : Cell) : Footprint :=
  if f.holds c then { f with cells := f.cells.insert c } else f

/-- Takes the mark off a cell. -/
def unmark (f : Footprint) (c : Cell) : Footprint := { f with cells := f.cells.erase c }

/-- Moves the center, at most to the last row and column. -/
def setCenter (f : Footprint) (c : Cell) : Footprint :=
  { f with center := ⟨min c.row (f.rows - 1), min c.col (f.cols - 1)⟩ }

/-! ## §3. Authored grids. -/

/-- Why tokens are no grid. -/
inductive Fault
  | uneven (tokens rows : Nat)
  | unknownToken (token : UInt8) (index : Nat)
deriving Repr, DecidableEq

def Fault.message : Fault → String
  | uneven tokens rows => s!"area of {tokens} tokens cannot be split into {rows} rows"
  | unknownToken token index => s!"unknown area token {token} at index {index}"

/-- **Tokens.**  Nothing, an affected cell, the center, and a center that is affected too. -/
def tokenCount : UInt8 := 4

def tokenAffects (t : UInt8) : Bool := t == 1 || t == 3

def tokenCenters (t : UInt8) : Bool := t == 2 || t == 3

/-- Lays one token, with its index, on a grid.  Of several centers the last one counts. -/
def layToken (f : Footprint) (t : UInt8 × Nat) : Footprint :=
  let cell : Cell := ⟨t.2 / f.cols, t.2 % f.cols⟩
  let f := if tokenAffects t.1 then f.mark cell else f
  if tokenCenters t.1 then f.setCenter cell else f

/-- **Reads a grid** of so many rows from its tokens. -/
def ofTokens (tokens : List UInt8) (rows : Nat) : Except Fault Footprint :=
  if rows = 0 ∨ tokens = [] ∨ tokens.length % rows ≠ 0 then .error (.uneven tokens.length rows)
  else
    match tokens.zipIdx.find? fun t => tokenCount ≤ t.1 with
    | some (t, i) => .error (.unknownToken t i)
    | none => .ok (tokens.zipIdx.foldl layToken (blank rows (tokens.length / rows)))

/-! ## §4. Onto another canvas. -/

/-- The cells of a footprint, each put where a rule says, on a blank canvas. -/
def redrawn (f : Footprint) (rows cols : Nat) (place : Cell → Option Cell) : Footprint :=
  (f.affected.filterMap place).foldl mark (blank rows cols)

/-- The same cells and center. -/
def copied (f : Footprint) (rows cols : Nat) : Footprint :=
  (f.redrawn rows cols some).setCenter f.center

/-- **Mirrored,** left to right.  The center's column is counted back from the last row when that
    lands on the canvas, and else from the last column. -/
def mirrored (f : Footprint) (rows cols : Nat) : Footprint :=
  let fromRows := f.rows - 1 - f.center.col
  let col := if f.center.col ≤ f.rows - 1 ∧ fromRows < cols then fromRows
    else f.cols - (1 + f.center.col)
  (f.redrawn rows cols fun c => some ⟨c.row, f.cols - 1 - c.col⟩).setCenter ⟨f.center.row, col⟩

/-- **Flipped,** top to bottom.  The center's row is counted back from the last column when that
    lands on the canvas, and else from the last row. -/
def flipped (f : Footprint) (rows cols : Nat) : Footprint :=
  let fromCols := f.cols - 1 - f.center.row
  let row := if f.center.row ≤ f.cols - 1 ∧ fromCols < rows then fromCols
    else f.rows - (1 + f.center.row)
  (f.redrawn rows cols fun c => some ⟨f.rows - 1 - c.row, c.col⟩).setCenter ⟨row, f.center.col⟩

end Footprint

end Realm
