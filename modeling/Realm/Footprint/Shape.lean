/-
  Realm.Footprint.Shape — areas by shape: an authored grid, a beam or a disc.
-/
import Realm.Footprint.Area

namespace Realm

/-- What an area is built from. -/
inductive Shape
  | grid (rows : Nat) (tokens : List UInt8) (diagonalRows : Nat) (diagonalTokens : List UInt8)
  | beam (length spread : Nat)
  | radius (r : UInt8)
deriving Repr, DecidableEq

namespace Shape

/-! ## §1. Beams. -/

/-- How many columns a beam has; a spread of zero is a straight line. -/
def beamColumns (rows spread : Nat) : Nat :=
  if spread = 0 ∨ rows = 0 then 1 else (rows - rows % spread) / spread * 2 + 1

/-- The token in row `y` and column `x`, both counted from one, when `last` is the last affected column of
    the row.  The middle of the last row is the center. -/
def beamToken (rows cols : Nat) (last : Int) (y x : Nat) : UInt8 :=
  if y = rows ∧ x = (cols - cols % 2) / 2 + 1 then 3
  else if cols - last + 1 ≤ x ∧ x ≤ last then 1
  else 0

/-- The tokens of so many rows, from row `y` on.  Behind every `spread` rows one column is lost on each
    side. -/
def beamRowsFrom (rows cols spread : Nat) : Nat → Nat → Int → List UInt8
  | 0, _, _ => []
  | left + 1, y, last =>
    (List.range' 1 cols).map (beamToken rows cols last y)
      ++ beamRowsFrom rows cols spread left (y + 1)
        (if 0 < spread ∧ y % spread = 0 then last - 1 else last)

/-- **The grid of a beam.**  It starts at its full width and ends in the center. -/
def beamTokens (length spread : Nat) : List UInt8 :=
  let cols := beamColumns length spread
  beamRowsFrom length cols spread length 1 cols

/-! ## §2. Discs. -/

/-- Rows and columns of the ring table. -/
def ringSide : Nat := 13

/-- **Rings** around the middle cell, which is ring one; zero lies outside all of them. -/
def rings : List UInt8 := [
  0, 0, 0, 0, 0, 0, 8, 0, 0, 0, 0, 0, 0,
  0, 0, 0, 0, 8, 8, 7, 8, 8, 0, 0, 0, 0,
  0, 0, 0, 8, 7, 6, 6, 6, 7, 8, 0, 0, 0,
  0, 0, 8, 7, 6, 5, 5, 5, 6, 7, 8, 0, 0,
  0, 8, 7, 6, 5, 4, 4, 4, 5, 6, 7, 8, 0,
  0, 8, 6, 5, 4, 3, 2, 3, 4, 5, 6, 8, 0,
  8, 7, 6, 5, 4, 2, 1, 2, 4, 5, 6, 7, 8,
  0, 8, 6, 5, 4, 3, 2, 3, 4, 5, 6, 8, 0,
  0, 8, 7, 6, 5, 4, 4, 4, 5, 6, 7, 8, 0,
  0, 0, 8, 7, 6, 5, 5, 5, 6, 7, 8, 0, 0,
  0, 0, 0, 8, 7, 6, 6, 6, 7, 8, 0, 0, 0,
  0, 0, 0, 0, 8, 8, 7, 8, 8, 0, 0, 0, 0,
  0, 0, 0, 0, 0, 0, 8, 0, 0, 0, 0, 0, 0]

/-- The token of a cell on a ring; the middle belongs to a disc of any radius. -/
def ringToken (r ring : UInt8) : UInt8 :=
  if ring = 1 then 3 else if 0 < ring ∧ ring ≤ r then 1 else 0

/-- The grid of a disc. -/
def discTokens (r : UInt8) : List UInt8 := rings.map (ringToken r)

end Shape

/-! ## §3. Building. -/

namespace Area

/-- **Lays a beam** that points north. -/
def setBeam (a : Area) (length spread : Nat) : Except Footprint.Fault Unit × Area :=
  a.setGrid (Shape.beamTokens length spread) length

/-- **Lays a disc.** -/
def setRadius (a : Area) (r : UInt8) : Except Footprint.Fault Unit × Area :=
  a.setGrid (Shape.discTokens r) Shape.ringSide

/-- The area with a beam, unless the beam is refused. -/
def withBeam (a : Area) (length spread : Nat) : Except Footprint.Fault Area :=
  accepted (a.setBeam length spread)

/-- The area with a disc. -/
def withRadius (a : Area) (r : UInt8) : Except Footprint.Fault Area :=
  accepted (a.setRadius r)

end Area

/-- The area of a shape. -/
def Shape.build : Shape → Except Footprint.Fault Area
  | grid rows tokens diagonalRows diagonalTokens => do
    let a ← Area.withGrid {} tokens rows
    a.withDiagonalGrid diagonalTokens diagonalRows
  | beam length spread => Area.withBeam {} length spread
  | radius r => Area.withRadius {} r

end Realm
