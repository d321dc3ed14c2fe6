/-
  Realm.TileMap.Basic — the tiles of a world, sparse over its places, and lines of sight across them.

  A line of sight takes as many moves as the longer of its two sides, so that number bounds the walk
  along it.
-/
import Realm.Position
import Realm.TileMap.Tile

namespace Realm

/-! ## §1. Maps of tiles. -/

/-- The tiles that a world knows, and the types of the items on them. -/
structure TileMap where
  tiles : Std.ExtTreeMap Position Tile
  catalogue : Catalogue

namespace TileMap

/-- A map without tiles. -/
def empty (c : Catalogue) : TileMap := ⟨{}, c⟩

def tile? (m : TileMap) (p : Position) : Option Tile := m.tiles[p]?

def size (m : TileMap) : Nat := m.tiles.size

/-- Puts a tile at a place, over the one there. -/
def setTile (m : TileMap) (p : Position) (t : Tile) : TileMap := { m with tiles := m.tiles.insert p t }

theorem tile?_setTile (m : TileMap) (p : Position) (t : Tile) (q : Position) :
    (m.setTile p t).tile? q = if p = q then some t else m.tile? q := by
  show (m.tiles.insert p t)[q]? = _
  rw [Std.ExtTreeMap.getElem?_insert]
  simp only [Std.compare_eq_iff_eq]
  rfl

/-- Changes the tile at a place, when there is one. -/
def modifyTile (m : TileMap) (p : Position) (f : Tile → Tile) : TileMap :=
  { m with tiles := m.tiles.modify p f }

/-- Makes sure that there is a tile at a place; a new one is a placeholder. -/
def ensureTile (m : TileMap) (p : Position) : TileMap :=
  match m.tile? p with
  | some _ => m
  | none => m.setTile p .placeholder

/-- The tiles with their places, by floor, row and column. -/
def toList (m : TileMap) : List (Position × Tile) := m.tiles.toList

/-! ## §2. Lines of sight. -/

/-- Whether a projectile cannot fly over a place. -/
def blocksSight (m : TileMap) (p : Position) : Bool :=
  match m.tile? p with
  | some t => t.blocksProjectile m.catalogue
  | none => false

/-- A digital line on its way: where it is, where it ends, the distances and steps along both axes
    (the row distance is negative), and how far it is off the true line. -/
structure Line where
  x : Int
  y : Int
  endX : Int
  endY : Int
  dx : Int
  dy : Int
  stepX : Int
  stepY : Int
  error : Int
deriving Repr, DecidableEq

namespace Line

/-- The line from one place to another. -/
def between (p q : Position) : Line :=
  let x : Int := p.x.toNat
  let y : Int := p.y.toNat
  let endX : Int := q.x.toNat
  let endY : Int := q.y.toNat
  let dx : Int := (endX - x).natAbs
  let dy : Int := -((endY - y).natAbs : Int)
  { x, y, endX, endY, dx, dy,
    stepX := if x < endX then 1 else -1,
    stepY := if y < endY then 1 else -1,
    error := dx + dy }

def atEnd (l : Line) : Bool := l.x = l.endX && l.y = l.endY

/-- One move: along the columns, along the rows, or along both, whichever stays nearest. -/
def move (l : Line) : Line :=
  let doubled := 2 * l.error
  let l := if l.dy ≤ doubled then { l with error := l.error + l.dy, x := l.x + l.stepX } else l
  if doubled ≤ l.dx then { l with error := l.error + l.dx, y := l.y + l.stepY } else l

/-- The place that a line is at, on a floor. -/
def cell (l : Line) (z : UInt8) : Position :=
  ⟨UInt16.ofNat (l.x % 65536).toNat, UInt16.ofNat (l.y % 65536).toNat, z⟩

/-- Moves that a line takes at most. -/
def moves (l : Line) : Nat := max l.dx.natAbs l.dy.natAbs

end Line

/-- Whether no place strictly before the end of a line blocks sight, for a number of moves. -/
def clearAlong (m : TileMap) (z : UInt8) : Nat → Line → Bool
  | 0, _ => true
  | fuel + 1, l =>
    if l.atEnd then true
    else
      let l := l.move
      if l.atEnd then true
      else if m.blocksSight (l.cell z) then false
      else m.clearAlong z fuel l

/-- **Sight line.**  Only the places strictly between the two ends count, on the floor of the first. -/
def checkSightLine (m : TileMap) (p q : Position) : Bool :=
  let l := Line.between p q
  m.clearAlong p.z l.moves l

/-- Sight from one place to another, and across floors only when that is allowed. -/
def isSightClear (m : TileMap) (p q : Position) (sameFloor : Bool) : Bool :=
  if sameFloor && p.z != q.z then false else m.checkSightLine p q

end TileMap

end Realm
