/-
  Realm.Footprint.Area — the footprints of an effect in every direction, and the places they cover.

  The four cardinal footprints come from one grid that points north, the four diagonal ones from one
  that points north-west.  They are put in one by one, and a flag is kept beside them that says whether
  diagonal directions are faced.
-/
import Realm.Footprint.Turn
import Realm.TileMap.Basic

namespace Realm

/-! ## §1. Footprints of one grid. -/

/-- Footprints for the four cardinal directions. -/
structure Cardinal where
  north : Footprint
  east : Footprint
  south : Footprint
  west : Footprint
deriving DecidableEq

/-- Footprints for the four diagonal directions. -/
structure Diagonal where
  northeast : Footprint
  northwest : Footprint
  southeast : Footprint
  southwest : Footprint
deriving DecidableEq

namespace Footprint

/-- The side of the square canvas that a footprint is turned, mirrored or flipped on. -/
def side (f : Footprint) : Nat := max f.rows f.cols * 2

def turnedOnCanvas (f : Footprint) (t : Turn) : Footprint := f.turned t f.side f.side

/-- The cardinal footprints from the one that points north. -/
def cardinal (north : Footprint) : Cardinal :=
  { north
    east := north.turnedOnCanvas .quarter
    south := north.turnedOnCanvas .half
    west := north.turnedOnCanvas .threeQuarters }

/-- The diagonal footprints from the one that points north-west.  The south-eastern one is the
    south-western one mirrored, on a canvas of the first one's size. -/
def diagonal (northwest : Footprint) : Diagonal :=
  let side := northwest.side
  let southwest := northwest.flipped side side
  { northwest
    northeast := northwest.mirrored side side
    southwest
    southeast := southwest.mirrored side side }

end Footprint

/-! ## §2. Areas. -/

/-- **The footprints of an effect:** an entry for each direction that has one, and a flag that says whether
    diagonal directions are faced. -/
structure Area where
  footprint? : Direction → Option Footprint := fun _ => none
  hasDiagonals : Bool := false

namespace Area

/-- Puts a footprint in for one direction. -/
def put (a : Area) (d : Direction) (f : Footprint) : Area :=
  { a with footprint? := fun other => if other = d then some f else a.footprint? other }

@[simp] theorem footprint?_put (a : Area) (d : Direction) (f : Footprint) (other : Direction) :
    (a.put d f).footprint? other = if other = d then some f else a.footprint? other := rfl

/-- Puts in the cardinal footprints, one after the other. -/
def putCardinal (a : Area) (c : Cardinal) : Area :=
  (((a.put .south c.south).put .east c.east).put .west c.west).put .north c.north

/-- Puts in the diagonal footprints, one after the other, and raises the flag. -/
def putDiagonal (a : Area) (c : Diagonal) : Area :=
  { (((a.put .northwest c.northwest).put .northeast c.northeast).put .southwest c.southwest).put
      .southeast c.southeast with hasDiagonals := true }

/-- **Lays a grid** that points north.  The area is there afterwards also when the grid is refused. -/
def setGrid (a : Area) (tokens : List UInt8) (rows : Nat) : Except Footprint.Fault Unit × Area :=
  match Footprint.ofTokens tokens rows with
  | .error e => (.error e, a)
  | .ok north => (.ok (), a.putCardinal north.cardinal)

/-- **Lays a diagonal grid** that points north-west; one without tokens is passed over. -/
def setDiagonalGrid (a : Area) (tokens : List UInt8) (rows : Nat) :
    Except Footprint.Fault Unit × Area :=
  if tokens = [] then (.ok (), a)
  else match Footprint.ofTokens tokens rows with
    | .error e => (.error e, a)
    | .ok northwest => (.ok (), a.putDiagonal northwest.diagonal)

/-- The area after a call, for callers who give it up when the call is refused. -/
def accepted (r : Except Footprint.Fault Unit × Area) : Except Footprint.Fault Area :=
  r.1.map fun _ => r.2

/-- The area with a grid that points north, unless the grid is refused. -/
def withGrid (a : Area) (tokens : List UInt8) (rows : Nat) : Except Footprint.Fault Area :=
  accepted (a.setGrid tokens rows)

/-- The area with a grid that points north-west, unless the grid is refused. -/
def withDiagonalGrid (a : Area) (tokens : List UInt8) (rows : Nat) : Except Footprint.Fault Area :=
  accepted (a.setDiagonalGrid tokens rows)

/-! ## §3. The places that an area covers. -/

/-- The footprint that faces a target. -/
def facing? (a : Area) (caster target : Position) : Option Footprint :=
  a.footprint? (caster.facing target a.hasDiagonals)

/-- The place that a cell falls on when the center is laid on a target. -/
def placeOf (f : Footprint) (target : Position) (c : Cell) : Option Position :=
  target.translated ((c.col : Int) - f.center.col) ((c.row : Int) - f.center.row)

/-- **One cell.**  A place on the map and in sight of the target is listed, and gets a tile if it has
    none. -/
def coverCell (f : Footprint) (target : Position) (covered : List Position × TileMap) (c : Cell) :
    List Position × TileMap :=
  match placeOf f target c with
  | none => covered
  | some p =>
    if covered.2.isSightClear target p true then (p :: covered.1, covered.2.ensureTile p)
    else covered

/-- **Covers a target:** the places hit, row by row, and the map with a tile on each of them; nothing
    when there is no footprint for the direction. -/
def cover? (a : Area) (caster target : Position) (m : TileMap) : Option (List Position × TileMap) :=
  (a.facing? caster target).map fun f =>
    let (places, m) := f.affected.foldl (coverCell f target) ([], m)
    (places.reverse, m)

end Area

end Realm
