/-
  Realm.Position — places on the map, and the directions between them.

  A place has a column, a row and a floor.  Places are ordered by floor, then row, then column, which
  is the order in which tiles are listed and saved.
-/
import Std.Data.ExtTreeMap

namespace Realm

/-! ## §1. Places. -/

/-- A place on the map. -/
structure Position where
  x : UInt16
  y : UInt16
  z : UInt8
deriving Repr, DecidableEq

namespace Position

/-- **Order.**  By floor, then row, then column. -/
def order : Position → Position → Ordering :=
  compareLex (compareOn z) (compareLex (compareOn y) (compareOn x))

instance : Ord Position := ⟨order⟩

instance : Std.TransOrd Position :=
  inferInstanceAs (Std.TransCmp (compareLex (compareOn z) (compareLex (compareOn y) (compareOn x))))

instance : Std.LawfulEqOrd Position where
  eq_of_compare {a b} h := by
    have h' : (compare a.z b.z).then ((compare a.y b.y).then (compare a.x b.x)) = .eq := h
    obtain ⟨hz, h'⟩ := Ordering.then_eq_eq.mp h'
    obtain ⟨hy, hx⟩ := Ordering.then_eq_eq.mp h'
    have hz := Std.LawfulEqOrd.eq_of_compare hz
    have hy := Std.LawfulEqOrd.eq_of_compare hy
    have hx := Std.LawfulEqOrd.eq_of_compare hx
    cases a
    cases b
    simp_all

/-- Floors of the map. -/
def floorCount : Nat := 16

/-- Columns and rows of the map; the last value of a word is not used. -/
def extent : Int := 0xFFFF

/-- **Translation** on a floor, when it stays on the map. -/
def translated (p : Position) (dx dy : Int) : Option Position :=
  let x := (p.x.toNat : Int) + dx
  let y := (p.y.toNat : Int) + dy
  if 0 ≤ x ∧ x < extent ∧ 0 ≤ y ∧ y < extent ∧ p.z.toNat < floorCount then
    some ⟨UInt16.ofNat x.toNat, UInt16.ofNat y.toNat, p.z⟩
  else none

/-- Columns from one place to another. -/
def dx (p q : Position) : Int := (q.x.toNat : Int) - p.x.toNat

/-- Rows from one place to another. -/
def dy (p q : Position) : Int := (q.y.toNat : Int) - p.y.toNat

end Position

/-! ## §2. Directions. -/

/-- Where a caster can face. -/
inductive Direction
  | north | east | south | west
  | northeast | northwest | southeast | southwest
deriving Repr, DecidableEq

namespace Direction

def all : List Direction :=
  [north, east, south, west, northeast, northwest, southeast, southwest]

def name : Direction → String
  | north => "north"
  | east => "east"
  | south => "south"
  | west => "west"
  | northeast => "northeast"
  | northwest => "northwest"
  | southeast => "southeast"
  | southwest => "southwest"

end Direction

/-- **Facing.**  Diagonals come into play only when they are asked for and both axes differ; otherwise
    the column decides before the row, and a target on the spot is faced southwards. -/
def Position.facing (p target : Position) (diagonals : Bool) : Direction :=
  let dx := p.dx target
  let dy := p.dy target
  if diagonals ∧ dx ≠ 0 ∧ dy ≠ 0 then
    if dx < 0 then (if dy < 0 then .northwest else .southwest)
    else (if dy < 0 then .northeast else .southeast)
  else if dx < 0 then .west
  else if dx > 0 then .east
  else if dy < 0 then .north
  else .south

end Realm
