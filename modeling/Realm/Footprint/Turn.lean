/-
  Realm.Footprint.Turn — footprints turned by a quarter, a half and three quarters.

  Turning computes in binary32 with 3.1416 for the circle constant, so the matrix of a quarter turn is
  slightly off.  The numbers are kept as integers in units of `2 ^ -42`, in which every entry of the
  three matrices is whole.
-/
import Realm.Footprint.Basic

namespace Realm

/-! ## §1. Numbers of 24 significant bits. -/

namespace Binary32

/-- The nearest number of 24 significant bits; a tie goes to the even one. -/
def roundNat (n : Nat) : Nat :=
  let spare := n.log2 - 23
  let unit := 1 <<< spare
  let low := n / unit
  let rest := n % unit
  if unit < 2 * rest ∨ (unit = 2 * rest ∧ low % 2 = 1) then (low + 1) * unit else low * unit

/-- The same on both sides of zero. -/
def round (n : Int) : Int := if n < 0 then -(roundNat n.natAbs : Int) else roundNat n.natAbs

/-- Units in a whole: `2 ^ 42` of them. -/
def one : Int := 4398046511104

/-- The whole number next to a number, upwards only from above the middle. -/
def settle (n : Int) : Int :=
  let floor := n / one
  if one < 2 * round (n - floor * one) then floor + 1 else floor

end Binary32

/-! ## §2. Turns. -/

/-- A turn, by cosine and sine. -/
structure Turn where
  cos : Int
  sin : Int
deriving Repr, DecidableEq

namespace Turn

/-- By an angle of `3.1416 * 90 / 180`. -/
def quarter : Turn := ⟨-15920885, Binary32.one⟩

/-- By an angle of `3.1416 * 180 / 180`. -/
def half : Turn := ⟨-Binary32.one, -31841770⟩

/-- By an angle of `3.1416 * 270 / 180`. -/
def threeQuarters : Turn := ⟨48286944, -Binary32.one⟩

/-- Where an offset of columns and rows ends up. -/
def offset (t : Turn) (dx dy : Int) : Int × Int :=
  let dot (a b : Int) : Int :=
    Binary32.settle (Binary32.round (Binary32.round (dx * a) + Binary32.round (dy * b)))
  (dot t.cos (-t.sin), dot t.sin t.cos)

end Turn

namespace Footprint

/-- Where the center of a turned footprint lies on its canvas. -/
def pivot (rows cols : Nat) : Cell := ⟨rows / 2 - 1, cols / 2 - 1⟩

/-- **Turned** about its center, which comes to lie just before the middle of the canvas. -/
def turned (f : Footprint) (t : Turn) (rows cols : Nat) : Footprint :=
  let pivot := pivot rows cols
  let place (c : Cell) : Option Cell :=
    let (dx, dy) := t.offset ((c.col : Int) - f.center.col) ((c.row : Int) - f.center.row)
    let row := dy + pivot.row
    let col := dx + pivot.col
    if row < 0 ∨ col < 0 then none else some ⟨row.toNat, col.toNat⟩
  (f.redrawn rows cols place).setCenter pivot

end Footprint

end Realm
