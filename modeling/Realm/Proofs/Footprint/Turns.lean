/-
  Realm.Proofs.Footprint.Turns — turned footprints are turned exactly.

  Turning computes with a matrix that is slightly off, in numbers that are rounded.  Up to 16384 columns
  and rows from the center, all that goes wrong stays below a quarter of a cell, and settling on the next
  whole number undoes it.  A canvas of twice the longer side has room for every turned cell, because no
  offset is longer than that side.

  Main statements:
  * `Binary32.round_near`, `Binary32.settle_of_near` — what rounding may do, and what settling undoes;
  * `Turn.makes_rule` — a turn is the exact one that its matrix is next to;
  * `Footprint.turnedOnto_turnedOnCanvas` — one turn of a footprint;
  * `Footprint.offsets_iterate_turnedOnCanvas` — any number of quarter turns;
  * `Area.withGrid_turns` — the footprints of a grid that points north.
-/
import Mathlib.Logic.Function.Iterate
import Mathlib.Tactic.Ring
import Realm.Proofs.Footprint.Grids

namespace Realm

/-! ## §1. Numbers of 24 significant bits. -/

namespace Binary32

/-- Rounding moves a number by half of its last place at most. -/
theorem roundNat_near (n : Nat) : 2 * ((roundNat n : Int) - n).natAbs ≤ 2 ^ (n.log2 - 23) := by
  unfold roundNat
  dsimp only
  rw [Nat.one_shiftLeft]
  have hrest : n % 2 ^ (n.log2 - 23) < 2 ^ (n.log2 - 23) := Nat.mod_lt n (Nat.two_pow_pos _)
  generalize 2 ^ (n.log2 - 23) = unit at hrest ⊢
  have hparts : n / unit * unit + n % unit = n := by
    rw [Nat.mul_comm]
    exact Nat.div_add_mod n unit
  rw [Nat.add_one_mul (n / unit) unit]
  generalize n / unit * unit = below at hparts ⊢
  split <;> omega

/-- Below `2 ^ 57` units the last place is `2 ^ 33` units at most. -/
theorem round_near {n : Int} (h : n.natAbs < 2 ^ 57) : (round n - n).natAbs ≤ 2 ^ 32 := by
  have hplace : 2 ^ (n.natAbs.log2 - 23) ≤ 2 ^ 33 := by
    refine Nat.pow_le_pow_right (by decide) ?_
    by_cases hzero : n.natAbs = 0
    · rw [hzero]
      decide
    · have hlog := (Nat.log2_lt hzero).2 h
      omega
  have hnear := roundNat_near n.natAbs
  unfold round
  split <;> omega

/-- **Settling undoes** what is off by a quarter at most. -/
theorem settle_of_near {n k : Int} (h : 4 * (n - k * one).natAbs ≤ 2 ^ 42) : settle n = k := by
  have hone : one = 4398046511104 := rfl
  have hrest : (n - n / one * one).natAbs < 2 ^ 57 := by
    rw [hone]
    omega
  have hround := round_near hrest
  unfold settle
  dsimp only
  -- just below the whole number the floor is one less, and the rest is well above the middle
  rw [hone] at h hround ⊢
  split <;> omega

/-- **A row of a matrix settles** on the whole number that it is next to.  Its entries may be off by
    48286944 units, which is the most that an entry of the three matrices is off by. -/
theorem settle_dot {dx dy a b k : Int} (hx : dx.natAbs < 16384) (hy : dy.natAbs < 16384)
    (ha : a.natAbs ≤ 2 ^ 42 + 48286944) (hb : b.natAbs ≤ 2 ^ 42 + 48286944)
    (hnear : (dx * a + dy * b - k * one).natAbs ≤ 16384 * 48286944) :
    settle (round (round (dx * a) + round (dy * b))) = k := by
  have hcolumns : (dx * a).natAbs ≤ 16383 * (2 ^ 42 + 48286944) := by
    rw [Int.natAbs_mul]
    exact Nat.mul_le_mul (by omega) ha
  have hrows : (dy * b).natAbs ≤ 16383 * (2 ^ 42 + 48286944) := by
    rw [Int.natAbs_mul]
    exact Nat.mul_le_mul (by omega) hb
  -- three roundings, each by half of a last place at most
  have hfirst := round_near (n := dx * a) (by omega)
  have hsecond := round_near (n := dy * b) (by omega)
  have hsum := round_near (n := round (dx * a) + round (dy * b)) (by omega)
  refine settle_of_near ?_
  omega

end Binary32

/-! ## §2. Turns of offsets. -/

namespace Turn

/-- **A turn makes a rule for offsets** of fewer than 16384 columns and rows: the rule keeps offsets
    apart, and makes none of them longer. -/
structure Makes (t : Turn) (rule : Int × Int → Int × Int) : Prop where
  offset_eq : ∀ dx dy : Int, dx.natAbs < 16384 → dy.natAbs < 16384 → t.offset dx dy = rule (dx, dy)
  injective : Function.Injective rule
  within : ∀ (o : Int × Int) (r : Nat), o.1.natAbs < r → o.2.natAbs < r →
    (rule o).1.natAbs < r ∧ (rule o).2.natAbs < r

/-- The turn of a whole cosine and sine. -/
def rule (cos sin : Int) (o : Int × Int) : Int × Int := (cos * o.1 - sin * o.2, sin * o.1 + cos * o.2)

/-- Cosines and sines of quarter turns. -/
def IsUnit (cos sin : Int) : Prop := (cos = 0 ∧ (sin = 1 ∨ sin = -1)) ∨ (sin = 0 ∧ (cos = 1 ∨ cos = -1))

instance (cos sin : Int) : Decidable (IsUnit cos sin) := inferInstanceAs (Decidable (_ ∨ _))

theorem rule_injective {cos sin : Int} (h : IsUnit cos sin) : Function.Injective (rule cos sin) := by
  rintro ⟨x, y⟩ ⟨x', y'⟩ hsame
  obtain ⟨hx, hy⟩ := Prod.mk.inj hsame
  dsimp only at hx hy
  rcases h with ⟨rfl, rfl | rfl⟩ | ⟨rfl, rfl | rfl⟩ <;> exact Prod.ext (by omega) (by omega)

theorem rule_within {cos sin : Int} (h : IsUnit cos sin) (o : Int × Int) {r : Nat}
    (hx : o.1.natAbs < r) (hy : o.2.natAbs < r) :
    (rule cos sin o).1.natAbs < r ∧ (rule cos sin o).2.natAbs < r := by
  unfold rule
  rcases h with ⟨rfl, rfl | rfl⟩ | ⟨rfl, rfl | rfl⟩ <;> constructor <;> dsimp only <;> omega

/-- What the entries of a row are off by, over offsets that are short enough. -/
theorem natAbs_dot_le {dx dy a b : Int} {off : Nat} (hx : dx.natAbs < 16384) (hy : dy.natAbs < 16384)
    (hoff : a.natAbs + b.natAbs ≤ off) : (dx * a + dy * b).natAbs ≤ 16384 * off := by
  calc (dx * a + dy * b).natAbs
      ≤ dx.natAbs * a.natAbs + dy.natAbs * b.natAbs := by
        rw [← Int.natAbs_mul, ← Int.natAbs_mul]
        exact Int.natAbs_add_le _ _
    _ ≤ 16384 * a.natAbs + 16384 * b.natAbs :=
        Nat.add_le_add (Nat.mul_le_mul_right _ (Nat.le_of_lt hx))
          (Nat.mul_le_mul_right _ (Nat.le_of_lt hy))
    _ ≤ 16384 * off := by omega

/-- **A turn makes the rule of the whole matrix that its own is next to.** -/
theorem makes_rule {t : Turn} {cos sin : Int} (hunit : IsUnit cos sin)
    (hnear : (t.cos - cos * Binary32.one).natAbs + (t.sin - sin * Binary32.one).natAbs ≤ 48286944) :
    t.Makes (rule cos sin) where
  offset_eq dx dy hx hy := by
    have hone : Binary32.one = 2 ^ 42 := rfl
    have hcos : t.cos.natAbs ≤ 2 ^ 42 + 48286944 := by
      rcases hunit with ⟨rfl, -⟩ | ⟨-, rfl | rfl⟩ <;> omega
    have hsin : (-t.sin).natAbs ≤ 2 ^ 42 + 48286944 := by
      rcases hunit with ⟨-, rfl | rfl⟩ | ⟨rfl, -⟩ <;> omega
    refine Prod.ext ?_ ?_
    · refine Binary32.settle_dot hx hy hcos hsin ?_
      have hcolumn : dx * t.cos + dy * -t.sin - (cos * dx - sin * dy) * Binary32.one
          = dx * (t.cos - cos * Binary32.one) + dy * -(t.sin - sin * Binary32.one) := by ring
      rw [rule, hcolumn]
      exact natAbs_dot_le hx hy (by rwa [Int.natAbs_neg])
    · refine Binary32.settle_dot hx hy (Int.natAbs_neg t.sin ▸ hsin) hcos ?_
      have hrow : dx * t.sin + dy * t.cos - (sin * dx + cos * dy) * Binary32.one
          = dx * (t.sin - sin * Binary32.one) + dy * (t.cos - cos * Binary32.one) := by ring
      rw [rule, hrow]
      exact natAbs_dot_le hx hy (by rwa [Nat.add_comm])
  injective := rule_injective hunit
  within o _ := rule_within hunit o

/-- A quarter of a turn to the right. -/
theorem makes_quarter : quarter.Makes fun (dx, dy) => (-dy, dx) := by
  have hrule : rule 0 1 = fun (dx, dy) => (-dy, dx) := by
    funext o
    simp [rule]
  exact hrule ▸ makes_rule (by decide) (by decide)

/-- Half a turn. -/
theorem makes_half : half.Makes fun (dx, dy) => (-dx, -dy) := by
  have hrule : rule (-1) 0 = fun (dx, dy) => (-dx, -dy) := by
    funext o
    simp [rule]
  exact hrule ▸ makes_rule (by decide) (by decide)

/-- Three quarters of a turn to the right. -/
theorem makes_threeQuarters : threeQuarters.Makes fun (dx, dy) => (dy, -dx) := by
  have hrule : rule 0 (-1) = fun (dx, dy) => (dy, -dx) := by
    funext o
    simp [rule]
  exact hrule ▸ makes_rule (by decide) (by decide)

/-- **A turn keeps apart** what it turns, so nothing comes to lie on something else. -/
theorem Makes.offset_injective {t : Turn} {rule : Int × Int → Int × Int} (ht : t.Makes rule)
    {o o' : Int × Int} (ho : o.1.natAbs < 16384 ∧ o.2.natAbs < 16384)
    (ho' : o'.1.natAbs < 16384 ∧ o'.2.natAbs < 16384) (h : t.offset o.1 o.2 = t.offset o'.1 o'.2) :
    o = o' := by
  rw [ht.offset_eq _ _ ho.1 ho.2, ht.offset_eq _ _ ho'.1 ho'.2] at h
  exact ht.injective h

end Turn

/-! ## §3. Turned footprints. -/

namespace Footprint

variable {f g : Footprint} {t : Turn} {rule : Int × Int → Int × Int}

/-- **A footprint that is turned onto its canvas:** a square of twice the longer side, with the center
    just before the middle, and on it the affected cells where the rule puts them. -/
structure TurnedOnto (rule : Int × Int → Int × Int) (f g : Footprint) : Prop
    extends MovedBy rule f g where
  rows_eq : g.rows = 2 * max f.rows f.cols
  cols_eq : g.cols = 2 * max f.rows f.cols
  center_eq : g.center = ⟨g.rows / 2 - 1, g.cols / 2 - 1⟩

/-- All offsets are so short that turns are exact. -/
def IsNear (f : Footprint) : Prop := ∀ o ∈ f.offsets, o.1.natAbs < 16384 ∧ o.2.natAbs < 16384

/-- No cell of the grid lies as far from the center as the longer side is long. -/
theorem Fits.offsetOf_within (hfits : f.Fits) {c : Cell} (hc : f.holds c = true) :
    (f.offsetOf c).1.natAbs < max f.rows f.cols ∧ (f.offsetOf c).2.natAbs < max f.rows f.cols := by
  obtain ⟨hrow, hcol⟩ := holds_iff.1 hc
  obtain ⟨hrow', hcol'⟩ := holds_iff.1 hfits.center
  unfold offsetOf
  omega

theorem Fits.isNear (hfits : f.Fits) (hrows : f.rows ≤ 16384) (hcols : f.cols ≤ 16384) :
    f.IsNear := by
  intro o ho
  obtain ⟨c, hc, rfl⟩ := mem_offsets_iff.1 ho
  have hwithin := hfits.offsetOf_within (hfits.cells c hc)
  omega

/-- The cell that lies at an offset from the pivot, if there is one. -/
def cellOff (pivot : Cell) (o : Int × Int) : Option Cell :=
  let row := o.2 + pivot.row
  let col := o.1 + pivot.col
  if row < 0 ∨ col < 0 then none else some ⟨row.toNat, col.toNat⟩

theorem turned_eq (f : Footprint) (t : Turn) (rows cols : Nat) : f.turned t rows cols
    = (f.redrawn rows cols fun c =>
        cellOff (pivot rows cols) (t.offset (f.offsetOf c).1 (f.offsetOf c).2)).setCenter
          (pivot rows cols) := by
  refine congrArg (fun place => (f.redrawn rows cols place).setCenter (pivot rows cols))
    (funext fun c => ?_)
  unfold offsetOf
  generalize t.offset _ _ = o
  rfl

/-- **A canvas has room** for offsets shorter than half its side, about the cell before its middle. -/
theorem exists_cellOff {m : Nat} {o : Int × Int} (hx : o.1.natAbs < m) (hy : o.2.natAbs < m) :
    ∃ d, cellOff ⟨m - 1, m - 1⟩ o = some d ∧ (d.row < 2 * m ∧ d.col < 2 * m)
      ∧ ((d.col : Int) - (m - 1 : Nat), (d.row : Int) - (m - 1 : Nat)) = o := by
  refine ⟨_, if_neg (by dsimp only; omega), ?_, Prod.ext ?_ ?_⟩
  · dsimp only
    omega
  · dsimp only
    omega
  · dsimp only
    omega

/-- The canvas of a footprint is a square of twice its longer side. -/
theorem side_eq (f : Footprint) : f.side = 2 * max f.rows f.cols := Nat.mul_comm _ _

theorem pivot_side (f : Footprint) :
    pivot f.side f.side = ⟨max f.rows f.cols - 1, max f.rows f.cols - 1⟩ := by
  have hmiddle : f.side / 2 - 1 = max f.rows f.cols - 1 := by
    rw [side_eq]
    omega
  rw [pivot, hmiddle]

theorem rows_turnedOnCanvas (f : Footprint) (t : Turn) :
    (f.turnedOnCanvas t).rows = 2 * max f.rows f.cols :=
  (rows_redrawn f _ _ _).trans f.side_eq

theorem cols_turnedOnCanvas (f : Footprint) (t : Turn) :
    (f.turnedOnCanvas t).cols = 2 * max f.rows f.cols :=
  (cols_redrawn f _ _ _).trans f.side_eq

/-- **One turn** puts every affected cell where its rule says. -/
theorem turnedOnto_turnedOnCanvas (hfits : f.Fits) (hnear : f.IsNear) (ht : t.Makes rule) :
    TurnedOnto rule f (f.turnedOnCanvas t) := by
  obtain ⟨hrow, hcol⟩ := holds_iff.1 hfits.center
  have hpivot : (pivot f.side f.side).row < f.side ∧ (pivot f.side f.side).col < f.side := by
    rw [pivot_side, side_eq]
    dsimp only
    omega
  have hmoved : MovedBy rule f (f.turnedOnCanvas t) := by
    rw [turnedOnCanvas, turned_eq]
    refine movedBy_redrawn hpivot ht.injective fun c hc => ?_
    obtain ⟨hx, hy⟩ := hnear _ (mem_offsets_iff.2 ⟨c, hc, rfl⟩)
    rw [ht.offset_eq _ _ hx hy, pivot_side, side_eq]
    -- no turned offset is as long as the longer side, so the canvas has room for it
    obtain ⟨hx, hy⟩ := hfits.offsetOf_within (hfits.cells c hc)
    obtain ⟨hx, hy⟩ := ht.within _ _ hx hy
    exact exists_cellOff hx hy
  have hcenter : (f.turnedOnCanvas t).center = pivot f.side f.side := by
    rw [turnedOnCanvas, turned_eq]
    exact center_redrawn hpivot
  exact
    { hmoved with
      rows_eq := rows_turnedOnCanvas f t
      cols_eq := cols_turnedOnCanvas f t
      center_eq := by rw [hcenter, rows_turnedOnCanvas, cols_turnedOnCanvas, ← side_eq, pivot] }

/-- **Any number of quarter turns,** each onto a canvas of its own. -/
theorem offsets_iterate_turnedOnCanvas (hfits : f.Fits) (hnear : f.IsNear) (n : Nat) :
    ((turnedOnCanvas · .quarter)^[n] f).Fits ∧ ((turnedOnCanvas · .quarter)^[n] f).IsNear
      ∧ ((turnedOnCanvas · .quarter)^[n] f).offsets
        = f.offsets.image (fun (dx, dy) => (-dy, dx))^[n] := by
  induction n with
  | zero => exact ⟨hfits, hnear, Finset.image_id.symm⟩
  | succ n ih =>
    obtain ⟨hfits', hnear', hoffsets'⟩ := ih
    rw [Function.iterate_succ_apply', Function.iterate_succ']
    have hturned := turnedOnto_turnedOnCanvas hfits' hnear' Turn.makes_quarter
    refine ⟨hturned.fits, ?_, ?_⟩
    · -- offsets do not get longer, so the next turn is as exact as this one, on a larger canvas
      intro o ho
      rw [hturned.offsets_eq] at ho
      obtain ⟨o', ho', rfl⟩ := Finset.mem_image.1 ho
      exact Turn.makes_quarter.within o' 16384 (hnear' o' ho').1 (hnear' o' ho').2
    · rw [hturned.offsets_eq, hoffsets', Finset.image_image]

/-- Four quarter turns bring every cell back to its offset. -/
theorem offsets_four_quarters (hfits : f.Fits) (hnear : f.IsNear) :
    ((turnedOnCanvas · .quarter)^[4] f).offsets = f.offsets := by
  have hwhole : (fun ((dx, dy) : Int × Int) => (-dy, dx))^[4] = id := by
    funext o
    simp [Function.iterate_succ_apply']
  rw [(offsets_iterate_turnedOnCanvas hfits hnear 4).2.2, hwhole, Finset.image_id]

end Footprint

/-! ## §4. Areas. -/

namespace Area

open Footprint

/-- **The cardinal footprints are turned exactly.**  A grid of any shape with up to 16384 rows and
    columns, and its center anywhere, is accepted; it is what points north.  The footprints that point
    east, south and west lie on squares of twice the longer side, with the center just before the middle,
    and affect on them exactly the cells of the northern one after a quarter, a half and three quarters
    of a turn about the center.  No two cells of the grid, affected or not, come to lie on one.  And four
    quarter turns, each onto such a square, bring every cell back. -/
theorem withGrid_turns {tokens : List UInt8} {rows : Nat} (hgrid : IsGrid tokens rows)
    (hrows : rows ≤ 16384) (hcols : columns tokens rows ≤ 16384) (a : Area) :
    ∃ (a' : Area) (north east south west : Footprint), a.withGrid tokens rows = .ok a'
      ∧ Draws tokens rows (columns tokens rows) north
      ∧ a'.footprint? .north = some north ∧ a'.footprint? .east = some east
      ∧ a'.footprint? .south = some south ∧ a'.footprint? .west = some west
      ∧ TurnedOnto (fun (dx, dy) => (-dy, dx)) north east
      ∧ TurnedOnto (fun (dx, dy) => (-dx, -dy)) north south
      ∧ TurnedOnto (fun (dx, dy) => (dy, -dx)) north west
      ∧ (∀ t ∈ [Turn.quarter, .half, .threeQuarters], ∀ c d, north.holds c = true →
        north.holds d = true → t.offset (north.offsetOf c).1 (north.offsetOf c).2
          = t.offset (north.offsetOf d).1 (north.offsetOf d).2 → c = d)
      ∧ ((turnedOnCanvas · .quarter)^[4] north).offsets = north.offsets := by
  obtain ⟨north, hread, hdraws⟩ := hgrid.exists_ofTokens
  have hfits := hdraws.fits
  rw [← hdraws.rows_eq] at hrows
  rw [← hdraws.cols_eq] at hcols
  have hnear : north.IsNear := hfits.isNear hrows hcols
  have hapart : ∀ {t rule}, Turn.Makes t rule → ∀ c d, north.holds c = true →
      north.holds d = true → t.offset (north.offsetOf c).1 (north.offsetOf c).2
        = t.offset (north.offsetOf d).1 (north.offsetOf d).2 → c = d := by
    intro t rule ht c d hc hd hsame
    have hc := hfits.offsetOf_within hc
    have hd := hfits.offsetOf_within hd
    exact offsetOf_injective north (ht.offset_injective (by omega) (by omega) hsame)
  refine ⟨_, north, _, _, _, a.withGrid_of_ok hread, hdraws, rfl, rfl, rfl, rfl,
    turnedOnto_turnedOnCanvas hfits hnear Turn.makes_quarter,
    turnedOnto_turnedOnCanvas hfits hnear Turn.makes_half,
    turnedOnto_turnedOnCanvas hfits hnear Turn.makes_threeQuarters, ?_,
    offsets_four_quarters hfits hnear⟩
  intro t ht
  rw [List.mem_cons, List.mem_cons, List.mem_singleton] at ht
  rcases ht with rfl | rfl | rfl
  · exact hapart Turn.makes_quarter
  · exact hapart Turn.makes_half
  · exact hapart Turn.makes_threeQuarters

/-- A hook of four cells, with its center at the foot: turned half way, it hangs from the center. -/
theorem withGrid_turns_hook :
    ∃ a' south, withGrid {} [1, 1, 0, 0, 1, 0, 0, 3, 0] 3 = .ok a'
      ∧ a'.footprint? .south = some south ∧ south.rows = 6 ∧ south.center = ⟨2, 2⟩
      ∧ south.offsets = {(0, 0), (0, 1), (0, 2), (1, 2)} := by
  obtain ⟨a', north, east, south, west, haccepted, hdraws, -, -, hsouth, -, -, hturned, -⟩ :=
    @withGrid_turns [1, 1, 0, 0, 1, 0, 0, 3, 0] 3 (by decide) (by decide)
      (by decide) {}
  have hoffsets : ((withGrid {} [1, 1, 0, 0, 1, 0, 0, 3, 0] 3).toOption.bind
      fun a => (a.footprint? .south).map offsets) = some {(0, 0), (0, 1), (0, 2), (1, 2)} := by decide
  rw [haccepted] at hoffsets
  have hoffsets : (a'.footprint? .south).map offsets = some {(0, 0), (0, 1), (0, 2), (1, 2)} :=
    hoffsets
  rw [hsouth] at hoffsets
  have hnorth : north.rows = 3 ∧ north.cols = 3 := ⟨hdraws.rows_eq, hdraws.cols_eq⟩
  have hside : south.rows = 6 ∧ south.cols = 6 := by
    rw [hturned.rows_eq, hturned.cols_eq, hnorth.1, hnorth.2]
    decide
  refine ⟨a', south, haccepted, hsouth, hside.1, ?_, Option.some.inj hoffsets⟩
  rw [hturned.center_eq, hside.1, hside.2]

end Area

end Realm
