/-
  Realm.Proofs.TileMap.SightLine — lines of sight as digital lines.

  A line does not count its moves.  It steps along the columns and the rows as its error tells it to, and
  is over when it meets its end, which it must not miss.  The error is the drift off the ideal line in
  disguise: it is what the drift is, and the two sides of the line besides.  Each move goes along the
  longer side, and along the shorter one where that keeps the drift within half of the longer side; and so
  the line meets its end with the last of as many moves as the longer side has.

  Main statements:
  * `exists_move` — one move keeps the drift small, and goes along the longer side;
  * `exists_after` — so do any number of moves;
  * `clearAlong_iff` — what blocks a line that arrives after a number of moves;
  * `checkSightLine_digital` — sight lines are complete digital lines.
-/
import Mathlib.Algebra.Order.Field.Basic
import Mathlib.Algebra.Order.Field.Rat
import Mathlib.Tactic.FieldSimp
import Mathlib.Tactic.Linarith
import Mathlib.Tactic.Ring
import Realm.TileMap.Basic

namespace Realm.TileMap

namespace Line

/-! ## §1. Moves. -/

/-- A line after a number of moves. -/
def after (l : Line) : Nat → Line
  | 0 => l
  | n + 1 => (l.after n).move

theorem after_move (l : Line) (n : Nat) : l.move.after n = l.after (n + 1) := by
  induction n with
  | zero => rfl
  | succ n ih => exact congrArg move ih

/-- **The drift** of a line that is so many columns and rows on its way. -/
def drift (l : Line) (columns rows : Int) : Int := columns * l.dy + rows * l.dx

/-- A line so many columns and rows further on its way. -/
def shifted (l : Line) (columns rows : Int) : Line :=
  { l with
    x := l.x + columns * l.stepX
    y := l.y + rows * l.stepY
    error := l.error + l.drift columns rows }

theorem shifted_zero (l : Line) : l.shifted 0 0 = l := by
  simp [shifted, drift]

/-- **One move** of a line on its way. -/
theorem move_shifted (l : Line) (i j : Int) :
    (l.shifted i j).move
      = l.shifted (if l.dy ≤ 2 * (l.error + l.drift i j) then i + 1 else i)
          (if 2 * (l.error + l.drift i j) ≤ l.dx then j + 1 else j) := by
  have hcolumn : l.x + i * l.stepX + l.stepX = l.x + (i + 1) * l.stepX := by ring
  have hrow : l.y + j * l.stepY + l.stepY = l.y + (j + 1) * l.stepY := by ring
  unfold move shifted drift
  dsimp only
  split <;> split <;> simp only [hcolumn, hrow, Line.mk.injEq, true_and] <;> ring

/-- **A line at its start:** its end lies on its way, and its error is that of no drift. -/
structure Fresh (l : Line) : Prop where
  columns : 0 ≤ l.dx
  rows : l.dy ≤ 0
  error : l.error = l.dx + l.dy
  endX : l.endX = l.x + l.dx * l.stepX
  endY : l.endY = l.y + -l.dy * l.stepY
  stepX : l.stepX = 1 ∨ l.stepX = -1
  stepY : l.stepY = 1 ∨ l.stepY = -1

theorem fresh_between (p q : Position) : (between p q).Fresh := by
  constructor
  · exact Int.natCast_nonneg _
  · exact Int.neg_nonpos_of_nonneg (Int.natCast_nonneg _)
  · rfl
  · show (q.x.toNat : Int) = p.x.toNat + _ * (if _ then _ else _)
    dsimp only [between]
    split <;> omega
  · show (q.y.toNat : Int) = p.y.toNat + _ * (if _ then _ else _)
    dsimp only [between]
    split <;> omega
  · show (if _ then _ else _) = (1 : Int) ∨ (if _ then _ else _) = (-1 : Int)
    split <;> simp
  · show (if _ then _ else _) = (1 : Int) ∨ (if _ then _ else _) = (-1 : Int)
    split <;> simp

/-- **What holds after a number of moves** that went so many columns and rows: each of them went along the
    longer side, and the line has drifted by half of that side at most. -/
structure Reached (l : Line) (n : Nat) (columns rows : Int) : Prop where
  columns_nonneg : 0 ≤ columns
  columns_le : columns ≤ n
  rows_nonneg : 0 ≤ rows
  rows_le : rows ≤ n
  wide : -l.dy ≤ l.dx → columns = n
  tall : l.dx < -l.dy → rows = n
  near : 2 * (l.drift columns rows).natAbs ≤ l.moves

section

variable {l : Line} {n : Nat} {i j : Int}

theorem Fresh.moves_eq (h : l.Fresh) : (l.moves : Int) = max l.dx (-l.dy) := by
  have hcolumns := h.columns
  have hrows := h.rows
  unfold moves
  omega

/-- **One move** goes along the longer side, and keeps the drift within half of it. -/
theorem exists_move (h : l.Fresh) (hreached : l.Reached n i j) :
    ∃ i' j', (l.shifted i j).move = l.shifted i' j' ∧ (i' = i ∨ i' = i + 1)
      ∧ (j' = j ∨ j' = j + 1) ∧ l.Reached (n + 1) i' j' := by
  have hcolumns := h.columns
  have hrows := h.rows
  have hmoves := h.moves_eq
  obtain ⟨hleft, hright, htop, hbottom, hwide, htall, hnear⟩ := hreached
  -- what steps do to the drift
  have hcolumn : l.drift (i + 1) j = l.drift i j + l.dy := by
    unfold drift
    ring
  have hrow : l.drift i (j + 1) = l.drift i j + l.dx := by
    unfold drift
    ring
  have hboth : l.drift (i + 1) (j + 1) = l.drift i j + l.dy + l.dx := by
    unfold drift
    ring
  have hmove := move_shifted l i j
  rw [h.error] at hmove
  refine ⟨_, _, hmove, ?_, ?_, ?_⟩
  · split <;> simp
  · split <;> simp
  · split <;> split <;> constructor <;> omega

/-- **Any number of moves.** -/
theorem exists_after (h : l.Fresh) (n : Nat) :
    ∃ i j, l.after n = l.shifted i j ∧ l.Reached n i j := by
  induction n with
  | zero =>
    refine ⟨0, 0, l.shifted_zero.symm, ?_⟩
    constructor <;> simp [drift]
  | succ n ih =>
    obtain ⟨i, j, hafter, hreached⟩ := ih
    obtain ⟨i', j', hmove, -, -, hreached'⟩ := exists_move h hreached
    exact ⟨i', j', by rw [after, hafter, hmove], hreached'⟩

/-! ## §2. Where a line is. -/

/-- **Along the shorter side** a line is not beyond its end before it is along the longer one. -/
theorem short_le (long : Int) {short n k : Int} (hn : n ≤ long) (hshort : 0 ≤ short) (hle : short ≤ long)
    (hk : k ≤ n) (hnear : 2 * (k * long - n * short) ≤ long) : k ≤ short := by
  by_contra hbeyond
  have hsteps : (short + 1) * long ≤ k * long :=
    Int.mul_le_mul_of_nonneg_right (by omega) (by omega)
  have hall : n * short ≤ long * short := Int.mul_le_mul_of_nonneg_right hn hshort
  have hexpand : (short + 1) * long = long * short + long := by ring
  omega

/-- **With the last step along the longer side** it is at its end along the shorter one, too. -/
theorem short_eq (long : Int) {short k : Int} (hle : short ≤ long) (hk : 0 ≤ k) (hkshort : k ≤ short)
    (hnear : 2 * (long * short - k * long) ≤ long) : k = short := by
  by_contra hbefore
  have hsteps : k * long ≤ (short - 1) * long :=
    Int.mul_le_mul_of_nonneg_right (by omega) (by omega)
  have hexpand : (short - 1) * long = long * short - long := by ring
  omega

/-- A line does not leave the sides of its rectangle. -/
theorem Reached.within (h : l.Fresh) (hreached : l.Reached n i j) (hn : n ≤ l.moves) :
    i ≤ l.dx ∧ j ≤ -l.dy := by
  have hcolumns := h.columns
  have hrows := h.rows
  have hmoves := h.moves_eq
  obtain ⟨hleft, hright, htop, hbottom, hwide, htall, hnear⟩ := hreached
  unfold drift at hnear
  rcases Int.lt_or_le l.dx (-l.dy) with hlt | hge
  · obtain rfl := htall hlt
    refine ⟨short_le (n := n) (-l.dy) ?_ hcolumns ?_ hright ?_, ?_⟩
    · omega
    · omega
    · rw [Int.mul_neg]
      omega
    · omega
  · obtain rfl := hwide hge
    refine ⟨?_, short_le (n := n) l.dx ?_ ?_ hge hbottom ?_⟩
    · omega
    · omega
    · omega
    · rw [Int.mul_neg]
      omega

/-- **A line is at its end** after as many moves as its longer side has, and not before. -/
theorem Reached.end_iff (h : l.Fresh) (hreached : l.Reached n i j) (hn : n ≤ l.moves) :
    i = l.dx ∧ j = -l.dy ↔ n = l.moves := by
  have hcolumns := h.columns
  have hrows := h.rows
  have hmoves := h.moves_eq
  obtain ⟨hcolumnsLe, hrowsLe⟩ := hreached.within h hn
  obtain ⟨hleft, hright, htop, hbottom, hwide, htall, hnear⟩ := hreached
  constructor
  · rintro ⟨rfl, rfl⟩
    omega
  · intro hlast
    unfold drift at hnear
    rcases Int.lt_or_le l.dx (-l.dy) with hlt | hge
    · have hrow : j = -l.dy := by omega
      refine ⟨short_eq (-l.dy) (by omega) hleft hcolumnsLe ?_, hrow⟩
      rw [hrow] at hnear
      rw [Int.mul_neg]
      omega
    · have hcolumn : i = l.dx := by omega
      refine ⟨hcolumn, short_eq l.dx hge htop hrowsLe ?_⟩
      rw [hcolumn] at hnear
      rw [Int.mul_neg]
      omega

end

/-- Steps that go so far along a side have gone that far. -/
theorem side_inj {start step i side : Int} (hstep : step = 1 ∨ step = -1) :
    start + i * step = start + side * step ↔ i = side := by
  rcases hstep with rfl | rfl <;> omega

/-- A line on its way is at its end when it has gone both sides of its rectangle. -/
theorem atEnd_shifted {l : Line} (h : l.Fresh) (i j : Int) :
    (l.shifted i j).atEnd = true ↔ i = l.dx ∧ j = -l.dy := by
  unfold atEnd shifted
  dsimp only
  rw [Bool.and_eq_true, decide_eq_true_eq, decide_eq_true_eq, h.endX, h.endY, side_inj h.stepX,
    side_inj h.stepY]

theorem atEnd_after_iff {l : Line} (h : l.Fresh) {n : Nat} (hn : n ≤ l.moves) :
    (l.after n).atEnd = true ↔ n = l.moves := by
  obtain ⟨i, j, hafter, hreached⟩ := exists_after h n
  rw [hafter, atEnd_shifted h, hreached.end_iff h hn]

end Line

/-! ## §3. What blocks a line. -/

/-- **A line that arrives after a number of moves** is clear just when none of the places that it comes by
    on the way blocks sight; a larger bound on the moves makes no difference. -/
theorem clearAlong_iff (m : TileMap) (z : UInt8) {n : Nat} :
    ∀ {l : Line} {fuel : Nat}, (∀ k ≤ n, (l.after k).atEnd = true ↔ k = n) → n ≤ fuel →
      (m.clearAlong z fuel l = true
        ↔ ∀ k, 0 < k → k < n → m.blocksSight ((l.after k).cell z) = false) := by
  induction n with
  | zero =>
    intro l fuel harrives _
    have hend : l.atEnd = true := (harrives 0 (Nat.le_refl 0)).2 rfl
    have hclear : m.clearAlong z fuel l = true := by
      cases fuel with
      | zero => rfl
      | succ fuel => rw [clearAlong, if_pos hend]
    simp [hclear]
  | succ n ih =>
    intro l fuel harrives hfuel
    obtain ⟨fuel, rfl⟩ : ∃ rest, fuel = rest + 1 := ⟨fuel - 1, by omega⟩
    have hstart : ¬ l.atEnd = true := fun hend => by
      have hzero : 0 = n + 1 := (harrives 0 (Nat.zero_le _)).1 hend
      omega
    -- what is left of the line arrives one move earlier
    have hrest : ∀ k ≤ n, (l.move.after k).atEnd = true ↔ k = n := by
      intro k hk
      rw [Line.after_move, harrives (k + 1) (by omega), Nat.add_right_cancel_iff]
    have hnext : l.move.atEnd = true ↔ 0 = n := hrest 0 (Nat.zero_le n)
    rw [clearAlong, if_neg hstart]
    dsimp only
    by_cases hlast : 0 = n
    · rw [if_pos (hnext.2 hlast)]
      refine iff_of_true rfl fun k _ hk => ?_
      omega
    · rw [if_neg (mt hnext.1 hlast)]
      cases hblocks : m.blocksSight (l.move.cell z) with
      | true =>
        rw [if_pos rfl]
        refine iff_of_false nofun fun hclear => ?_
        have hfirst : m.blocksSight (l.move.cell z) = false := hclear 1 Nat.one_pos (by omega)
        rw [hblocks] at hfirst
        cases hfirst
      | false =>
        rw [if_neg nofun, ih hrest (by omega)]
        constructor
        · intro hclear k hpos hk
          obtain ⟨k, rfl⟩ : ∃ before, k = before + 1 := ⟨k - 1, by omega⟩
          rw [← Line.after_move]
          by_cases hfirst : k = 0
          · rw [hfirst]
            exact hblocks
          · exact hclear k (by omega) (by omega)
        · intro hclear k _ hk
          rw [Line.after_move]
          exact hclear (k + 1) (by omega) (by omega)

/-! ## §4. Digital lines. -/

namespace Line

variable (p q : Position)

/-- How far a line between two places is off the ideal one, along its shorter side. -/
def offset (l : Line) : ℚ :=
  let columns : ℚ := (l.x - p.x.toNat : Int)
  let rows : ℚ := (l.y - p.y.toNat : Int)
  if (p.dy q).natAbs ≤ (p.dx q).natAbs then |rows - columns * p.dy q / p.dx q|
  else |columns - rows * p.dx q / p.dy q|

/-- **A complete digital line** of so many moves between two places, on the floor of the first. -/
structure Digital (n : Nat) (path : Nat → Line) : Prop where
  /-- It is at its end after the last move, and at no time before. -/
  arrives : ∀ k ≤ n, (path k).atEnd = true ↔ k = n
  first : (path 0).cell p.z = p
  last : (path n).cell p.z = ⟨q.x, q.y, p.z⟩
  /-- The places strictly between are neither end. -/
  between : ∀ k, 0 < k → k < n → (path k).cell p.z ≠ p ∧ (path k).cell p.z ≠ ⟨q.x, q.y, p.z⟩
  /-- All lies in the rectangle between the ends. -/
  columns : ∀ k ≤ n, (min p.x.toNat q.x.toNat : Int) ≤ (path k).x
    ∧ (path k).x ≤ (max p.x.toNat q.x.toNat : Int)
  rows : ∀ k ≤ n, (min p.y.toNat q.y.toNat : Int) ≤ (path k).y
    ∧ (path k).y ≤ (max p.y.toNat q.y.toNat : Int)
  /-- So the place of a cell is the cell. -/
  cells : ∀ k ≤ n, (((path k).cell p.z).x.toNat : Int) = (path k).x
    ∧ (((path k).cell p.z).y.toNat : Int) = (path k).y
  /-- A move goes one column towards the end or none, and one row towards it or none. -/
  moves : ∀ k < n,
    ((path (k + 1)).x = (path k).x
      ∨ (path (k + 1)).x = (path k).x + ((q.x.toNat : Int) - (path k).x).sign)
    ∧ ((path (k + 1)).y = (path k).y
      ∨ (path (k + 1)).y = (path k).y + ((q.y.toNat : Int) - (path k).y).sign)
  /-- Along the shorter side, it stays within half a place of the ideal line. -/
  near : ∀ k ≤ n, offset p q (path k) ≤ 1 / 2

variable {p q}

/-- The place of a cell that lies on the grid of words. -/
theorem cell_words {l : Line} (z : UInt8) (hx : 0 ≤ l.x ∧ l.x < 65536) (hy : 0 ≤ l.y ∧ l.y < 65536) :
    ((l.cell z).x.toNat : Int) = l.x ∧ ((l.cell z).y.toNat : Int) = l.y := by
  constructor
  · show ((UInt16.ofNat (l.x % 65536).toNat).toNat : Int) = l.x
    rw [UInt16.toNat_ofNat']
    omega
  · show ((UInt16.ofNat (l.y % 65536).toNat).toNat : Int) = l.y
    rw [UInt16.toNat_ofNat']
    omega

/-- Half a place off, by the distance from the ideal line and the longer side. -/
theorem abs_sub_div_le_half {long short along across : Int} (hnonzero : long = 0 → across = 0)
    (h : 2 * (across * long - along * short).natAbs ≤ long.natAbs) :
    |(across : ℚ) - along * short / long| ≤ 1 / 2 := by
  by_cases hlong : long = 0
  · rw [hnonzero hlong, hlong]
    norm_num
  · have hpos : (0 : ℚ) < |(long : ℚ)| := abs_pos.2 (Int.cast_ne_zero.2 hlong)
    have hcast : 2 * |(across : ℚ) * long - along * short| ≤ |(long : ℚ)| := by
      have hint : 2 * |across * long - along * short| ≤ |long| := by
        rw [Int.abs_eq_natAbs, Int.abs_eq_natAbs]
        omega
      exact_mod_cast hint
    have hquotient : (across : ℚ) - along * short / long = (across * long - along * short) / long := by
      have hne : (long : ℚ) ≠ 0 := Int.cast_ne_zero.2 hlong
      field_simp
    rw [hquotient, abs_div, div_le_iff₀ hpos]
    linarith

/-- The drift of a line is its distance from the ideal one. -/
theorem natAbs_drift {l : Line} (h : l.Fresh) (i j : Int) :
    ((j * l.stepY) * (l.endX - l.x) - (i * l.stepX) * (l.endY - l.y)).natAbs
      = (l.drift i j).natAbs := by
  have hproduct : (j * l.stepY) * (l.endX - l.x) - (i * l.stepX) * (l.endY - l.y)
      = l.stepX * l.stepY * l.drift i j := by
    rw [h.endX, h.endY]
    unfold drift
    ring
  rw [hproduct, Int.natAbs_mul, Int.natAbs_mul]
  rcases h.stepX with hx | hx <;> rcases h.stepY with hy | hy <;> simp [hx, hy]

/-- On its way along one side, a line is between the ends of that side. -/
theorem side_within {start stop step side i : Int} (hstop : stop = start + side * step)
    (hstep : step = 1 ∨ step = -1) (hi : 0 ≤ i) (hside : i ≤ side) :
    min start stop ≤ start + i * step ∧ start + i * step ≤ max start stop := by
  rcases hstep with rfl | rfl <;> omega

/-- If it steps along a side that it does not leave, it steps towards the end of that side. -/
theorem side_move {start stop step side i i' : Int} (hstop : stop = start + side * step)
    (hstep : step = 1 ∨ step = -1) (hmove : i' = i ∨ i' = i + 1) (hside : i' ≤ side) :
    start + i' * step = start + i * step
    ∨ start + i' * step = start + i * step + (stop - (start + i * step)).sign := by
  rcases hmove with rfl | rfl
  · exact .inl rfl
  · have htowards : (stop - (start + i * step)).sign = step := by
      rcases hstep with rfl | rfl
      · exact Int.sign_eq_one_of_pos (by omega)
      · exact Int.sign_eq_neg_one_of_neg (by omega)
    right
    rw [htowards]
    ring

theorem cell_eq {l : Line} {r : Position} (hx : l.x = r.x.toNat) (hy : l.y = r.y.toNat) (z : UInt8) :
    l.cell z = ⟨r.x, r.y, z⟩ := by
  have hcell := cell_words (l := l) z ⟨by omega, by have := r.x.toNat_lt; omega⟩
    ⟨by omega, by have := r.y.toNat_lt; omega⟩
  have hcolumn : (l.cell z).x = r.x := UInt16.toNat_inj.1 (by omega)
  have hrow : (l.cell z).y = r.y := UInt16.toNat_inj.1 (by omega)
  rw [← hcolumn, ← hrow]
  rfl

section

variable (p q : Position)

theorem moves_between : (between p q).moves = max (p.dx q).natAbs (p.dy q).natAbs := by
  show max (Int.natAbs ((p.dx q).natAbs : Int)) (Int.natAbs (-((p.dy q).natAbs : Int))) = _
  rw [Int.natAbs_neg, Int.natAbs_natCast, Int.natAbs_natCast]

/-- Where a line between two places is after a number of moves, and that it is in their rectangle. -/
theorem exists_after_between {k : Nat} (hk : k ≤ (between p q).moves) :
    ∃ i j, (between p q).after k = (between p q).shifted i j ∧ (between p q).Reached k i j
      ∧ ((min p.x.toNat q.x.toNat : Int) ≤ ((between p q).after k).x
        ∧ ((between p q).after k).x ≤ (max p.x.toNat q.x.toNat : Int))
      ∧ (min p.y.toNat q.y.toNat : Int) ≤ ((between p q).after k).y
        ∧ ((between p q).after k).y ≤ (max p.y.toNat q.y.toNat : Int) := by
  have h := fresh_between p q
  obtain ⟨i, j, hafter, hreached⟩ := exists_after h k
  obtain ⟨hcolumns, hrows⟩ := hreached.within h hk
  rw [hafter]
  exact ⟨i, j, rfl, hreached, side_within h.endX h.stepX hreached.columns_nonneg hcolumns,
    side_within h.endY h.stepY hreached.rows_nonneg hrows⟩

/-- The cells of a line between two places are places of words. -/
theorem cell_words_between {k : Nat} (hk : k ≤ (between p q).moves) (z : UInt8) :
    ((((between p q).after k).cell z).x.toNat : Int) = ((between p q).after k).x
      ∧ ((((between p q).after k).cell z).y.toNat : Int) = ((between p q).after k).y := by
  obtain ⟨-, -, -, -, hcolumns, hrows⟩ := exists_after_between p q hk
  have hpx := p.x.toNat_lt
  have hpy := p.y.toNat_lt
  have hqx := q.x.toNat_lt
  have hqy := q.y.toNat_lt
  exact cell_words z (by omega) (by omega)

/-- A line between two places is at its start before its first move only. -/
theorem eq_zero_of_start {k : Nat} (hk : k ≤ (between p q).moves)
    (hx : ((between p q).after k).x = p.x.toNat) (hy : ((between p q).after k).y = p.y.toNat) :
    k = 0 := by
  have h := fresh_between p q
  obtain ⟨i, j, hafter, hreached, -⟩ := exists_after_between p q hk
  rw [hafter] at hx hy
  have hcolumn : i = 0 := by
    refine (side_inj h.stepX).1 (hx.trans ?_)
    rw [Int.zero_mul]
    exact (Int.add_zero _).symm
  have hrow : j = 0 := by
    refine (side_inj h.stepY).1 (hy.trans ?_)
    rw [Int.zero_mul]
    exact (Int.add_zero _).symm
  have hwide := hreached.wide
  have htall := hreached.tall
  omega

/-- Along its shorter side, a line stays within half a place of the ideal one. -/
theorem offset_after_le {k : Nat} (hk : k ≤ (between p q).moves) :
    offset p q ((between p q).after k) ≤ 1 / 2 := by
  have h := fresh_between p q
  obtain ⟨i, j, hafter, hreached, hcolumns, hrows⟩ := exists_after_between p q hk
  have hmoves := moves_between p q
  have hnear := hreached.near
  have hx : ((between p q).after k).x - p.x.toNat = i * (between p q).stepX := by
    rw [hafter]
    exact add_sub_cancel_left _ _
  have hy : ((between p q).after k).y - p.y.toNat = j * (between p q).stepY := by
    rw [hafter]
    exact add_sub_cancel_left _ _
  have hdrift := natAbs_drift h i j
  rw [← hx, ← hy] at hdrift
  have hdx : (between p q).endX - (between p q).x = p.dx q := rfl
  have hdy : (between p q).endY - (between p q).y = p.dy q := rfl
  rw [hdx, hdy] at hdrift
  have hdx' : p.dx q = (q.x.toNat : Int) - p.x.toNat := rfl
  have hdy' : p.dy q = (q.y.toNat : Int) - p.y.toNat := rfl
  unfold offset
  dsimp only
  split
  · refine abs_sub_div_le_half (fun hzero => ?_) (by omega)
    omega
  · refine abs_sub_div_le_half (fun hzero => ?_) ?_
    · omega
    · rw [← Int.natAbs_neg, Int.neg_sub]
      omega

theorem atEnd_after_between (k : Nat) :
    ((between p q).after k).atEnd = true
      ↔ ((between p q).after k).x = q.x.toNat ∧ ((between p q).after k).y = q.y.toNat := by
  obtain ⟨i, j, hafter, -⟩ := exists_after (fresh_between p q) k
  rw [hafter, atEnd, Bool.and_eq_true, decide_eq_true_eq, decide_eq_true_eq]
  rfl

/-- **Every line is a complete digital line.** -/
theorem digital_between : Digital p q (between p q).moves (between p q).after := by
  have h := fresh_between p q
  have harrives : ∀ k ≤ (between p q).moves,
      ((between p q).after k).atEnd = true ↔ k = (between p q).moves :=
    fun k hk => atEnd_after_iff h hk
  constructor
  · exact harrives
  · exact cell_eq (r := p) rfl rfl p.z
  · obtain ⟨hx, hy⟩ := (atEnd_after_between p q _).1 ((harrives _ (Nat.le_refl _)).2 rfl)
    exact cell_eq hx hy p.z
  · intro k hpos hk
    -- a cell is at an end only before the first move and after the last one
    obtain ⟨hx, hy⟩ := cell_words_between p q (Nat.le_of_lt hk) p.z
    constructor
    · intro hstart
      rw [hstart] at hx hy
      exact Nat.ne_of_gt hpos (eq_zero_of_start p q (Nat.le_of_lt hk) hx.symm hy.symm)
    · intro hend
      rw [hend] at hx hy
      have hlast := (harrives k (Nat.le_of_lt hk)).1
        ((atEnd_after_between p q k).2 ⟨hx.symm, hy.symm⟩)
      exact Nat.ne_of_lt hk hlast
  · intro k hk
    obtain ⟨-, -, -, -, hcolumns, -⟩ := exists_after_between p q hk
    exact hcolumns
  · intro k hk
    obtain ⟨-, -, -, -, -, hrows⟩ := exists_after_between p q hk
    exact hrows
  · exact fun k hk => cell_words_between p q hk p.z
  · intro k hk
    obtain ⟨i, j, hafter, hreached, -⟩ := exists_after_between p q (Nat.le_of_lt hk)
    obtain ⟨i', j', hmove, hcolumn, hrow, hreached'⟩ := exists_move h hreached
    obtain ⟨hcolumns, hrows⟩ := hreached'.within h hk
    rw [after, hafter, hmove]
    exact ⟨side_move h.endX h.stepX hcolumn hcolumns, side_move h.endY h.stepY hrow hrows⟩
  · exact fun k hk => offset_after_le p q hk

end

end Line

/-! ## §5. Sight lines. -/

/-- A place blocks sight just when one of the items on its tile stops projectiles. -/
theorem blocksSight_iff (m : TileMap) (p : Position) :
    m.blocksSight p = true ↔ ∃ t, m.tile? p = some t
      ∧ ∃ i ∈ t.items, (i.type m.catalogue).blockProjectile = true := by
  unfold blocksSight
  cases m.tile? p with
  | none => simp
  | some t => simp [Tile.blocksProjectile, Tile.anyItem]

/-- **Sight lines are complete digital lines.**  On every map, the line of sight from one place to another
    makes as many moves as the longer of its two sides has, and so ends on the target's column and row; no
    larger bound on the moves changes the answer.  It lies in the rectangle between the two places, so its
    cells are places of words; its moves go one place towards the target on each axis at most; and it
    stays within half a place of the ideal line along the shorter side.  Sight is clear just when no item
    that stops projectiles lies strictly between the two places, and what lies on them does not matter. -/
theorem checkSightLine_digital (m : TileMap) (p q : Position) :
    let path := (Line.between p q).after
    let n := max (p.dx q).natAbs (p.dy q).natAbs
    Line.Digital p q n path
    ∧ (m.checkSightLine p q = true ↔ ∀ k, 0 < k → k < n →
        ¬ ∃ t, m.tile? ((path k).cell p.z) = some t
          ∧ ∃ i ∈ t.items, (i.type m.catalogue).blockProjectile = true)
    ∧ (∀ fuel, n ≤ fuel → m.clearAlong p.z fuel (path 0) = m.checkSightLine p q)
    ∧ ∀ m' : TileMap,
        (∀ r, r ≠ p → r ≠ ⟨q.x, q.y, p.z⟩ → m'.blocksSight r = m.blocksSight r) →
        m'.checkSightLine p q = m.checkSightLine p q := by
  intro path n
  have hmoves : (Line.between p q).moves = n := Line.moves_between p q
  have hdigital : Line.Digital p q n path := hmoves ▸ Line.digital_between p q
  have hclear : ∀ (m : TileMap) (fuel : Nat), n ≤ fuel → (m.clearAlong p.z fuel (path 0) = true
      ↔ ∀ k, 0 < k → k < n → m.blocksSight ((path k).cell p.z) = false) :=
    fun m fuel hfuel => m.clearAlong_iff p.z hdigital.arrives hfuel
  have hsight : ∀ m : TileMap, (m.checkSightLine p q = true
      ↔ ∀ k, 0 < k → k < n → m.blocksSight ((path k).cell p.z) = false) :=
    fun m => hclear m _ (Nat.le_of_eq hmoves.symm)
  refine ⟨hdigital, ?_, fun fuel hfuel => ?_, fun m' hsame => ?_⟩
  · rw [hsight]
    simp only [← blocksSight_iff, Bool.not_eq_true]
  · rw [Bool.eq_iff_iff, hclear m fuel hfuel, hsight]
  · rw [Bool.eq_iff_iff, hsight, hsight]
    refine forall_congr' fun k => forall_congr' fun hpos => forall_congr' fun hk => ?_
    obtain ⟨hstart, hend⟩ := hdigital.between k hpos hk
    rw [hsame _ hstart hend]

/-- A wall to the east of a place. -/
def eastWall : TileMap :=
  let types : Catalogue := ⟨({} : Std.ExtTreeMap UInt16 ItemType).insert 1025
    { id := 1025, name := "wall", blockProjectile := true }⟩
  (empty types).setTile ⟨101, 100, 7⟩ { items := [.new types 1025 1] }

/-- The wall hides what is behind it, however many moves the line may make, but it does not hide itself:
    it is in sight as if it were not there. -/
theorem checkSightLine_digital_wall :
    (∀ fuel, 2 ≤ fuel →
      eastWall.clearAlong 7 fuel (Line.between ⟨100, 100, 7⟩ ⟨102, 100, 7⟩) = false)
    ∧ eastWall.checkSightLine ⟨100, 100, 7⟩ ⟨101, 100, 7⟩ = true := by
  have hhidden : eastWall.checkSightLine ⟨100, 100, 7⟩ ⟨102, 100, 7⟩ = false := by decide
  obtain ⟨-, -, hfuel, -⟩ := eastWall.checkSightLine_digital ⟨100, 100, 7⟩ ⟨102, 100, 7⟩
  obtain ⟨-, -, -, hends⟩ := (empty eastWall.catalogue).checkSightLine_digital ⟨100, 100, 7⟩
    ⟨101, 100, 7⟩
  refine ⟨fun fuel hle => (hfuel fuel hle).trans hhidden, (hends eastWall fun r _ hr => ?_).trans ?_⟩
  · have hplain : eastWall.tile? r = none := by
      show (({} : Std.ExtTreeMap Position Tile).insert ⟨101, 100, 7⟩ _)[r]? = none
      rw [Std.ExtTreeMap.getElem?_insert, if_neg fun h => hr (Std.compare_eq_iff_eq.1 h).symm]
      rfl
    rw [blocksSight, hplain]
    rfl
  · decide

end Realm.TileMap
