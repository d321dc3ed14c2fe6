/-
  Realm.Proofs.Footprint.BeamTokens — the tokens of a beam, cell by cell.

  A beam is laid row by row, and carries along the last column that a row affects.  How far that has come
  is how often the spread goes into the rows before, so what stands in a cell can be said from its row and
  column alone.  No row loses more columns than there are.

  Main statements:
  * `beamRowsFrom_eq`, `beamTokens_eq` — the rows that are laid, cell by cell;
  * `affects_beamCell`, `centers_beamCell` — what the token of a cell says;
  * `isCenter_beamTokens_iff` — the one center.
-/
import Realm.Footprint.Shape
import Realm.Proofs.Footprint.Grids

namespace Realm

open Footprint

/-! ## §1. The rows that are laid. -/

namespace Shape

/-- Columns that a beam has on each side of its middle. -/
def beamWing (length spread : Nat) : Nat := length / spread

/-- The token of a cell of a beam, whose row and column are counted from zero. -/
def beamCell (length spread row col : Nat) : UInt8 :=
  if row + 1 = length ∧ col = beamWing length spread then 3
  else if row / spread ≤ col ∧ col + row / spread < 2 * beamWing length spread + 1 then 1
  else 0

/-- **A beam has its middle column and two wings.** -/
theorem beamColumns_eq (length spread : Nat) :
    beamColumns length spread = 2 * beamWing length spread + 1 := by
  unfold beamColumns beamWing
  split
  · rename_i hline
    -- nothing divided is nothing, and so is anything divided by zero
    rcases hline with rfl | rfl
    · rw [Nat.div_zero]
    · rw [Nat.zero_div]
  · rw [← Nat.div_eq_sub_mod_div, Nat.mul_comm]

/-- The token that is laid in a row that lost so many columns is that of its cell. -/
theorem beamToken_eq (length spread row col : Nat) :
    beamToken length (beamColumns length spread) (beamColumns length spread - (row / spread : Nat))
      (row + 1) (col + 1) = beamCell length spread row col := by
  rw [beamColumns_eq, beamToken, beamCell]
  generalize beamWing length spread = wing
  generalize row / spread = lost
  have hmiddle : col + 1 = (2 * wing + 1 - (2 * wing + 1) % 2) / 2 + 1 ↔ col = wing := by omega
  have hwidth : ((2 * wing + 1 : Nat) : Int) - ((2 * wing + 1 : Nat) - (lost : Int)) + 1 ≤ (col + 1 : Nat)
        ∧ ((col + 1 : Nat) : Int) ≤ (2 * wing + 1 : Nat) - (lost : Int)
      ↔ lost ≤ col ∧ col + lost < 2 * wing + 1 := by
    omega
  simp only [hmiddle, hwidth]

/-- **The rows that are laid** from any row on, when that row has lost a column on each side for each time
    that the spread went into the rows before. -/
theorem beamRowsFrom_eq (length spread left : Nat) :
    ∀ row, beamRowsFrom length (beamColumns length spread) spread left (row + 1)
        (beamColumns length spread - (row / spread : Nat))
      = (List.range' row left).flatMap fun r =>
        (List.range (2 * beamWing length spread + 1)).map (beamCell length spread r) := by
  induction left with
  | zero => intro row; rfl
  | succ left ih =>
    intro row
    have hrow : (List.range' 1 (beamColumns length spread)).map (beamToken length
          (beamColumns length spread) (beamColumns length spread - (row / spread : Nat)) (row + 1))
        = (List.range (2 * beamWing length spread + 1)).map (beamCell length spread row) := by
      rw [List.range'_eq_map_range, List.map_map, ← beamColumns_eq]
      refine List.map_congr_left fun col _ => ?_
      rw [Function.comp_apply, Nat.add_comm 1 col, beamToken_eq]
    -- one more column is lost just when the spread goes into the rows so far
    have hnext : (if 0 < spread ∧ (row + 1) % spread = 0
          then (beamColumns length spread : Int) - (row / spread : Nat) - 1
          else beamColumns length spread - (row / spread : Nat))
        = beamColumns length spread - ((row + 1) / spread : Nat) := by
      have hloses : 0 < spread ∧ (row + 1) % spread = 0 ↔ spread ∣ row + 1 :=
        ⟨fun h => Nat.dvd_of_mod_eq_zero h.2,
          fun h => ⟨Nat.pos_of_dvd_of_pos h row.succ_pos, Nat.mod_eq_zero_of_dvd h⟩⟩
      simp only [hloses, Nat.succ_div]
      split <;> omega
    rw [beamRowsFrom, hrow, hnext, ih, List.range'_succ, List.flatMap_cons]

/-- **The tokens of a beam, cell by cell.** -/
theorem beamTokens_eq (length spread : Nat) : beamTokens length spread
    = (List.range length).flatMap fun row =>
      (List.range (2 * beamWing length spread + 1)).map (beamCell length spread row) := by
  have hrows := beamRowsFrom_eq length spread length 0
  rw [Nat.zero_div, Int.natCast_zero, Int.sub_zero, ← List.range_eq_range'] at hrows
  exact hrows

theorem length_beamTokens (length spread : Nat) :
    (beamTokens length spread).length = length * (2 * beamWing length spread + 1) := by
  simp [beamTokens_eq, List.length_flatMap]

theorem beamCell_le (length spread row col : Nat) : beamCell length spread row col ≤ 3 := by
  unfold beamCell
  split
  · decide
  · split <;> decide

end Shape

/-! ## §2. The token of a cell. -/

/-- Rows of one length, one behind the other: where a place of a row is. -/
theorem getElem?_flatMap_range {α : Type} {row : Nat → List α} {cols : Nat}
    (hlength : ∀ r, (row r).length = cols) {rows r c : Nat} (hr : r < rows) (hc : c < cols) :
    ((List.range rows).flatMap row)[r * cols + c]? = (row r)[c]? := by
  induction rows with
  | zero => exact absurd hr (Nat.not_lt_zero r)
  | succ rows ih =>
    have hbefore : ((List.range rows).flatMap row).length = rows * cols := by
      simp [List.length_flatMap, hlength]
    rw [List.range_succ, List.flatMap_append, List.flatMap_singleton]
    rcases Nat.lt_succ_iff_lt_or_eq.1 hr with hr | rfl
    · -- an earlier row ends before the new one begins
      have hend : r * cols + c < rows * cols :=
        Nat.lt_of_lt_of_le (by rw [Nat.succ_mul]; omega) (Nat.mul_le_mul_right cols hr)
      rw [List.getElem?_append_left (by rw [hbefore]; exact hend), ih hr]
    · rw [List.getElem?_append_right (by rw [hbefore]; omega), hbefore, Nat.add_sub_cancel_left]

namespace Shape

variable {length spread row col : Nat}

/-- The token of each cell stands in its place. -/
theorem getElem?_beamTokens (hrow : row < length) (hcol : col < 2 * beamWing length spread + 1) :
    (beamTokens length spread)[row * (2 * beamWing length spread + 1) + col]?
      = some (beamCell length spread row col) := by
  rw [beamTokens_eq, getElem?_flatMap_range (fun r => by simp) hrow hcol]
  simp [hcol]

/-- Every token is that of a cell. -/
theorem exists_cell_of_beamTokens {i : Nat} {t : UInt8} (ht : (beamTokens length spread)[i]? = some t) :
    ∃ row col, row < length ∧ col < 2 * beamWing length spread + 1
      ∧ i = row * (2 * beamWing length spread + 1) + col ∧ t = beamCell length spread row col := by
  have hplace := (List.getElem?_eq_some_iff.1 ht).1
  rw [length_beamTokens] at hplace
  obtain ⟨hrow, hcol⟩ := cellAt_lt hplace
  obtain ⟨-, hi⟩ := (cellAt_eq_iff (Nat.succ_pos _) i _).1 rfl
  rw [← hi, getElem?_beamTokens hrow hcol, Option.some.injEq] at ht
  exact ⟨_, _, hrow, hcol, hi.symm, ht.symm⟩

/-- **No row loses more columns than there are.** -/
theorem lost_le_beamWing (spread : Nat) (hrow : row < length) : row / spread ≤ beamWing length spread :=
  Nat.div_le_div_right (Nat.le_of_lt hrow)

/-- The columns that a row of a beam reaches on each side of the middle one. -/
def beamReach (length spread row : Nat) : Nat := beamWing length spread - row / spread

/-- **From one row to the next:** one column less on each side behind every `spread` rows, and as many
    elsewhere. -/
theorem beamReach_succ (hrow : row + 1 < length) : beamReach length spread row
    = beamReach length spread (row + 1) + if spread ∣ row + 1 then 1 else 0 := by
  have hlost := lost_le_beamWing spread hrow
  unfold beamReach
  -- what is lost above the next row fits into the wing, so nothing is cut off at zero
  rw [Nat.succ_div] at hlost ⊢
  generalize row / spread = lost at hlost ⊢
  split <;> rename_i hloses
  · rw [if_pos hloses] at hlost
    omega
  · rfl

/-- **An affected cell** is as near to the middle as its row reaches. -/
theorem affects_beamCell (hrow : row < length) : tokenAffects (beamCell length spread row col) = true
    ↔ ((col : Int) - beamWing length spread).natAbs ≤ beamReach length spread row := by
  have hlost := lost_le_beamWing spread hrow
  unfold beamCell beamReach
  split
  · rename_i hmiddle
    exact iff_of_true rfl (by omega)
  · split
    · exact iff_of_true rfl (by omega)
    · exact iff_of_false (by decide) (by omega)

/-- **The center** is the middle of the last row. -/
theorem centers_beamCell : tokenCenters (beamCell length spread row col) = true
    ↔ row + 1 = length ∧ col = beamWing length spread := by
  unfold beamCell
  split
  · rename_i hmiddle
    exact iff_of_true rfl hmiddle
  · rename_i helse
    refine iff_of_false ?_ helse
    split <;> decide

end Shape

namespace Footprint

variable {length : Nat}

/-- **The tokens of a beam set one center,** in the middle of the last row. -/
theorem isCenter_beamTokens_iff (spread : Nat) (hlength : 1 ≤ length) (i : Nat) :
    IsCenter (Shape.beamTokens length spread) i
      ↔ i = (length - 1) * (2 * Shape.beamWing length spread + 1) + Shape.beamWing length spread := by
  constructor
  · rintro ⟨t, ht, hcenters⟩
    obtain ⟨row, col, -, -, rfl, rfl⟩ := Shape.exists_cell_of_beamTokens ht
    obtain ⟨rfl, rfl⟩ := Shape.centers_beamCell.1 ((tokenCenters_iff _).2 hcenters)
    rfl
  · rintro rfl
    exact ⟨_, Shape.getElem?_beamTokens (by omega) (by omega),
      (tokenCenters_iff _).1 (Shape.centers_beamCell.2 ⟨by omega, rfl⟩)⟩

end Footprint

end Realm
