/-
  Realm.Proofs.Footprint.Beams — the shape of a beam.

  A beam begins with its widest row.  Behind every so many rows it loses one column on each side, and it
  ends in one row whose middle is the caster's place.  It may not lose more columns than it has: what is
  lost above a row is at most what was there in the first one.

  Main statements:
  * `Draws.isBeam` — the footprint that the tokens of a beam draw;
  * `withBeam_narrows` — an area that is set up with a beam.
-/
import Realm.Proofs.Footprint.Setup

namespace Realm

open Footprint

/-! ## §1. The footprint of a beam. -/

namespace Footprint

/-- **A beam** that points north: so many columns on each side of the middle one, rows that reach so far
    from it, and the center in the middle of the last row. -/
structure IsBeam (f : Footprint) (length wing : Nat) (reach : Nat → Nat) : Prop where
  rows_eq : f.rows = length
  cols_eq : f.cols = 2 * wing + 1
  affects_iff : ∀ c, f.affects c = true
    ↔ c.row < length ∧ ((c.col : Int) - wing).natAbs ≤ reach c.row
  center_eq : f.center = ⟨length - 1, wing⟩

variable {f : Footprint} {length wing spread : Nat} {reach : Nat → Nat}

/-- The middle column of a beam is affected in every row. -/
theorem IsBeam.affects_middle (h : f.IsBeam length wing reach) {row : Nat} (hrow : row < length) :
    f.affects ⟨row, wing⟩ = true :=
  (h.affects_iff _).2 ⟨hrow, by simp⟩

/-- The left side of a beam is the right one mirrored. -/
theorem IsBeam.affects_mirrored (h : f.IsBeam length wing reach) (row : Nat) {col : Nat}
    (hcol : col ≤ 2 * wing) : f.affects ⟨row, 2 * wing - col⟩ = f.affects ⟨row, col⟩ := by
  have hdistance : (((2 * wing - col : Nat) : Int) - wing).natAbs = ((col : Int) - wing).natAbs := by
    omega
  rw [Bool.eq_iff_iff, h.affects_iff, h.affects_iff]
  dsimp only
  rw [hdistance]

/-- **The tokens of a beam draw a beam.** -/
theorem Draws.isBeam (hlength : 1 ≤ length)
    (h : Draws (Shape.beamTokens length spread) length
      (columns (Shape.beamTokens length spread) length) f) :
    f.IsBeam length (Shape.beamWing length spread) (Shape.beamReach length spread) := by
  have hcols : columns (Shape.beamTokens length spread) length
      = 2 * Shape.beamWing length spread + 1 := by
    rw [columns, Shape.length_beamTokens, Nat.mul_div_cancel_left _ hlength]
  rw [hcols] at h
  have hone := isCenter_beamTokens_iff spread hlength
  constructor
  · exact h.rows_eq
  · exact h.cols_eq
  · intro c
    rw [h.affects_iff]
    constructor
    · rintro ⟨hcol, t, ht, haffects⟩
      -- a row behind the last one has no tokens
      have hrow : c.row < length := by
        have hplace := (List.getElem?_eq_some_iff.1 ht).1
        rw [Shape.length_beamTokens] at hplace
        exact Nat.lt_of_mul_lt_mul_right (Nat.lt_of_le_of_lt (Nat.le_add_right _ _) hplace)
      rw [Shape.getElem?_beamTokens hrow hcol, Option.some.injEq] at ht
      subst ht
      exact ⟨hrow, (Shape.affects_beamCell hrow).1 ((tokenAffects_iff _).2 haffects)⟩
    · rintro ⟨hrow, hnear⟩
      have hcol : c.col < 2 * Shape.beamWing length spread + 1 := by
        have hwing := Nat.le_trans hnear (Nat.sub_le _ _)
        omega
      exact ⟨hcol, _, Shape.getElem?_beamTokens hrow hcol,
        (tokenAffects_iff _).1 ((Shape.affects_beamCell hrow).2 hnear)⟩
  · rw [h.centered _ ((hone _).2 rfl) fun j hj => Nat.le_of_eq ((hone j).1 hj),
      cellAt_eq_iff (by omega)]
    exact ⟨by dsimp only; omega, rfl⟩

end Footprint

/-! ## §2. Areas of beams. -/

namespace Area

/-- **A beam narrows towards its caster.**  Take any beam that has a row.  On each side of its middle
    column are as many columns as the length has whole spreads, and none without a spread.

    Its tokens make up a grid, row by row: a cell is affected when it is no farther from the middle than
    its row reaches, which is one column less for each whole spread of rows above it, and of all tokens one
    sets the center, the one in the middle of the last row.

    Any area takes the beam, and then faces north with the footprint of that grid.  The reach of a row is
    never cut off at zero, and from one row to the next it is one less behind every `spread` rows, else the
    same.  So the footprint is its own mirror image, no row of it is empty, its middle column is affected
    all along, and so is its center. -/
theorem withBeam_narrows (a : Area) (length spread : Nat) (hlength : 1 ≤ length) :
    let k := if spread = 0 then 0 else length / spread
    let reach : Nat → Nat := fun row => if spread = 0 then 0 else k - row / spread
    let tokens := Shape.beamTokens length spread
    (tokens.length = length * (2 * k + 1)
      ∧ (∀ row col, row < length → col < 2 * k + 1 → ∃ t, tokens[row * (2 * k + 1) + col]? = some t
        ∧ ((t = 1 ∨ t = 3) ↔ ((col : Int) - k).natAbs ≤ reach row)
        ∧ ((t = 2 ∨ t = 3) ↔ row = length - 1 ∧ col = k))
      ∧ ∀ i, IsCenter tokens i ↔ i = (length - 1) * (2 * k + 1) + k)
    ∧ (∀ row, row < length → row / spread ≤ k)
    ∧ (∀ row, row + 1 < length → reach row = reach (row + 1) + if spread ∣ row + 1 then 1 else 0)
    ∧ ∃ a' f, a.withBeam length spread = .ok a' ∧ a'.footprint? .north = some f
      ∧ f.rows = length ∧ f.cols = 2 * k + 1
      ∧ (∀ c, f.affects c = true ↔ c.row < length ∧ ((c.col : Int) - k).natAbs ≤ reach c.row)
      ∧ (spread = 0 → ∀ c, f.affects c = true ↔ c.row < length ∧ c.col = k)
      ∧ (∀ row col, col ≤ 2 * k → f.affects ⟨row, 2 * k - col⟩ = f.affects ⟨row, col⟩)
      ∧ (∀ row, row < length → f.affects ⟨row, k⟩ = true)
      ∧ f.center = ⟨length - 1, k⟩ ∧ f.affects f.center = true := by
  intro k reach tokens
  -- without a spread nothing is divided, so both ways to say a reach agree
  have hk : k = Shape.beamWing length spread := by
    show (if spread = 0 then 0 else length / spread) = length / spread
    split
    · rename_i hzero
      rw [hzero, Nat.div_zero]
    · rfl
  have hreach : reach = Shape.beamReach length spread := by
    funext row
    show (if spread = 0 then 0 else k - row / spread) = Shape.beamReach length spread row
    rw [hk, Shape.beamReach]
    split
    · rename_i hzero
      rw [hzero, Shape.beamWing, Nat.div_zero, Nat.zero_sub]
    · rfl
  have hgrid := (Shape.isGrid_beamTokens_iff length spread).2 (by omega)
  obtain ⟨f, hread, hdraws⟩ := hgrid.exists_ofTokens
  have hbeam := hdraws.isBeam hlength
  rw [← hk, ← hreach] at hbeam
  refine ⟨⟨?_, fun row col hrow hcol => ?_, fun i => ?_⟩, fun row hrow => ?_, fun row hrow => ?_,
    ⟨_, f, a.withGrid_of_ok hread, rfl, hbeam.rows_eq, hbeam.cols_eq, hbeam.affects_iff,
      fun hzero c => ?_, fun row col hcol => hbeam.affects_mirrored row hcol,
      fun row hrow => hbeam.affects_middle hrow, hbeam.center_eq, ?_⟩⟩
  · rw [hk]
    exact Shape.length_beamTokens length spread
  · rw [hk] at hcol ⊢
    rw [hreach]
    refine ⟨_, Shape.getElem?_beamTokens hrow hcol, ?_, ?_⟩
    · rw [← tokenAffects_iff]
      exact Shape.affects_beamCell hrow
    · rw [← tokenCenters_iff, Shape.centers_beamCell]
      omega
  · rw [hk]
    exact isCenter_beamTokens_iff spread hlength i
  · rw [hk]
    exact Shape.lost_le_beamWing spread hrow
  · rw [hreach]
    exact Shape.beamReach_succ hrow
  · rw [hbeam.affects_iff, show reach c.row = 0 from if_pos hzero]
    omega
  · rw [hbeam.center_eq]
    exact hbeam.affects_middle (by omega)

/-- Five rows of three columns, of which the last two lose their sides. -/
theorem withBeam_narrows_five :
    1 ≤ 5 ∧ Shape.beamTokens 5 3 = [1, 1, 1, 1, 1, 1, 1, 1, 1, 0, 1, 0, 0, 3, 0]
    ∧ ∃ a f, Area.withBeam {} 5 3 = .ok a ∧ a.footprint? .north = some f ∧ f.rows = 5 ∧ f.cols = 3
      ∧ f.affects ⟨2, 0⟩ = true ∧ f.affects ⟨3, 0⟩ = false ∧ f.affects ⟨4, 1⟩ = true
      ∧ f.center = ⟨4, 1⟩ := by
  obtain ⟨-, -, -, a, f, hset, hfootprint, hrows, hcols, haffects, -, -, hmiddle, hcenter, -⟩ :=
    withBeam_narrows {} 5 3 (by decide)
  refine ⟨by decide, by decide, a, f, hset, hfootprint, hrows, hcols, (haffects _).2 (by decide), ?_,
    hmiddle 4 (by decide), hcenter⟩
  rw [← Bool.not_eq_true, haffects]
  decide

end Area

end Realm
