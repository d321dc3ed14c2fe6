/-
  Realm.Proofs.Footprint.Diagonals — diagonal footprints are reflections.

  Mirroring and flipping lose no cell and add none, whatever the shape of the grid.  Where they put the
  center is another matter: they count it back from the last row or column of the other side where they
  can.  On a square grid that is the same, so there, and on the square canvases that reflections are drawn
  on, the center is reflected with the cells.

  Main statements:
  * `movedBy_mirrored`, `movedBy_flipped` — reflections of any footprint;
  * `movedBy_mirrored_of_square`, `movedBy_flipped_of_square` — reflections of a square one;
  * `Area.withDiagonalGrid_reflects` — the footprints of a grid that points north-west.
-/
import Realm.Proofs.Footprint.Grids

namespace Realm

namespace Footprint

variable {f : Footprint} {rows cols : Nat}

/-! ## §1. Where the center goes. -/

/-- Where a reflection puts the center along a side of its own grid: counted back from the end of the
    other side when the canvas has room there, and else from the end of its own. -/
def reflectedCenter (center own other room : Nat) : Nat :=
  if center ≤ other - 1 ∧ other - 1 - center < room then other - 1 - center else own - (1 + center)

theorem reflectedCenter_lt {center own room : Nat} (other : Nat) (hcenter : center < own)
    (hroom : own ≤ room) : reflectedCenter center own other room < room := by
  unfold reflectedCenter
  split <;> omega

/-- When both sides are alike it is reflected as the cells are. -/
theorem reflectedCenter_of_square {center side room : Nat} (hcenter : center < side)
    (hroom : side ≤ room) : reflectedCenter center side side room = side - 1 - center := by
  unfold reflectedCenter
  rw [if_pos (by omega)]

theorem mirrored_eq (f : Footprint) (rows cols : Nat) : f.mirrored rows cols
    = (f.redrawn rows cols fun c => some ⟨c.row, f.cols - 1 - c.col⟩).setCenter
        ⟨f.center.row, reflectedCenter f.center.col f.cols f.rows cols⟩ := rfl

theorem flipped_eq (f : Footprint) (rows cols : Nat) : f.flipped rows cols
    = (f.redrawn rows cols fun c => some ⟨f.rows - 1 - c.row, c.col⟩).setCenter
        ⟨reflectedCenter f.center.row f.rows f.cols rows, f.center.col⟩ := rfl

/-! ## §2. Reflections. -/

/-- **Mirroring** turns columns round, and shifts them by as much as the center is off its place. -/
theorem movedBy_mirrored (hfits : f.Fits) (hrows : f.rows ≤ rows) (hcols : f.cols ≤ cols) :
    MovedBy (fun o => ((f.cols : Int) - 1 - f.center.col
        - reflectedCenter f.center.col f.cols f.rows cols - o.1, o.2)) f (f.mirrored rows cols) := by
  obtain ⟨hrow, hcol⟩ := holds_iff.1 hfits.center
  rw [mirrored_eq]
  refine movedBy_redrawn ?_ ?_ ?_
  · exact ⟨Nat.lt_of_lt_of_le hrow hrows, reflectedCenter_lt f.rows hcol hcols⟩
  · intro o o' h
    obtain ⟨hx, hy⟩ := Prod.mk.inj h
    exact Prod.ext (by omega) hy
  · intro c hc
    obtain ⟨hrow', hcol'⟩ := holds_iff.1 (hfits.cells c hc)
    refine ⟨_, rfl, ⟨by dsimp only; omega, by dsimp only; omega⟩, Prod.ext ?_ rfl⟩
    unfold offsetOf
    dsimp only
    omega

/-- **Flipping** turns rows round, and shifts them by as much as the center is off its place. -/
theorem movedBy_flipped (hfits : f.Fits) (hrows : f.rows ≤ rows) (hcols : f.cols ≤ cols) :
    MovedBy (fun o => (o.1, (f.rows : Int) - 1 - f.center.row
        - reflectedCenter f.center.row f.rows f.cols rows - o.2)) f (f.flipped rows cols) := by
  obtain ⟨hrow, hcol⟩ := holds_iff.1 hfits.center
  rw [flipped_eq]
  refine movedBy_redrawn ?_ ?_ ?_
  · exact ⟨reflectedCenter_lt f.cols hrow hrows, Nat.lt_of_lt_of_le hcol hcols⟩
  · intro o o' h
    obtain ⟨hx, hy⟩ := Prod.mk.inj h
    exact Prod.ext hx (by omega)
  · intro c hc
    obtain ⟨hrow', hcol'⟩ := holds_iff.1 (hfits.cells c hc)
    refine ⟨_, rfl, ⟨by dsimp only; omega, by dsimp only; omega⟩, Prod.ext rfl ?_⟩
    unfold offsetOf
    dsimp only
    omega

/-- On a square grid the center is mirrored with the cells. -/
theorem movedBy_mirrored_of_square (hfits : f.Fits) (hsquare : f.rows = f.cols)
    (hrows : f.rows ≤ rows) (hcols : f.cols ≤ cols) :
    MovedBy (fun o => (-o.1, o.2)) f (f.mirrored rows cols) := by
  obtain ⟨-, hcol⟩ := holds_iff.1 hfits.center
  have hmoved := movedBy_mirrored hfits hrows hcols
  rw [hsquare, reflectedCenter_of_square hcol hcols] at hmoved
  refine Eq.mp ?_ hmoved
  congr 1
  funext o
  exact Prod.ext (by dsimp only; omega) rfl

/-- On a square grid the center is flipped with the cells. -/
theorem movedBy_flipped_of_square (hfits : f.Fits) (hsquare : f.rows = f.cols)
    (hrows : f.rows ≤ rows) (hcols : f.cols ≤ cols) :
    MovedBy (fun o => (o.1, -o.2)) f (f.flipped rows cols) := by
  obtain ⟨hrow, -⟩ := holds_iff.1 hfits.center
  have hmoved := movedBy_flipped hfits hrows hcols
  rw [← hsquare, reflectedCenter_of_square hrow hrows] at hmoved
  refine Eq.mp ?_ hmoved
  congr 1
  funext o
  exact Prod.ext rfl (by dsimp only; omega)

/-! ## §3. The four diagonal footprints. -/

theorem le_side (f : Footprint) : f.rows ≤ f.side ∧ f.cols ≤ f.side := by
  unfold side
  omega

/-- The south-western footprint is a square, so the south-eastern one is its mirror image. -/
theorem movedBy_southeast (hfits : f.Fits) :
    MovedBy (fun o => (-o.1, o.2)) f.diagonal.southwest f.diagonal.southeast := by
  obtain ⟨hrows, hcols⟩ := f.le_side
  have hsouthwest : f.diagonal.southwest.rows = f.side ∧ f.diagonal.southwest.cols = f.side :=
    ⟨rows_redrawn f _ _ _, cols_redrawn f _ _ _⟩
  refine movedBy_mirrored_of_square (movedBy_flipped hfits hrows hcols).fits ?_ ?_ ?_
  · exact hsouthwest.1.trans hsouthwest.2.symm
  · exact Nat.le_of_eq hsouthwest.1
  · exact Nat.le_of_eq hsouthwest.2

/-- Moved twice. -/
theorem MovedBy.trans {g h : Footprint} {rule rule' : Int × Int → Int × Int}
    (hfirst : MovedBy rule f g) (hsecond : MovedBy rule' g h) : MovedBy (rule' ∘ rule) f h where
  fits := hsecond.fits
  size_eq := hsecond.size_eq.trans hfirst.size_eq
  offsets_eq := by rw [hsecond.offsets_eq, hfirst.offsets_eq, Finset.image_image]

end Footprint

/-! ## §4. Areas. -/

namespace Area

open Footprint

/-- **The diagonal footprints are reflections.**  A grid of any shape, with its center anywhere, is
    accepted; it is what points north-west.  All four diagonal footprints affect as many cells as it does,
    and have their centers on their grids; and the south-eastern one is the south-western one mirrored.
    If the grid is a square, then the offsets of the affected cells from the center are those of the
    north-western one with columns negated towards the north-east, with rows negated towards the
    south-west, and with both negated towards the south-east. -/
theorem withDiagonalGrid_reflects {tokens : List UInt8} {rows : Nat} (hgrid : IsGrid tokens rows)
    (a : Area) :
    ∃ (a' : Area) (northwest northeast southwest southeast : Footprint),
      a.withDiagonalGrid tokens rows = .ok a'
      ∧ Draws tokens rows (columns tokens rows) northwest
      ∧ a'.footprint? .northwest = some northwest ∧ a'.footprint? .northeast = some northeast
      ∧ a'.footprint? .southwest = some southwest ∧ a'.footprint? .southeast = some southeast
      ∧ (∀ f ∈ [northwest, northeast, southwest, southeast],
        f.size = northwest.size ∧ f.holds f.center = true)
      ∧ southeast.offsets = southwest.offsets.image (fun (dx, dy) => (-dx, dy))
      ∧ (rows = columns tokens rows →
        northeast.offsets = northwest.offsets.image (fun (dx, dy) => (-dx, dy))
        ∧ southwest.offsets = northwest.offsets.image (fun (dx, dy) => (dx, -dy))
        ∧ southeast.offsets = northwest.offsets.image (fun (dx, dy) => (-dx, -dy))) := by
  obtain ⟨f, hread, hdraws⟩ := hgrid.exists_ofTokens
  have hfits := hdraws.fits
  obtain ⟨hrows, hcols⟩ := f.le_side
  have hnortheast := movedBy_mirrored hfits hrows hcols
  have hsouthwest := movedBy_flipped hfits hrows hcols
  have hsoutheast := movedBy_southeast hfits
  refine ⟨_, f, _, _, _, a.withDiagonalGrid_of_ok hgrid.tokens_ne hread, hdraws, rfl, rfl, rfl, rfl,
    ?_, hsoutheast.offsets_eq, fun hsquare => ?_⟩
  · intro g hg
    rw [List.mem_cons, List.mem_cons, List.mem_cons, List.mem_singleton] at hg
    rcases hg with rfl | rfl | rfl | rfl
    · exact ⟨rfl, hfits.center⟩
    · exact ⟨hnortheast.size_eq, hnortheast.fits.center⟩
    · exact ⟨hsouthwest.size_eq, hsouthwest.fits.center⟩
    · exact ⟨hsoutheast.size_eq.trans hsouthwest.size_eq, hsoutheast.fits.center⟩
  · have hsquare : f.rows = f.cols := by rw [hdraws.rows_eq, hdraws.cols_eq, ← hsquare]
    have hflipped := movedBy_flipped_of_square hfits hsquare hrows hcols
    exact ⟨(movedBy_mirrored_of_square hfits hsquare hrows hcols).offsets_eq, hflipped.offsets_eq,
      (hflipped.trans hsoutheast).offsets_eq⟩

/-- A claw of two cells, one of them the center: towards the south-east it reaches the other way. -/
theorem withDiagonalGrid_reflects_claw :
    ∃ a' southeast, withDiagonalGrid {} [1, 0, 0, 3] 2 = .ok a'
      ∧ a'.footprint? .southeast = some southeast ∧ southeast.size = 2
      ∧ southeast.offsets = {(1, 1), (0, 0)} := by
  obtain ⟨a', northwest, northeast, southwest, southeast, haccepted, -, hnorthwest, -, -, hsoutheast,
    hsame, -, hsquare⟩ := @withDiagonalGrid_reflects [1, 0, 0, 3] 2 (by decide) {}
  have hoffsets : ((withDiagonalGrid {} [1, 0, 0, 3] 2).toOption.bind
      fun a => (a.footprint? .northwest).map offsets) = some {(-1, -1), (0, 0)} := by decide
  rw [haccepted] at hoffsets
  have hoffsets : (a'.footprint? .northwest).map offsets = some {(-1, -1), (0, 0)} := hoffsets
  rw [hnorthwest] at hoffsets
  have hoffsets : northwest.offsets = {(-1, -1), (0, 0)} := Option.some.inj hoffsets
  obtain ⟨-, -, hreflected⟩ := hsquare (by decide)
  refine ⟨a', southeast, haccepted, hsoutheast, ?_, ?_⟩
  · rw [(hsame southeast (by simp)).1, ← card_offsets, hoffsets]
    decide
  · rw [hreflected, hoffsets]
    decide

/-- On a grid that is no square the center need not be reflected with the cells. -/
example : ((withDiagonalGrid {} [3, 1] 1).toOption.bind fun a => (a.footprint? .northeast).map offsets)
    = some {(1, 0), (0, 0)} := by decide

end Area

end Realm
