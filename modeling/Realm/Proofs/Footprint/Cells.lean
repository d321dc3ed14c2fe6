/-
  Realm.Proofs.Footprint.Cells — the affected cells of a footprint, and how far they lie from its center.

  What a footprint does to a target depends on the offsets of its cells from its center only.  A
  footprint that is drawn anew on another canvas has the offsets that a rule makes of the old ones, as
  soon as the rule says where each cell goes and the canvas has room for it.

  Main statements:
  * `card_offsets` — there are as many offsets as affected cells;
  * `offsets_redrawn` — the offsets of a footprint that is drawn anew;
  * `movedBy_redrawn` — none of its cells is lost, and none comes in addition.
-/
import Mathlib.Data.Finset.Card
import Realm.Footprint.Area

namespace Realm

/-! ## §1. Affected cells. -/

/-- One cell comes before another: in an earlier row, or further left in the same one. -/
def Cell.Before (c d : Cell) : Prop := c.row < d.row ∨ c.row = d.row ∧ c.col < d.col

theorem Cell.compare_eq_lt_iff (c d : Cell) : compare c d = .lt ↔ c.Before d := by
  show (compare c.row d.row).then (compare c.col d.col) = .lt ↔ _
  rw [Ordering.then_eq_lt, Nat.compare_eq_lt, Nat.compare_eq_eq, Nat.compare_eq_lt]
  rfl

namespace Footprint

variable {f : Footprint} {c : Cell}

theorem mem_affected_iff : c ∈ f.affected ↔ f.affects c = true :=
  Std.ExtTreeSet.mem_toList.trans Std.ExtTreeSet.mem_iff_contains

theorem length_affected (f : Footprint) : f.affected.length = f.size := Std.ExtTreeSet.length_toList

/-- The affected cells are listed row by row. -/
theorem pairwise_affected (f : Footprint) : f.affected.Pairwise Cell.Before := by
  refine (Std.ExtTreeSet.ordered_toList (t := f.cells)).imp ?_
  intro c d
  exact (Cell.compare_eq_lt_iff c d).1

theorem nodup_affected (f : Footprint) : f.affected.Nodup := by
  refine (pairwise_affected f).imp ?_
  rintro c d hbefore rfl
  rcases hbefore with h | h <;> omega

theorem holds_iff : f.holds c = true ↔ c.row < f.rows ∧ c.col < f.cols := by
  simp only [holds, Bool.and_eq_true, decide_eq_true_eq]

/-- **A footprint fits its grid:** its affected cells and its center lie on it. -/
structure Fits (f : Footprint) : Prop where
  cells : ∀ c, f.affects c = true → f.holds c = true
  center : f.holds f.center = true

/-! ## §2. Marks. -/

@[simp] theorem rows_mark (f : Footprint) (c : Cell) : (f.mark c).rows = f.rows := by
  unfold mark
  split <;> rfl

@[simp] theorem cols_mark (f : Footprint) (c : Cell) : (f.mark c).cols = f.cols := by
  unfold mark
  split <;> rfl

@[simp] theorem center_mark (f : Footprint) (c : Cell) : (f.mark c).center = f.center := by
  unfold mark
  split <;> rfl

@[simp] theorem holds_mark (f : Footprint) (c d : Cell) : (f.mark c).holds d = f.holds d := by
  rw [holds, rows_mark, cols_mark, holds]

/-- A cell of the grid is marked, and none beside it. -/
theorem affects_mark (f : Footprint) (c d : Cell) :
    (f.mark c).affects d = true ↔ c = d ∧ f.holds d = true ∨ f.affects d = true := by
  unfold mark
  split
  · rename_i hheld
    show (f.cells.insert c).contains d = true ↔ _
    rw [Std.ExtTreeSet.contains_insert, Bool.or_eq_true, beq_iff_eq, Std.compare_eq_iff_eq]
    refine or_congr_left ⟨fun hsame => ⟨hsame, hsame ▸ hheld⟩, And.left⟩
  · rename_i hfree
    refine ⟨.inr, fun h => h.resolve_left ?_⟩
    rintro ⟨rfl, hheld⟩
    exact hfree hheld

@[simp] theorem rows_setCenter (f : Footprint) (c : Cell) : (f.setCenter c).rows = f.rows := rfl

@[simp] theorem cols_setCenter (f : Footprint) (c : Cell) : (f.setCenter c).cols = f.cols := rfl

@[simp] theorem affects_setCenter (f : Footprint) (c d : Cell) :
    (f.setCenter c).affects d = f.affects d := rfl

/-- A center on the grid is not moved there. -/
theorem center_setCenter (hheld : f.holds c = true) : (f.setCenter c).center = c := by
  obtain ⟨hrow, hcol⟩ := holds_iff.1 hheld
  have hrow : min c.row (f.rows - 1) = c.row := by omega
  have hcol : min c.col (f.cols - 1) = c.col := by omega
  show (⟨min c.row (f.rows - 1), min c.col (f.cols - 1)⟩ : Cell) = c
  rw [hrow, hcol]

/-! ## §3. Drawn anew. -/

theorem rows_foldl_mark (cells : List Cell) (f : Footprint) : (cells.foldl mark f).rows = f.rows := by
  induction cells generalizing f with
  | nil => rfl
  | cons c cells ih => rw [List.foldl_cons, ih, rows_mark]

theorem cols_foldl_mark (cells : List Cell) (f : Footprint) : (cells.foldl mark f).cols = f.cols := by
  induction cells generalizing f with
  | nil => rfl
  | cons c cells ih => rw [List.foldl_cons, ih, cols_mark]

theorem affects_foldl_mark (cells : List Cell) (f : Footprint) (d : Cell) :
    (cells.foldl mark f).affects d = true ↔ d ∈ cells ∧ f.holds d = true ∨ f.affects d = true := by
  induction cells generalizing f with
  | nil => simp
  | cons c cells ih =>
    rw [List.foldl_cons, ih, affects_mark, holds_mark, List.mem_cons, eq_comm (a := c)]
    tauto

variable (f) (rows cols : Nat) (place : Cell → Option Cell)

@[simp] theorem rows_redrawn : (f.redrawn rows cols place).rows = rows :=
  rows_foldl_mark _ (blank rows cols)

@[simp] theorem cols_redrawn : (f.redrawn rows cols place).cols = cols :=
  cols_foldl_mark _ (blank rows cols)

theorem holds_redrawn (d : Cell) :
    (f.redrawn rows cols place).holds d = true ↔ d.row < rows ∧ d.col < cols := by
  rw [holds_iff, rows_redrawn, cols_redrawn]

variable {f rows cols place} in
/-- A center on the canvas is the center of what is drawn. -/
theorem center_redrawn {center : Cell} (hcenter : center.row < rows ∧ center.col < cols) :
    ((f.redrawn rows cols place).setCenter center).center = center :=
  center_setCenter ((holds_redrawn f rows cols place center).2 hcenter)

theorem not_affects_blank (d : Cell) : ¬ (blank rows cols).affects d = true := by
  show ¬ (∅ : Std.ExtTreeSet Cell).contains d = true
  rw [Std.ExtTreeSet.contains_empty]
  exact Bool.false_ne_true

/-- **A footprint drawn anew** affects the cells of the canvas where the rule puts an affected cell. -/
theorem affects_redrawn (d : Cell) :
    (f.redrawn rows cols place).affects d = true
      ↔ (d.row < rows ∧ d.col < cols) ∧ ∃ c, f.affects c = true ∧ place c = some d := by
  unfold redrawn
  rw [affects_foldl_mark, or_iff_left (not_affects_blank rows cols d), List.mem_filterMap, holds_iff,
    and_comm]
  simp only [mem_affected_iff]
  rfl

/-! ## §4. Offsets. -/

/-- How far a cell lies from the center, in columns and rows. -/
def offsetOf (f : Footprint) (c : Cell) : Int × Int :=
  ((c.col : Int) - f.center.col, (c.row : Int) - f.center.row)

/-- The offsets of the affected cells from the center. -/
def offsets (f : Footprint) : Finset (Int × Int) := (f.affected.map f.offsetOf).toFinset

theorem offsetOf_injective : Function.Injective f.offsetOf := by
  rintro ⟨row, col⟩ ⟨row', col'⟩ h
  obtain ⟨hcol, hrow⟩ := Prod.mk.inj h
  dsimp only at hcol hrow
  obtain rfl : row = row' := by omega
  obtain rfl : col = col' := by omega
  rfl

variable {f} in
theorem mem_offsets_iff {o : Int × Int} :
    o ∈ f.offsets ↔ ∃ c, f.affects c = true ∧ f.offsetOf c = o := by
  simp only [offsets, List.mem_toFinset, List.mem_map, mem_affected_iff]

/-- **There are as many offsets as affected cells.** -/
theorem card_offsets : f.offsets.card = f.size := by
  unfold offsets
  rw [List.toFinset_card_of_nodup ((nodup_affected f).map (offsetOf_injective f)), List.length_map,
    length_affected]

variable {f rows cols place}

/-- **The offsets of a footprint that is drawn anew** about a center of its canvas, when a rule for
    offsets tells where its cells go and the canvas has room for all of them. -/
theorem offsets_redrawn {center : Cell} (hcenter : center.row < rows ∧ center.col < cols)
    {rule : Int × Int → Int × Int}
    (hplace : ∀ c, f.affects c = true → ∃ d, place c = some d ∧ (d.row < rows ∧ d.col < cols)
      ∧ ((d.col : Int) - center.col, (d.row : Int) - center.row) = rule (f.offsetOf c)) :
    ((f.redrawn rows cols place).setCenter center).offsets = f.offsets.image rule := by
  have hoffset : ∀ d, ((f.redrawn rows cols place).setCenter center).offsetOf d
      = ((d.col : Int) - center.col, (d.row : Int) - center.row) := by
    intro d
    rw [offsetOf, center_redrawn hcenter]
  ext o
  simp only [mem_offsets_iff, Finset.mem_image, affects_setCenter, affects_redrawn, hoffset]
  constructor
  · rintro ⟨d, ⟨-, c, hc, hd⟩, rfl⟩
    obtain ⟨d', hd', -, hrule⟩ := hplace c hc
    obtain rfl : d = d' := Option.some.inj (hd.symm.trans hd')
    exact ⟨f.offsetOf c, ⟨c, hc, rfl⟩, hrule.symm⟩
  · rintro ⟨_, ⟨c, hc, rfl⟩, rfl⟩
    obtain ⟨d, hd, hroom, hrule⟩ := hplace c hc
    exact ⟨d, ⟨hroom, c, hc, hd⟩, hrule⟩

/-- **A footprint is moved** by a rule for offsets: it has its cells where the rule puts them, all of them
    and no others, and they and its center lie on its grid. -/
structure MovedBy (rule : Int × Int → Int × Int) (f g : Footprint) : Prop where
  fits : g.Fits
  size_eq : g.size = f.size
  offsets_eq : g.offsets = f.offsets.image rule

/-- A rule that keeps offsets apart moves a footprint that is drawn anew by it. -/
theorem movedBy_redrawn {center : Cell} (hcenter : center.row < rows ∧ center.col < cols)
    {rule : Int × Int → Int × Int} (hrule : Function.Injective rule)
    (hplace : ∀ c, f.affects c = true → ∃ d, place c = some d ∧ (d.row < rows ∧ d.col < cols)
      ∧ ((d.col : Int) - center.col, (d.row : Int) - center.row) = rule (f.offsetOf c)) :
    MovedBy rule f ((f.redrawn rows cols place).setCenter center) where
  fits :=
    { cells := fun c hc =>
        (holds_redrawn f rows cols place c).2 ((affects_redrawn f rows cols place c).1 hc).1
      center := by
        rw [center_redrawn hcenter]
        exact (holds_redrawn f rows cols place center).2 hcenter }
  size_eq := by
    rw [← card_offsets, offsets_redrawn hcenter hplace, Finset.card_image_of_injective _ hrule,
      card_offsets]
  offsets_eq := offsets_redrawn hcenter hplace

end Footprint

end Realm
