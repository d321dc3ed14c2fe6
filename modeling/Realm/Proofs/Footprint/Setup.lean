/-
  Realm.Proofs.Footprint.Setup — an area that is set up by any calls, some of which are refused.

  A call lays a grid: an authored one, or that of a beam or a disc.  If the grid is accepted, then all four
  footprints of its kind come from it, and those of the other kind stay; if not, nothing changes.  So the
  footprints of a kind are all missing, or all of the last grid of that kind that was accepted, and the
  flag says whether there are diagonal ones.

  Main statements:
  * `isGrid_beamTokens_iff`, `isGrid_discTokens` — which beams and discs are accepted;
  * `set_cases` — what one call does;
  * `Laid.set`, `laid_setAll` — what one more call, and any number of calls, come to;
  * `setup_all_or_nothing` — any calls, and one more.
-/
import Realm.Proofs.Footprint.BeamTokens

namespace Realm

open Footprint

/-! ## §1. Beams and discs as grids. -/

namespace Shape

/-- **A beam is accepted** if it has a row. -/
theorem isGrid_beamTokens_iff (length spread : Nat) :
    IsGrid (beamTokens length spread) length ↔ length ≠ 0 := by
  refine ⟨IsGrid.rows_ne, fun hlength => ⟨hlength, ?_, ?_, ?_⟩⟩
  · rw [← List.length_pos_iff, length_beamTokens]
    exact Nat.mul_pos (Nat.pos_of_ne_zero hlength) (Nat.succ_pos _)
  · rw [length_beamTokens]
    exact Nat.dvd_mul_right _ _
  · intro t ht
    rw [beamTokens_eq] at ht
    obtain ⟨row, -, ht⟩ := List.mem_flatMap.1 ht
    obtain ⟨col, -, rfl⟩ := List.mem_map.1 ht
    exact beamCell_le length spread row col

theorem ringToken_le (r ring : UInt8) : ringToken r ring ≤ 3 := by
  unfold ringToken
  split
  · decide
  · split <;> decide

theorem length_discTokens (r : UInt8) : (discTokens r).length = ringSide * ringSide := by
  have hrings : rings.length = ringSide * ringSide := by decide +kernel
  rw [discTokens, List.length_map, hrings]

/-- **Every disc is accepted.** -/
theorem isGrid_discTokens (r : UInt8) : IsGrid (discTokens r) ringSide := by
  refine ⟨by decide, ?_, ?_, ?_⟩
  · rw [← List.length_pos_iff, length_discTokens]
    decide
  · rw [length_discTokens]
    exact Nat.dvd_mul_right _ _
  · intro t ht
    obtain ⟨ring, -, rfl⟩ := List.mem_map.1 ht
    exact ringToken_le r ring

end Shape

/-! ## §2. Calls. -/

/-- A call that sets footprints up. -/
inductive Setup
  | grid (tokens : List UInt8) (rows : Nat)
  | diagonalGrid (tokens : List UInt8) (rows : Nat)
  | beam (length spread : Nat)
  | radius (r : UInt8)
deriving Repr, DecidableEq

namespace Setup

/-- The tokens that a call lays. -/
def tokens : Setup → List UInt8
  | grid tokens _ => tokens
  | diagonalGrid tokens _ => tokens
  | beam length spread => Shape.beamTokens length spread
  | radius r => Shape.discTokens r

/-- The rows that it lays them in. -/
def rows : Setup → Nat
  | grid _ rows => rows
  | diagonalGrid _ rows => rows
  | beam length _ => length
  | radius _ => Shape.ringSide

/-- Whether it is for the diagonal footprints, and not for the cardinal ones. -/
def isDiagonal : Setup → Bool
  | diagonalGrid _ _ => true
  | _ => false

/-- Whether a call lays a grid of a kind that is accepted. -/
def LaysGrid (diagonal : Bool) (s : Setup) : Prop :=
  s.isDiagonal = diagonal ∧ IsGrid s.tokens s.rows

instance (diagonal : Bool) (s : Setup) : Decidable (s.LaysGrid diagonal) :=
  inferInstanceAs (Decidable (_ ∧ _))

/-- The last of some calls that laid a grid of a kind. -/
def lastGrid (calls : List Setup) (diagonal : Bool) : Option Setup :=
  (calls.filter fun s => s.LaysGrid diagonal).getLast?

theorem lastGrid_concat (calls : List Setup) (s : Setup) (diagonal : Bool) :
    lastGrid (calls ++ [s]) diagonal
      = if s.LaysGrid diagonal then some s else lastGrid calls diagonal := by
  unfold lastGrid
  rw [List.filter_append]
  by_cases hlays : s.LaysGrid diagonal
  · have hkept : [s].filter (fun s => s.LaysGrid diagonal) = [s] := by simp [hlays]
    rw [hkept, List.getLast?_concat, if_pos hlays]
  · have hdropped : [s].filter (fun s => s.LaysGrid diagonal) = [] := by simp [hlays]
    rw [hdropped, List.append_nil, if_neg hlays]

theorem isSome_lastGrid_iff (calls : List Setup) (diagonal : Bool) :
    (lastGrid calls diagonal).isSome = true ↔ ∃ s ∈ calls, s.LaysGrid diagonal := by
  unfold lastGrid
  rw [List.getLast?_isSome, ne_eq, List.filter_eq_nil_iff]
  simp only [decide_eq_true_eq, not_forall, not_not, exists_prop]

end Setup

/-! ## §3. Directions. -/

/-- Whether a direction is diagonal. -/
def Direction.isDiagonal : Direction → Bool
  | north | east | south | west => false
  | northeast | northwest | southeast | southwest => true

/-- Diagonal directions come up only when they are asked for. -/
theorem Position.isDiagonal_facing (p target : Position) (diagonals : Bool)
    (h : (p.facing target diagonals).isDiagonal = true) : diagonals = true := by
  unfold facing at h
  dsimp only at h
  cases diagonals with
  | true => rfl
  | false =>
    rw [if_neg (by simp)] at h
    split at h
    · cases h
    · split at h
      · cases h
      · split at h <;> cases h

/-- A target on the spot is faced southwards. -/
theorem Position.facing_self (p : Position) (diagonals : Bool) : p.facing p diagonals = .south := by
  simp [facing, dx, dy]

/-- The footprint for a direction that comes from a grid. -/
def Footprint.towards (f : Footprint) : Direction → Footprint
  | .north => f.cardinal.north
  | .east => f.cardinal.east
  | .south => f.cardinal.south
  | .west => f.cardinal.west
  | .northeast => f.diagonal.northeast
  | .northwest => f.diagonal.northwest
  | .southeast => f.diagonal.southeast
  | .southwest => f.diagonal.southwest

namespace Area

/-- New cardinal footprints leave the diagonal ones alone. -/
theorem footprint?_putCardinal (a : Area) (f : Footprint) (d : Direction) :
    (a.putCardinal f.cardinal).footprint? d
      = if d.isDiagonal = false then some (f.towards d) else a.footprint? d := by
  cases d <;> simp [putCardinal, towards, Direction.isDiagonal]

/-- New diagonal footprints leave the cardinal ones alone. -/
theorem footprint?_putDiagonal (a : Area) (f : Footprint) (d : Direction) :
    (a.putDiagonal f.diagonal).footprint? d
      = if d.isDiagonal = true then some (f.towards d) else a.footprint? d := by
  cases d <;> simp [putDiagonal, towards, Direction.isDiagonal]

/-! ## §4. One call. -/

/-- Makes a call: why it is refused, if it is, and the area afterwards. -/
def set (a : Area) : Setup → Except Fault Unit × Area
  | .grid tokens rows => a.setGrid tokens rows
  | .diagonalGrid tokens rows => a.setDiagonalGrid tokens rows
  | .beam length spread => a.setBeam length spread
  | .radius r => a.setRadius r

/-- An area after any calls. -/
def setAll (a : Area) (calls : List Setup) : Area := calls.foldl (fun a s => (a.set s).2) a

theorem set_eq (a : Area) (s : Setup) : a.set s
    = if s.isDiagonal = true then a.setDiagonalGrid s.tokens s.rows
      else a.setGrid s.tokens s.rows := by
  cases s <;> rfl

/-- **What one call does.**  A grid replaces all footprints of its kind, and no other, and a diagonal one
    raises the flag; an empty diagonal grid is passed over; what is no grid is refused, and leaves the area
    as it was. -/
theorem set_cases (a : Area) (s : Setup) :
    (IsGrid s.tokens s.rows ∧ (a.set s).1 = .ok () ∧ (∃ f, ofTokens s.tokens s.rows = .ok f
        ∧ ∀ d, (a.set s).2.footprint? d
          = if d.isDiagonal = s.isDiagonal then some (f.towards d) else a.footprint? d)
        ∧ (a.set s).2.hasDiagonals = (s.isDiagonal || a.hasDiagonals))
    ∨ (¬ IsGrid s.tokens s.rows ∧ (s.isDiagonal = true ∧ s.tokens = []) ∧ a.set s = (.ok (), a))
    ∨ (¬ IsGrid s.tokens s.rows ∧ ¬ (s.isDiagonal = true ∧ s.tokens = [])
        ∧ ∃ e, ofTokens s.tokens s.rows = .error e ∧ a.set s = (.error e, a)) := by
  by_cases hgrid : IsGrid s.tokens s.rows
  · obtain ⟨f, hread, -⟩ := hgrid.exists_ofTokens
    refine .inl ⟨hgrid, ?_⟩
    cases hkind : s.isDiagonal with
    | true =>
      have hset : a.set s = (.ok (), a.putDiagonal f.diagonal) := by
        rw [set_eq, if_pos hkind, a.setDiagonalGrid_of_ok hgrid.tokens_ne hread]
      rw [hset]
      exact ⟨rfl, ⟨f, hread, a.footprint?_putDiagonal f⟩, rfl⟩
    | false =>
      have hset : a.set s = (.ok (), a.putCardinal f.cardinal) := by
        rw [set_eq, if_neg (by simp [hkind]), a.setGrid_of_ok hread]
      rw [hset]
      exact ⟨rfl, ⟨f, hread, a.footprint?_putCardinal f⟩, rfl⟩
  · obtain ⟨e, hread⟩ : ∃ e, ofTokens s.tokens s.rows = .error e := by
      rcases ofTokens_cases s.tokens s.rows with ⟨h, -⟩ | ⟨-, -, h⟩ | ⟨-, t, i, -, -, -, h⟩
      · exact absurd h hgrid
      · exact ⟨_, h⟩
      · exact ⟨_, h⟩
    by_cases hempty : s.isDiagonal = true ∧ s.tokens = []
    · refine .inr (.inl ⟨hgrid, hempty, ?_⟩)
      rw [set_eq, if_pos hempty.1, setDiagonalGrid, if_pos hempty.2]
    · refine .inr (.inr ⟨hgrid, hempty, e, hread, ?_⟩)
      rw [set_eq]
      split
      · rename_i hkind
        exact a.setDiagonalGrid_of_error (fun h => hempty ⟨hkind, h⟩) hread
      · exact a.setGrid_of_error hread

/-! ## §5. Any calls. -/

/-- **The footprints of a kind:** those that come from the grid that a call laid, or none of them. -/
def HasGrid (a : Area) (diagonal : Bool) : Option Setup → Prop
  | none => ∀ d, d.isDiagonal = diagonal → a.footprint? d = none
  | some s => ∃ f, ofTokens s.tokens s.rows = .ok f
    ∧ ∀ d, d.isDiagonal = diagonal → a.footprint? d = some (f.towards d)

theorem hasGrid_empty (diagonal : Bool) : HasGrid {} diagonal none := fun _ _ => rfl

/-- Calls that leave the footprints of a kind alone. -/
theorem HasGrid.congr {a a' : Area} {diagonal : Bool} {last : Option Setup}
    (h : a.HasGrid diagonal last)
    (hsame : ∀ d, d.isDiagonal = diagonal → a'.footprint? d = a.footprint? d) :
    a'.HasGrid diagonal last := by
  cases last with
  | none => exact fun d hd => (hsame d hd).trans (h d hd)
  | some s =>
    obtain ⟨f, hread, htowards⟩ := h
    exact ⟨f, hread, fun d hd => (hsame d hd).trans (htowards d hd)⟩

/-- **What calls have laid:** the footprints of each kind are those of the last grid of that kind that was
    accepted, and the flag is raised when one of them was diagonal. -/
structure Laid (a : Area) (calls : List Setup) : Prop where
  grid : ∀ diagonal, a.HasGrid diagonal (Setup.lastGrid calls diagonal)
  flag : a.hasDiagonals = (Setup.lastGrid calls true).isSome

/-- A call that lays no grid. -/
theorem Laid.passOver {a : Area} {calls : List Setup} (h : a.Laid calls) {s : Setup}
    (hs : ¬ IsGrid s.tokens s.rows) : a.Laid (calls ++ [s]) := by
  have hlast : ∀ diagonal, Setup.lastGrid (calls ++ [s]) diagonal = Setup.lastGrid calls diagonal :=
    fun diagonal => by rw [Setup.lastGrid_concat, if_neg fun hlays => hs hlays.2]
  constructor
  · intro diagonal
    rw [hlast]
    exact h.grid diagonal
  · rw [hlast]
    exact h.flag

/-- **One more call.** -/
theorem Laid.set {a : Area} {calls : List Setup} (h : a.Laid calls) (s : Setup) :
    (a.set s).2.Laid (calls ++ [s]) := by
  rcases set_cases a s with ⟨hgrid, -, ⟨f, hread, hset⟩, hflag⟩ | ⟨hgrid, -, hset⟩
    | ⟨hgrid, -, e, -, hset⟩
  · constructor
    · intro diagonal
      rw [Setup.lastGrid_concat]
      split
      · rename_i hlays
        refine ⟨f, hread, fun d hd => ?_⟩
        rw [hset, if_pos (hd.trans hlays.1.symm)]
      · -- the call is for the other kind
        rename_i hlays
        refine (h.grid diagonal).congr fun d hd => ?_
        rw [hset, if_neg fun hkind => hlays ⟨hkind.symm.trans hd, hgrid⟩]
    · rw [Setup.lastGrid_concat, hflag, h.flag]
      cases hkind : s.isDiagonal with
      | true =>
        rw [if_pos ⟨hkind, hgrid⟩]
        rfl
      | false =>
        rw [if_neg fun hlays => Bool.false_ne_true (hkind.symm.trans hlays.1), Bool.false_or]
  · rw [hset]
    exact h.passOver hgrid
  · rw [hset]
    exact h.passOver hgrid

/-- **Any calls** on an empty area. -/
theorem laid_setAll (calls : List Setup) : (setAll {} calls).Laid calls := by
  induction calls using List.reverseRecOn with
  | nil => exact ⟨hasGrid_empty, rfl⟩
  | append_singleton calls s ih =>
    rw [setAll, List.foldl_append]
    exact ih.set s

/-- There are footprints of a kind just when a grid of that kind was accepted. -/
theorem HasGrid.isSome_iff {a : Area} {diagonal : Bool} {last : Option Setup}
    (h : a.HasGrid diagonal last) {d : Direction} (hd : d.isDiagonal = diagonal) :
    (a.footprint? d).isSome = last.isSome := by
  cases last with
  | none =>
    rw [h d hd]
    rfl
  | some s =>
    obtain ⟨f, -, htowards⟩ := h
    rw [htowards d hd]
    rfl

/-- What is refused: what is no grid, unless it is passed over. -/
theorem isOk_set_iff (a : Area) (s : Setup) : (a.set s).1.isOk = false
    ↔ ¬ (s.isDiagonal = true ∧ s.tokens = []) ∧ ¬ IsGrid s.tokens s.rows := by
  rcases set_cases a s with ⟨hgrid, hset, -⟩ | ⟨hgrid, hempty, hset⟩ | ⟨hgrid, hempty, e, -, hset⟩
  · rw [hset]
    exact iff_of_false nofun fun h => h.2 hgrid
  · rw [hset]
    exact iff_of_false nofun fun h => h.1 hempty
  · rw [hset]
    exact iff_of_true rfl ⟨hempty, hgrid⟩

/-- **A call that is refused** leaves the area as it was. -/
theorem set_of_not_isOk {a : Area} {s : Setup} (h : (a.set s).1.isOk = false) : (a.set s).2 = a := by
  rcases set_cases a s with ⟨-, hset, -⟩ | ⟨-, -, hset⟩ | ⟨-, -, e, -, hset⟩
  · rw [hset] at h
    cases h
  · rw [hset]
  · rw [hset]

/-- Why tokens are no grid. -/
theorem not_isGrid_iff {tokens : List UInt8} {rows : Nat} : ¬ IsGrid tokens rows
    ↔ rows = 0 ∨ tokens = [] ∨ ¬ rows ∣ tokens.length ∨ ∃ t ∈ tokens, 3 < t := by
  rw [isGrid_iff, not_and_or, not_and_or, not_and_or, not_not, not_not]
  simp only [not_forall, UInt8.not_le, exists_prop]

/-- **Setting an area up is all or nothing.**  Make any calls on an empty area, and then one more.

    It is refused just when the rows are none, the tokens are none (a diagonal grid without tokens is
    passed over instead), the rows do not divide the tokens, or a token is not known; so a beam is refused
    if it has no length, and a disc never.  A call that is refused or passed over leaves the area as it
    was.

    After any calls the four cardinal footprints are all missing, or all come from the last cardinal grid
    that was accepted; and so it is with the four diagonal ones, which are there just when diagonal
    directions are faced.  So every caster has a footprint for every target just when a cardinal grid was
    accepted. -/
theorem setup_all_or_nothing (calls : List Setup) :
    let a := setAll {} calls
    (∀ s : Setup,
      ((a.set s).1.isOk = false ↔ ¬ (s.isDiagonal = true ∧ s.tokens = [])
        ∧ (s.rows = 0 ∨ s.tokens = [] ∨ ¬ s.rows ∣ s.tokens.length ∨ ∃ t ∈ s.tokens, 3 < t))
      ∧ ((a.set s).1.isOk = false → (a.set s).2 = a)
      ∧ (s.isDiagonal = true ∧ s.tokens = [] → a.set s = (.ok (), a)))
    ∧ (∀ length spread, (a.set (.beam length spread)).1.isOk = false ↔ length = 0)
    ∧ (∀ r, (a.set (.radius r)).1.isOk = true)
    ∧ a.HasGrid false (Setup.lastGrid calls false)
    ∧ a.HasGrid true (Setup.lastGrid calls true)
    ∧ (∀ d, d.isDiagonal = true → ((a.footprint? d).isSome = true ↔ a.hasDiagonals = true))
    ∧ ((∃ s ∈ calls, s.isDiagonal = false ∧ IsGrid s.tokens s.rows)
      ↔ ∀ caster target, (a.facing? caster target).isSome = true) := by
  intro a
  have hlaid := laid_setAll calls
  have hcardinal := hlaid.grid false
  have hdiagonal := hlaid.grid true
  have hflag : ∀ d, d.isDiagonal = true → (a.footprint? d).isSome = a.hasDiagonals := fun d hd =>
    (hdiagonal.isSome_iff hd).trans hlaid.flag.symm
  refine ⟨fun s => ⟨?_, fun hs => ?_, fun hempty => ?_⟩, fun length spread => ?_, fun r => ?_,
    hcardinal, hdiagonal, fun d hd => by rw [hflag d hd], ?_, ?_⟩
  · rw [isOk_set_iff, not_isGrid_iff]
  · exact set_of_not_isOk hs
  · rw [set_eq, if_pos hempty.1, setDiagonalGrid, if_pos hempty.2]
  · rw [isOk_set_iff]
    show ¬ (false = true ∧ _) ∧ ¬ IsGrid (Shape.beamTokens length spread) length ↔ _
    rw [Shape.isGrid_beamTokens_iff, not_not]
    exact and_iff_right fun h => Bool.false_ne_true h.1
  · rw [← Bool.not_eq_false, isOk_set_iff]
    exact fun h => h.2 (Shape.isGrid_discTokens r)
  · intro haccepted caster target
    have hlast := (Setup.isSome_lastGrid_iff calls false).2 haccepted
    show (a.footprint? (caster.facing target a.hasDiagonals)).isSome = true
    cases hkind : (caster.facing target a.hasDiagonals).isDiagonal with
    | false => rw [hcardinal.isSome_iff hkind, hlast]
    | true =>
      rw [hflag _ hkind]
      exact caster.isDiagonal_facing target _ hkind
  · intro hfacing
    have hsouth := hfacing ⟨0, 0, 0⟩ ⟨0, 0, 0⟩
    rw [facing?, Position.facing_self, hcardinal.isSome_iff rfl] at hsouth
    exact (Setup.isSome_lastGrid_iff calls false).1 hsouth

/-- Some calls, of which the first and the last are refused. -/
def mixedCalls : List Setup :=
  [.grid [1, 9, 3] 1, .grid [1, 1, 3] 3, .diagonalGrid [1, 0, 0, 3] 2, .beam 5 3, .grid [1, 1, 1] 2]

/-- The beam has replaced the line, the diagonal grid is still there, and every direction has a
    footprint; another refused call changes nothing, and a diagonal grid without tokens is passed over. -/
theorem setup_all_or_nothing_mixed :
    let a := setAll {} mixedCalls
    (a.set (.grid [1, 0, 1, 2] 3)).2 = a
    ∧ a.set (.diagonalGrid [] 0) = (.ok (), a)
    ∧ a.HasGrid false (some (.beam 5 3))
    ∧ a.HasGrid true (some (.diagonalGrid [1, 0, 0, 3] 2))
    ∧ ∀ caster target, (a.facing? caster target).isSome = true := by
  intro a
  obtain ⟨hcall, -, -, hcardinal, hdiagonal, -, hfacing⟩ := setup_all_or_nothing mixedCalls
  have hbeam : Setup.lastGrid mixedCalls false = some (.beam 5 3) := by decide
  have hclaw : Setup.lastGrid mixedCalls true = some (.diagonalGrid [1, 0, 0, 3] 2) := by
    decide
  rw [hbeam] at hcardinal
  rw [hclaw] at hdiagonal
  refine ⟨?_, ?_, hcardinal, hdiagonal, hfacing.1 ⟨.beam 5 3, ?_, rfl, ?_⟩⟩
  · exact (hcall (.grid [1, 0, 1, 2] 3)).2.1 ((hcall _).1.2 (by decide))
  · exact (hcall (.diagonalGrid [] 0)).2.2 ⟨rfl, rfl⟩
  · decide
  · decide

end Area

end Realm
