/-
  Realm.Proofs.Footprint.Grids — footprints that are authored as grids of tokens.

  A grid is read token by token.  After any number of them the footprint is the one that they draw: its
  cells are those whose token says so, and its center is that of the last token that sets one.

  Main statements:
  * `Draws.layToken` — one more token;
  * `ofTokens_cases` — what reading a grid comes to, and which fault is found in what is none.
-/
import Realm.Proofs.Footprint.Cells

namespace Realm

namespace Footprint

/-! ## §1. Grids and what they draw. -/

/-- **Tokens that make a grid** of so many rows: the rows are even, and every token is known. -/
structure IsGrid (tokens : List UInt8) (rows : Nat) : Prop where
  rows_ne : rows ≠ 0
  tokens_ne : tokens ≠ []
  even : rows ∣ tokens.length
  known : ∀ t ∈ tokens, t ≤ 3

theorem isGrid_iff {tokens : List UInt8} {rows : Nat} : IsGrid tokens rows
    ↔ rows ≠ 0 ∧ tokens ≠ [] ∧ rows ∣ tokens.length ∧ ∀ t ∈ tokens, t ≤ 3 :=
  ⟨fun h => ⟨h.1, h.2, h.3, h.4⟩, fun h => ⟨h.1, h.2.1, h.2.2.1, h.2.2.2⟩⟩

instance (tokens : List UInt8) (rows : Nat) : Decidable (IsGrid tokens rows) :=
  decidable_of_iff ((rows != 0 && !tokens.isEmpty && tokens.length % rows == 0
      && tokens.all fun t => t ≤ 3) = true) <| by
    rw [isGrid_iff, Nat.dvd_iff_mod_eq_zero]
    simp [and_assoc]

/-- Columns of a grid of so many rows. -/
def columns (tokens : List UInt8) (rows : Nat) : Nat := tokens.length / rows

/-- The cell of a token, by its index, in rows of so many columns. -/
def cellAt (cols i : Nat) : Cell := ⟨i / cols, i % cols⟩

/-- Whether a token sets the center. -/
def IsCenter (tokens : List UInt8) (i : Nat) : Prop :=
  ∃ t, tokens[i]? = some t ∧ (t = 2 ∨ t = 3)

/-- **What tokens draw** on a grid, row by row: they say which cells are affected, and the last one that
    sets the center counts. -/
structure Draws (tokens : List UInt8) (rows cols : Nat) (f : Footprint) : Prop where
  rows_eq : f.rows = rows
  cols_eq : f.cols = cols
  affects_iff : ∀ c, f.affects c = true
    ↔ c.col < cols ∧ ∃ t, tokens[c.row * cols + c.col]? = some t ∧ (t = 1 ∨ t = 3)
  centered : ∀ i, IsCenter tokens i → (∀ j, IsCenter tokens j → j ≤ i) → f.center = cellAt cols i
  uncentered : (∀ i, ¬ IsCenter tokens i) → f.center = ⟨0, 0⟩
  fits : f.Fits

/-! ## §2. Laying tokens. -/

theorem cellAt_eq_iff {cols : Nat} (hcols : 0 < cols) (i : Nat) (c : Cell) :
    cellAt cols i = c ↔ c.col < cols ∧ c.row * cols + c.col = i := by
  constructor
  · rintro rfl
    refine ⟨Nat.mod_lt i hcols, ?_⟩
    show i / cols * cols + i % cols = i
    rw [Nat.mul_comm]
    exact Nat.div_add_mod i cols
  · rintro ⟨hcol, rfl⟩
    have hrow : (c.row * cols + c.col) / cols = c.row := by
      rw [Nat.mul_comm, Nat.mul_add_div hcols, Nat.div_eq_of_lt hcol, Nat.add_zero]
    have hcol : (c.row * cols + c.col) % cols = c.col := by
      rw [Nat.mul_comm, Nat.mul_add_mod, Nat.mod_eq_of_lt hcol]
    rw [cellAt, hrow, hcol]

/-- The cells of the tokens of a grid lie on it. -/
theorem cellAt_lt {rows cols i : Nat} (hi : i < rows * cols) :
    (cellAt cols i).row < rows ∧ (cellAt cols i).col < cols := by
  have hcols : 0 < cols := Nat.pos_of_ne_zero (by rintro rfl; simp at hi)
  exact ⟨(Nat.div_lt_iff_lt_mul hcols).2 hi, Nat.mod_lt i hcols⟩

section

variable (f : Footprint) (t : UInt8) (i : Nat)

@[simp] theorem rows_layToken : (layToken f (t, i)).rows = f.rows := by
  unfold layToken
  dsimp only
  split <;> split <;> simp

@[simp] theorem cols_layToken : (layToken f (t, i)).cols = f.cols := by
  unfold layToken
  dsimp only
  split <;> split <;> simp

theorem tokenAffects_iff : tokenAffects t = true ↔ t = 1 ∨ t = 3 := by
  simp only [tokenAffects, Bool.or_eq_true, beq_iff_eq]

theorem tokenCenters_iff : tokenCenters t = true ↔ t = 2 ∨ t = 3 := by
  simp only [tokenCenters, Bool.or_eq_true, beq_iff_eq]

theorem affects_layToken (d : Cell) : (layToken f (t, i)).affects d = true
    ↔ (t = 1 ∨ t = 3) ∧ cellAt f.cols i = d ∧ f.holds d = true ∨ f.affects d = true := by
  rw [← tokenAffects_iff]
  unfold layToken
  dsimp only
  have hset : ∀ g : Footprint, (if tokenCenters t then g.setCenter ⟨i / f.cols, i % f.cols⟩
      else g).affects d = g.affects d := by
    intro g
    split <;> rfl
  rw [hset]
  split
  · rename_i haffects
    rw [affects_mark, haffects]
    simp [cellAt]
  · rename_i hspares
    simp [hspares]

theorem center_layToken_of_centers (ht : t = 2 ∨ t = 3) (hi : i < f.rows * f.cols) :
    (layToken f (t, i)).center = cellAt f.cols i := by
  unfold layToken
  dsimp only
  rw [if_pos ((tokenCenters_iff t).2 ht)]
  refine center_setCenter (c := cellAt f.cols i) (holds_iff.2 ?_)
  split
  · rw [rows_mark, cols_mark]
    exact cellAt_lt hi
  · exact cellAt_lt hi

theorem center_layToken_of_not_centers (ht : ¬ (t = 2 ∨ t = 3)) :
    (layToken f (t, i)).center = f.center := by
  unfold layToken
  dsimp only
  rw [if_neg (mt (tokenCenters_iff t).1 ht)]
  split
  · exact center_mark f _
  · rfl

end

/-- What is at the places of a list with one more entry. -/
theorem getElem?_concat_eq_some_iff {α : Type} {l : List α} {a b : α} {i : Nat} :
    (l ++ [a])[i]? = some b ↔ l[i]? = some b ∨ i = l.length ∧ b = a := by
  rw [List.getElem?_append]
  by_cases hlt : i < l.length
  · rw [if_pos hlt, or_iff_left fun h => Nat.ne_of_lt hlt h.1]
  · have hbeyond : l[i]? = none := List.getElem?_eq_none (Nat.le_of_not_lt hlt)
    have hlast : i - l.length = 0 ↔ i = l.length := by omega
    rw [if_neg hlt, hbeyond, List.getElem?_singleton]
    by_cases hi : i = l.length
    · simp [hi, eq_comm]
    · simp [mt hlast.1 hi, hi]

section

variable {tokens : List UInt8} {rows cols : Nat} {f : Footprint}

theorem isCenter_concat_iff {t : UInt8} {i : Nat} : IsCenter (tokens ++ [t]) i
    ↔ IsCenter tokens i ∨ i = tokens.length ∧ (t = 2 ∨ t = 3) := by
  unfold IsCenter
  simp only [getElem?_concat_eq_some_iff]
  constructor
  · rintro ⟨u, hu | ⟨hi, rfl⟩, hcenters⟩
    · exact .inl ⟨u, hu, hcenters⟩
    · exact .inr ⟨hi, hcenters⟩
  · rintro (⟨u, hu, hcenters⟩ | ⟨hi, hcenters⟩)
    · exact ⟨u, .inl hu, hcenters⟩
    · exact ⟨t, .inr ⟨hi, rfl⟩, hcenters⟩

theorem IsCenter.lt_length {i : Nat} (h : IsCenter tokens i) : i < tokens.length := by
  obtain ⟨t, ht, -⟩ := h
  exact (List.getElem?_eq_some_iff.1 ht).1

theorem draws_blank (hrows : 0 < rows) (hcols : 0 < cols) : Draws [] rows cols (blank rows cols) where
  rows_eq := rfl
  cols_eq := rfl
  affects_iff c := iff_of_false (not_affects_blank rows cols c) (by simp)
  centered i hi := by
    obtain ⟨t, ht, -⟩ := hi
    cases ht
  uncentered _ := rfl
  fits :=
    { cells := fun c hc => absurd hc (not_affects_blank rows cols c)
      center := holds_iff.2 ⟨hrows, hcols⟩ }

/-- **One more token.** -/
theorem Draws.layToken (h : Draws tokens rows cols f) (t : UInt8)
    (hroom : tokens.length < rows * cols) :
    Draws (tokens ++ [t]) rows cols (layToken f (t, tokens.length)) := by
  obtain ⟨rfl, rfl, haffects, hcentered, huncentered, hfits⟩ := h
  have hcell := cellAt_lt hroom
  have hcols : 0 < f.cols := Nat.lt_of_le_of_lt (Nat.zero_le _) hcell.2
  constructor
  · exact rows_layToken f t _
  · exact cols_layToken f t _
  · intro c
    rw [affects_layToken, haffects]
    simp only [getElem?_concat_eq_some_iff]
    constructor
    · rintro (⟨ht, hc, -⟩ | ⟨hcol, u, hu, hmarks⟩)
      · obtain ⟨hcol, hi⟩ := (cellAt_eq_iff hcols _ c).1 hc
        exact ⟨hcol, t, .inr ⟨hi, rfl⟩, ht⟩
      · exact ⟨hcol, u, .inl hu, hmarks⟩
    · rintro ⟨hcol, u, hu | ⟨hi, rfl⟩, hmarks⟩
      · exact .inr ⟨hcol, u, hu, hmarks⟩
      · have hc := (cellAt_eq_iff hcols _ c).2 ⟨hcol, hi⟩
        exact .inl ⟨hmarks, hc, holds_iff.2 (hc ▸ hcell)⟩
  · intro i hi hlast
    by_cases ht : t = 2 ∨ t = 3
    · -- the new token is the last one of all
      rw [center_layToken_of_centers f t _ ht hroom]
      have hle := hlast tokens.length (isCenter_concat_iff.2 (.inr ⟨rfl, ht⟩))
      have hlt := hi.lt_length
      rw [List.length_append, List.length_singleton] at hlt
      obtain rfl : i = tokens.length := by omega
      rfl
    · rw [center_layToken_of_not_centers f t _ ht]
      have hearlier := (isCenter_concat_iff.1 hi).resolve_right fun h => ht h.2
      exact hcentered i hearlier fun j hj => hlast j (isCenter_concat_iff.2 (.inl hj))
  · intro hnone
    have ht : ¬ (t = 2 ∨ t = 3) := fun ht =>
      hnone tokens.length (isCenter_concat_iff.2 (.inr ⟨rfl, ht⟩))
    rw [center_layToken_of_not_centers f t _ ht]
    exact huncentered fun i hi => hnone i (isCenter_concat_iff.2 (.inl hi))
  · have hholds : ∀ c, (Footprint.layToken f (t, tokens.length)).holds c = f.holds c := by
      intro c
      rw [holds, rows_layToken, cols_layToken, holds]
    constructor
    · intro c hc
      rw [hholds]
      rcases (affects_layToken f t _ c).1 hc with ⟨-, -, hheld⟩ | hbefore
      · exact hheld
      · exact hfits.cells c hbefore
    · rw [hholds]
      by_cases ht : t = 2 ∨ t = 3
      · rw [center_layToken_of_centers f t _ ht hroom]
        exact holds_iff.2 hcell
      · rw [center_layToken_of_not_centers f t _ ht]
        exact hfits.center

/-- **All tokens,** one after the other. -/
theorem draws_foldl (tokens : List UInt8) (hroom : tokens.length ≤ rows * cols) (hrows : 0 < rows)
    (hcols : 0 < cols) :
    Draws tokens rows cols (tokens.zipIdx.foldl Footprint.layToken (blank rows cols)) := by
  induction tokens using List.reverseRecOn with
  | nil => exact draws_blank hrows hcols
  | append_singleton tokens t ih =>
    rw [List.length_append, List.length_singleton] at hroom
    rw [List.zipIdx_append, List.foldl_append]
    have hone : ([t] : List UInt8).zipIdx (0 + tokens.length) = [(t, tokens.length)] := by simp
    rw [hone, List.foldl_cons, List.foldl_nil]
    exact (ih (by omega)).layToken t (by omega)

/-! ## §3. Reading a grid. -/

theorem columns_pos (h : IsGrid tokens rows) : 0 < columns tokens rows :=
  Nat.div_pos (Nat.le_of_dvd (List.length_pos_iff.2 h.tokens_ne) h.even) (Nat.pos_of_ne_zero h.rows_ne)

theorem tokenCount_le_iff (t : UInt8) : tokenCount ≤ t ↔ ¬ t ≤ 3 := by
  have h3 : (3 : UInt8).toNat = 3 := rfl
  have h4 : tokenCount.toNat = 4 := rfl
  rw [UInt8.le_iff_toNat_le, UInt8.le_iff_toNat_le]
  omega

/-- **Reading a grid.**  A grid is read as what it draws.  In what is none, rows that are not even are
    found before a token that is not known, and of several such tokens the first one. -/
theorem ofTokens_cases (tokens : List UInt8) (rows : Nat) :
    (IsGrid tokens rows ∧ ∃ f, ofTokens tokens rows = .ok f
        ∧ Draws tokens rows (columns tokens rows) f)
    ∨ (¬ IsGrid tokens rows ∧ (rows = 0 ∨ tokens = [] ∨ ¬ rows ∣ tokens.length)
        ∧ ofTokens tokens rows = .error (.uneven tokens.length rows))
    ∨ (¬ IsGrid tokens rows ∧ ∃ t i, tokens[i]? = some t ∧ ¬ t ≤ 3
        ∧ (∀ j < i, ∀ u, tokens[j]? = some u → u ≤ 3)
        ∧ ofTokens tokens rows = .error (.unknownToken t i)) := by
  have hshape : tokens.length % rows ≠ 0 ↔ ¬ rows ∣ tokens.length :=
    not_congr (Nat.dvd_iff_mod_eq_zero).symm
  unfold ofTokens
  by_cases huneven : rows = 0 ∨ tokens = [] ∨ tokens.length % rows ≠ 0
  · rw [if_pos huneven]
    rw [hshape] at huneven
    refine .inr (.inl ⟨fun h => ?_, huneven, rfl⟩)
    rcases huneven with h' | h' | h'
    · exact h.rows_ne h'
    · exact h.tokens_ne h'
    · exact h' h.even
  · rw [if_neg huneven]
    rw [hshape, not_or, not_or, not_not] at huneven
    obtain ⟨hrows, htokens, heven⟩ := huneven
    cases hfind : tokens.zipIdx.find? fun t => tokenCount ≤ t.1 with
    | some unknown =>
      obtain ⟨t, i⟩ := unknown
      obtain ⟨hunknown, k, hk, hat, hbefore⟩ := List.find?_eq_some_iff_getElem.1 hfind
      -- what is found is the token at its own index
      rw [List.getElem_zipIdx, Prod.mk.injEq, Nat.zero_add] at hat
      obtain ⟨rfl, rfl⟩ := hat
      rw [List.length_zipIdx] at hk
      rw [decide_eq_true_eq, tokenCount_le_iff] at hunknown
      refine .inr (.inr ⟨fun h => hunknown (h.known _ (List.getElem_mem hk)), _, k,
        List.getElem?_eq_getElem hk, hunknown, fun j hj u hu => ?_, rfl⟩)
      obtain ⟨hj', rfl⟩ := List.getElem?_eq_some_iff.1 hu
      have hknown := hbefore j hj
      rw [List.getElem_zipIdx, Bool.not_eq_true', decide_eq_false_iff_not, tokenCount_le_iff,
        not_not] at hknown
      exact hknown
    | none =>
      have hgrid : IsGrid tokens rows := by
        refine ⟨hrows, htokens, heven, fun t ht => ?_⟩
        obtain ⟨i, hi, rfl⟩ := List.mem_iff_getElem.1 ht
        have hknown := List.find?_eq_none.1 hfind (tokens[i], i)
          (List.mem_zipIdx_iff_getElem?.2 (List.getElem?_eq_getElem hi))
        rw [decide_eq_true_eq, tokenCount_le_iff, not_not] at hknown
        exact hknown
      have hroom : tokens.length ≤ rows * columns tokens rows :=
        Nat.le_of_eq (Nat.mul_div_cancel' heven).symm
      exact .inl ⟨hgrid, _, rfl,
        draws_foldl tokens hroom (Nat.pos_of_ne_zero hrows) (columns_pos hgrid)⟩

/-- **A grid is read** as what it draws. -/
theorem IsGrid.exists_ofTokens (h : IsGrid tokens rows) :
    ∃ f, ofTokens tokens rows = .ok f ∧ Draws tokens rows (columns tokens rows) f := by
  rcases ofTokens_cases tokens rows with ⟨-, hread⟩ | ⟨hnone, -⟩ | ⟨hnone, -⟩
  · exact hread
  · exact absurd h hnone
  · exact absurd h hnone

end

end Footprint

/-! ## §4. Areas of grids. -/

namespace Area

variable {tokens : List UInt8} {rows : Nat} {f : Footprint}

theorem setGrid_of_ok (a : Area) (h : Footprint.ofTokens tokens rows = .ok f) :
    a.setGrid tokens rows = (.ok (), a.putCardinal f.cardinal) := by
  rw [setGrid, h]

theorem setGrid_of_error (a : Area) {e : Footprint.Fault}
    (h : Footprint.ofTokens tokens rows = .error e) : a.setGrid tokens rows = (.error e, a) := by
  rw [setGrid, h]

theorem setDiagonalGrid_of_ok (a : Area) (htokens : tokens ≠ [])
    (h : Footprint.ofTokens tokens rows = .ok f) :
    a.setDiagonalGrid tokens rows = (.ok (), a.putDiagonal f.diagonal) := by
  rw [setDiagonalGrid, if_neg htokens, h]

theorem setDiagonalGrid_of_error (a : Area) (htokens : tokens ≠ []) {e : Footprint.Fault}
    (h : Footprint.ofTokens tokens rows = .error e) :
    a.setDiagonalGrid tokens rows = (.error e, a) := by
  rw [setDiagonalGrid, if_neg htokens, h]

theorem withGrid_of_ok (a : Area) (h : Footprint.ofTokens tokens rows = .ok f) :
    a.withGrid tokens rows = .ok (a.putCardinal f.cardinal) := by
  rw [withGrid, a.setGrid_of_ok h]
  rfl

theorem withDiagonalGrid_of_ok (a : Area) (htokens : tokens ≠ [])
    (h : Footprint.ofTokens tokens rows = .ok f) :
    a.withDiagonalGrid tokens rows = .ok (a.putDiagonal f.diagonal) := by
  rw [withDiagonalGrid, a.setDiagonalGrid_of_ok htokens h]
  rfl

end Area

end Realm
