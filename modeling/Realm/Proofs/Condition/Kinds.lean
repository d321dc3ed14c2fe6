/-
  Realm.Proofs.Condition.Kinds — the conditions that a creature carries, kind by kind.

  A creature carries one condition of a kind: another one refreshes it.  A refresh takes the better half of
  either condition, so it is a join, and apart from whom it puts the blame on it does not matter which of
  the two came first.

  Main statements:
  * `Condition.joins_merge` — a refreshed condition is the join of two;
  * `Creature.kinds_addCondition` — which kinds a creature carries once one was added;
  * `Creature.addCondition_joins`, `Creature.addCondition_comm` — what becomes of the condition that is
    refreshed, and of two that are added one after the other.
-/
import Mathlib.Algebra.Order.Group.Int
import Mathlib.Data.List.Nodup
import Mathlib.Order.WithBot
import Realm.Proofs.World.Ledger

namespace Realm

namespace Condition

/-! ## §1. Refreshing. -/

/-- How long a condition lasts; one without an end outlasts all others. -/
def lifetime (c : Condition) : WithTop Int := if c.ticks < 0 then ⊤ else c.ticks.toInt

/-- Conditions whose damage has an opposite, so that its strength does not wrap around, and whose interval
    is a millisecond at least. -/
structure Proper (c : Condition) : Prop where
  damage : c.tickDamage ≠ Int32.minValue
  interval : 1 ≤ c.interval

/-- **The join** of two conditions of one kind, of which the second is the newer one. -/
structure Joins (c d e : Condition) : Prop where
  kind : e.kind = c.kind
  lifetime : e.lifetime = max c.lifetime d.lifetime
  damage : e.tickDamage.abs = max c.tickDamage.abs d.tickDamage.abs
  interval : e.interval = min c.interval d.interval
  owner : e.owner = d.owner.or c.owner

section

variable {c d : Condition}

theorem kind_merge (c d : Condition) : (c.merge d).kind = c.kind := by
  unfold merge
  split <;> rfl

/-- The longer of two lifetimes is that of the condition that outlasts the other, if one does. -/
theorem max_lifetime (c d : Condition) :
    max c.lifetime d.lifetime = if d.outlasts c then d.lifetime else c.lifetime := by
  unfold lifetime outlasts
  by_cases hc : c.ticks < 0
  · -- nothing outlasts a condition without an end
    simp [hc, Int32.not_le.2 hc]
  · by_cases hd : d.ticks < 0
    · simp [hc, hd, Int32.not_lt.1 hc]
    · rw [if_neg hc, if_neg hd, ← WithTop.coe_max]
      by_cases hlonger : c.ticks < d.ticks
      · simp [hlonger, Int32.not_lt.1 hc, (Int32.lt_iff_toInt_lt.1 hlonger).le]
      · simp [hlonger, hd, Int32.le_iff_toInt_le.1 (Int32.not_lt.1 hlonger)]

theorem lifetime_merge (hkind : c.kind = d.kind) :
    (c.merge d).lifetime = max c.lifetime d.lifetime := by
  have hticks : (c.merge d).ticks = if d.outlasts c then d.ticks else c.ticks := by
    rw [merge, if_pos hkind]
  rw [max_lifetime, lifetime, hticks]
  split <;> rfl

/-- **The stronger damage stays,** also where strength wraps around. -/
theorem damage_merge (hkind : c.kind = d.kind) :
    (c.merge d).tickDamage.abs = max c.tickDamage.abs d.tickDamage.abs := by
  have hmerged : (c.merge d).tickDamage
      = if c.tickDamage.abs < d.tickDamage.abs then d.tickDamage else c.tickDamage := by
    rw [merge, if_pos hkind]
    rfl
  rw [← Int32.toInt_inj, Vitals.toInt_max, hmerged]
  by_cases hstronger : c.tickDamage.abs < d.tickDamage.abs
  · rw [if_pos hstronger, max_eq_right (Int32.lt_iff_toInt_lt.1 hstronger).le]
  · rw [if_neg hstronger, max_eq_left (Int32.le_iff_toInt_le.1 (Int32.not_lt.1 hstronger))]

theorem interval_merge (hkind : c.kind = d.kind) (hd : 1 ≤ d.interval) :
    (c.merge d).interval = min c.interval d.interval := by
  have hkept : max d.interval 1 = d.interval := by
    show (if d.interval ≤ 1 then 1 else d.interval) = d.interval
    split
    · rename_i hle
      exact UInt32.le_antisymm hd hle
    · rfl
  rw [merge, if_pos hkind, hkept]

/-- **A refreshed condition** is the join of the two. -/
theorem joins_merge (hkind : c.kind = d.kind) (hd : 1 ≤ d.interval) : c.Joins d (c.merge d) where
  kind := kind_merge c d
  lifetime := lifetime_merge hkind
  damage := damage_merge hkind
  interval := interval_merge hkind hd
  owner := by rw [merge, if_pos hkind]

/-- Joins of two conditions, either way, differ in whom they put the blame on at most. -/
theorem Joins.comm {e e' : Condition} (h : c.Joins d e) (h' : d.Joins c e') :
    e.lifetime = e'.lifetime ∧ e.tickDamage.abs = e'.tickDamage.abs ∧ e.interval = e'.interval := by
  have hdamage : max c.tickDamage.abs d.tickDamage.abs = max d.tickDamage.abs c.tickDamage.abs := by
    rw [← Int32.toInt_inj, Vitals.toInt_max, Vitals.toInt_max, max_comm]
  rw [h.lifetime, h'.lifetime, h.damage, h'.damage, h.interval, h'.interval]
  exact ⟨max_comm _ _, hdamage, Std.Commutative.comm _ _⟩

end

end Condition

namespace Creature

/-! ## §2. Kinds. -/

/-- The kinds of conditions that a creature carries. -/
def kinds (t : Creature) : List ConditionKind := t.conditions.map Condition.kind

theorem hasCondition_eq (t : Creature) (k : ConditionKind) :
    t.hasCondition k = decide (k ∈ t.kinds) := by
  rw [Bool.eq_iff_iff, decide_eq_true_eq, hasCondition, kinds, List.any_eq_true, List.mem_map]
  simp only [decide_eq_true_eq]

section

variable {ds before after : List Condition} {c d : Condition}

/-- A condition of a new kind goes to the end. -/
theorem addTo_of_new (h : ∀ c ∈ ds, c.kind ≠ d.kind) : addTo ds d = ds ++ [d] := by
  induction ds with
  | nil => rfl
  | cons c ds ih =>
    obtain ⟨hhead, htail⟩ := List.forall_mem_cons.1 h
    rw [addTo, if_neg hhead, ih htail, List.cons_append]

/-- A condition of a kind that is there refreshes the first of that kind. -/
theorem addTo_of_carried (hbefore : ∀ e ∈ before, e.kind ≠ d.kind) (hkind : c.kind = d.kind) :
    addTo (before ++ c :: after) d = before ++ c.merge d :: after := by
  induction before with
  | nil => exact if_pos hkind
  | cons e before ih =>
    obtain ⟨hhead, htail⟩ := List.forall_mem_cons.1 hbefore
    rw [List.cons_append, addTo, if_neg hhead, ih htail, List.cons_append]

theorem map_kind_addTo (ds : List Condition) (d : Condition) :
    (addTo ds d).map Condition.kind
      = if d.kind ∈ ds.map Condition.kind then ds.map Condition.kind
        else ds.map Condition.kind ++ [d.kind] := by
  induction ds with
  | nil => rfl
  | cons c ds ih =>
    rw [addTo, List.map_cons]
    by_cases hkind : c.kind = d.kind
    · rw [if_pos hkind, List.map_cons, Condition.kind_merge, hkind, if_pos List.mem_cons_self]
    · have hmem : d.kind ∈ c.kind :: ds.map Condition.kind ↔ d.kind ∈ ds.map Condition.kind :=
        List.mem_cons.trans (or_iff_right (Ne.symm hkind))
      rw [if_neg hkind, List.map_cons, ih]
      simp only [hmem]
      split <;> rfl

end

variable {t : Creature} {c d : Condition}

theorem addCondition_of_immune (h : t.isImmune d.kind = true) : t.addCondition d = t := by
  rw [addCondition, addCondition?, if_pos h]
  rfl

theorem addCondition_of_open (h : t.isImmune d.kind = false) :
    t.addCondition d = { t with conditions := addTo t.conditions d } := by
  rw [addCondition, addCondition?, if_neg (Bool.eq_false_iff.1 h)]
  rfl

@[simp] theorem immunities_addCondition (t : Creature) (d : Condition) :
    (t.addCondition d).immunities = t.immunities := by
  cases h : t.isImmune d.kind with
  | true => rw [addCondition_of_immune h]
  | false => rw [addCondition_of_open h]

/-- **The kinds once a condition was added:** its own comes last, unless it was there or the creature is
    immune to it. -/
theorem kinds_addCondition (t : Creature) (d : Condition) :
    (t.addCondition d).kinds
      = if t.isImmune d.kind = true ∨ d.kind ∈ t.kinds then t.kinds else t.kinds ++ [d.kind] := by
  cases h : t.isImmune d.kind with
  | true => rw [addCondition_of_immune h, if_pos (.inl rfl)]
  | false =>
    rw [addCondition_of_open h]
    simp only [Bool.false_eq_true, false_or]
    exact map_kind_addTo t.conditions d

theorem kinds_removeCondition (t : Creature) (k : ConditionKind) :
    (t.removeCondition k).kinds = t.kinds.filter (· ≠ k) := by
  rw [kinds, removeCondition, kinds, List.filter_map]
  rfl

/-! ## §3. Tidy creatures. -/

/-- **A tidy creature** carries one condition of a kind, and none that it is immune to. -/
structure Tidy (t : Creature) : Prop where
  apart : t.kinds.Nodup
  exempt : ∀ k ∈ t.kinds, t.isImmune k = false

theorem tidy_of_none (h : t.conditions = []) : t.Tidy := by
  have hkinds : t.kinds = [] := by
    rw [kinds, h]
    rfl
  refine ⟨?_, ?_⟩
  · rw [hkinds]
    exact List.nodup_nil
  · rw [hkinds]
    nofun

/-- Who loses conditions stays tidy. -/
theorem Tidy.of_sublist {t' : Creature} (h : t.Tidy) (himmunities : t'.immunities = t.immunities)
    (hkinds : t'.kinds.Sublist t.kinds) : t'.Tidy where
  apart := h.apart.sublist hkinds
  exempt k hk := by
    rw [isImmune, himmunities]
    exact h.exempt k (hkinds.subset hk)

theorem Tidy.addCondition (h : t.Tidy) (d : Condition) : (t.addCondition d).Tidy := by
  have hkinds := kinds_addCondition t d
  split at hkinds
  · exact h.of_sublist (immunities_addCondition t d) (hkinds ▸ List.Sublist.refl _)
  · -- a kind that the creature is open to, and does not carry
    rename_i hnew
    obtain ⟨hopen, hnew⟩ := not_or.1 hnew
    refine ⟨?_, fun k hk => ?_⟩
    · rw [hkinds, List.nodup_append]
      refine ⟨h.apart, List.nodup_singleton _, fun k hk k' hk' hsame => hnew ?_⟩
      rw [← List.mem_singleton.1 hk', ← hsame]
      exact hk
    · rw [isImmune, immunities_addCondition]
      rw [hkinds, List.mem_append, List.mem_singleton] at hk
      rcases hk with hk | rfl
      · exact h.exempt k hk
      · exact Bool.eq_false_iff.2 hopen

theorem Tidy.removeCondition (h : t.Tidy) (k : ConditionKind) : (t.removeCondition k).Tidy :=
  h.of_sublist rfl (kinds_removeCondition t k ▸ List.filter_sublist)

/-! ## §4. Refreshes. -/

/-- **What becomes of a condition that is refreshed:** it is joined with the new one, and all others stay
    as and where they are. -/
theorem addCondition_joins (hkinds : t.kinds.Nodup) (hc : c ∈ t.conditions) (hkind : c.kind = d.kind)
    (hopen : t.isImmune d.kind = false) (hnew : 1 ≤ d.interval) :
    ∃ before e after, t.conditions = before ++ c :: after
      ∧ (t.addCondition d).conditions = before ++ e :: after ∧ c.Joins d e := by
  obtain ⟨before, after, hsplit⟩ := List.append_of_mem hc
  have hbefore : ∀ e ∈ before, e.kind ≠ d.kind := by
    intro e he hsame
    rw [kinds, hsplit, List.map_append, List.map_cons, List.nodup_append] at hkinds
    exact hkinds.2.2 e.kind (List.mem_map_of_mem he) c.kind List.mem_cons_self (hsame.trans hkind.symm)
  refine ⟨before, c.merge d, after, hsplit, ?_, Condition.joins_merge hkind hnew⟩
  rw [addCondition_of_open hopen, hsplit]
  exact addTo_of_carried hbefore hkind

/-- **Two conditions of a new kind,** one after the other: both ways they leave a join of the two at the
    end. -/
theorem addCondition_comm (habsent : t.hasCondition c.kind = false) (hkind : c.kind = d.kind)
    (hopen : t.isImmune c.kind = false) (hc : 1 ≤ c.interval) (hd : 1 ≤ d.interval) :
    ∃ e e', ((t.addCondition c).addCondition d).conditions = t.conditions ++ [e]
      ∧ ((t.addCondition d).addCondition c).conditions = t.conditions ++ [e']
      ∧ c.Joins d e ∧ d.Joins c e' := by
  have hnew : ∀ e ∈ t.conditions, e.kind ≠ c.kind := by
    intro e he hsame
    rw [hasCondition_eq, decide_eq_false_iff_not, ← hsame] at habsent
    exact habsent (List.mem_map_of_mem he)
  -- the first of the two goes to the end, and is refreshed there
  have hboth : ∀ {c d : Condition}, (∀ e ∈ t.conditions, e.kind ≠ c.kind) → c.kind = d.kind →
      t.isImmune c.kind = false →
      ((t.addCondition c).addCondition d).conditions = t.conditions ++ [c.merge d] := by
    intro c d hnew hkind hopen
    have hadded : (t.addCondition c).conditions = t.conditions ++ [c] := by
      rw [addCondition_of_open hopen]
      exact addTo_of_new hnew
    have hstill : (t.addCondition c).isImmune d.kind = false := by
      rw [isImmune, immunities_addCondition, ← hkind]
      exact hopen
    rw [addCondition_of_open hstill, hadded]
    exact addTo_of_carried (fun e he => hkind ▸ hnew e he) hkind
  exact ⟨c.merge d, d.merge c, hboth hnew hkind hopen, hboth (hkind ▸ hnew) hkind.symm (hkind ▸ hopen),
    Condition.joins_merge hkind hd, Condition.joins_merge hkind.symm hc⟩

end Creature

end Realm
