/-
  Realm.Proofs.Condition.Refresh — conditions that are refreshed while time passes.

  Time that passes pays for all full intervals, so what a condition carries over is a part of one.  A
  refresh may shorten the interval, and leaves the time carried over as it is: then past time that was a
  part of an interval is one or several, and the next stretch of time pays for them besides its own.

  Main statements:
  * `fair_iff` — stretches of time cost what they should, unless a condition that does damage carries
    full intervals;
  * `exists_cut` — full intervals come from a refresh that shortened them, since which no time has passed;
  * `run_fair_iff` — both for every run from a condition that starts afresh.
-/
import Realm.Proofs.Condition.Advance
import Mathlib.Data.List.Induction

namespace Realm

namespace Condition

/-! ## §1. What a stretch of time should cost. -/

/-- **A fair condition:** a stretch of time costs the intervals in it and one more at most, since one may
    have begun before, and no time costs nothing. -/
structure Fair (c : Condition) : Prop where
  bounded : ∀ time : UInt32, (c.advance time).1.toInt.natAbs
    ≤ (time.toNat / c.period + 1) * c.tickDamage.toInt.natAbs
  nothing : (c.advance 0).1 = 0

section

variable {c : Condition} {time : UInt32}

theorem counted_le : c.counted time ≤ c.elapsed.toNat + time.toNat := by
  have hlasting := c.lasting_le time.toNat
  unfold counted
  rw [toNat_usable]
  omega

/-- A stretch of time completes no more than the intervals in it, with the time carried over. -/
theorem completed_le : c.completed time ≤ (c.elapsed.toNat + time.toNat) / c.period := by
  unfold completed
  split
  · exact Nat.zero_le _
  · exact Nat.div_le_div_right counted_le

/-- Settled conditions begin with a part of an interval. -/
theorem completed_le_of_settled (h : c.Settled) :
    c.completed time ≤ time.toNat / c.period + 1 := by
  rcases h with hexpired | hpart
  · exact Nat.le_trans (Nat.le_of_eq (if_pos hexpired)) (Nat.zero_le _)
  · calc c.completed time
        ≤ (c.elapsed.toNat + time.toNat) / c.period := completed_le
      _ ≤ (time.toNat + c.period) / c.period := Nat.div_le_div_right (by omega)
      _ = time.toNat / c.period + 1 := Nat.add_div_right _ c.period_pos

theorem completed_zero_of_settled (h : c.Settled) : c.completed 0 = 0 := by
  rcases h with hexpired | hpart
  · exact if_pos hexpired
  · have hnone : (c.elapsed.toNat + (0 : UInt32).toNat) / c.period = 0 := Nat.div_eq_of_lt hpart
    have hle : c.completed 0 ≤ (c.elapsed.toNat + (0 : UInt32).toNat) / c.period := completed_le
    omega

/-- Where full intervals are carried over, no time completes some. -/
theorem completed_pos_of_not_settled (h : ¬ c.Settled) : 0 < c.completed 0 := by
  obtain ⟨hlive, hfull⟩ := not_or.1 h
  have hword := c.elapsed.toNat_lt
  have hcounted : c.elapsed.toNat ≤ c.counted 0 := by
    unfold counted
    have hsize : UInt32.size = 4294967296 := rfl
    omega
  unfold completed
  rw [if_neg hlive]
  exact Nat.div_pos (Nat.le_trans (Nat.not_lt.1 hfull) hcounted) c.period_pos

/-- Completed intervals of damage cost something. -/
theorem advance_ne_zero (h : 0 < c.completed time) (hdamage : c.tickDamage ≠ 0) :
    (c.advance time).1 ≠ 0 := by
  intro hzero
  rcases Nat.lt_or_ge (c.completed time) 2147483648 with hfew | hmany
  · have hbeyond := advance_beyond hfew h
    rw [hzero] at hbeyond
    exact hdamage (Int32.toInt_inj.1 (Int.natAbs_eq_zero.1 (Nat.le_zero.1 hbeyond)))
  · have hopposite := advance_opposite hmany hdamage
    rw [hzero, Int32.toInt_zero, Int.mul_zero] at hopposite
    exact Int.lt_irrefl 0 hopposite

/-- **Fair conditions** do no damage, or have nothing left to be paid. -/
theorem fair_iff (c : Condition) : c.Fair ↔ c.tickDamage = 0 ∨ c.Settled := by
  constructor
  · intro hfair
    refine Classical.or_iff_not_imp_left.2 fun hdamage => Classical.byContradiction fun hfull => ?_
    exact advance_ne_zero (completed_pos_of_not_settled hfull) hdamage hfair.nothing
  · intro h
    have hcost : ∀ time : UInt32, (c.advance time).1.toInt.natAbs
        ≤ c.completed time * c.tickDamage.toInt.natAbs := fun time => natAbs_advance_le
    have hnothing : c.completed 0 * c.tickDamage.toInt.natAbs = 0 := by
      rcases h with hdamage | hsettled
      · rw [hdamage]
        exact Nat.mul_zero _
      · rw [completed_zero_of_settled hsettled, Nat.zero_mul]
    refine ⟨fun time => Nat.le_trans (hcost time) ?_, ?_⟩
    · rcases h with hdamage | hsettled
      · rw [hdamage]
        exact Nat.le_refl 0
      · exact Nat.mul_le_mul_right _ (completed_le_of_settled hsettled)
    · have hzero := hcost 0
      rw [hnothing] at hzero
      exact Int32.toInt_inj.1 (Int.natAbs_eq_zero.1 (Nat.le_zero.1 hzero))

end

/-! ## §2. Runs. -/

/-- What happens to a condition that someone carries. -/
inductive Step
  /-- Time passes. -/
  | passes (time : UInt32)
  /-- The condition is refreshed with another. -/
  | refreshed (d : Condition)

/-- A condition after a step. -/
def take (c : Condition) : Step → Condition
  | .passes time => (c.advance time).2
  | .refreshed d => c.merge d

/-- A condition after a run of steps.  Where overflow is checked for, a run ends before a refresh that
    would compare the strength of the lowest word; what holds of every run holds of those too. -/
def run (c : Condition) (steps : List Step) : Condition := steps.foldl take c

@[simp] theorem run_append_singleton (c : Condition) (steps : List Step) (step : Step) :
    c.run (steps ++ [step]) = (c.run steps).take step := List.foldl_append

@[simp] theorem merge_elapsed (c d : Condition) : (c.merge d).elapsed = c.elapsed := by
  unfold merge
  split <;> rfl

theorem advance_of_isExpired {c : Condition} (h : c.isExpired = true) (time : UInt32) :
    (c.advance time).2 = c := by
  unfold advance
  rw [if_pos h]

@[simp] theorem advance_period (c : Condition) (time : UInt32) :
    (c.advance time).2.period = c.period := by
  unfold advance
  split <;> rfl

/-- **Time that passes for a live condition** leaves a part of an interval. -/
theorem elapsed_advance_lt {c : Condition} (h : c.isExpired = false) (time : UInt32) :
    (c.advance time).2.elapsed.toNat < c.period := by
  have hrest := Nat.mod_lt (c.counted time) c.period_pos
  have hword := c.period_lt
  unfold advance
  rw [if_neg (Bool.eq_false_iff.1 h)]
  show (UInt32.ofNat (c.counted time % c.period)).toNat < c.period
  rw [UInt32.toNat_ofNat_of_lt' (by show _ < 4294967296; omega)]
  exact hrest

/-- **Time that passes** leaves nothing to be paid. -/
theorem settled_advance (c : Condition) (time : UInt32) : (c.advance time).2.Settled := by
  cases hexpired : c.isExpired with
  | true =>
    rw [advance_of_isExpired hexpired]
    exact .inl hexpired
  | false =>
    right
    rw [advance_period]
    exact elapsed_advance_lt hexpired time

/-- **Steps in which no time passes** for a live condition. -/
def Waits (c : Condition) : List Step → Prop
  | [] => True
  | .passes time :: steps => c.isExpired = true ∧ (c.take (.passes time)).Waits steps
  | .refreshed d :: steps => (c.take (.refreshed d)).Waits steps

theorem waits_append_singleton (c : Condition) (steps : List Step) (step : Step) :
    c.Waits (steps ++ [step])
      ↔ c.Waits steps ∧ ∀ time, step = .passes time → (c.run steps).isExpired = true := by
  induction steps generalizing c with
  | nil => cases step <;> simp [Waits, run]
  | cons first steps ih =>
    have hrun : c.run (first :: steps) = (c.take first).run steps := rfl
    cases first with
    | passes time => rw [List.cons_append, Waits, Waits, ih, hrun, and_assoc]
    | refreshed d => rw [List.cons_append, Waits, Waits, ih, hrun]

/-! ## §3. Where full intervals come from. -/

/-- **Full intervals come from a refresh.**  If a run leaves a condition with full intervals that began
    with a part of one, then some refresh shortened the interval to the time carried over, or to less, and
    since then no time has passed for the condition. -/
theorem exists_cut {c : Condition} (h : c.elapsed.toNat < c.period) (steps : List Step)
    (hfull : (c.run steps).period ≤ (c.run steps).elapsed.toNat) :
    ∃ before d later, steps = before ++ .refreshed d :: later
      ∧ (c.run before).elapsed.toNat < (c.run before).period
      ∧ ((c.run before).merge d).period ≤ (c.run before).elapsed.toNat
      ∧ ((c.run before).merge d).Waits later := by
  induction steps using List.reverseRecOn with
  | nil => exact absurd h (Nat.not_lt.2 hfull)
  | append_singleton steps step ih =>
    rw [run_append_singleton] at hfull
    -- a cut that was there before the step, and that the step does not heal
    have hlater : (c.run steps).period ≤ (c.run steps).elapsed.toNat →
        (∀ time, step = .passes time → (c.run steps).isExpired = true) →
        ∃ before d later, steps ++ [step] = before ++ .refreshed d :: later
          ∧ (c.run before).elapsed.toNat < (c.run before).period
          ∧ ((c.run before).merge d).period ≤ (c.run before).elapsed.toNat
          ∧ ((c.run before).merge d).Waits later := by
      intro hbefore hstill
      obtain ⟨before, d, later, rfl, hpart, hcut, hwaits⟩ := ih hbefore
      refine ⟨before, d, later ++ [step], by rw [List.append_assoc, List.cons_append], hpart, hcut, ?_⟩
      refine (waits_append_singleton _ later step).2 ⟨hwaits, ?_⟩
      have hrun : c.run (before ++ .refreshed d :: later) = ((c.run before).merge d).run later :=
        List.foldl_append
      rw [← hrun]
      exact hstill
    cases step with
    | passes time =>
      cases hexpired : (c.run steps).isExpired with
      | true =>
        rw [take, advance_of_isExpired hexpired] at hfull
        exact hlater hfull fun _ _ => hexpired
      | false =>
        have hrest := elapsed_advance_lt hexpired time
        rw [take, advance_period] at hfull
        omega
    | refreshed d =>
      rcases Nat.lt_or_ge (c.run steps).elapsed.toNat (c.run steps).period with hpart | hbefore
      · rw [take, merge_elapsed] at hfull
        exact ⟨steps, d, [], rfl, hpart, hfull, trivial⟩
      · exact hlater hbefore nofun

/-- **Refreshed conditions are fair, unless a refresh cuts the interval.**  Take any condition that carries
    no time over, as every new one does, and any run of time and refreshes.  The next stretch of time
    costs what it should exactly if the condition does no damage then, or has nothing left to be paid.
    Where it is not fair, some refresh shortened the interval to the time carried over, or to less, and
    since then no time has passed.  And whatever the run, a stretch of time costs no more than the time
    carried over and its own together, and leaves nothing to be paid. -/
theorem run_fair_iff (c : Condition) (h : c.elapsed = 0) (steps : List Step) :
    ((c.run steps).Fair ↔ (c.run steps).tickDamage = 0 ∨ (c.run steps).Settled)
    ∧ (¬ (c.run steps).Fair →
        ∃ before d later, steps = before ++ .refreshed d :: later
          ∧ (c.run before).elapsed.toNat < (c.run before).period
          ∧ ((c.run before).merge d).period ≤ (c.run before).elapsed.toNat
          ∧ ((c.run before).merge d).Waits later)
    ∧ ∀ time : UInt32,
        ((c.run steps).advance time).1.toInt.natAbs
          ≤ ((c.run steps).elapsed.toNat + time.toNat) / (c.run steps).period
            * (c.run steps).tickDamage.toInt.natAbs
        ∧ ((c.run steps).advance time).2.Settled := by
  have hpart : c.elapsed.toNat < c.period := by
    rw [h]
    exact c.period_pos
  refine ⟨fair_iff _, fun hunfair => exists_cut hpart steps ?_, fun time => ⟨?_, settled_advance _ time⟩⟩
  · have hunsettled := (not_or.1 (mt (fair_iff _).2 hunfair)).2
    exact Nat.not_lt.1 (not_or.1 hunsettled).2
  · exact Nat.le_trans natAbs_advance_le (Nat.mul_le_mul_right _ completed_le)

/-- A fire of two seconds, refreshed once with one of three seconds: the second that was carried over is
    still a part of an interval, and the stretches of time cost what they should. -/
theorem run_fair_iff_fire :
    let fire := (new .fire 10000).withDamage (-10) 2000
    let fanned := fire.run [.passes 1000, .refreshed ((new .fire 8000).withDamage (-12) 3000)]
    fire.elapsed = 0 ∧ fanned.Settled ∧ fanned.Fair ∧ (fanned.advance 0).1 = 0
      ∧ (fanned.advance 5000).1.toInt.natAbs ≤ (5000 / fanned.period + 1) * 12 := by
  intro fire fanned
  have hsettled : fanned.Settled := .inr (by decide)
  have hfair : fanned.Fair := (fire.run_fair_iff rfl _).1.2 (.inr hsettled)
  have hdamage : fanned.tickDamage.toInt.natAbs = 12 := by decide
  have hcost := hfair.bounded 5000
  rw [hdamage] at hcost
  exact ⟨rfl, hsettled, hfair, hfair.nothing, hcost⟩

/-- **Past time is billed again:** a fire of two seconds has burned for one of them short of a millisecond,
    when it is refreshed with one of a tenth of a second.  No time at all costs nineteen intervals then. -/
theorem refresh_bills_past_time :
    let fire := (new .fire 10000).withDamage (-10) 2000
    let fanned := fire.run [.passes 1999, .refreshed ((new .fire 5000).withDamage (-10) 100)]
    (fanned.advance 0).1 = -190 ∧ fanned.period = 100 ∧ fanned.tickDamage = -10
      ∧ ¬ (fanned.advance 0).1.toInt.natAbs ≤ (0 / fanned.period + 1) * fanned.tickDamage.toInt.natAbs := by
  decide

end Condition

end Realm
