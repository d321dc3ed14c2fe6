/-
  Realm.Proofs.Condition.Advance — what time costs whoever carries a condition.

  A condition is paid for by the interval.  What a stretch of time leaves of the last interval is carried
  over to the next stretch, so that a stretch may be cut into pieces and costs the same.  The intervals of
  a stretch are counted as an unsigned word and then read as a signed one: from 2 ^ 31 intervals on the
  cost comes out with the wrong sign.

  Main statements:
  * `advance_saturates_iff` — the cost is the damage times the intervals, cut to the range of words,
    below 2 ^ 31 intervals and no further;
  * `advanceAll_eq` — what a schedule of stretches costs and leaves, by its whole length alone;
  * `advanceAll_cut_iff` — time can be cut anywhere, unless it is cut into no pieces at all while
    intervals are still to be paid.
-/
import Realm.Condition

namespace Realm

/-! ## §1. Words. -/

/-- A whole number as a word, cut at the ends of what words hold. -/
theorem toInt_ofIntClamp (n : Int) :
    (Int32.ofIntClamp n).toInt = max (-2147483648) (min n 2147483647) := by
  -- the ends as numerals, for omega
  have hmin : Int32.minValue.toInt = -2147483648 := rfl
  have hmax : Int32.maxValue.toInt = 2147483647 := rfl
  unfold Int32.ofIntClamp
  split
  · split
    · rw [Int32.toInt_ofIntLE]
      omega
    · omega
  · omega

/-- A small unsigned word is read as the signed word of the same value. -/
theorem toInt_toInt32_of_lt {n : Nat} (h : n < 2147483648) :
    (UInt32.ofNat n).toInt32.toInt = n := by
  rw [UInt32.toInt32_ofNat', Int32.toInt_ofNat_of_lt h]

/-- A large unsigned word is read as a negative one. -/
theorem toInt_toInt32_of_le {n : Nat} (h : 2147483648 ≤ n) (hword : n < 4294967296) :
    (UInt32.ofNat n).toInt32.toInt = n - 4294967296 := by
  have hsize : (Int32.size : Int) = 4294967296 := rfl
  rw [UInt32.toInt32_ofNat', Int32.toInt_ofNat', Int.bmod_def, hsize]
  omega

/-- **A whole number cut to the range of words.** -/
def saturated (n : Int) : Int := max (-2147483648) (min n 2147483647)

/-- The whole numbers that words hold. -/
def Fits (n : Int) : Prop := -2147483648 ≤ n ∧ n ≤ 2147483647

instance (n : Int) : Decidable (Fits n) :=
  inferInstanceAs (Decidable (-2147483648 ≤ n ∧ n ≤ 2147483647))

section

variable {d n m : Int}

theorem saturated_of_fits (h : Fits n) : saturated n = n := by
  unfold saturated
  have := h.1
  have := h.2
  omega

theorem saturated_pos (h : 0 < n) : 0 < saturated n := by
  unfold saturated
  omega

theorem saturated_neg (h : n < 0) : saturated n < 0 := by
  unfold saturated
  omega

theorem natAbs_saturated_le (n : Int) : (saturated n).natAbs ≤ n.natAbs := by
  unfold saturated
  omega

/-- A word is cut by no more than a whole number beyond it. -/
theorem natAbs_le_saturated (hd : Fits d) (h : 0 ≤ d ∧ d ≤ n ∨ d ≤ 0 ∧ n ≤ d) :
    d.natAbs ≤ (saturated n).natAbs := by
  unfold saturated
  have := hd.1
  have := hd.2
  omega

/-- A cut product has the sign of the product. -/
theorem mul_saturated_nonneg (d : Int) (h : 0 ≤ n) : 0 ≤ d * saturated (d * n) := by
  have hcut : ∀ m : Int, 0 ≤ m → 0 ≤ saturated m := by
    intro m hm
    unfold saturated
    omega
  have hcut' : ∀ m : Int, m ≤ 0 → saturated m ≤ 0 := by
    intro m hm
    unfold saturated
    omega
  rcases Int.le_total 0 d with hd | hd
  · exact Int.mul_nonneg hd (hcut _ (Int.mul_nonneg hd h))
  · exact Int.mul_nonneg_of_nonpos_of_nonpos hd (hcut' _ (Int.mul_nonpos_of_nonpos_of_nonneg hd h))

/-- A product with a count lies beyond the other factor, on the same side of zero. -/
theorem mul_beyond (d : Int) (hn : 1 ≤ n) : 0 ≤ d ∧ d ≤ d * n ∨ d ≤ 0 ∧ d * n ≤ d := by
  rcases Int.le_total 0 d with hd | hd
  · have hmul := Int.mul_le_mul_of_nonneg_left hn hd
    rw [Int.mul_one] at hmul
    exact .inl ⟨hd, hmul⟩
  · have hmul := Int.mul_le_mul_of_nonpos_left hd hn
    rw [Int.mul_one] at hmul
    exact .inr ⟨hd, hmul⟩

end

namespace Condition

variable (c : Condition) (time : UInt32)

/-! ## §2. One stretch of time. -/

/-- **The intervals that a stretch of time completes.**  The time counted towards them is a word at
    most; a condition that has run out completes none. -/
def completed : Nat := if c.isExpired then 0 else c.counted time / c.period

theorem period_pos : 0 < c.period := Nat.le_max_right _ _

theorem period_lt : c.period < 4294967296 := by
  have hword := c.interval.toNat_lt
  unfold period
  omega

theorem completed_lt : c.completed time < 4294967296 := by
  have hword : UInt32.size = 4294967296 := rfl
  unfold completed counted
  split
  · decide
  · refine Nat.lt_of_le_of_lt (Nat.div_le_self _ _) ?_
    omega

theorem toInt_damageFor (n : Nat) :
    (c.damageFor n).toInt = saturated (c.tickDamage.toInt * (UInt32.ofNat n).toInt32.toInt) :=
  toInt_ofIntClamp _

/-- **The cost of a stretch of time** is that of the intervals that it completes. -/
theorem advance_change : (c.advance time).1 = c.damageFor (c.completed time) := by
  unfold advance completed
  cases c.isExpired with
  | false => rfl
  | true =>
    apply Int32.toInt_inj.1
    rw [toInt_damageFor]
    show (0 : Int) = saturated (c.tickDamage.toInt * 0)
    rw [Int.mul_zero]
    rfl

theorem fits_tickDamage : Fits c.tickDamage.toInt :=
  ⟨c.tickDamage.le_toInt, Int.le_of_lt_add_one c.tickDamage.toInt_lt⟩

section

variable {c time}

/-- Below 2 ^ 31 intervals, the cost is what it should be. -/
theorem toInt_advance_of_lt (h : c.completed time < 2147483648) :
    (c.advance time).1.toInt = saturated (c.tickDamage.toInt * c.completed time) := by
  rw [advance_change, toInt_damageFor, toInt_toInt32_of_lt h]

/-- **From 2 ^ 31 intervals on,** 2 ^ 32 are missing from their number, which is below zero. -/
theorem toInt_advance_of_le (h : 2147483648 ≤ c.completed time) :
    (c.advance time).1.toInt
      = saturated (c.tickDamage.toInt * ((c.completed time : Int) - 4294967296)) := by
  rw [advance_change, toInt_damageFor, toInt_toInt32_of_le h (c.completed_lt time)]

/-- Below 2 ^ 31 intervals, one interval costs no less than the damage, on the same side of zero. -/
theorem advance_beyond (h : c.completed time < 2147483648) (hsome : 0 < c.completed time) :
    c.tickDamage.toInt.natAbs ≤ (c.advance time).1.toInt.natAbs := by
  rw [toInt_advance_of_lt h]
  exact natAbs_le_saturated c.fits_tickDamage (mul_beyond _ (by omega))

/-- From 2 ^ 31 intervals on, damage heals and healing damages. -/
theorem advance_opposite (h : 2147483648 ≤ c.completed time) (hdamage : c.tickDamage ≠ 0) :
    c.tickDamage.toInt * (c.advance time).1.toInt < 0 := by
  have hword := c.completed_lt time
  have hread : (1 : Int) ≤ 4294967296 - (c.completed time : Int) := by omega
  have hnonzero : c.tickDamage.toInt ≠ 0 := fun hzero => hdamage (Int32.toInt_inj.1 hzero)
  have hbeyond := mul_beyond c.tickDamage.toInt hread
  have hflip : c.tickDamage.toInt * ((c.completed time : Int) - 4294967296)
      = -(c.tickDamage.toInt * (4294967296 - (c.completed time : Int))) := by
    rw [← Int.mul_neg, Int.neg_sub]
  rw [toInt_advance_of_le h, hflip]
  rcases Int.lt_or_gt_of_ne hnonzero with hneg | hpos
  · exact Int.mul_neg_of_neg_of_pos hneg (saturated_pos (by omega))
  · exact Int.mul_neg_of_pos_of_neg hpos (saturated_neg (by omega))

/-- **No stretch costs more** than the damage of all its intervals, whichever way they are read. -/
theorem natAbs_advance_le :
    (c.advance time).1.toInt.natAbs ≤ c.completed time * c.tickDamage.toInt.natAbs := by
  have hword := c.completed_lt time
  have hread : (UInt32.ofNat (c.completed time)).toInt32.toInt.natAbs ≤ c.completed time := by
    rcases Nat.lt_or_ge (c.completed time) 2147483648 with hsmall | hlarge
    · rw [toInt_toInt32_of_lt hsmall]
      omega
    · rw [toInt_toInt32_of_le hlarge hword]
      omega
  calc (c.advance time).1.toInt.natAbs
      ≤ (c.tickDamage.toInt * (UInt32.ofNat (c.completed time)).toInt32.toInt).natAbs := by
        rw [advance_change, toInt_damageFor]
        exact natAbs_saturated_le _
    _ = (UInt32.ofNat (c.completed time)).toInt32.toInt.natAbs * c.tickDamage.toInt.natAbs := by
        rw [Int.natAbs_mul, Nat.mul_comm]
    _ ≤ c.completed time * c.tickDamage.toInt.natAbs := Nat.mul_le_mul_right _ hread

end

/-- **Damage is damage below 2 ^ 31 intervals, and no further.**  Whatever the condition and the stretch of
    time: the change is the damage times the completed intervals, cut to the range of words, exactly if
    there are fewer than 2 ^ 31 of them, or no damage at all.  It is then not of the opposite sign to the
    damage, and no smaller than the damage once an interval was completed.  And from 2 ^ 31 intervals on
    it is of the opposite sign. -/
theorem advance_saturates_iff (c : Condition) (time : UInt32) :
    ((c.advance time).1.toInt = saturated (c.tickDamage.toInt * c.completed time)
      ↔ c.completed time < 2147483648 ∨ c.tickDamage = 0)
    ∧ (c.completed time < 2147483648 →
        0 ≤ c.tickDamage.toInt * (c.advance time).1.toInt
        ∧ (0 < c.completed time →
          c.tickDamage.toInt.natAbs ≤ (c.advance time).1.toInt.natAbs))
    ∧ (2147483648 ≤ c.completed time → c.tickDamage ≠ 0 →
        c.tickDamage.toInt * (c.advance time).1.toInt < 0) := by
  have hright : 0 ≤ c.tickDamage.toInt * saturated (c.tickDamage.toInt * c.completed time) :=
    mul_saturated_nonneg _ (Int.natCast_nonneg _)
  refine ⟨⟨fun hcost => ?_, fun h => ?_⟩, fun hfew => ⟨?_, advance_beyond hfew⟩, advance_opposite⟩
  · refine Classical.byContradiction fun hno => ?_
    obtain ⟨hmany, hdamage⟩ := not_or.1 hno
    -- the change would be of both signs at once
    have hwrong := advance_opposite (Nat.not_lt.1 hmany) hdamage
    rw [hcost] at hwrong
    omega
  · rcases h with hfew | hnone
    · exact toInt_advance_of_lt hfew
    · rw [advance_change, toInt_damageFor, hnone, Int32.toInt_zero, Int.zero_mul, Int.zero_mul]
  · rw [toInt_advance_of_lt hfew]
    exact hright

/-- A fire that burns every millisecond, and has no end. -/
def wildfire : Condition := (new .fire (-1)).withDamage (-10) 1

/-- Two seconds of the wildfire: two thousand intervals, and the damage of all of them. -/
theorem advance_saturates_iff_wildfire :
    wildfire.completed 2000 = 2000
      ∧ (wildfire.advance 2000).1.toInt = saturated (wildfire.tickDamage.toInt * 2000)
      ∧ 0 ≤ wildfire.tickDamage.toInt * (wildfire.advance 2000).1.toInt
      ∧ wildfire.tickDamage.toInt.natAbs ≤ (wildfire.advance 2000).1.toInt.natAbs
      ∧ wildfire.tickDamage.toInt * (wildfire.advance 4294967295).1.toInt < 0 := by
  have hfew : wildfire.completed 2000 = 2000 := by decide
  obtain ⟨hcost, hsign, -⟩ := wildfire.advance_saturates_iff 2000
  obtain ⟨-, -, hopposite⟩ := wildfire.advance_saturates_iff 4294967295
  have hcost := hcost.2 (.inl (by decide))
  obtain ⟨hright, hbeyond⟩ := hsign (by decide)
  rw [hfew] at hcost
  exact ⟨hfew, hcost, hright, hbeyond (by decide), hopposite (by decide) (by decide)⟩

/-- **Time heals:** the wildfire takes all the health that a word can tell within the first 2 ^ 31 - 1
    milliseconds, and gives back as much a millisecond later; the longest stretch of time gives ten. -/
theorem wildfire_heals :
    (wildfire.advance 2147483647).1 = -2147483648
      ∧ (wildfire.advance 2147483648).1 = 2147483647
      ∧ wildfire.completed 4294967295 = 4294967295
      ∧ (wildfire.advance 4294967295).1 = 10 := by
  decide

/-! ## §3. Conditions by the time that has passed. -/

section

variable (s t : Nat)

/-- The part of some time that a condition lasts. -/
def lasting : Nat := if c.ticks < 0 then s else min s c.ticks.toInt.toNat

/-- The lifetime that is left. -/
def ticksAfter : Int32 := if c.ticks < 0 then c.ticks else c.ticks - Int32.ofNat (c.lasting s)

/-- **The condition when some time has passed,** in one go or in many. -/
def after : Condition :=
  if c.isExpired then c
  else
    { c with
      ticks := c.ticksAfter s
      elapsed := UInt32.ofNat ((c.elapsed.toNat + c.lasting s) % c.period) }

/-- The intervals that some time completes, be it longer than a word. -/
def intervals : Nat := if c.isExpired then 0 else (c.elapsed.toNat + c.lasting s) / c.period

/-- **No interval is left to be paid:** the time carried over is less than one, or the condition has run
    out. -/
def Settled : Prop := c.isExpired = true ∨ c.elapsed.toNat < c.period

theorem isExpired_iff : c.isExpired = true ↔ c.ticks.toInt = 0 := by
  unfold isExpired
  rw [beq_iff_eq, ← Int32.toInt_inj, Int32.toInt_zero]

theorem not_endless_iff : ¬ c.ticks < 0 ↔ 0 ≤ c.ticks.toInt := by
  rw [Int32.not_lt, Int32.le_iff_toInt_le, Int32.toInt_zero]

theorem lasting_le : c.lasting s ≤ s := by
  unfold lasting
  split
  · exact Nat.le_refl s
  · exact Nat.min_le_left _ _

variable {c}

theorem lasting_of_finite (h : ¬ c.ticks < 0) : c.lasting s = min s c.ticks.toInt.toNat := if_neg h

theorem finite_of_isExpired (h : c.isExpired = true) : ¬ c.ticks < 0 := by
  have hnothing := c.isExpired_iff.1 h
  exact c.not_endless_iff.2 (by omega)

/-- What has run out lasts no longer. -/
theorem lasting_of_isExpired (h : c.isExpired = true) : c.lasting s = 0 := by
  rw [lasting_of_finite s (finite_of_isExpired h), c.isExpired_iff.1 h]
  exact Nat.min_zero s

/-- A lifetime grows shorter by the time that the condition lasts. -/
theorem toInt_ticksAfter (h : ¬ c.ticks < 0) :
    (c.ticksAfter s).toInt = c.ticks.toInt - c.lasting s := by
  have hword := c.ticks.toInt_lt
  have hlasting := lasting_of_finite s h
  have hfinite := c.not_endless_iff.1 h
  unfold ticksAfter
  rw [if_neg h, Int32.toInt_sub, Int32.toInt_ofNat_of_lt (by omega),
    Int.bmod_eq_of_le (by omega) (by omega)]

/-! ### The condition afterwards -/

theorem after_of_isExpired (h : c.isExpired = true) : c.after s = c := if_pos h

theorem after_of_live (h : c.isExpired = false) :
    c.after s =
      { c with
        ticks := c.ticksAfter s
        elapsed := UInt32.ofNat ((c.elapsed.toNat + c.lasting s) % c.period) } :=
  if_neg (Bool.eq_false_iff.1 h)

/-- What is carried over is less than an interval. -/
theorem toNat_elapsed_after (h : c.isExpired = false) :
    (c.after s).elapsed.toNat = (c.elapsed.toNat + c.lasting s) % c.period := by
  have hrest := Nat.mod_lt (c.elapsed.toNat + c.lasting s) c.period_pos
  have hword := c.period_lt
  rw [after_of_live s h, UInt32.toNat_ofNat_of_lt' (by show _ < 4294967296; omega)]

variable (c)

@[simp] theorem after_period : (c.after s).period = c.period := by
  unfold after
  split <;> rfl

@[simp] theorem after_tickDamage : (c.after s).tickDamage = c.tickDamage := by
  unfold after
  split <;> rfl

theorem after_ticks : (c.after s).ticks = c.ticksAfter s := by
  cases hexpired : c.isExpired with
  | false => rw [after_of_live s hexpired]
  | true =>
    rw [after_of_isExpired s hexpired, ← Int32.toInt_inj,
      toInt_ticksAfter s (finite_of_isExpired hexpired), lasting_of_isExpired s hexpired]
    omega

/-- **Time that passes leaves nothing to be paid.** -/
theorem settled_after : (c.after s).Settled := by
  cases hexpired : c.isExpired with
  | true =>
    rw [after_of_isExpired s hexpired]
    exact .inl hexpired
  | false =>
    right
    rw [toNat_elapsed_after s hexpired, after_period]
    exact Nat.mod_lt _ c.period_pos

variable {c}

theorem endless_after (h : c.ticks < 0) : (c.after s).ticks = c.ticks := by
  rw [after_ticks]
  exact if_pos h

theorem finite_after (h : ¬ c.ticks < 0) : ¬ (c.after s).ticks < 0 := by
  have hlasting := lasting_of_finite s h
  rw [not_endless_iff, after_ticks, toInt_ticksAfter s h]
  rw [not_endless_iff] at h
  omega

variable (c)

/-! ### Time in two pieces -/

/-- **The time that a condition lasts** adds up. -/
theorem lasting_add : c.lasting (s + t) = c.lasting s + (c.after s).lasting t := by
  by_cases hendless : c.ticks < 0
  · unfold lasting
    rw [endless_after s hendless, if_pos hendless, if_pos hendless, if_pos hendless]
  · have hleft := toInt_ticksAfter s hendless
    rw [lasting_of_finite s hendless] at hleft ⊢
    rw [lasting_of_finite _ hendless, lasting_of_finite t (finite_after s hendless), after_ticks]
    omega

/-- The lifetime that is left grows shorter piece by piece. -/
theorem ticksAfter_add : (c.after s).ticksAfter t = c.ticksAfter (s + t) := by
  by_cases hendless : c.ticks < 0
  · unfold ticksAfter
    rw [endless_after s hendless, if_pos hendless, if_pos hendless]
  · have hadd := c.lasting_add s t
    rw [← Int32.toInt_inj, toInt_ticksAfter t (finite_after s hendless), after_ticks,
      toInt_ticksAfter s hendless, toInt_ticksAfter _ hendless]
    omega

/-- **The intervals of a time** are those of its first piece, and those of the rest afterwards. -/
theorem intervals_add : c.intervals (s + t) = c.intervals s + (c.after s).intervals t := by
  cases hexpired : c.isExpired with
  | true =>
    unfold intervals
    rw [after_of_isExpired s hexpired, if_pos hexpired, if_pos hexpired, if_pos hexpired]
  | false =>
    have hlive : ¬ c.isExpired = true := Bool.eq_false_iff.1 hexpired
    have hlater : (c.after s).intervals t
        = ((c.elapsed.toNat + c.lasting s) % c.period + (c.after s).lasting t) / c.period := by
      unfold intervals
      rw [toNat_elapsed_after s hexpired, after_period]
      split
      · -- what has run out meanwhile lasts no longer, and carries less than an interval
        rename_i hended
        rw [lasting_of_isExpired t hended, Nat.add_zero,
          Nat.div_eq_of_lt (Nat.mod_lt _ c.period_pos)]
      · rfl
    have hwhole : c.elapsed.toNat + c.lasting (s + t)
        = c.period * ((c.elapsed.toNat + c.lasting s) / c.period)
          + ((c.elapsed.toNat + c.lasting s) % c.period + (c.after s).lasting t) := by
      have hsplit := Nat.div_add_mod (c.elapsed.toNat + c.lasting s) c.period
      rw [lasting_add]
      omega
    rw [hlater, intervals, intervals, if_neg hlive, if_neg hlive, hwhole,
      Nat.mul_add_div c.period_pos]

/-- **Time in two pieces** leaves the condition that the whole leaves. -/
theorem after_after : (c.after s).after t = c.after (s + t) := by
  have hticks := c.ticksAfter_add s t
  cases hexpired : c.isExpired with
  | true =>
    rw [after_of_isExpired s hexpired, after_of_isExpired t hexpired,
      after_of_isExpired _ hexpired]
  | false =>
    have helapsed : (c.elapsed.toNat + c.lasting (s + t)) % c.period
        = ((c.after s).elapsed.toNat + (c.after s).lasting t) % c.period := by
      rw [toNat_elapsed_after s hexpired, Nat.mod_add_mod, lasting_add, Nat.add_assoc]
    cases hended : (c.after s).isExpired with
    | true =>
      -- nothing is left for the second piece to change
      have hlasting : c.lasting (s + t) = c.lasting s := by
        rw [lasting_add, lasting_of_isExpired t hended, Nat.add_zero]
      rw [← after_ticks, after_of_isExpired t hended, after_ticks] at hticks
      rw [after_of_isExpired t hended, after_of_live s hexpired, after_of_live _ hexpired, hlasting,
        hticks]
    | false =>
      rw [after_of_live t hended, after_of_live (s + t) hexpired, hticks, after_period, ← helapsed,
        after_of_live s hexpired]

end

/-! ## §4. Schedules. -/

/-- **One stretch of time after the other:** the changes, and the condition afterwards. -/
def advanceAll (c : Condition) : List UInt32 → List Int32 × Condition
  | [] => ([], c)
  | time :: times =>
    let (change, c) := c.advance time
    let (changes, c) := c.advanceAll times
    (change :: changes, c)

/-- The length of a schedule. -/
def duration : List UInt32 → Nat
  | [] => 0
  | time :: times => time.toNat + duration times

/-- What changes come to. -/
def total : List Int32 → Int
  | [] => 0
  | change :: changes => change.toInt + total changes

@[simp] theorem duration_cons (time : UInt32) (times : List UInt32) :
    duration (time :: times) = time.toNat + duration times := rfl

@[simp] theorem total_cons (change : Int32) (changes : List Int32) :
    total (change :: changes) = change.toInt + total changes := rfl

theorem toNat_usable : (c.usable time).toNat = c.lasting time.toNat := by
  unfold usable
  by_cases hendless : c.ticks < 0
  · rw [if_pos hendless, lasting, if_pos hendless]
  · have hticks : c.ticks.toUInt32.toNat = c.ticks.toInt.toNat :=
      Int32.toNat_toUInt32_of_le (Int32.not_lt.1 hendless)
    rw [if_neg hendless, lasting_of_finite _ hendless, ← hticks]
    show (if time ≤ c.ticks.toUInt32 then time else c.ticks.toUInt32).toNat = _
    split
    · rename_i hshort
      exact (Nat.min_eq_left (UInt32.le_iff_toNat_le.1 hshort)).symm
    · rename_i hlong
      rw [UInt32.le_iff_toNat_le] at hlong
      omega

section

variable {c time}

/-- The time counted, as long as it is a word. -/
theorem counted_eq (hword : c.elapsed.toNat + c.lasting time.toNat < 4294967296) :
    c.counted time = c.elapsed.toNat + c.lasting time.toNat := by
  unfold counted
  rw [toNat_usable]
  exact Nat.min_eq_left (by show _ ≤ 4294967295; omega)

/-- **What a stretch of time completes,** in the closed form. -/
theorem completed_eq (hword : c.elapsed.toNat + c.lasting time.toNat < 4294967296) :
    c.completed time = c.intervals time.toNat := by
  unfold completed intervals
  rw [counted_eq hword]

/-- **What a stretch of time leaves,** in the closed form. -/
theorem advance_condition (hword : c.elapsed.toNat + c.lasting time.toNat < 4294967296) :
    (c.advance time).2 = c.after time.toNat := by
  unfold advance
  cases hexpired : c.isExpired with
  | true => exact (after_of_isExpired _ hexpired).symm
  | false =>
    have husable : (c.usable time).toInt32 = Int32.ofNat (c.lasting time.toNat) := by
      rw [← toNat_usable, ← UInt32.toInt32_ofNat', UInt32.ofNat_toNat]
    rw [after_of_live _ hexpired, ticksAfter, ← husable, ← counted_eq hword]
    rfl

theorem fits_of_le {d : Int} {m n : Nat} (h : Fits (d * n)) (hle : m ≤ n) : Fits (d * m) := by
  have hmul : 0 ≤ d * m ∧ d * m ≤ d * n ∨ d * m ≤ 0 ∧ d * n ≤ d * m := by
    have hcast : (m : Int) ≤ n := by omega
    rcases Int.le_total 0 d with hd | hd
    · exact .inl ⟨Int.mul_nonneg hd (by omega), Int.mul_le_mul_of_nonneg_left hcast hd⟩
    · exact .inr ⟨Int.mul_nonpos_of_nonpos_of_nonneg hd (by omega),
        Int.mul_le_mul_of_nonpos_left hd hcast⟩
  have hlow := h.1
  have hhigh := h.2
  exact ⟨by omega, by omega⟩

end

section

variable {c} {times : List UInt32}

theorem lasting_zero : c.lasting 0 = 0 := Nat.le_zero.1 (c.lasting_le 0)

theorem ticksAfter_zero : c.ticksAfter 0 = c.ticks := by
  by_cases hendless : c.ticks < 0
  · exact if_pos hendless
  · rw [← Int32.toInt_inj, toInt_ticksAfter 0 hendless, lasting_zero]
    exact Int.sub_zero _

/-- No time leaves a settled condition as it is. -/
theorem after_zero (h : c.Settled) : c.after 0 = c := by
  cases hexpired : c.isExpired with
  | true => exact after_of_isExpired 0 hexpired
  | false =>
    have hrest : c.elapsed.toNat < c.period := h.resolve_left (Bool.eq_false_iff.1 hexpired)
    rw [after_of_live 0 hexpired, ticksAfter_zero, lasting_zero, Nat.add_zero,
      Nat.mod_eq_of_lt hrest, UInt32.ofNat_toNat]

/-- No time completes an interval of a settled condition. -/
theorem intervals_zero (h : c.Settled) : c.intervals 0 = 0 := by
  unfold intervals
  split
  · rfl
  · rename_i hlive
    rw [lasting_zero, Nat.add_zero, Nat.div_eq_of_lt (h.resolve_left hlive)]

/-- What is carried over is no more than the time counted. -/
theorem elapsed_after_le (s : Nat) :
    (c.after s).elapsed.toNat ≤ c.elapsed.toNat + c.lasting s := by
  cases hexpired : c.isExpired with
  | true =>
    rw [after_of_isExpired s hexpired]
    exact Nat.le_add_right _ _
  | false =>
    rw [toNat_elapsed_after s hexpired]
    exact Nat.mod_le _ _

/-- **What a schedule costs and leaves,** by its length alone. -/
theorem advanceAll_eq (hcut : times ≠ [] ∨ c.Settled)
    (hword : c.elapsed.toNat + c.lasting (duration times) < 4294967296)
    (hcount : c.intervals (duration times) < 2147483648)
    (hfits : Fits (c.tickDamage.toInt * c.intervals (duration times))) :
    total (c.advanceAll times).1 = c.tickDamage.toInt * c.intervals (duration times)
      ∧ (c.advanceAll times).2 = c.after (duration times) := by
  induction times generalizing c with
  | nil =>
    have hsettled := hcut.resolve_left fun hne => hne rfl
    have hnone : duration [] = 0 := rfl
    rw [hnone, intervals_zero hsettled, after_zero hsettled]
    exact ⟨(Int.mul_zero _).symm, rfl⟩
  | cons time times ih =>
    rw [duration_cons] at hword hcount hfits ⊢
    have hlasting := c.lasting_add time.toNat (duration times)
    have hintervals := c.intervals_add time.toNat (duration times)
    have hcarried := c.elapsed_after_le time.toNat
    -- the first stretch on its own
    have hfirst : c.elapsed.toNat + c.lasting time.toNat < 4294967296 := by omega
    have hcompleted := completed_eq hfirst
    have hchange : (c.advance time).1.toInt = c.tickDamage.toInt * c.intervals time.toNat := by
      rw [toInt_advance_of_lt (by omega), hcompleted,
        saturated_of_fits (fits_of_le hfits (by omega))]
    -- the rest, from the condition that it leaves
    obtain ⟨hrest, hleft⟩ := ih (.inr (c.settled_after time.toNat)) (by omega) (by omega)
      (by rw [after_tickDamage]; exact fits_of_le hfits (by omega))
    rw [← advance_condition hfirst] at hrest hleft
    show total ((c.advance time).1 :: ((c.advance time).2.advanceAll times).1) = _
      ∧ ((c.advance time).2.advanceAll times).2 = _
    rw [total_cons, hrest, hchange, hleft, advance_condition hfirst, after_tickDamage, after_after,
      hintervals, Int.natCast_add, Int.mul_add]
    exact ⟨rfl, rfl⟩

/-- **Nothing is done in no pieces,** so a schedule without pieces leaves a condition as no time leaves it
    only if nothing is to be paid. -/
theorem settled_of_after_zero (h : c.after 0 = c) : c.Settled := by
  rw [← h]
  exact c.settled_after 0

/-- A length that fits a word together with the time carried over, as a stretch of time. -/
theorem toNat_ofNat_length {s : Nat} (hword : c.elapsed.toNat + s < 4294967296) :
    (UInt32.ofNat s).toNat = s ∧ c.elapsed.toNat + c.lasting (UInt32.ofNat s).toNat < 4294967296 := by
  have hs : (UInt32.ofNat s).toNat = s := UInt32.toNat_ofNat_of_lt' (by show s < 4294967296; omega)
  have hlasting := c.lasting_le s
  rw [hs]
  exact ⟨rfl, by omega⟩

/-- **One stretch** of a given length, in the closed form. -/
theorem advance_ofNat {s : Nat} (hword : c.elapsed.toNat + s < 4294967296)
    (hcount : c.intervals s < 2147483648) (hfits : Fits (c.tickDamage.toInt * c.intervals s)) :
    (c.advance (.ofNat s)).1.toInt = c.tickDamage.toInt * c.intervals s
      ∧ (c.advance (.ofNat s)).2 = c.after s := by
  obtain ⟨hs, hshort⟩ := toNat_ofNat_length hword
  have hcompleted := completed_eq hshort
  have hleft := advance_condition hshort
  rw [hs] at hcompleted hleft
  refine ⟨?_, hleft⟩
  rw [toInt_advance_of_lt (by omega), hcompleted, saturated_of_fits hfits]

/-- **The whole life of a condition** that starts afresh. -/
theorem advanceAll_of_fresh (hfresh : c.elapsed = 0) (hfinite : 0 ≤ c.ticks)
    (hend : c.ticks.toInt ≤ duration times)
    (hfits : Fits (c.tickDamage.toInt * (c.ticks.toInt / c.period))) :
    total (c.advanceAll times).1 = c.tickDamage.toInt * (c.ticks.toInt / c.period)
      ∧ (c.advanceAll times).2.isExpired = true := by
  have hword := c.ticks.toInt_lt
  have hticks : ¬ c.ticks < 0 := Int32.not_lt.2 hfinite
  have hlife := c.not_endless_iff.1 hticks
  have hlasting : (c.lasting (duration times) : Int) = c.ticks.toInt := by
    rw [lasting_of_finite _ hticks]
    omega
  have hnothing : c.elapsed.toNat = 0 := by rw [hfresh]; rfl
  have hintervals : (c.intervals (duration times) : Int) = c.ticks.toInt / c.period := by
    unfold intervals
    split
    · rename_i hexpired
      rw [c.isExpired_iff.1 hexpired, Int.zero_ediv]
      rfl
    · rw [hnothing, Nat.zero_add, Int.natCast_ediv, hlasting]
  have hfew : c.intervals (duration times) ≤ c.ticks.toInt.toNat := by
    have hle := Int.ediv_le_self (c.period : Int) hlife
    omega
  have hsettled : c.Settled := .inr (by rw [hnothing]; exact c.period_pos)
  have hdamage : Fits (c.tickDamage.toInt * c.intervals (duration times)) := by
    rw [hintervals]
    exact hfits
  obtain ⟨htotal, hleft⟩ := advanceAll_eq (.inr hsettled) (by omega) (by omega) hdamage
  refine ⟨by rw [htotal, hintervals], ?_⟩
  rw [hleft, isExpired_iff, after_ticks, toInt_ticksAfter _ hticks, hlasting]
  exact Int.sub_self _

end

/-- **Time can be cut anywhere.**  Take any condition and any schedule whose length is a word together with
    the time carried over, whose intervals are fewer than 2 ^ 31 and whose damage is a word.  Its stretches
    one after the other cost what its length costs in one go, and leave the same condition, unless there
    are no stretches while intervals are still to be paid: then one advance by nothing pays them.  And a
    finite condition that starts afresh costs the intervals of its lifetime over every schedule that
    reaches its end. -/
theorem advanceAll_cut_iff (c : Condition) (times : List UInt32) :
    (c.elapsed.toNat + duration times < 4294967296 →
      c.completed (.ofNat (duration times)) < 2147483648 →
      Fits (c.tickDamage.toInt * c.completed (.ofNat (duration times))) →
        (total (c.advanceAll times).1 = (c.advance (.ofNat (duration times))).1.toInt
            ∧ (c.advanceAll times).2 = (c.advance (.ofNat (duration times))).2
          ↔ times ≠ [] ∨ c.Settled))
    ∧ (c.elapsed = 0 → 0 ≤ c.ticks → c.ticks.toInt ≤ duration times →
      Fits (c.tickDamage.toInt * (c.ticks.toInt / c.period)) →
        total (c.advanceAll times).1 = c.tickDamage.toInt * (c.ticks.toInt / c.period)
          ∧ (c.advanceAll times).2.isExpired = true) := by
  refine ⟨fun hword hcount hfits => ?_, advanceAll_of_fresh⟩
  have hlasting := c.lasting_le (duration times)
  obtain ⟨hlength, hshort⟩ := toNat_ofNat_length hword
  rw [completed_eq hshort, hlength] at hcount hfits
  obtain ⟨hcost, hleft⟩ := advance_ofNat hword hcount hfits
  rw [hcost, hleft]
  constructor
  · rintro ⟨-, hsame⟩
    refine Classical.or_iff_not_imp_left.2 fun hno => ?_
    obtain rfl := Classical.not_not.1 hno
    exact settled_of_after_zero hsame.symm
  · exact fun hcut => advanceAll_eq hcut (by omega) hcount hfits

/-- A fire that has burned for a second and a half of its two when oil is poured on it: from then on it
    burns every second. -/
def oiledFire : Condition :=
  ((((new .fire 10000).withDamage (-10) 2000).advance 1500).2).merge
    ((new .fire 10000).withDamage (-10) 1000)

/-- The oiled fire burns out in three stretches as it does in one, and a fresh one costs a hundred over
    them. -/
theorem advanceAll_cut_iff_fire :
    total (oiledFire.advanceAll [700, 0, 12000]).1 = (oiledFire.advance 12700).1.toInt
      ∧ (oiledFire.advanceAll [700, 0, 12000]).2 = (oiledFire.advance 12700).2
      ∧ total (((new .fire 10000).withDamage (-10) 1000).advanceAll [700, 0, 12000]).1 = -100 := by
  have hoiled := (oiledFire.advanceAll_cut_iff [700, 0, 12000]).1 (by decide) (by decide) (by decide)
  obtain ⟨hcost, hleft⟩ := hoiled.2 (.inl (by decide))
  have hfresh := (((new .fire 10000).withDamage (-10) 1000).advanceAll_cut_iff [700, 0, 12000]).2
    rfl (by decide) (by decide) (by decide)
  exact ⟨hcost, hleft, hfresh.1⟩

/-- **No pieces are not nothing:** the oiled fire costs nothing over no stretches at all, but an advance by
    their length, which is nothing, costs ten and changes the fire. -/
theorem oiled_fire_burns_in_no_time :
    duration [] = 0
      ∧ oiledFire.elapsed.toNat + duration [] < 4294967296
      ∧ oiledFire.completed 0 = 1 ∧ Fits (oiledFire.tickDamage.toInt * 1)
      ∧ total (oiledFire.advanceAll []).1 = 0 ∧ (oiledFire.advance 0).1 = -10
      ∧ (oiledFire.advanceAll []).2 ≠ (oiledFire.advance 0).2 := by
  decide

end Condition

end Realm
