/-
  Realm.Proofs.Combat.Scaling — what is left of a loss between players.

  A loss between two players is scaled to a percentage.  The product is taken among the whole numbers,
  where nothing is lost, but what comes out has to be a word again, and then its high bits are left off.
  Up to 100 percent this costs nothing.  Above, some loss has a share that no word holds, and the share
  comes out at the other end of the words: as a gain.

  Main statements:
  * `toInt_scaled` — what is left of a loss is its share, as long as a word holds that;
  * `exists_gain` — above 100 percent, some loss comes out as a gain;
  * `betweenPlayers_lawful_iff` — scaling keeps its laws up to 100 percent, and no further.
-/
import Realm.World.Legality

namespace Realm

namespace Rules

/-! ## §1. Shares. -/

/-- The percentage that holds for losses of a victim. -/
def percentFor (r : Rules) (target : Creature) : Int32 :=
  if target.skull = .black then r.pvpDamageAtBlackSkulls else r.pvpDamage

/-- **The share of an amount:** so many hundredths of it, rounded toward zero.  Of a percentage below zero
    nothing is left. -/
def share (percent : Int32) (amount : Int) : Int := (amount * max percent.toInt 0).tdiv 100

section

variable {percent : Int32} {a b : Int}

theorem share_zero (percent : Int32) : share percent 0 = 0 := by
  unfold share
  rw [Int.zero_mul, Int.zero_tdiv]

/-- **Larger amounts have larger shares.** -/
theorem share_mono (h : a ≤ b) : share percent a ≤ share percent b := by
  have hpercent : 0 ≤ max percent.toInt 0 := by omega
  exact Int.tdiv_le_tdiv (by decide) (Int.mul_le_mul_of_nonneg_right h hpercent)

/-- The share of a loss is a loss, or nothing. -/
theorem share_nonpos (h : a ≤ 0) : share percent a ≤ 0 := by
  rw [← share_zero percent]
  exact share_mono h

/-- Up to 100 percent, the share of a loss is no larger a loss. -/
theorem le_share (hpercent : percent ≤ 100) (h : a ≤ 0) : a ≤ share percent a := by
  have hmax : max percent.toInt 0 ≤ 100 := by
    have hle := Int32.le_iff_toInt_le.1 hpercent
    have hhundred : (100 : Int32).toInt = 100 := rfl
    omega
  exact Int.le_tdiv_of_mul_le (by decide) (Int.mul_le_mul_of_nonpos_left h hmax)

end

/-! ## §2. Words. -/

section

variable {r : Rules} {target : Creature} {change change' : Int32}

theorem scaled_of_nonneg (h : 0 ≤ change) : r.scaled change target = change := if_pos h

theorem scaled_of_neg (h : change < 0) :
    r.scaled change target = Int32.ofInt (share (r.percentFor target) change.toInt) :=
  if_neg (Int32.not_le.2 h)

/-- **What is left of a loss** is its share, as long as a word holds that. -/
theorem toInt_scaled (h : change < 0)
    (hfits : -2147483648 ≤ share (r.percentFor target) change.toInt) :
    (r.scaled change target).toInt = share (r.percentFor target) change.toInt := by
  have hloss := Int32.lt_iff_toInt_lt.1 h
  rw [Int32.toInt_zero] at hloss
  have hshare : share (r.percentFor target) change.toInt ≤ 0 := share_nonpos (by omega)
  rw [scaled_of_neg h, Int32.toInt_ofInt_of_le (by omega) (by omega)]

/-- Up to 100 percent, words hold every share. -/
theorem fits_of_le_hundred (hpercent : r.percentFor target ≤ 100) (h : change < 0) :
    -2147483648 ≤ share (r.percentFor target) change.toInt := by
  have hloss := Int32.lt_iff_toInt_lt.1 h
  rw [Int32.toInt_zero] at hloss
  have hword := change.le_toInt
  have hleft : change.toInt ≤ share (r.percentFor target) change.toInt :=
    le_share hpercent (by omega)
  omega

/-- Up to 100 percent, what is left of a loss is no gain, and no larger a loss. -/
theorem scaled_between (hpercent : r.percentFor target ≤ 100) (h : change < 0) :
    change ≤ r.scaled change target ∧ r.scaled change target ≤ 0 := by
  have hloss := Int32.lt_iff_toInt_lt.1 h
  have hleft := toInt_scaled h (fits_of_le_hundred hpercent h)
  rw [Int32.le_iff_toInt_le, Int32.le_iff_toInt_le, hleft, Int32.toInt_zero]
  rw [Int32.toInt_zero] at hloss
  exact ⟨le_share hpercent (by omega), share_nonpos (by omega)⟩

/-- **Up to 100 percent, larger changes stay larger,** be they losses or gains. -/
theorem scaled_mono (hpercent : r.percentFor target ≤ 100) (h : change ≤ change') :
    r.scaled change target ≤ r.scaled change' target := by
  by_cases hgain : 0 ≤ change
  · rw [scaled_of_nonneg hgain, scaled_of_nonneg (Int32.le_trans hgain h)]
    exact h
  · have hloss : change < 0 := Int32.not_le.1 hgain
    by_cases hgain' : 0 ≤ change'
    · -- a loss before a gain
      rw [scaled_of_nonneg hgain']
      exact Int32.le_trans (scaled_between hpercent hloss).2 hgain'
    · have hloss' : change' < 0 := Int32.not_le.1 hgain'
      rw [Int32.le_iff_toInt_le, toInt_scaled hloss (fits_of_le_hundred hpercent hloss),
        toInt_scaled hloss' (fits_of_le_hundred hpercent hloss')]
      exact share_mono (Int32.le_iff_toInt_le.1 h)

/-! ### Above 100 percent -/

/-- What lies below all words comes out at their upper end. -/
theorem toInt_ofInt_below {n : Int} (hlow : -4294967296 < n) (hhigh : n < -2147483648) :
    (Int32.ofInt n).toInt = n + 4294967296 := by
  rw [Int32.toInt_ofInt, ← Int.add_bmod_right n Int32.size]
  exact Int.bmod_eq_of_le (by show -2147483648 ≤ n + 4294967296; omega)
    (by show n + 4294967296 < 2147483648; omega)

/-- The first multiple of a percentage above 100 whose hundredth no word holds is one by a word. -/
theorem exists_multiple {p : Int} (hp : 101 ≤ p) :
    ∃ n : Int, 0 < n ∧ n ≤ 2147483648 ∧ 214748364900 ≤ n * p ∧ n * p < 214748364900 + p := by
  -- what of the bound is left behind the last multiple below it
  have hbelow : p * (214748364899 / p) ≤ 214748364899 := Int.mul_ediv_self_le (by omega)
  have habove : 214748364899 < p * (214748364899 / p) + p := Int.lt_mul_ediv_self_add (by omega)
  have hpos : 0 ≤ 214748364899 / p := Int.ediv_nonneg (by decide) (by omega)
  generalize 214748364899 / p = q at hbelow habove hpos
  have hmul : (q + 1) * p = p * q + p := by rw [Int.add_mul, Int.one_mul, Int.mul_comm]
  have hword : q < 2147483648 := by
    refine Int.not_le.1 fun hlarge => ?_
    have hbig : 101 * 2147483648 ≤ p * q := Int.mul_le_mul hp hlarge (by decide) (by omega)
    omega
  exact ⟨q + 1, by omega, by omega, by omega, by omega⟩

/-- **Above 100 percent, some loss comes out as a gain.** -/
theorem exists_gain (hpercent : 100 < r.percentFor target) :
    ∃ change < 0, 0 < r.scaled change target := by
  have hlow := Int32.lt_iff_toInt_lt.1 hpercent
  have hhundred : (100 : Int32).toInt = 100 := rfl
  have hhigh := (r.percentFor target).toInt_lt
  have habove : 101 ≤ (r.percentFor target).toInt := by omega
  obtain ⟨n, hpos, hword, hlarge, hnext⟩ := exists_multiple habove
  have hn : (Int32.ofInt (-n)).toInt = -n := Int32.toInt_ofInt_of_le (by omega) (by omega)
  have hloss : Int32.ofInt (-n) < 0 := by
    rw [Int32.lt_iff_toInt_lt, hn, Int32.toInt_zero]
    omega
  have hshare : share (r.percentFor target) (-n)
      = -(n * (r.percentFor target).toInt / 100) := by
    unfold share
    rw [Int.max_eq_left (by omega), Int.neg_mul, Int.neg_tdiv, Int.tdiv_eq_ediv_of_nonneg (by omega)]
  refine ⟨_, hloss, ?_⟩
  rw [scaled_of_neg hloss, hn, hshare, Int32.lt_iff_toInt_lt, toInt_ofInt_below (by omega) (by omega),
    Int32.toInt_zero]
  omega

end

/-! ## §3. Players. -/

/-- Whether a change is one between two different players. -/
def isDuel (attacker : Option Creature) (target : Creature) : Bool :=
  attacker.any fun a => a.isPlayer && target.isPlayer && a.id ≠ target.id

/-- **Mild rules** for an attacker and a victim: if they are two different players, at most 100 percent of
    a loss is left. -/
def Mild (r : Rules) (attacker : Option Creature) (target : Creature) : Prop :=
  isDuel attacker target = true → r.percentFor target ≤ 100

section

variable {r : Rules} {attacker : Option Creature} {target : Creature}

theorem betweenPlayers_of_isDuel (h : isDuel attacker target = true) (change : Int32) :
    r.betweenPlayers attacker target change = r.scaled change target := by
  cases attacker with
  | none => cases h
  | some a => exact if_pos h

theorem betweenPlayers_of_not_isDuel (h : ¬ isDuel attacker target = true) (change : Int32) :
    r.betweenPlayers attacker target change = change := by
  cases attacker with
  | none => rfl
  | some a => exact if_neg h

theorem betweenPlayers_zero : r.betweenPlayers attacker target 0 = 0 := by
  by_cases hduel : isDuel attacker target = true
  · rw [betweenPlayers_of_isDuel hduel, scaled_of_nonneg (Int32.le_refl 0)]
  · exact betweenPlayers_of_not_isDuel hduel 0

/-- Under mild rules, what is left of a loss is no gain, and no larger a loss. -/
theorem Mild.between (h : r.Mild attacker target) {change : Int32} (hloss : change < 0) :
    change ≤ r.betweenPlayers attacker target change
      ∧ r.betweenPlayers attacker target change ≤ 0 := by
  by_cases hduel : isDuel attacker target = true
  · rw [betweenPlayers_of_isDuel hduel]
    exact scaled_between (h hduel) hloss
  · rw [betweenPlayers_of_not_isDuel hduel]
    exact ⟨Int32.le_refl change, Int32.le_of_lt hloss⟩

/-- Under mild rules, larger changes stay larger. -/
theorem Mild.mono (h : r.Mild attacker target) {change change' : Int32} (hle : change ≤ change') :
    r.betweenPlayers attacker target change ≤ r.betweenPlayers attacker target change' := by
  by_cases hduel : isDuel attacker target = true
  · rw [betweenPlayers_of_isDuel hduel, betweenPlayers_of_isDuel hduel]
    exact scaled_mono (h hduel) hle
  · rw [betweenPlayers_of_not_isDuel hduel, betweenPlayers_of_not_isDuel hduel]
    exact hle

/-- **Rules that turn no loss into a gain** are mild. -/
theorem mild_of_losses (h : ∀ change < 0, r.betweenPlayers attacker target change ≤ 0) :
    r.Mild attacker target := by
  intro hduel
  refine Int32.not_lt.1 fun hharsh => ?_
  obtain ⟨change, hloss, hgain⟩ := exists_gain hharsh
  have hno := h change hloss
  rw [betweenPlayers_of_isDuel hduel] at hno
  exact Int32.not_le.2 hgain hno

end

/-- **Scaling keeps its laws up to 100 percent, and no further.**  Whatever the rules, the attacker and the
    victim: losses never come out as gains, and larger changes stay larger, exactly if the rules are mild.
    Under mild rules no loss comes out larger than it was.  And under all rules what is left of a loss
    between two different players is its share, as long as a word holds that. -/
theorem betweenPlayers_lawful_iff (r : Rules) (attacker : Option Creature) (target : Creature) :
    ((∀ change < 0, r.betweenPlayers attacker target change ≤ 0) ↔ r.Mild attacker target)
    ∧ ((∀ change change', change ≤ change' →
        r.betweenPlayers attacker target change ≤ r.betweenPlayers attacker target change')
      ↔ r.Mild attacker target)
    ∧ (r.Mild attacker target → ∀ change < 0, change ≤ r.betweenPlayers attacker target change)
    ∧ (isDuel attacker target = true → ∀ change < 0,
        -2147483648 ≤ share (r.percentFor target) change.toInt →
        (r.betweenPlayers attacker target change).toInt
          = share (r.percentFor target) change.toInt) := by
  refine ⟨⟨mild_of_losses, fun hmild change hloss => (hmild.between hloss).2⟩,
    ⟨fun hmono => mild_of_losses fun change hloss => ?_, fun hmild change change' => hmild.mono⟩,
    fun hmild change hloss => (hmild.between hloss).1, fun hduel change hloss hfits => ?_⟩
  · -- a loss lies below no change at all, and so does what is left of it
    have hle := hmono change 0 (Int32.le_of_lt hloss)
    rw [betweenPlayers_zero] at hle
    exact hle
  · rw [betweenPlayers_of_isDuel hduel]
    exact toInt_scaled hloss hfits

/-- A knight strikes a druid, as rules have it without further word: half of a loss is left, rounded toward
    zero. -/
theorem betweenPlayers_lawful_iff_half :
    let knight := Creature.new ⟨1⟩ "knight" .player ⟨100, 100, 7⟩
    let druid := Creature.new ⟨2⟩ "druid" .player ⟨101, 100, 7⟩
    ({} : Rules).Mild knight druid ∧ isDuel (some knight) druid = true
      ∧ ({} : Rules).betweenPlayers knight druid (-2147483648) ≤ 0
      ∧ ({} : Rules).betweenPlayers knight druid (-101) ≤ ({} : Rules).betweenPlayers knight druid 40
      ∧ (({} : Rules).betweenPlayers knight druid (-101)).toInt = -50 := by
  intro knight druid
  have hmild : ({} : Rules).Mild knight druid := fun _ => by decide
  have hduel : isDuel (some knight) druid = true := by decide
  obtain ⟨hlosses, hmono, -, hshare⟩ := betweenPlayers_lawful_iff {} knight druid
  exact ⟨hmild, hduel, hlosses.2 hmild _ (by decide), hmono.2 hmild _ _ (by decide),
    hshare hduel (-101) (by decide) (by decide)⟩

/-- **Twice the damage heals:** where losses are doubled, the largest loss that a word holds the double of
    is doubled; the next one comes out as a gain. -/
theorem doubled_loss_heals :
    let knight := Creature.new ⟨1⟩ "knight" .player ⟨100, 100, 7⟩
    let druid := Creature.new ⟨2⟩ "druid" .player ⟨101, 100, 7⟩
    let rules : Rules := { pvpDamage := 200 }
    rules.betweenPlayers knight druid (-1073741824) = -2147483648
      ∧ rules.betweenPlayers knight druid (-1073741825) = 2147483646 := by
  decide

end Rules

end Realm
