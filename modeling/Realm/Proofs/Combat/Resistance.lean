/-
  Realm.Proofs.Combat.Resistance — what resistances leave of a hit.

  A resistance takes a share off an amount, rounded toward zero.  The share grows more slowly than the
  amount and never exceeds it, so what is left is monotone, and nothing is left only where the whole
  amount is taken off.  The defence looks at exactly that, so a hit that gets past it costs some health.

  Main statements:
  * `Resistances.lawOfShares` — what resistances leave of amounts;
  * `World.blocked_blockHit_iff` — which hits are blocked;
  * `Cast.resistances_govern_hits` — both, and what a hit takes that is not blocked.
-/
import Realm.Proofs.World.Death

namespace Realm

namespace Resistances

/-! ## §1. Shares of integers. -/

/-- What is left of an amount once a percentage was taken off, rounded toward zero. -/
def left (amount percent : Int) : Int := amount - (amount * percent).tdiv 100

/-- Rounding toward zero, by rounding down. -/
theorem tdiv_hundred (n : Int) : n.tdiv 100 = if 0 ≤ n then n / 100 else -(-n / 100) := by
  split
  · rename_i hnonneg
    exact Int.tdiv_eq_ediv_of_nonneg hnonneg
  · rename_i hneg
    have hopposite : (-n).tdiv 100 = -n / 100 := Int.tdiv_eq_ediv_of_nonneg (by omega)
    rw [Int.neg_tdiv] at hopposite
    omega

section

variable {amount more percent greater : Int}

/-- A percentage of an amount is at most the amount hundredfold, either way. -/
theorem product_within (hamount : 0 ≤ amount) (hlow : -100 ≤ percent) (hhigh : percent ≤ 100) :
    -100 * amount ≤ amount * percent ∧ amount * percent ≤ 100 * amount := by
  have hleast := Int.mul_le_mul_of_nonneg_left hlow hamount
  have hmost := Int.mul_le_mul_of_nonneg_left hhigh hamount
  omega

/-- **Something between nothing and twice the amount** is left of it. -/
theorem left_within (hamount : 0 ≤ amount) (hlow : -100 ≤ percent) (hhigh : percent ≤ 100) :
    0 ≤ left amount percent ∧ left amount percent ≤ 2 * amount := by
  obtain ⟨hleast, hmost⟩ := product_within hamount hlow hhigh
  unfold left
  generalize amount * percent = product at hleast hmost ⊢
  rw [tdiv_hundred]
  split <;> omega

/-- **Nothing is left** where all of the amount is taken off. -/
theorem left_eq_zero_iff (hamount : 0 < amount) (hlow : -100 ≤ percent) (hhigh : percent ≤ 100) :
    left amount percent = 0 ↔ percent = 100 := by
  constructor
  · intro hnothing
    -- one percent less takes off less than the amount
    refine Classical.byContradiction fun hpart => ?_
    have hmost := Int.mul_le_mul_of_nonneg_left (by omega : percent ≤ 99) (Int.le_of_lt hamount)
    unfold left at hnothing
    generalize amount * percent = product at hmost hnothing
    rw [tdiv_hundred] at hnothing
    split at hnothing <;> omega
  · rintro rfl
    rw [left, Int.mul_tdiv_cancel amount (by decide)]
    exact Int.sub_self amount

/-- **More is left of more.** -/
theorem left_le_left (hle : amount ≤ more) (hhigh : percent ≤ 100) :
    left amount percent ≤ left more percent := by
  -- what comes on top is hit by the percentage like an amount of its own
  obtain ⟨extra, rfl⟩ : ∃ extra, more = amount + extra := ⟨more - amount, by omega⟩
  have hextra := Int.mul_le_mul_of_nonneg_left hhigh (by omega : 0 ≤ extra)
  have hsplit : (amount + extra) * percent = amount * percent + extra * percent := Int.add_mul ..
  unfold left
  rw [hsplit]
  generalize amount * percent = product, extra * percent = change at hextra ⊢
  rw [tdiv_hundred, tdiv_hundred]
  split <;> split <;> omega

/-- **Less is left at a greater percentage.** -/
theorem left_antitone (hle : percent ≤ greater) (hamount : 0 ≤ amount) :
    left amount greater ≤ left amount percent := by
  have hproduct := Int.mul_le_mul_of_nonneg_left hle hamount
  have hshare := Int.tdiv_le_tdiv (by decide : (0 : Int) < 100) hproduct
  unfold left
  omega

end

/-! ## §2. Shares of words. -/

/-- The percentage that counts, as a long word. -/
def percentWord (percent : Int16) : Int64 := (max (-100) (min 100 percent)).toInt64

/-- The share that is taken off, worked out in long words. -/
def shareWord (amount : Int32) (percent : Int16) : Int64 :=
  amount.toInt64 * percentWord percent / 100

/-- What is left of an amount, worked out in long words. -/
def leftWord (amount : Int32) (percent : Int16) : Int64 :=
  amount.toInt64 - shareWord amount percent

variable (r : Resistances) (t : DamageType)

/-- The percentage of a slot as it was set. -/
def raw (i : Fin 12) : Int16 := r.percents.get i

theorem percent_eq (i : Fin 12) : r.percent i = max (-100) (min 100 (r.raw i).toInt) := rfl

theorem percent_within (i : Fin 12) : -100 ≤ r.percent i ∧ r.percent i ≤ 100 := by
  unfold percent
  omega

theorem toInt_percentWord (i : Fin 12) : (percentWord (r.raw i)).toInt = r.percent i := by
  have hmin : ∀ a b : Int16, (min a b).toInt = min a.toInt b.toInt := by
    intro a b
    show (if a ≤ b then a else b).toInt = _
    split <;> rename_i hle <;> rw [Int16.le_iff_toInt_le] at hle <;> omega
  have hmax : ∀ a b : Int16, (max a b).toInt = max a.toInt b.toInt := by
    intro a b
    show (if a ≤ b then b else a).toInt = _
    split <;> rename_i hle <;> rw [Int16.le_iff_toInt_le] at hle <;> omega
  rw [percentWord, Int16.toInt_toInt64, hmax, hmin]
  rfl

/-- **Long words are long enough:** no step of the computation leaves them, whatever the amount. -/
theorem words_exact (amount : Int32) (i : Fin 12) :
    (amount.toInt64 * percentWord (r.raw i)).toInt = amount.toInt * r.percent i
    ∧ (shareWord amount (r.raw i)).toInt = (amount.toInt * r.percent i).tdiv 100
    ∧ (leftWord amount (r.raw i)).toInt = left amount.toInt (r.percent i) := by
  obtain ⟨hlow, hhigh⟩ := r.percent_within i
  have hword := amount.le_toInt
  have hword' := amount.toInt_lt
  -- the product is a short word hundredfold at most
  have hbound : (amount.toInt * r.percent i).natAbs ≤ 2147483648 * 100 := by
    rw [Int.natAbs_mul]
    exact Nat.mul_le_mul (by omega) (by omega)
  have hproduct : (amount.toInt64 * percentWord (r.raw i)).toInt
      = amount.toInt * r.percent i := by
    rw [Int64.toInt_mul, Int32.toInt_toInt64, toInt_percentWord]
    exact Int.bmod_eq_of_le (by omega) (by omega)
  have hshare : (shareWord amount (r.raw i)).toInt = (amount.toInt * r.percent i).tdiv 100 := by
    have hdivisor : (100 : Int64) ≠ -1 := by decide
    rw [shareWord, Int64.toInt_div_of_ne_right _ _ hdivisor, hproduct]
    rfl
  refine ⟨hproduct, hshare, ?_⟩
  rw [leftWord, Int64.toInt_sub, Int32.toInt_toInt64, hshare, left]
  generalize amount.toInt * r.percent i = product at hbound
  rw [tdiv_hundred]
  split <;> exact Int.bmod_eq_of_le (by omega) (by omega)

/-! ## §3. What resistances leave. -/

/-- **Absorbed damage:** it is of a kind with a slot, and at least all of it is taken off. -/
def Absorbs : Prop := ∃ i, t.slot = some i ∧ 100 ≤ (r.raw i).toInt

variable {r t}

theorem toInt_apply {i : Fin 12} (hslot : t.slot = some i) (amount : Int32) :
    (r.apply t amount).toInt
      = min (max 0 (left amount.toInt (r.percent i))) 2147483647 := by
  unfold apply
  rw [hslot]
  dsimp only
  rw [toInt_ofIntClamp, left]
  omega

/-- What is left of a word is worked out in long words, and then cut down to a word. -/
theorem apply_eq_words {i : Fin 12} (hslot : t.slot = some i) (amount : Int32) :
    r.apply t amount = Int32.ofIntClamp (max 0 (leftWord amount (r.raw i)).toInt) := by
  obtain ⟨-, -, hleft⟩ := r.words_exact amount i
  unfold apply
  rw [hslot, hleft]
  rfl

theorem apply_of_no_slot (hslot : t.slot = none) (amount : Int32) : r.apply t amount = amount := by
  unfold apply
  rw [hslot]

/-- What is left of an amount is twice the amount at most. -/
theorem apply_le_double {amount : Int32} (hamount : 0 ≤ amount.toInt) :
    (r.apply t amount).toInt ≤ 2 * amount.toInt := by
  cases hslot : t.slot with
  | none =>
    rw [apply_of_no_slot hslot]
    omega
  | some i =>
    obtain ⟨hlow, hhigh⟩ := r.percent_within i
    have hwithin := left_within hamount hlow hhigh
    rw [toInt_apply hslot]
    omega

/-- **Nothing is left of absorbed damage,** and of no other. -/
theorem apply_eq_zero_iff {amount : Int32} (hamount : 0 < amount.toInt) :
    r.apply t amount = 0 ↔ r.Absorbs t := by
  rw [← Int32.toInt_inj, Int32.toInt_zero]
  cases hslot : t.slot with
  | none =>
    rw [apply_of_no_slot hslot]
    refine iff_of_false (by omega) ?_
    rintro ⟨i, hsome, -⟩
    rw [hslot] at hsome
    cases hsome
  | some i =>
    obtain ⟨hlow, hhigh⟩ := r.percent_within i
    have hwithin := left_within (Int.le_of_lt hamount) hlow hhigh
    have hnothing := left_eq_zero_iff hamount hlow hhigh
    have habsorbs : r.Absorbs t ↔ r.percent i = 100 := by
      rw [Absorbs, hslot, percent_eq]
      constructor
      · rintro ⟨j, hsame, hall⟩
        obtain rfl := Option.some.inj hsame
        omega
      · exact fun hall => ⟨i, rfl, by omega⟩
    rw [habsorbs, ← hnothing, toInt_apply hslot]
    omega

/-- **The law of shares:** what resistances leave of amounts of one kind of damage. -/
structure LawOfShares (r : Resistances) (t : DamageType) : Prop where
  /-- No step of the computation leaves the long words that it is done in. -/
  fits : ∀ i, t.slot = some i → ∀ amount : Int32,
    (amount.toInt64 * percentWord (r.raw i)).toInt = amount.toInt * r.percent i
    ∧ (shareWord amount (r.raw i)).toInt = (amount.toInt * r.percent i).tdiv 100
    ∧ (leftWord amount (r.raw i)).toInt = left amount.toInt (r.percent i)
    ∧ r.apply t amount = Int32.ofIntClamp (max 0 (leftWord amount (r.raw i)).toInt)
  within : ∀ amount : Int32, 0 ≤ amount.toInt →
    0 ≤ (r.apply t amount).toInt ∧ (r.apply t amount).toInt ≤ Int32.maxValue.toInt
  nothing : ∀ amount : Int32, 0 < amount.toInt → (r.apply t amount = 0 ↔ r.Absorbs t)
  monotone : ∀ amount more : Int32, 0 ≤ amount.toInt → amount.toInt ≤ more.toInt →
    (r.apply t amount).toInt ≤ (r.apply t more).toInt
  antitone : ∀ stronger : Resistances,
    (∀ i, t.slot = some i → (r.raw i).toInt ≤ (stronger.raw i).toInt) →
    ∀ amount : Int32, 0 ≤ amount.toInt → (stronger.apply t amount).toInt ≤ (r.apply t amount).toInt

/-- **Resistances obey the law of shares,** whatever their percentages are. -/
theorem lawOfShares (r : Resistances) (t : DamageType) : r.LawOfShares t where
  fits i hslot amount := by
    obtain ⟨hproduct, hshare, hleft⟩ := r.words_exact amount i
    exact ⟨hproduct, hshare, hleft, apply_eq_words hslot amount⟩
  within amount hamount := ⟨r.apply_nonneg t hamount, Int32.toInt_le _⟩
  nothing amount hamount := apply_eq_zero_iff hamount
  monotone amount more _ hle := by
    cases hslot : t.slot with
    | none =>
      rw [apply_of_no_slot hslot, apply_of_no_slot hslot]
      exact hle
    | some i =>
      have hleft := left_le_left hle (r.percent_within i).2
      rw [toInt_apply hslot, toInt_apply hslot]
      omega
  antitone stronger hstronger amount hamount := by
    cases hslot : t.slot with
    | none =>
      have hsame : stronger.apply t amount = r.apply t amount := by
        rw [apply_of_no_slot hslot, apply_of_no_slot hslot]
      exact Int.le_of_eq (congrArg Int32.toInt hsame)
    | some i =>
      have hpercent : r.percent i ≤ stronger.percent i := by
        have hraw := hstronger i hslot
        rw [percent_eq, percent_eq]
        omega
      have hleft := left_antitone hpercent hamount
      rw [toInt_apply hslot, toInt_apply hslot]
      omega

end Resistances

namespace Vitals

/-! ## §4. Hits. -/

variable {v : Vitals} {t : DamageType} {change : Int32}

/-- The opposite of a loss is that loss as an amount, or just short of it. -/
theorem toInt_opposite (h : change < 0) :
    0 < (opposite change).toInt ∧ (opposite change).toInt ≤ -change.toInt := by
  rw [Int32.lt_iff_toInt_lt, Int32.toInt_zero] at h
  rw [opposite, toInt_ofIntClamp]
  omega

/-- **A hit on the living that is not absorbed** takes some health, and no more than twice its amount
    or what lies above the limit. -/
theorem changeHealth_takes (hlives : v.isDead = false) (h : change < 0)
    (hleft : ¬ v.resistances.Absorbs t) :
    (v.changeHealth t change).2.health.toInt + 1 ≤ v.health.toInt
    ∧ v.health.toInt - (v.changeHealth t change).2.health.toInt
        ≤ max (2 * -change.toInt) (v.health.toInt - max v.maxHealth.toInt 0) := by
  obtain ⟨hpos, hamount⟩ := toInt_opposite h
  have hleast := v.resistances.apply_nonneg t (Int.le_of_lt hpos)
  have hmost := Resistances.apply_le_double (r := v.resistances) (t := t) (Int.le_of_lt hpos)
  have hsome := mt (Resistances.apply_eq_zero_iff (r := v.resistances) hpos).1 hleft
  rw [← Int32.toInt_inj, Int32.toInt_zero] at hsome
  unfold changeHealth resisted settle isDead at *
  rw [if_pos h]
  -- the loss that resistances leave, as a word and as an integer
  generalize v.resistances.apply t (opposite change) = loss at hleast hmost hsome ⊢
  have hword := loss.toInt_lt
  have hloss : (-loss).toInt = -loss.toInt := by
    rw [Int32.toInt_neg, Int.bmod_eq_of_le (by omega) (by omega)]
  simp only [decide_eq_false_iff_not, Int32.le_iff_toInt_le, toInt_max, toInt_min, toInt_ofIntClamp,
    Int32.toInt_zero, hloss] at hlives ⊢
  have hhealth := v.health.toInt_lt
  omega

end Vitals

namespace World

/-- **Blocked hits** are those of absorbed damage. -/
theorem blocked_blockHit_iff {w : World} {target : CreatureId} {d : Creature}
    (hd : w.creature? target = some d) (t : DamageType) {change : Int32} (h : change < 0) :
    (w.blockHit target t change).1.blocked = true ↔ d.vitals.resistances.Absorbs t := by
  rw [← Resistances.apply_eq_zero_iff (Vitals.toInt_opposite h).1]
  unfold blockHit
  rw [if_neg (Int32.not_le.2 h), hd]
  dsimp only
  unfold absorbs
  split
  · rename_i hnothing
    exact iff_of_true rfl (of_decide_eq_true hnothing)
  · rename_i hleft
    exact iff_of_false Bool.false_ne_true fun hnothing => hleft (decide_eq_true hnothing)

/-- A hit that is not blocked goes on as it is. -/
theorem blockHit_of_unblocked {w : World} {target : CreatureId} {t : DamageType} {change : Int32}
    (h : (w.blockHit target t change).1.blocked = false) :
    w.blockHit target t change = (⟨false, change⟩, w) := by
  unfold blockHit at h ⊢
  split at h
  · rename_i hgain
    rw [if_pos hgain]
  · rename_i hloss
    rw [if_neg hloss]
    split at h
    · cases h
    · split at h
      · cases h
      · rename_i hleft
        exact if_neg hleft

/-- What a hit does to a living creature: it changes its vitals. -/
theorem changeHealth_of_living {w : World} {target : CreatureId} {d : Creature}
    (hd : w.creature? target = some d) (hlives : d.vitals.isDead = false)
    (attacker : Option CreatureId) (t : DamageType) (change : Int32) :
    (w.changeHealth attacker target t change).1 = true
    ∧ (w.changeHealth attacker target t change).2.creature? target
        = some { d with vitals := (d.vitals.changeHealth t change).2 } := by
  have hchanged : (w.modifyCreature target fun d' =>
      { d' with vitals := (d.vitals.changeHealth t change).2 }).creature? target
        = some { d with vitals := (d.vitals.changeHealth t change).2 } := by
    rw [creature?_modifyCreature, if_pos rfl, hd]
    rfl
  unfold changeHealth
  rw [hd]
  dsimp only
  rw [if_neg (Bool.eq_false_iff.1 hlives)]
  refine ⟨rfl, ?_⟩
  -- events leave the creatures alone
  dsimp only
  split <;> exact hchanged

end World

namespace Cast

/-- What follows on a hit leaves health alone. -/
theorem vitals_afterChange (c : Cast) (target id : CreatureId) (changed : Bool × World) :
    ((c.afterChange target changed).creature? id).map Creature.vitals
      = (changed.2.creature? id).map Creature.vitals := by
  have hadded : ∀ w : World, ((c.addConditions w target).creature? id).map Creature.vitals
      = (w.creature? id).map Creature.vitals := by
    intro w
    obtain ⟨f, hf, hworld⟩ := c.addConditions_eq w target
    rw [hworld]
    refine World.map_creature?_modifyCreature (fun d => ?_) w target id
    obtain ⟨ds, hds⟩ := hf d
    rw [hds]
  have hdispelled : ∀ w : World, ((c.dispel w target).creature? id).map Creature.vitals
      = (w.creature? id).map Creature.vitals := by
    intro w
    unfold dispel
    split
    · rfl
    · rename_i kind _
      have hkept : ∀ d : Creature, (d.removeCondition kind).vitals = d.vitals := fun d => rfl
      exact World.map_creature?_modifyCreature hkept w target id
  unfold afterChange
  split
  · rw [hdispelled, hadded]
  · rfl

/-- **Resistances govern hits.**  What they leave of an amount obeys the law of shares, for all
    percentages, kinds and amounts.  A loss of a registered creature is blocked exactly if its
    resistances absorb that kind of damage.  And a loss that is not blocked, nor changed between players,
    costs a living creature at least 1 health; and at most twice its amount or, where the creature had
    more than its maximum, what brings it down to that if this is more. -/
theorem resistances_govern_hits :
    (∀ (r : Resistances) (t : DamageType), r.LawOfShares t)
    ∧ (∀ (w : World) (target : CreatureId) (d : Creature) (t : DamageType) (change : Int32),
        w.creature? target = some d → change < 0 →
        ((w.blockHit target t change).1.blocked = true ↔ d.vitals.resistances.Absorbs t))
    ∧ ∀ (c : Cast) (w : World) (target : CreatureId) (d : Creature) (bounds : Span) (change : Int32),
        w.creature? target = some d → d.vitals.isDead = false →
        (w.roll bounds.min bounds.max).1 = change → change < 0 →
        (w.blockHit target c.settings.damageType change).1.blocked = false →
        c.adjusted w target change = change →
        ∃ d', (c.applyHealth w target bounds).creature? target = some d'
          ∧ d'.vitals.health.toInt + 1 ≤ d.vitals.health.toInt
          ∧ d.vitals.health.toInt - d'.vitals.health.toInt
            ≤ max (2 * -change.toInt) (d.vitals.health.toInt - max d.vitals.maxHealth.toInt 0) := by
  refine ⟨Resistances.lawOfShares, fun w target d t change hd h => World.blocked_blockHit_iff hd t h,
    fun c w target d bounds change hd hlives hroll h hunblocked hadjusted => ?_⟩
  have hleft : ¬ d.vitals.resistances.Absorbs c.settings.damageType := fun habsorbs =>
    Bool.eq_false_iff.1 hunblocked ((World.blocked_blockHit_iff hd _ h).2 habsorbs)
  -- dice change no creature, so the hit goes on in a world with the same creatures
  obtain ⟨w₁, hw₁⟩ : ∃ w₁, (w.roll bounds.min bounds.max).2 = w₁ := ⟨_, rfl⟩
  have hd₁ : w₁.creature? target = some d := hw₁ ▸ hd
  have hunblocked₁ : (w₁.blockHit target c.settings.damageType change).1.blocked = false := by
    rw [← Bool.not_eq_true, World.blocked_blockHit_iff hd₁ _ h]
    exact hleft
  have hadjusted₁ : c.adjusted w₁ target change = change := hw₁ ▸ hadjusted
  obtain ⟨-, hafter⟩ := World.changeHealth_of_living hd₁ hlives c.caster c.settings.damageType change
  have hworld : c.applyHealth w target bounds = c.afterChange target
      (w₁.changeHealth c.caster target c.settings.damageType change) := by
    unfold applyHealth
    dsimp only
    rw [hroll, hw₁, World.blockHit_of_unblocked hunblocked₁]
    dsimp only
    rw [hadjusted₁]
    rfl
  have hvitals := c.vitals_afterChange target target
    (w₁.changeHealth c.caster target c.settings.damageType change)
  rw [← hworld, hafter, Option.map_some] at hvitals
  obtain ⟨d', hd', hsame⟩ := Option.map_eq_some_iff.1 hvitals
  refine ⟨d', hd', ?_⟩
  rw [hsame]
  exact Vitals.changeHealth_takes hlives h hleft

/-- A rat of thick hide, which takes off nearly all of a blow: the blow is not blocked, and costs it a
    point.  The same rat absorbs fire. -/
theorem resistances_govern_hits_rat :
    let hide : Resistances := ((({} : Resistances).set .physical 99).set .fire 300)
    let rat : Creature := { Creature.new ⟨5⟩ "rat" .monster ⟨100, 100, 7⟩ with
      vitals := { Vitals.full 30 0 with resistances := hide } }
    let w := (World.new .empty {} 0).addCreature rat
    let hit : Cast := ⟨{ settings := { damageType := .physical } }, none⟩
    w.creature? ⟨5⟩ = some rat ∧ rat.vitals.isDead = false
      ∧ (w.blockHit ⟨5⟩ .fire (-10)).1.blocked = true
      ∧ (hide.apply .physical 20).toInt ≤ (hide.apply .physical 40).toInt
      ∧ ∃ rat', (hit.applyHealth w ⟨5⟩ ⟨-10, -10⟩).creature? ⟨5⟩ = some rat'
        ∧ rat'.vitals.health.toInt + 1 ≤ 30 ∧ 30 - rat'.vitals.health.toInt ≤ 20 := by
  intro hide rat w hit
  obtain ⟨hlaw, hblocked, htakes⟩ := resistances_govern_hits
  have hrat : w.creature? ⟨5⟩ = some rat :=
    (World.creature?_addCreature _ rat ⟨5⟩).trans (if_pos rfl)
  have hfire : hide.Absorbs .fire := ⟨3, rfl, by decide⟩
  obtain ⟨rat', hrat', hleast, hmost⟩ := htakes hit w ⟨5⟩ rat ⟨-10, -10⟩ (-10) hrat (by decide)
    (by decide) (by decide) (by decide) (by decide)
  exact ⟨hrat, by decide, (hblocked w ⟨5⟩ rat .fire (-10) hrat (by decide)).2 hfire,
    (hlaw hide .physical).monotone 20 40 (by decide) (by decide), rat', hrat', hleast, hmost⟩

/-- **Health above its maximum is lost at the first hit:** a rat with 150 health, of which it can have
    50, loses 100 to a blow of a single point. -/
theorem hit_takes_excess_health :
    let rat : Creature := { Creature.new ⟨5⟩ "rat" .monster ⟨100, 100, 7⟩ with
      vitals := { Vitals.full 50 0 with health := 150 } }
    let w := (World.new .empty {} 0).addCreature rat
    let hit : Cast := ⟨{ settings := { damageType := .physical } }, none⟩
    (w.creature? ⟨5⟩).map (fun d => (d.vitals.health, d.vitals.isDead)) = some (150, false)
      ∧ (w.roll (-1) (-1)).1 = -1 ∧ (w.blockHit ⟨5⟩ .physical (-1)).1.blocked = false
      ∧ hit.adjusted w ⟨5⟩ (-1) = -1
      ∧ ((hit.applyHealth w ⟨5⟩ ⟨-1, -1⟩).creature? ⟨5⟩).map (fun d => d.vitals.health) = some 50
      ∧ ¬ (150 : Int) - 50 ≤ 2 * 1 := by
  decide

end Cast

end Realm
