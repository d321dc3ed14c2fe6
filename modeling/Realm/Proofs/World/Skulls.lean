/-
  Realm.Proofs.World.Skulls — white skulls, and the kills that they stand for.

  Two rules say when an attack among players is wrong.  One judges a kill, and changes nothing; the other
  puts a blow down to the attacker's player, and may give it a white skull.  Each looks up the players on
  its own, and they are the same rule: a blow on a player whitens exactly the players without a skull
  whose kill it would be unjust to make.

  Main statements:
  * `noteAttack_of_players` — what putting an attack down does, for players of either side;
  * `skullOf_attackedCreature` — all skulls after a blow on a player;
  * `whitened_iff_isUnjustKill` — the two rules agree.
-/
import Realm.Proofs.World.FightTimers

namespace Realm

namespace World

/-- The skull that a creature bears, when it is registered. -/
def skullOf (w : World) (id : CreatureId) : Option Skull := (w.creature? id).map Creature.skull

variable {w : World} {attacker target : CreatureId} {a t player victim : Creature}

/-! ## §1. The two rules. -/

/-- **A kill is unjust** for the attacker's player exactly if the victim is another player without a skull,
    and nothing excuses the attack. -/
theorem isUnjustKill_iff (hcharge : w.playerInCharge a = some player) (hvictim : t.isPlayer = true) :
    w.isUnjustKill a t = true
      ↔ player.id ≠ t.id ∧ w.isUnprovoked player t = true ∧ t.skull = .none := by
  unfold isUnjustKill
  rw [hcharge]
  simp only [hvictim, Bool.true_and, Bool.and_eq_true, decide_eq_true_eq, and_assoc, ne_comm]

/-- **What putting an attack down does** when players answer for both sides. -/
theorem noteAttack_of_players (ha : w.creature? attacker = some a) (ht : w.creature? target = some t)
    (hcharge : w.playerInCharge a = some player) (hvictim : w.playerInCharge t = some victim) :
    w.noteAttack attacker target
      = if player.id ≠ victim.id ∧ w.isUnprovoked player victim then
          w.modifyCreature player.id fun c =>
            { c with
              attacked := c.attacked.insert victim.id
              skull := if player.skull = .none && victim.skull = .none then .white else c.skull }
        else w := by
  unfold noteAttack
  rw [ha, ht]
  dsimp only [Option.bind_eq_bind, Option.bind_some]
  rw [hcharge, hvictim]
  rfl

/-- An attack by a creature that serves no player is put down to nobody. -/
theorem noteAttack_of_unowned (ha : w.creature? attacker = some a)
    (hcharge : w.playerInCharge a = none) : w.noteAttack attacker target = w := by
  unfold noteAttack
  rw [ha]
  dsimp only [Option.bind_eq_bind, Option.bind_some]
  rw [hcharge]
  rfl

/-! ## §2. Skulls after a blow. -/

/-- After the attack is put down, a blow gives and takes no skull. -/
theorem skullOf_attackedCreature_eq (w : World) (attacker target id : CreatureId) :
    (w.attackedCreature attacker target).skullOf id = (w.noteAttack attacker target).skullOf id := by
  have hframe : (w.noteAttack attacker target).Frame (fun _ => False) (fun _ => False)
      (fun _ => False) (fun _ => 0) (w.attackedCreature attacker target) := by
    unfold attackedCreature
    dsimp only
    split
    · exact frame_extendFight _ _ _ false nofun
    · exact .refl _
  exact map_eq_of_rel (hframe.creature id) fun _ _ hwithin => (hwithin.unmarked fun hmarked => hmarked).1

/-- Whether a blow gives a creature a white skull: it answers for the attacker, has no skull, and would kill
    unjustly. -/
def whitens (w : World) (a t : Creature) (id : CreatureId) : Bool :=
  (w.playerInCharge a).any fun player =>
    player.id = id && player.skull = .none && w.isUnjustKill a t

theorem whitens_iff {id : CreatureId} :
    w.whitens a t id = true ↔ ∃ player, w.playerInCharge a = some player ∧ player.id = id
      ∧ player.skull = .none ∧ w.isUnjustKill a t = true := by
  simp [whitens, Option.any_eq_true, and_assoc]

/-- **All skulls after a blow on a player:** a white one for whom the blow whitens, and else those that there
    were. -/
theorem skullOf_attackedCreature (ha : w.creature? attacker = some a)
    (ht : w.creature? target = some t) (hvictim : t.isPlayer = true) (id : CreatureId) :
    (w.attackedCreature attacker target).skullOf id
      = if w.whitens a t id then (w.skullOf id).map fun _ => .white else w.skullOf id := by
  rw [skullOf_attackedCreature_eq]
  unfold whitens
  cases hcharge : w.playerInCharge a with
  | none =>
    rw [noteAttack_of_unowned ha hcharge]
    rfl
  | some player =>
    have hself : w.playerInCharge t = some t := if_pos hvictim
    have hunjust := isUnjustKill_iff hcharge hvictim
    rw [noteAttack_of_players ha ht hcharge hself, Option.any_some]
    by_cases hput : player.id ≠ t.id ∧ w.isUnprovoked player t = true
    · have hkill : w.isUnjustKill a t = decide (t.skull = .none) := by
        rw [Bool.eq_iff_iff, hunjust]
        simp [hput]
      rw [if_pos hput, hkill]
      unfold skullOf
      rw [creature?_modifyCreature]
      by_cases hid : player.id = id
      · -- here the blow looks at both skulls, as the rule on kills does
        rw [if_pos hid, Option.map_map, hid]
        cases hmarked : decide (player.skull = .none) && decide (t.skull = .none) with
        | false =>
          simp only [decide_true, Bool.true_and, hmarked]
          rfl
        | true =>
          simp only [decide_true, Bool.true_and, hmarked]
          rw [Option.map_map]
          rfl
      · rw [if_neg hid]
        simp [hid]
    · have hkill : w.isUnjustKill a t = false :=
        Bool.eq_false_iff.2 fun hyes => hput ⟨(hunjust.1 hyes).1, (hunjust.1 hyes).2.1⟩
      rw [if_neg hput, hkill]
      simp

/-- Whom a blow does not whiten keeps the skull that it has, or has not. -/
theorem skullOf_of_not_whitens (ha : w.creature? attacker = some a)
    (ht : w.creature? target = some t) (hvictim : t.isPlayer = true) {id : CreatureId}
    (h : w.whitens a t id = false) :
    (w.attackedCreature attacker target).skullOf id = w.skullOf id := by
  rw [skullOf_attackedCreature ha ht hvictim, h]
  rfl

/-! ## §3. Agreement. -/

/-- **The two rules agree.**  A blow on a player, by a player or by one that serves a player, turns the skull
    of that player from none to white exactly if the kill would be unjust and that player has no skull.  In
    every other case, and when the attacker serves no player at all, all skulls stay; and no blow on a player
    changes any other skull. -/
theorem whitened_iff_isUnjustKill (ha : w.creature? attacker = some a)
    (ht : w.creature? target = some t) (hvictim : t.isPlayer = true) :
    let after := w.attackedCreature attacker target
    (∀ player, w.playerInCharge a = some player → w.creature? player.id = some player →
      (w.skullOf player.id = some .none ∧ after.skullOf player.id = some .white
        ↔ w.isUnjustKill a t = true ∧ player.skull = .none))
    ∧ ((∀ player, w.playerInCharge a = some player →
        ¬ (w.isUnjustKill a t = true ∧ player.skull = .none)) →
      ∀ id, after.skullOf id = w.skullOf id)
    ∧ ∀ id, (∀ player, w.playerInCharge a = some player → player.id ≠ id) →
      after.skullOf id = w.skullOf id := by
  intro after
  refine ⟨fun player hcharge hregistered => ?_, fun hfair id => ?_, fun id hother => ?_⟩
  · have hbefore : w.skullOf player.id = some player.skull := congrArg (Option.map _) hregistered
    have hafter := skullOf_attackedCreature ha ht hvictim player.id
    by_cases hwhite : w.whitens a t player.id = true
    · rw [if_pos hwhite, hbefore] at hafter
      obtain ⟨player', hplayer', -, hnone, hunjust⟩ := whitens_iff.1 hwhite
      obtain rfl : player = player' := Option.some.inj (hcharge.symm.trans hplayer')
      rw [hbefore, hnone]
      exact ⟨fun _ => ⟨hunjust, rfl⟩, fun _ => ⟨rfl, hafter⟩⟩
    · rw [if_neg hwhite, hbefore] at hafter
      rw [hbefore]
      constructor
      · -- a skull that stays is not none first and white then
        rintro ⟨hnone, hwhitened⟩
        rw [hafter, hnone] at hwhitened
        cases hwhitened
      · rintro ⟨hunjust, hnone⟩
        exact absurd (whitens_iff.2 ⟨player, hcharge, rfl, hnone, hunjust⟩) hwhite
  · refine skullOf_of_not_whitens ha ht hvictim (Bool.eq_false_iff.2 fun hwhite => ?_)
    obtain ⟨player, hcharge, -, hnone, hunjust⟩ := whitens_iff.1 hwhite
    exact hfair player hcharge ⟨hunjust, hnone⟩
  · refine skullOf_of_not_whitens ha ht hvictim (Bool.eq_false_iff.2 fun hwhite => ?_)
    obtain ⟨player, hcharge, hid, -⟩ := whitens_iff.1 hwhite
    exact hother player hcharge hid

/-- A knight, a druid who did nothing to it, and the knight's wolf. -/
def hunt : World :=
  (((World.new .empty {} 0).addCreature (.new ⟨1⟩ "knight" .player ⟨100, 100, 7⟩)).addCreature
    (.new ⟨2⟩ "druid" .player ⟨101, 100, 7⟩)).addCreature
    { Creature.new ⟨3⟩ "wolf" .monster ⟨101, 101, 7⟩ with master := some ⟨1⟩ }

/-- The wolf bites the druid: a kill would be unjust, so the knight gets a white skull, and nobody else
    does. -/
theorem whitened_iff_isUnjustKill_wolf :
    ∃ wolf knight druid : Creature, hunt.creature? ⟨3⟩ = some wolf
      ∧ hunt.creature? ⟨2⟩ = some druid ∧ druid.isPlayer = true
      ∧ hunt.playerInCharge wolf = some knight ∧ hunt.creature? knight.id = some knight
      ∧ hunt.isUnjustKill wolf druid = true ∧ knight.skull = .none
      ∧ hunt.skullOf knight.id = some .none
      ∧ (hunt.attackedCreature ⟨3⟩ ⟨2⟩).skullOf knight.id = some .white
      ∧ (hunt.attackedCreature ⟨3⟩ ⟨2⟩).skullOf ⟨2⟩ = hunt.skullOf ⟨2⟩ := by
  let knight := Creature.new ⟨1⟩ "knight" .player ⟨100, 100, 7⟩
  let druid := Creature.new ⟨2⟩ "druid" .player ⟨101, 100, 7⟩
  let wolf := { Creature.new ⟨3⟩ "wolf" .monster ⟨101, 101, 7⟩ with master := some ⟨1⟩ }
  have hknight : hunt.creature? ⟨1⟩ = some knight := by
    simp [hunt, creature?_addCreature, Creature.new, knight]
  have hdruid : hunt.creature? ⟨2⟩ = some druid := by
    simp [hunt, creature?_addCreature, Creature.new, druid]
  have hwolf : hunt.creature? ⟨3⟩ = some wolf := by
    simp [hunt, creature?_addCreature, Creature.new, wolf]
  have hcharge : hunt.playerInCharge wolf = some knight := by
    show (hunt.creature? ⟨1⟩).filter Creature.isPlayer = some knight
    rw [hknight]
    rfl
  have hunjust : hunt.isUnjustKill wolf druid = true := by decide
  obtain ⟨hagree, -, hothers⟩ := whitened_iff_isUnjustKill hwolf hdruid rfl
  obtain ⟨hbefore, hafter⟩ := (hagree knight hcharge hknight).2 ⟨hunjust, rfl⟩
  refine ⟨wolf, knight, druid, hwolf, hdruid, rfl, hcharge, hknight, hunjust, rfl, hbefore, hafter, ?_⟩
  refine hothers ⟨2⟩ fun player hplayer => ?_
  obtain rfl : knight = player := Option.some.inj (hcharge.symm.trans hplayer)
  decide

end World

end Realm
