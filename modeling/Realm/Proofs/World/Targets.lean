/-
  Realm.Proofs.World.Targets — whom a player may pick as a target, and what secure mode has to do with it.

  A pick is judged by the zones of both, by what the player can do and what the target is, by secure mode
  or a black skull, and at last as an attack.  So what may be picked may be attacked.  Secure mode adds a
  demand of its own; but without it a player with a black skull is held to more than an attack asks for,
  and there secure mode lets a player pick what it may not pick otherwise.

  Main statements:
  * `verdictOnTarget_eq_allowed_iff` — all that an allowed pick has passed;
  * `fairPick_of_allowed` — no pick allows what an attack forbids;
  * `pick_without_safeMode` — what becomes of a pick when secure mode is turned off.
-/
import Realm.Proofs.Combat.Pvp

namespace Realm

/-! ## §1. Judgements in turn. -/

namespace Verdict

section

variable {reason : Prop} [Decidable reason]

/-- A reason to refuse that is looked at before all else. -/
theorem refused_eq_allowed_iff {refused : Verdict} (hrefused : refused ≠ .allowed) (rest : Verdict) :
    (if reason then refused else rest) = .allowed ↔ ¬ reason ∧ rest = .allowed := by
  by_cases h : reason <;> simp [h, hrefused]

/-- An excuse that is looked at before all else. -/
theorem excused_eq_allowed_iff (rest : Verdict) :
    (if reason then .allowed else rest) = .allowed ↔ (¬ reason → rest = .allowed) := by
  by_cases h : reason <;> simp [h]

end

/-- A judgement that is passed before all else. -/
theorem first_eq_allowed_iff (first rest : Verdict) :
    (if !first.isAllowed then first else rest) = .allowed ↔ first = .allowed ∧ rest = .allowed := by
  cases first <;> simp [isAllowed]

end Verdict

/-! ## §2. What a pick has passed. -/

namespace Creature

/-- **Ties to another:** one party, one guild that is at war, or a guild that fights the other's. -/
def hasTies (c d : Creature) : Bool := c.isPartner d || c.isWarPartner d || c.isGuildEnemy d

/-- The same creature with secure mode on or off. -/
def withSafeMode (c : Creature) (on : Bool) : Creature := { c with safeMode := on }

end Creature

namespace World

open Verdict

/-- Whether a player with a black skull would open a fight with one that has none. -/
def opensFight (player target : Creature) : Bool :=
  player.skull = .black && target.skull = .none && !target.hasAttacked player

variable {w : World} {player target : Creature}

/-- **A black skull** bars an attack that opens a fight with someone to whom there are no ties. -/
theorem barredByBlackSkull_eq_opensFight (player target : Creature) :
    barredByBlackSkull player target = (opensFight player target && !player.hasTies target) := by
  unfold barredByBlackSkull opensFight Creature.hasTies
  simp only [Bool.not_or]
  ac_rfl

/-- **Open ground for a fight:** neither stands in a protection zone, and if a player answers for the
    target, neither stands where players must not fight. -/
structure OpenGround (w : World) (player target : Creature) : Prop where
  unprotected : w.zoneOf player ≠ .protection ∧ w.zoneOf target ≠ .protection
  contested : target.isPlayer = true ∨ (w.playerMaster target).isSome = true →
    w.zoneOf player ≠ .noPvp ∧ w.zoneOf target ≠ .noPvp

/-- **A fair pick.**  The target is another creature that can be attacked, the player can use combat, and
    its attack on the target is allowed; zones leave it open, unless the player ignores them; and in secure
    mode a player is picked only for its ties, for its skull, or in zones where players fight. -/
structure FairPick (w : World) (player target : Creature) : Prop where
  other : player.id ≠ target.id
  attackable : target.attackable = true
  able : player.has (·.cannotUseCombat) = false
  attack : w.verdictOnAttack (some player) target = .allowed
  ground : player.has (·.ignoresProtection) = false → w.OpenGround player target
  secure : player.safeMode = true → target.isPlayer = true →
    player.hasTies target = true ∨ target.skull ≠ .none ∨ w.bothInPvpZone player target = true

theorem isSome_playerInCharge_iff (c : Creature) :
    (w.playerInCharge c).isSome = true ↔ c.isPlayer = true ∨ (w.playerMaster c).isSome = true := by
  unfold playerInCharge
  cases c.isPlayer <;> simp

/-- **Zones** allow a pick on open ground, and every pick of a player that ignores them. -/
theorem verdictOfZones_eq_allowed_iff :
    w.verdictOfZones player target = .allowed
      ↔ (player.has (·.ignoresProtection) = false → w.OpenGround player target) := by
  unfold verdictOfZones
  dsimp only
  rw [excused_eq_allowed_iff, refused_eq_allowed_iff (by decide), refused_eq_allowed_iff (by decide),
    excused_eq_allowed_iff, refused_eq_allowed_iff (by decide), refused_eq_allowed_iff (by decide),
    Bool.not_eq_true, Bool.not_eq_true, Option.isNone_eq_false_iff, isSome_playerInCharge_iff]
  constructor
  · intro h hbound
    obtain ⟨hmine, htheirs, hpeace⟩ := h hbound
    exact ⟨⟨hmine, htheirs⟩, fun howned => ⟨(hpeace howned).1, (hpeace howned).2.1⟩⟩
  · intro h hbound
    obtain ⟨⟨hmine, htheirs⟩, hpeace⟩ := h hbound
    exact ⟨hmine, htheirs, fun howned => ⟨(hpeace howned).1, (hpeace howned).2, rfl⟩⟩

/-- **Secure mode and black skulls:** what they allow of a player's pick of a player. -/
theorem verdictOfSkulls_eq_allowed_iff :
    w.verdictOfSkulls player target = .allowed
      ↔ if player.safeMode then
          player.hasTies target = true ∨ target.skull ≠ .none ∨ w.bothInPvpZone player target = true
        else opensFight player target = false := by
  unfold verdictOfSkulls
  cases player.safeMode with
  | true =>
    show (if player.hasTies target then Verdict.allowed else _) = _ ↔ _
    rw [if_pos rfl, excused_eq_allowed_iff, refused_eq_allowed_iff (by decide)]
    cases player.hasTies target with
    | true => simp
    | false => by_cases htarget : target.skull = .none <;> simp [htarget]
  | false =>
    show (if opensFight player target then Verdict.notThisPerson else _) = _ ↔ _ = false
    rw [refused_eq_allowed_iff (by decide)]
    simp

theorem refusal_ne_allowed (target : Creature) : refusal target ≠ .allowed := by
  unfold refusal
  split <;> decide

/-- **The judgements in turn:** a pick is allowed if all of them allow it. -/
theorem verdictOnTarget_eq_allowed_iff_all :
    w.verdictOnTarget player target = .allowed
      ↔ player.id ≠ target.id ∧ w.verdictOfZones player target = .allowed
        ∧ (player.has (·.cannotUseCombat) = false ∧ target.attackable = true)
        ∧ (target.isPlayer = true → w.verdictOfSkulls player target = .allowed)
        ∧ w.verdictOnAttack (some player) target = .allowed := by
  have hskulls : (if target.isPlayer then w.verdictOfSkulls player target else .allowed) = .allowed
      ↔ (target.isPlayer = true → w.verdictOfSkulls player target = .allowed) := by
    cases target.isPlayer <;> simp
  unfold verdictOnTarget
  dsimp only
  rw [refused_eq_allowed_iff (by decide), first_eq_allowed_iff,
    refused_eq_allowed_iff (refusal_ne_allowed target), first_eq_allowed_iff, hskulls]
  simp

/-- **All that an allowed pick has passed:** it is fair; and without secure mode, a player with a black
    skull opens no fight by it. -/
theorem verdictOnTarget_eq_allowed_iff :
    w.verdictOnTarget player target = .allowed
      ↔ w.FairPick player target
        ∧ (player.safeMode = false → target.isPlayer = true → opensFight player target = false) := by
  rw [verdictOnTarget_eq_allowed_iff_all, verdictOfZones_eq_allowed_iff,
    verdictOfSkulls_eq_allowed_iff]
  constructor
  · rintro ⟨hid, hground, ⟨hable, hattackable⟩, hskulls, hattack⟩
    -- what the skulls were asked depends on the mode, and each mode owes nothing to the other
    cases hmode : player.safeMode with
    | true =>
      rw [hmode, if_pos rfl] at hskulls
      exact ⟨⟨hid, hattackable, hable, hattack, hground, fun _ => hskulls⟩, nofun⟩
    | false =>
      rw [hmode, if_neg Bool.false_ne_true] at hskulls
      refine ⟨⟨hid, hattackable, hable, hattack, hground, fun hon => ?_⟩, fun _ => hskulls⟩
      rw [hmode] at hon
      cases hon
  · rintro ⟨hfair, hopens⟩
    refine ⟨hfair.other, hfair.ground, ⟨hfair.able, hfair.attackable⟩, fun hplayer => ?_, hfair.attack⟩
    cases hmode : player.safeMode with
    | true => exact hfair.secure hmode hplayer
    | false => exact hopens hmode hplayer

/-- Whom a player picks fairly, its casts may affect. -/
theorem FairPick.mayAffect (h : w.FairPick player target)
    (hplayer : w.creature? player.id = some player)
    (htarget : w.creature? target.id = some target) {c : Cast} (hcaster : c.caster = some player.id) :
    c.mayAffect w target.id = true := by
  have hcaster? : c.caster? w = some player := by
    rw [Cast.caster?, hcaster]
    exact hplayer
  have hother : c.caster ≠ some target.id := by
    rw [hcaster]
    exact fun hsame => h.other (Option.some.inj hsame)
  unfold Cast.mayAffect
  rw [htarget, Option.any_some, hcaster?, h.attack, decide_eq_true hother]
  exact Bool.or_true _

/-- **No pick allows what an attack forbids.**  Whatever the world: if a player may pick a target, the pick is
    fair.  So when both are registered, no cast of the player on the target is refused. -/
theorem fairPick_of_allowed (h : w.verdictOnTarget player target = .allowed) :
    w.FairPick player target
      ∧ (w.creature? player.id = some player → w.creature? target.id = some target →
        ∀ c : Cast, c.caster = some player.id → c.mayAffect w target.id = true) := by
  have hfair : w.FairPick player target := (verdictOnTarget_eq_allowed_iff.1 h).1
  exact ⟨hfair, fun hplayer htarget _ hcaster => hfair.mayAffect hplayer htarget hcaster⟩

/-- A knight with a black skull, in secure mode. -/
def outlaw : Creature :=
  { Creature.new ⟨1⟩ "knight" .player ⟨100, 100, 7⟩ with skull := .black, party := some 7 }

/-- A druid of the same party, whom nobody holds anything against. -/
def comrade : Creature :=
  { Creature.new ⟨2⟩ "druid" .player ⟨101, 100, 7⟩ with party := some 7 }

/-- A thief with a white skull. -/
def thief : Creature :=
  { Creature.new ⟨3⟩ "thief" .player ⟨102, 100, 7⟩ with skull := .white }

/-- The knight, the druid and the thief. -/
def outlaws : World :=
  (((World.new .empty {} 0).addCreature outlaw).addCreature comrade).addCreature thief

/-- The knight may pick the thief for its skull, and cast on it what it will. -/
theorem fairPick_of_allowed_thief :
    outlaw.safeMode = true ∧ outlaws.verdictOnTarget outlaw thief = .allowed
      ∧ outlaws.creature? ⟨1⟩ = some outlaw ∧ outlaws.creature? ⟨3⟩ = some thief
      ∧ outlaws.FairPick outlaw thief
      ∧ ∀ c : Cast, c.caster = some ⟨1⟩ → c.mayAffect outlaws ⟨3⟩ = true := by
  have hpick : outlaws.verdictOnTarget outlaw thief = .allowed := by decide
  have hknight : outlaws.creature? ⟨1⟩ = some outlaw := by
    simp [outlaws, creature?_addCreature, Creature.new, outlaw, comrade, thief]
  have hthief : outlaws.creature? ⟨3⟩ = some thief := by
    simp [outlaws, creature?_addCreature, Creature.new, thief]
  obtain ⟨hfair, hcasts⟩ := fairPick_of_allowed hpick
  exact ⟨rfl, hpick, hknight, hthief, hfair, hcasts hknight hthief⟩

/-! ## §3. Secure mode in a world. -/

/-- The same world, where a creature has secure mode on or off. -/
def setSafeMode (w : World) (id : CreatureId) (on : Bool) : World :=
  w.modifyCreature id (·.withSafeMode on)

/-- **The same but for secure mode.** -/
def UpToMode (c c' : Creature) : Prop := ∃ on, c' = c.withSafeMode on

theorem UpToMode.refl (c : Creature) : UpToMode c c := ⟨c.safeMode, rfl⟩

section

variable (w : World) (id : CreatureId) (on : Bool) {c c' : Creature}

theorem creature?_setSafeMode (id' : CreatureId) :
    Option.Rel UpToMode (w.creature? id') ((w.setSafeMode id on).creature? id') := by
  unfold setSafeMode
  rw [creature?_modifyCreature]
  split
  · cases w.creature? id' with
    | none => exact .none
    | some c => exact .some ⟨on, rfl⟩
  · exact rel_refl .refl _

theorem playerMaster_setSafeMode (h : UpToMode c c') :
    Option.Rel UpToMode (w.playerMaster c) ((w.setSafeMode id on).playerMaster c') := by
  obtain ⟨mode, rfl⟩ := h
  refine rel_filter ?_ fun x y hxy => ?_
  · show Option.Rel _ (c.master.bind _) (c.master.bind _)
    cases c.master with
    | none => exact .none
    | some master => exact creature?_setSafeMode w id on master
  · obtain ⟨_, rfl⟩ := hxy
    rfl

theorem playerInCharge_setSafeMode (h : UpToMode c c') :
    Option.Rel UpToMode (w.playerInCharge c) ((w.setSafeMode id on).playerInCharge c') := by
  have hmaster := playerMaster_setSafeMode w id on h
  obtain ⟨mode, rfl⟩ := h
  unfold playerInCharge
  show Option.Rel _ (if c.isPlayer then _ else _) (if c.isPlayer then _ else _)
  split
  · exact .some ⟨mode, rfl⟩
  · exact hmaster

theorem targetPlayer_setSafeMode (c : Creature) :
    Option.Rel UpToMode (w.targetPlayer c) ((w.setSafeMode id on).targetPlayer c) := by
  unfold targetPlayer
  show Option.Rel _ (if w.rules.minPvpLevelForSummons then _ else _)
    (if w.rules.minPvpLevelForSummons then _ else _)
  split
  · exact playerInCharge_setSafeMode w id on (.refl c)
  · exact rel_refl .refl _

/-- No secure mode bears on what the world asks of two players. -/
theorem verdictBetweenPlayers_setSafeMode (h : UpToMode c c') (target : Creature) (walk : Bool) :
    (w.setSafeMode id on).verdictBetweenPlayers c' target walk
      = w.verdictBetweenPlayers c target walk := by
  have htarget := targetPlayer_setSafeMode w id on target
  have hcharge := playerInCharge_setSafeMode w id on h
  obtain ⟨mode, rfl⟩ := h
  unfold verdictBetweenPlayers
  -- once both players are looked up, nothing that is read of them is their mode
  generalize w.targetPlayer target = t, (w.setSafeMode id on).targetPlayer target = t' at htarget ⊢
  generalize w.playerInCharge c = p,
    (w.setSafeMode id on).playerInCharge (c.withSafeMode mode) = p' at hcharge ⊢
  cases htarget with
  | none => rfl
  | some ht =>
    cases hcharge with
    | none => rfl
    | some hp =>
      obtain ⟨_, rfl⟩ := ht
      obtain ⟨_, rfl⟩ := hp
      rfl

theorem barred_setSafeMode (h : UpToMode c c') (target : Creature) :
    (w.setSafeMode id on).barred c' target = w.barred c target := by
  have hmaster := playerMaster_setSafeMode w id on h
  obtain ⟨mode, rfl⟩ := h
  unfold barred
  generalize w.playerMaster c = m,
    (w.setSafeMode id on).playerMaster (c.withSafeMode mode) = m' at hmaster ⊢
  cases hmaster with
  | none => rfl
  | some hm =>
    obtain ⟨_, rfl⟩ := hm
    rfl

/-- **No secure mode bears on an attack:** not the attacker's, and not that of anyone in the world. -/
theorem verdictOnAttack_setSafeMode (h : UpToMode c c') (target : Creature) :
    (w.setSafeMode id on).verdictOnAttack (some c') target = w.verdictOnAttack (some c) target := by
  have hbarred := barred_setSafeMode w id on h target
  have hbetween := verdictBetweenPlayers_setSafeMode w id on h target false
  have hserves := isSome_eq_of_rel (playerMaster_setSafeMode w id on h)
  have hplayer : c'.isPlayer = c.isPlayer := by
    obtain ⟨_, rfl⟩ := h
    rfl
  unfold verdictOnAttack
  dsimp only
  rw [hbarred, hbetween, hserves, hplayer]
  rfl

end

/-- A fair pick is fair without secure mode, too. -/
theorem FairPick.without_safeMode (h : w.FairPick player target) (id : CreatureId) :
    (w.setSafeMode id false).FairPick (player.withSafeMode false) target where
  other := h.other
  attackable := h.attackable
  able := h.able
  attack := by
    rw [verdictOnAttack_setSafeMode w id false ⟨false, rfl⟩]
    exact h.attack
  ground hbound := by
    -- who answers for the target is looked up in the world, where secure mode was just turned off
    obtain ⟨hunprotected, hcontested⟩ := h.ground hbound
    refine ⟨hunprotected, fun howned => hcontested ?_⟩
    rw [isSome_eq_of_rel (playerMaster_setSafeMode w id false (.refl target))] at howned
    exact howned
  secure := nofun

/-! ## §4. Without secure mode. -/

theorem barred_of_allowed (h : w.verdictOnAttack (some player) target = .allowed) :
    w.barred player target = false := by
  unfold verdictOnAttack at h
  dsimp only at h
  rw [refused_eq_allowed_iff (refusal_ne_allowed target)] at h
  exact Bool.eq_false_iff.2 h.1

/-- **A fair pick that opens a fight** is one of a player to whom there are ties: others may not be
    attacked. -/
theorem FairPick.hasTies (h : w.FairPick player target) (hplayer : player.isPlayer = true)
    (htarget : target.isPlayer = true) (hopens : opensFight player target = true) :
    player.hasTies target = true := by
  have hbarred := barred_of_allowed h.attack
  unfold barred at hbarred
  rw [if_pos htarget, hplayer, barredByBlackSkull_eq_opensFight, hopens] at hbarred
  simp only [Bool.or_eq_false_iff, Bool.true_and, Bool.not_eq_false'] at hbarred
  -- no flag, no lock and no black skull bars the attack; the last of these is what speaks of ties
  exact hbarred.1.2.2

/-- Without secure mode, a fair pick of a player is refused if it opens a fight. -/
theorem FairPick.verdict_of_opensFight (h : w.FairPick player target)
    (hmode : player.safeMode = false) (htarget : target.isPlayer = true)
    (hopens : opensFight player target = true) :
    w.verdictOnTarget player target = .notThisPerson := by
  have hzones : w.verdictOfZones player target = .allowed := verdictOfZones_eq_allowed_iff.2 h.ground
  have hskulls : w.verdictOfSkulls player target = .notThisPerson := by
    unfold verdictOfSkulls
    rw [hmode, if_neg Bool.false_ne_true]
    exact if_pos hopens
  unfold verdictOnTarget
  dsimp only
  rw [if_neg h.other, hzones, h.able, h.attackable, htarget, if_pos rfl, hskulls]
  rfl

/-- **What becomes of a pick when secure mode is turned off.**  Let a player be allowed to pick a target.  In
    the same world without secure mode it still is, unless the target is a player with whom, for its black
    skull, it would open a fight.  Such a target it is refused, although it has ties to it, and may attack
    it. -/
theorem pick_without_safeMode (hplayer : player.isPlayer = true)
    (h : w.verdictOnTarget player target = .allowed) :
    let off := w.setSafeMode player.id false
    let player' := player.withSafeMode false
    (off.verdictOnTarget player' target = .allowed
      ↔ ¬ (target.isPlayer = true ∧ opensFight player target = true))
    ∧ (target.isPlayer = true ∧ opensFight player target = true →
      off.verdictOnTarget player' target = .notThisPerson ∧ player'.hasTies target = true
        ∧ off.verdictOnAttack (some player') target = .allowed) := by
  intro off player'
  have hfair : w.FairPick player target := (verdictOnTarget_eq_allowed_iff.1 h).1
  have hoff : off.FairPick player' target := hfair.without_safeMode player.id
  refine ⟨?_, fun hopens => ⟨hoff.verdict_of_opensFight rfl hopens.1 hopens.2, ?_, hoff.attack⟩⟩
  · rw [verdictOnTarget_eq_allowed_iff]
    constructor
    · rintro ⟨-, hno⟩ ⟨htarget, hopens⟩
      have hopens' : opensFight player target = false := hno rfl htarget
      rw [hopens] at hopens'
      cases hopens'
    · intro hno
      exact ⟨hoff, fun _ htarget => Bool.eq_false_iff.2 fun hopens => hno ⟨htarget, hopens⟩⟩
  · exact hfair.hasTies hplayer hopens.1 hopens.2

/-- With secure mode and without, the knight may pick the thief. -/
theorem pick_without_safeMode_thief :
    outlaw.isPlayer = true ∧ outlaw.safeMode = true
      ∧ outlaws.verdictOnTarget outlaw thief = .allowed
      ∧ (outlaws.setSafeMode ⟨1⟩ false).verdictOnTarget (outlaw.withSafeMode false) thief
        = .allowed := by
  have hpick : outlaws.verdictOnTarget outlaw thief = .allowed := by decide
  have hfair : ¬ (thief.isPlayer = true ∧ opensFight outlaw thief = true) := by decide
  exact ⟨rfl, rfl, hpick, (pick_without_safeMode rfl hpick).1.2 hfair⟩

/-- **Secure mode allows what is refused without it:** in secure mode the knight may pick the druid, for they
    are of one party; when secure mode is turned off, it may not. -/
theorem comrade_refused_without_safeMode :
    outlaw.isPlayer = true ∧ outlaw.safeMode = true
      ∧ outlaws.verdictOnTarget outlaw comrade = .allowed
      ∧ (outlaws.setSafeMode ⟨1⟩ false).verdictOnTarget (outlaw.withSafeMode false) comrade
        = .notThisPerson := by
  decide

end World

end Realm
