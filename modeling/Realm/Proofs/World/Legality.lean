/-
  Realm.Proofs.World.Legality — verdicts that a combat cannot change.

  What the rules ask of creatures, places and masters lies in the part of them that a frame leaves
  alone, but for two things: skulls, and who attacked whom.  Those bear on players with a black skull
  only, and a combat gives no one a black skull and takes none away.

  Main statements:
  * `Frame.verdictOnTile_eq` — whether a combat may reach a tile stays what it was;
  * `Frame.verdictOnAttack_eq` — so does whether an attacker may hurt a target that is not marked.
-/
import Realm.Proofs.World.Frame

namespace Realm

/-! ## §1. Black skulls. -/

namespace Creature

variable {c c' d d' : Creature}

/-- **A black skull** bars an attack as before when the attacker's skull has stayed black or not black,
    and the target is not marked. -/
theorem barredByBlackSkull_eq (hc : c'.fixed = c.fixed) (hd : d'.fixed = d.fixed)
    (hblack : c'.skull = .black ↔ c.skull = .black) (hskull : d'.skull = d.skull)
    (hattacked : d'.attacked = d.attacked) :
    World.barredByBlackSkull c' d' = World.barredByBlackSkull c d := by
  have hguild : c'.isGuildEnemy d' = c.isGuildEnemy d :=
    read₂_of_fixed hc hd isGuildEnemy
  have hparty : c'.isPartner d' = c.isPartner d := read₂_of_fixed hc hd isPartner
  have hwar : c'.isWarPartner d' = c.isWarPartner d :=
    read₂_of_fixed hc hd isWarPartner
  have hfights : d'.has (·.gainsNoFights) = d.has (·.gainsNoFights) :=
    read_of_fixed hd fun d => d.has (·.gainsNoFights)
  have hid : c'.id = c.id := read_of_fixed hc id
  unfold World.barredByBlackSkull hasAttacked
  rw [hguild, hparty, hwar, hskull, hfights, hattacked, hid]
  simp only [hblack]

end Creature

namespace World.Frame

variable {hurt marked armed : CreatureId → Prop} {gain : Position → Nat} {w w' : World}
variable (h : Frame hurt marked armed gain w w') {c c' d d' : Creature}

include h

/-! ## §2. Who answers for whom. -/

theorem creature?_fixed (id : CreatureId) :
    (w'.creature? id).map Creature.fixed = (w.creature? id).map Creature.fixed :=
  map_eq_of_rel (h.creature id) fun _ _ hwithin => hwithin.fixed

theorem playerMaster_fixed (hc : c'.fixed = c.fixed) :
    (w'.playerMaster c').map Creature.fixed = (w.playerMaster c).map Creature.fixed := by
  have hmaster : c'.master = c.master := Creature.read_of_fixed hc Creature.master
  unfold playerMaster
  rw [hmaster]
  cases c.master with
  | none => rfl
  | some master =>
    have hid := h.creature?_fixed master
    show ((w'.creature? master).filter Creature.isPlayer).map _
      = ((w.creature? master).filter Creature.isPlayer).map _
    cases hbefore : w.creature? master with
    | none =>
      rw [hbefore, Option.map_none, Option.map_eq_none_iff] at hid
      rw [hid]
    | some m =>
      rw [hbefore] at hid
      obtain ⟨m', hafter, hfixed⟩ := Option.map_eq_some_iff.1 hid
      have hplayer : m'.isPlayer = m.isPlayer := Creature.read_of_fixed hfixed Creature.isPlayer
      rw [hafter, Option.filter_some, Option.filter_some, hplayer]
      split
      · exact congrArg some hfixed
      · rfl

theorem playerInCharge_fixed (hc : c'.fixed = c.fixed) :
    (w'.playerInCharge c').map Creature.fixed = (w.playerInCharge c).map Creature.fixed := by
  have hplayer : c'.isPlayer = c.isPlayer := Creature.read_of_fixed hc Creature.isPlayer
  unfold playerInCharge
  rw [hplayer]
  split
  · exact congrArg some hc
  · exact h.playerMaster_fixed hc

theorem targetPlayer_fixed (hc : c'.fixed = c.fixed) :
    (w'.targetPlayer c').map Creature.fixed = (w.targetPlayer c).map Creature.fixed := by
  have hplayer : c'.isPlayer = c.isPlayer := Creature.read_of_fixed hc Creature.isPlayer
  unfold targetPlayer
  rw [h.rules, hplayer]
  split
  · exact h.playerInCharge_fixed hc
  · split
    · exact congrArg some hc
    · rfl

/-! ## §3. Places. -/

/-- What is read off the flags of a place stays, where a place without a tile reads as one with a
    placeholder. -/
theorem flags_eq (p : Position) :
    (((w'.tile? p).map Tile.flags).getD {} : TileFlags) = ((w.tile? p).map Tile.flags).getD {} := by
  rcases h.tile p with ⟨hbefore, hafter⟩ | ⟨added, -, hafter⟩
  · rw [hbefore, hafter]
  · rw [hafter]
    cases w.tile? p with
    | none => rfl
    | some t => rfl

theorem zoneOf_eq (hc : c'.fixed = c.fixed) : w'.zoneOf c' = w.zoneOf c := by
  have hplace : c'.position = c.position := Creature.read_of_fixed hc Creature.position
  have hflags := h.flags_eq c.position
  have hzone : ∀ (w : World) (c : Creature), w.zoneOf c
      = Tile.zone { flags := ((w.tile? c.position).map Tile.flags).getD {} } := by
    intro w c
    unfold zoneOf
    cases w.tile? c.position with
    | none => rfl
    | some t => rfl
  rw [hzone, hzone, hplace, hflags]

theorem bothInPvpZone_eq (hc : c'.fixed = c.fixed) (hd : d'.fixed = d.fixed) :
    w'.bothInPvpZone c' d' = w.bothInPvpZone c d := by
  rw [bothInPvpZone, bothInPvpZone, h.zoneOf_eq hc, h.zoneOf_eq hd]

theorem isNoPvp_eq (p : Position) : w'.isNoPvp p = w.isNoPvp p := by
  have hflag : ∀ (w : World), w.isNoPvp p
      = (((w.tile? p).map Tile.flags).getD {} : TileFlags).noPvpZone := by
    intro w
    unfold isNoPvp
    cases w.tile? p with
    | none => rfl
    | some t => rfl
  rw [hflag, hflag, h.flags_eq]

/-- **Reaching a tile:** the verdict on a tile that is the same is the same. -/
theorem verdictOnTile_eq {caster caster' : Option Creature}
    (hcaster : caster'.map Creature.fixed = caster.map Creature.fixed) (p : Position) (t : Tile)
    (aggressive : Bool) :
    w'.verdictOnTile caster' p t aggressive = w.verdictOnTile caster p t aggressive := by
  unfold verdictOnTile
  rw [h.catalogue]
  cases caster with
  | none =>
    rw [Option.map_none, Option.map_eq_none_iff] at hcaster
    rw [hcaster]
  | some c =>
    obtain ⟨c', hcaster', hfixed⟩ := Option.map_eq_some_iff.1 hcaster
    have hplace : c'.position = c.position := Creature.read_of_fixed hfixed Creature.position
    have hignores : c'.has (·.ignoresProtection) = c.has (·.ignoresProtection) :=
      Creature.read_of_fixed hfixed fun c => c.has (·.ignoresProtection)
    rw [hcaster']
    dsimp only
    rw [hplace, hignores]

/-! ## §4. Attacks. -/

theorem keptApart_eq {p p' t t' : Creature} (hc : c'.fixed = c.fixed) (hd : d'.fixed = d.fixed)
    (hp : p'.fixed = p.fixed) (ht : t'.fixed = t.fixed) (walk : Bool) :
    w'.keptApart c' d' p' t' walk = w.keptApart c d p t walk := by
  have hguild : t'.isGuildEnemy p' = t.isGuildEnemy p :=
    Creature.read₂_of_fixed ht hp Creature.isGuildEnemy
  have hlevel : belowLevel w.rules p' t' walk = belowLevel w.rules p t walk :=
    Creature.read₂_of_fixed hp ht fun p t => belowLevel w.rules p t walk
  unfold keptApart
  rw [h.rules, hguild, h.bothInPvpZone_eq hc hd, hlevel]

theorem verdictBetweenPlayers_eq (hc : c'.fixed = c.fixed) (hd : d'.fixed = d.fixed) (walk : Bool) :
    w'.verdictBetweenPlayers c' d' walk = w.verdictBetweenPlayers c d walk := by
  have htarget := h.targetPlayer_fixed hd
  have hcharge := h.playerInCharge_fixed hc
  have hrefusal : refusal d' = refusal d := Creature.read_of_fixed hd refusal
  unfold verdictBetweenPlayers
  cases ht : w.targetPlayer d with
  | none =>
    rw [ht, Option.map_none, Option.map_eq_none_iff] at htarget
    rw [htarget]
  | some t =>
    rw [ht] at htarget
    obtain ⟨t', ht', htfixed⟩ := Option.map_eq_some_iff.1 htarget
    rw [ht']
    cases hp : w.playerInCharge c with
    | none =>
      rw [hp, Option.map_none, Option.map_eq_none_iff] at hcharge
      rw [hcharge]
    | some p =>
      rw [hp] at hcharge
      obtain ⟨p', hp', hpfixed⟩ := Option.map_eq_some_iff.1 hcharge
      rw [hp']
      dsimp only
      rw [h.keptApart_eq hc hd hpfixed htfixed, hrefusal]

theorem barred_eq (hc : c'.fixed = c.fixed) (hd : d'.fixed = d.fixed)
    (hskull : c.isPlayer = true → barredByBlackSkull c' d' = barredByBlackSkull c d) :
    w'.barred c' d' = w.barred c d := by
  have hplayer : d'.isPlayer = d.isPlayer := Creature.read_of_fixed hd Creature.isPlayer
  have hsafe : d'.has (·.cannotBeAttacked) = d.has (·.cannotBeAttacked) :=
    Creature.read_of_fixed hd fun d => d.has (·.cannotBeAttacked)
  have hmonster : (d'.isMonster && c'.has (·.cannotAttackMonsters))
      = (d.isMonster && c.has (·.cannotAttackMonsters)) :=
    Creature.read₂_of_fixed hc hd fun c d => d.isMonster && c.has (·.cannotAttackMonsters)
  have hattacker : c'.isPlayer = c.isPlayer := Creature.read_of_fixed hc Creature.isPlayer
  have hforbidden : (c'.has (·.cannotAttackPlayers) || c'.isLockedAgainst d')
      = (c.has (·.cannotAttackPlayers) || c.isLockedAgainst d) :=
    Creature.read₂_of_fixed hc hd fun c d => c.has (·.cannotAttackPlayers) || c.isLockedAgainst d
  have hany : ∀ m : Option Creature, m.any (·.has (·.cannotAttackPlayers))
      = (m.map Creature.fixed).any (·.has (·.cannotAttackPlayers)) := by
    intro m
    cases m <;> rfl
  have hmaster : (w'.playerMaster c').any (·.has (·.cannotAttackPlayers))
      = (w.playerMaster c).any (·.has (·.cannotAttackPlayers)) := by
    rw [hany, h.playerMaster_fixed hc, ← hany]
  unfold barred
  rw [hplayer, hsafe, hmonster, hattacker, hforbidden, hmaster]
  cases hc : c.isPlayer with
  | false => rfl
  | true => rw [hskull hc]

/-- **Hurting a target:** the verdict stays what it was for a target that is not marked. -/
theorem verdictOnAttack_eq (hc : c'.fixed = c.fixed) (hd : d'.fixed = d.fixed)
    (hskull : c.isPlayer = true → barredByBlackSkull c' d' = barredByBlackSkull c d) :
    w'.verdictOnAttack (some c') d' = w.verdictOnAttack (some c) d := by
  have hrefusal : refusal d' = refusal d := Creature.read_of_fixed hd refusal
  have hplayer : d'.isPlayer = d.isPlayer := Creature.read_of_fixed hd Creature.isPlayer
  have hplace : d'.position = d.position := Creature.read_of_fixed hd Creature.position
  have hattacker : c'.isPlayer = c.isPlayer := Creature.read_of_fixed hc Creature.isPlayer
  have hsome : ∀ m : Option Creature, m.isSome = (m.map Creature.fixed).isSome := by
    intro m
    cases m <;> rfl
  have hserves : (w'.playerMaster c').isSome = (w.playerMaster c).isSome := by
    rw [hsome, h.playerMaster_fixed hc, ← hsome]
  unfold verdictOnAttack
  dsimp only
  rw [h.barred_eq hc hd hskull, hrefusal, hattacker, hserves, hplayer, hplace, h.isNoPvp_eq,
    h.verdictBetweenPlayers_eq hc hd]

end World.Frame

end Realm
