/-
  Realm.Proofs.World.FightTimers — nobody stays in a fight for good.

  What marks a creature as fighting is with the creature: it is locked out of protection zones, or has
  attacked someone.  The timer that ends the fight is with the world.  Only blows and prolonged fights
  touch the two.  A blow marks the attacker's player before that player gets its timer, so in between
  one creature may be without; at the end of the blow everyone who is marked has a timer again, and a
  timer that runs out takes the marks with it.

  Main statements:
  * `Timed.attackedCreature` — a blow leaves nobody marked without a timer;
  * `Timed.tick` — nor does time;
  * `run_ends_fights` — in every world that was built, whoever fights has a timer, and is out of the fight
    when it has run out.
-/
import Realm.Proofs.World.Run

namespace Realm

/-! ## §1. Fights. -/

/-- **In a fight:** locked out of protection zones, or held to have attacked someone. -/
def Creature.InFight (c : Creature) : Prop := c.protectionLocked = true ∨ c.attacked ≠ {}

/-- What marks a creature as fighting, under its name. -/
def Creature.marks (c : Creature) : CreatureId × Bool × CreatureSet :=
  (c.id, c.protectionLocked, c.attacked)

/-- A deed that brings nobody into the world who is in a fight already. -/
def Deed.IsPeaceful : Deed → Prop
  | .addCreature c => ¬ c.InFight
  | .addTile .. | .placeItem .. | .removeCreature _ | .round _ => True

namespace World

/-- **Everyone in a fight has a timer,** and everyone is registered under its own name. -/
structure Timed (w : World) : Prop where
  keyed : w.Keyed
  timer : ∀ id c, w.creature? id = some c → c.InFight → id ∈ w.fights

/-! ### Changes that leave fights alone -/

/-- **Fights are left alone** between two worlds: each creature's marks, and all timers. -/
structure SparesFights (w w' : World) : Prop where
  fights : w'.fights = w.fights
  marks : ∀ id, (w'.creature? id).map Creature.marks = (w.creature? id).map Creature.marks

namespace SparesFights

variable {w w' : World}

/-- A change that leaves the creatures alone. -/
theorem of_creatures (hfights : w'.fights = w.fights) (hcreatures : w'.creatures = w.creatures) :
    SparesFights w w' := by
  refine ⟨hfights, fun id => ?_⟩
  rw [creature?, creature?, hcreatures]

theorem refl (w : World) : SparesFights w w := ⟨rfl, fun _ => rfl⟩

/-- A change within a frame that marks nobody. -/
theorem of_frame {hurt armed : CreatureId → Prop} {gain : Position → Nat}
    (hframe : Frame hurt (fun _ => False) armed gain w w') (hfights : w'.fights = w.fights) :
    SparesFights w w' := by
  refine ⟨hfights, fun id => map_eq_of_rel (hframe.creature id) fun c c' hwithin => ?_⟩
  obtain ⟨-, hattacked, hlock⟩ := hwithin.unmarked not_false
  rw [Creature.marks, Creature.marks, hwithin.id_eq, hattacked, hlock]

/-- A change of one creature that leaves its marks alone. -/
theorem of_modifyCreature (id : CreatureId) {f : Creature → Creature}
    (hf : ∀ c, (f c).marks = c.marks) : SparesFights w (w.modifyCreature id f) :=
  ⟨rfl, map_creature?_modifyCreature hf w id⟩

end SparesFights

theorem Timed.of_spares {w w' : World} (h : w.Timed) (hspares : w.SparesFights w') : w'.Timed := by
  -- each creature was marked as it is
  have hbefore : ∀ id c', w'.creature? id = some c' →
      ∃ c, w.creature? id = some c ∧ c.marks = c'.marks := by
    intro id c' hc'
    have hmarks := hspares.marks id
    rw [hc'] at hmarks
    exact Option.map_eq_some_iff.1 hmarks.symm
  constructor
  · intro id c' hc'
    obtain ⟨c, hc, hmarks⟩ := hbefore id c' hc'
    have hname : c.id = c'.id := congrArg Prod.fst hmarks
    rw [← hname, h.keyed id c hc]
  · intro id c' hc' hfight
    obtain ⟨c, hc, hmarks⟩ := hbefore id c' hc'
    have hlock : c.protectionLocked = c'.protectionLocked := congrArg (·.2.1) hmarks
    have hattacked : c.attacked = c'.attacked := congrArg (·.2.2) hmarks
    rw [hspares.fights]
    refine h.timer id c hc ?_
    unfold Creature.InFight at hfight ⊢
    rw [hlock, hattacked]
    exact hfight

/-! ## §2. Blows. -/

section

variable {w : World}

theorem isPlayer_of_playerInCharge {c player : Creature} (h : w.playerInCharge c = some player) :
    player.isPlayer = true := by
  unfold playerInCharge at h
  split at h
  · rename_i hplayer
    rw [← Option.some.inj h]
    exact hplayer
  · exact (Option.filter_eq_some_iff.1 h).2

/-- **A timer for the one who lacks it:** keeping a registered player in a fight times everyone, if all
    others in a fight had timers. -/
theorem timed_extendFight {player : Creature} {id : CreatureId} (hkeyed : w.Keyed)
    (hregistered : w.creature? id = some player) (hplayer : player.isPlayer = true)
    (hothers : ∀ other c, w.creature? other = some c → c.InFight → other = id ∨ other ∈ w.fights)
    (ticks : UInt32) (lock : Bool) : (w.extendFight id ticks lock).Timed := by
  have hframe : w.Frame (fun _ => False) (fun _ => True) (fun _ => False) (fun _ => 0)
      (w.extendFight id ticks lock) := frame_extendFight w id ticks lock fun _ => trivial
  refine ⟨hframe.keyed hkeyed, fun other c hc hfight => ?_⟩
  unfold extendFight at hc ⊢
  rw [hregistered] at hc ⊢
  dsimp only at hc ⊢
  rw [if_pos hplayer] at hc ⊢
  show other ∈ w.fights.insert id _
  rw [Std.ExtTreeMap.mem_insert, Std.compare_eq_iff_eq]
  by_cases hsame : id = other
  · exact .inl hsame
  · -- the lock is on the player only
    have hkept : w.creature? other = some c := by
      rw [← hc]
      exact ((creature?_modifyCreature w id _ other).trans (if_neg hsame)).symm
    rcases hothers other c hkept hfight with hother | htimer
    · exact absurd hother.symm hsame
    · exact .inr htimer

/-- Keeping someone in a fight leaves nobody without a timer. -/
theorem Timed.extendFight (h : w.Timed) (id : CreatureId) (ticks : UInt32) (lock : Bool) :
    (w.extendFight id ticks lock).Timed := by
  cases hc : w.creature? id with
  | none =>
    unfold World.extendFight
    rw [hc]
    exact h
  | some c =>
    cases hplayer : c.isPlayer with
    | false =>
      have hno : ¬ c.isPlayer = true := Bool.eq_false_iff.1 hplayer
      unfold World.extendFight
      rw [hc]
      dsimp only
      rw [if_neg hno]
      exact h
    | true =>
      exact timed_extendFight h.keyed hc hplayer
        (fun other d hd hfight => .inr (h.timer other d hd hfight)) ticks lock

/-- **A blow** marks the attacker's player, and then gives that player its timer. -/
theorem Timed.attackedCreature (h : w.Timed) (attacker target : CreatureId) :
    (w.attackedCreature attacker target).Timed := by
  unfold World.attackedCreature
  dsimp only
  rcases noteAttack_cases w attacker target with hsame | ⟨a, player, victim, ha, hcharge, hmarked⟩
  · -- the attack is not put down to anyone
    rw [hsame]
    split
    · exact h.extendFight _ _ _
    · exact h
  · have hframe : w.Frame (fun _ => False) (fun _ => True) (fun _ => False) (fun _ => 0)
        (w.noteAttack attacker target) := frame_noteAttack w attacker target fun _ _ _ _ => trivial
    have hkeyed : (w.noteAttack attacker target).Keyed := hframe.keyed h.keyed
    -- whoever answered for the attacker before it was marked does so after
    have hattacker := hframe.creature?_fixed attacker
    rw [ha] at hattacker
    obtain ⟨a', ha', hfixed⟩ := Option.map_eq_some_iff.1 hattacker
    have hcharge' := hframe.playerInCharge_fixed hfixed
    rw [hcharge] at hcharge'
    obtain ⟨player', hplayer', hsame⟩ := Option.map_eq_some_iff.1 hcharge'
    have hname : player'.id = player.id := Creature.read_of_fixed hsame Creature.id
    rw [ha', Option.bind_some, hplayer']
    dsimp only
    refine timed_extendFight hkeyed (creature?_playerInCharge hkeyed ha' hplayer')
      (isPlayer_of_playerInCharge hplayer') (fun other c hc hfight => ?_) _ false
    -- nobody but the marked player may lack a timer now
    rw [hmarked] at hc ⊢
    rw [creature?_modifyCreature] at hc
    split at hc
    · rename_i hother
      exact .inl (hother.symm.trans hname.symm)
    · exact .inr (h.timer other c hc hfight)

end

/-! ## §3. Casts. -/

theorem fights_lay (w : World) (p : Position) (item : Item) : (w.lay p item).fights = w.fights := by
  obtain ⟨_, _, hlaid⟩ := w.exists_lay_eq p item
  rw [hlaid]

theorem fights_changeHealth (w : World) (attacker : Option CreatureId) (target : CreatureId)
    (t : DamageType) (change : Int32) :
    (w.changeHealth attacker target t change).2.fights = w.fights := by
  unfold changeHealth
  split
  · rfl
  · split
    · rfl
    · dsimp only
      split <;> rfl

theorem fights_changeMana (w : World) (attacker : Option CreatureId) (target : CreatureId)
    (change : Int32) : (w.changeMana attacker target change).2.fights = w.fights := by
  unfold changeMana
  split
  · rfl
  · split <;> rfl

end World

/-- **Which single changes bear on fights:** blows, and prolonged fights. -/
theorem Cast.Change.fights_cases {c : Cast} {wears : Prop} {w w' : World}
    (h : c.Change wears w w') :
    w.SparesFights w'
      ∨ (∃ attacker target, w' = w.attackedCreature attacker target)
      ∨ ∃ id lock, w' = w.extendFight id w.rules.fightDuration lock := by
  cases h with
  | rolled min max => exact .inl (.of_creatures rfl rfl)
  | shown e _ => exact .inl (.of_creatures rfl rfl)
  | attacked caster target _ _ => exact .inr (.inl ⟨caster, target, rfl⟩)
  | fight id lock => exact .inr (.inr ⟨id, lock, rfl⟩)
  | health target change =>
    have hframe : w.Frame (fun _ => True) (fun _ => False) (fun _ => False) (fun _ => 0)
        (w.changeHealth c.caster target c.settings.damageType change).2 :=
      World.frame_changeHealth w trivial _ _ change
    exact .inl (.of_frame hframe (w.fights_changeHealth _ target _ change))
  | mana target change =>
    have hframe : w.Frame (fun _ => True) (fun _ => False) (fun _ => False) (fun _ => 0)
        (w.changeMana c.caster target change).2 := World.frame_changeMana w trivial _ change
    exact .inl (.of_frame hframe (w.fights_changeMana _ target change))
  | conditions target =>
    obtain ⟨f, hf, hadded⟩ := c.addConditions_eq w target
    rw [hadded]
    refine .inl (.of_modifyCreature target fun t => ?_)
    obtain ⟨ds, hds⟩ := hf t
    rw [hds]
    rfl
  | dispelled target =>
    unfold dispel
    split
    · exact .inl (.refl w)
    · exact .inl (.of_modifyCreature target fun t => rfl)
  | worn caster weapon _ => exact .inl (.of_modifyCreature caster.id fun p => rfl)
  | field p =>
    rw [layField_eq]
    split
    · exact .inl (.refl w)
    · have hframe : w.Frame (fun _ => False) (fun _ => False) (fun _ => False) (fun _ => 1)
          (w.lay p (c.laidItem w p)) := World.frame_lay w (Nat.le_refl 1) (c.uniqueId_laidItem w p)
      exact .inl (.of_frame hframe (w.fights_lay p _))
  | covered target =>
    obtain ⟨-, -, hmap⟩ := c.cover_spec w target
    rw [hmap]
    exact .inl (.of_creatures rfl rfl)

/-- **A single change of a cast** leaves nobody in a fight without a timer. -/
theorem Cast.Change.timed {c : Cast} {wears : Prop} {w w' : World} (h : c.Change wears w w')
    (hw : w.Timed) : w'.Timed := by
  rcases h.fights_cases with hspares | ⟨attacker, target, rfl⟩ | ⟨id, lock, rfl⟩
  · exact hw.of_spares hspares
  · exact hw.attackedCreature attacker target
  · exact hw.extendFight id _ lock

namespace World

/-! ## §4. Time. -/

section

variable {w : World} {time : UInt32} {id : CreatureId}

theorem fightTicks_of_mem (h : id ∈ w.fights) : w.fightTicks id = w.fights[id] := by
  rw [fightTicks, Std.ExtTreeMap.getD_eq_getD_getElem?, Std.ExtTreeMap.getElem?_eq_some_getElem h]
  rfl

/-- A fight that does not run out goes on. -/
theorem mem_fights_tick (h : id ∈ w.fights) (hlasts : w.endsFight time id = false) :
    id ∈ (w.tick time).fights := by
  have hcontains : w.fights.contains id = true := Std.ExtTreeMap.contains_iff_mem.2 h
  rw [endsFight, hcontains, Bool.true_and, decide_eq_false_iff_not, fightTicks_of_mem h] at hlasts
  show id ∈ w.fights.filterMap fun _ ticks => timerAfter time ticks
  rw [Std.ExtTreeMap.mem_filterMap]
  refine ⟨h, ?_⟩
  rw [timerAfter, if_neg hlasts]
  rfl

/-- **Whoever is in a fight after a stretch of time** was in one before, and that did not run out. -/
theorem inFight_afterTime {c : Creature} (h : (w.afterTime time id c).InFight) :
    c.InFight ∧ w.endsFight time id = false := by
  unfold afterTime at h
  split at h
  · -- the end of a fight takes lock and attacks away
    rcases h with hlock | hattacked
    · cases hlock
    · exact absurd rfl hattacked
  · rename_i hlasts
    exact ⟨h, Bool.eq_false_iff.2 hlasts⟩

/-- **Time** takes timers only together with the marks. -/
theorem Timed.tick (h : w.Timed) (time : UInt32) : (w.tick time).Timed := by
  refine ⟨h.keyed.tick time, fun id c' hc' hfight => ?_⟩
  rw [creature?_tick] at hc'
  obtain ⟨c, hc, rfl⟩ := Option.map_eq_some_iff.1 hc'
  obtain ⟨hfight, hlasts⟩ := inFight_afterTime hfight
  exact mem_fights_tick (h.timer id c hc hfight) hlasts

/-- **When a fight's time is up,** it is over. -/
theorem Timed.not_inFight_tick (h : w.Timed) (hup : w.fightTicks id ≤ time) {c' : Creature}
    (hc' : (w.tick time).creature? id = some c') : ¬ c'.InFight := by
  rw [creature?_tick] at hc'
  obtain ⟨c, hc, rfl⟩ := Option.map_eq_some_iff.1 hc'
  intro hfight
  obtain ⟨hfight, hlasts⟩ := inFight_afterTime hfight
  have hcontains : w.fights.contains id = true :=
    Std.ExtTreeMap.contains_iff_mem.2 (h.timer id c hc hfight)
  rw [endsFight, hcontains, Bool.true_and, decide_eq_false_iff_not] at hlasts
  exact hlasts hup

/-! ## §5. Deeds. -/

theorem timed_new (types : Catalogue) (rules : Rules) (seed : UInt64) :
    (World.new types rules seed).Timed := by
  refine ⟨(consistent_new types rules seed).keyed, fun id c hc => ?_⟩
  have hnobody : (World.new types rules seed).creature? id = none := Std.ExtTreeMap.getElem?_empty
  rw [hnobody] at hc
  cases hc

/-- New tiles bear on no fight. -/
theorem Timed.addTile (h : w.Timed) (p : Position) (flags : TileFlags) : (w.addTile p flags).Timed := by
  unfold World.addTile
  split
  · exact h.of_spares (.of_creatures rfl rfl)
  · exact h.of_spares (.of_creatures rfl rfl)

theorem fights_leaveTile (w : World) (id : CreatureId) : (w.leaveTile id).fights = w.fights := by
  unfold leaveTile
  split <;> rfl

/-- **Whoever comes in peace** needs no timer, and whoever it replaces needs none any more. -/
theorem Timed.addCreature (h : w.Timed) {c : Creature} (hpeace : ¬ c.InFight) :
    (w.addCreature c).Timed := by
  have hfights : (w.addCreature c).fights = w.fights := w.fights_leaveTile c.id
  constructor
  · exact h.keyed.addCreature c
  · intro id d hd hfight
    rw [creature?_addCreature] at hd
    rw [hfights]
    split at hd
    · rw [← Option.some.inj hd] at hfight
      exact absurd hfight hpeace
    · exact h.timer id d hd hfight

/-- **Whoever leaves** takes its own timer along, and no other. -/
theorem Timed.removeCreature (h : w.Timed) (id : CreatureId) : (w.removeCreature id).Timed := by
  have htimers : ∀ other, id ≠ other → other ∈ w.fights → other ∈ (w.removeCreature id).fights := by
    intro other hother htimer
    rw [← w.fights_leaveTile id] at htimer
    unfold World.removeCreature
    dsimp only
    split
    · rw [Std.ExtTreeMap.mem_erase]
      exact ⟨fun hsame => hother (Std.compare_eq_iff_eq.1 hsame), htimer⟩
    · exact htimer
  constructor
  · intro other c hc
    exact h.keyed other c (of_creature?_removeCreature hc).2
  · intro other c hc hfight
    obtain ⟨hother, hc⟩ := of_creature?_removeCreature hc
    exact htimers other hother (h.timer other c hc hfight)

theorem Timed.take (h : w.Timed) (r : Round) : (w.take r).Timed :=
  take_induction (fun _ _ _ hchange h => hchange.timed h) (fun _ time h => h.tick time) w r h

theorem Timed.perform (h : w.Timed) {d : Deed} (hpeace : d.IsPeaceful) : (w.perform d).Timed := by
  cases d with
  | addTile p flags => exact h.addTile p flags
  | placeItem p id amount => exact h.of_spares (.of_creatures rfl rfl)
  | addCreature c => exact h.addCreature hpeace
  | removeCreature id => exact h.removeCreature id
  | round r => exact h.take r

/-- **A run** of deeds that bring in nobody who fights already. -/
theorem Timed.run (h : w.Timed) {deeds : List Deed} (hpeace : ∀ d ∈ deeds, d.IsPeaceful) :
    (w.run deeds).Timed := by
  induction deeds generalizing w with
  | nil => exact h
  | cons d deeds ih =>
    have hhead : (w.perform d).Timed := h.perform (hpeace d List.mem_cons_self)
    exact ih hhead fun later hlater => hpeace later (List.mem_cons_of_mem d hlater)

end

/-- **Nobody stays in a fight for good.**  Build a world from nothing, with tiles and items, with
    creatures that come in peace, and with whatever is cast, waited for and removed on the way.  Then
    each creature that is locked out of protection zones, or held to have attacked someone, has a timer;
    and after any stretch of time as long as its timer says, it is neither. -/
theorem run_ends_fights (types : Catalogue) (rules : Rules) (seed : UInt64) (deeds : List Deed)
    (hpeace : ∀ d ∈ deeds, d.IsPeaceful) :
    let w := (World.new types rules seed).run deeds
    (∀ id c, w.creature? id = some c → c.protectionLocked = true ∨ c.attacked ≠ {} → id ∈ w.fights)
    ∧ ∀ time id c, w.fightTicks id ≤ time → (w.tick time).creature? id = some c →
        c.protectionLocked = false ∧ c.attacked = {} := by
  intro w
  have h : w.Timed := (timed_new types rules seed).run hpeace
  refine ⟨h.timer, fun time id c hup hc => ?_⟩
  have hover := h.not_inFight_tick hup hc
  rw [Creature.InFight, not_or, Bool.not_eq_true, not_not] at hover
  exact hover

/-- A skirmish: a knight and a druid come, and the knight assails the druid's tile with a combat that locks
    it out of protection zones. -/
def skirmish : List Deed :=
  [.addCreature (.new ⟨1⟩ "knight" .player ⟨100, 100, 7⟩),
    .addCreature (.new ⟨2⟩ "druid" .player ⟨101, 100, 7⟩),
    .round (.cast ⟨{ settings := { locksProtection := true } }, some ⟨1⟩⟩
      (.impactAt ⟨101, 100, 7⟩ .conditions))]

/-- After the skirmish the knight is locked, and has attacked the druid; a minute later it is free. -/
theorem run_ends_fights_skirmish :
    let w := (World.new .empty {} 0).run skirmish
    (∀ d ∈ skirmish, d.IsPeaceful)
    ∧ (w.creature? ⟨1⟩).map (fun c => (c.protectionLocked, c.attacked.toList)) = some (true, [⟨2⟩])
    ∧ ⟨1⟩ ∈ w.fights ∧ w.fightTicks ⟨1⟩ = 60000
    ∧ ∃ c, (w.tick 60000).creature? ⟨1⟩ = some c ∧ c.protectionLocked = false ∧ c.attacked = {} := by
  intro w
  have hpeace : ∀ d ∈ skirmish, d.IsPeaceful := by
    have hnew : ∀ id name place, ¬ (Creature.new id name .player place).InFight := by
      rintro id name place (hlock | hattacked)
      · cases hlock
      · exact hattacked rfl
    simp [skirmish, Deed.IsPeaceful, hnew]
  have hfought : (w.creature? ⟨1⟩).map (fun c => (c.protectionLocked, c.attacked.toList))
      = some (true, [⟨2⟩]) := by
    decide
  have hticks : w.fightTicks ⟨1⟩ = 60000 := by decide
  obtain ⟨htimer, hover⟩ := run_ends_fights .empty {} 0 skirmish hpeace
  obtain ⟨knight, hknight, hmarks⟩ := Option.map_eq_some_iff.1 hfought
  have hlater : (w.tick 60000).creature? ⟨1⟩ = some (w.afterTime 60000 ⟨1⟩ knight) := by
    rw [creature?_tick, hknight]
    rfl
  have hup : w.fightTicks ⟨1⟩ ≤ 60000 := by
    rw [hticks]
    exact UInt32.le_refl 60000
  have hlocked : knight.protectionLocked = true := congrArg Prod.fst hmarks
  exact ⟨hpeace, hfought, htimer ⟨1⟩ knight hknight (.inl hlocked), hticks, _, hlater,
    hover 60000 ⟨1⟩ _ hup hlater⟩

end World

end Realm
