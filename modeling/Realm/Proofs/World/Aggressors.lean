/-
  Realm.Proofs.World.Aggressors — of two players in a fight, one began it.

  A creature carries the names of those it is held to have attacked.  An attack is put down to the
  attacker's player only if nothing excuses it, and that the victim began is an excuse.  The marks go
  one by one, when their bearer's fight runs out or the bearer leaves or is replaced, and none comes
  back by itself; so two creatures are never marked for attacking each other.

  The excuse fails for a victim that gains no fights, whatever it is marked for.  But such a creature is
  never marked in the first place, and this has to be carried along.

  Main statements:
  * `OneSided.noteAttack` — putting an attack down marks one side only;
  * `Cast.Change.blame_cases` — in a cast nothing else bears on who attacked whom;
  * `run_one_sided` — in every world that was built, no two creatures are marked for attacking each other,
    and striking back marks nobody.
-/
import Realm.Proofs.World.FightTimers

namespace Realm

/-! ## §1. Marks. -/

/-- A deed that brings nobody into the world who is held to have attacked someone. -/
def Deed.IsBlameless : Deed → Prop
  | .addCreature c => c.attacked = {}
  | .addTile .. | .placeItem .. | .removeCreature _ | .round _ => True

namespace World

/-- **A registered creature is held to have attacked another.** -/
def Assailed (w : World) (id other : CreatureId) : Prop :=
  ∃ c, w.creature? id = some c ∧ other ∈ c.attacked

/-- **Of two creatures at most one is marked for attacking the other.**  Everyone is registered under its
    own name, and who gains no fights is marked for nothing. -/
structure OneSided (w : World) : Prop where
  keyed : w.Keyed
  unmarked : ∀ id c, w.creature? id = some c → c.has (·.gainsNoFights) = true →
    ∀ other, other ∉ c.attacked
  one_sided : ∀ id other, id ≠ other → w.Assailed id other → ¬ w.Assailed other id

/-! ### Changes that put no attack down -/

/-- **No new marks** between two worlds: each creature was there, as free of fights as it is, and bore all
    the marks that it bears. -/
def NoNewMarks (w w' : World) : Prop :=
  ∀ id c', w'.creature? id = some c' → ∃ c, w.creature? id = some c ∧ c'.id = c.id
    ∧ c'.has (·.gainsNoFights) = c.has (·.gainsNoFights) ∧ ∀ other ∈ c'.attacked, other ∈ c.attacked

/-- **The same marks** in two worlds, on creatures that differ in nothing lasting. -/
structure SameMarks (w w' : World) : Prop where
  fixed : ∀ id, (w'.creature? id).map Creature.fixed = (w.creature? id).map Creature.fixed
  attacked : ∀ id, (w'.creature? id).map Creature.attacked = (w.creature? id).map Creature.attacked

section

variable {w w' : World} {id other : CreatureId}

theorem OneSided.of_noNewMarks (h : w.OneSided) (hmarks : w.NoNewMarks w') : w'.OneSided := by
  have hbefore : ∀ id other, w'.Assailed id other → w.Assailed id other := by
    rintro id other ⟨c', hc', hother⟩
    obtain ⟨c, hc, -, -, hattacked⟩ := hmarks id c' hc'
    exact ⟨c, hc, hattacked other hother⟩
  constructor
  · intro id c' hc'
    obtain ⟨c, hc, hname, -, -⟩ := hmarks id c' hc'
    rw [hname, h.keyed id c hc]
  · intro id c' hc' hfree other hother
    obtain ⟨c, hc, -, hflag, hattacked⟩ := hmarks id c' hc'
    rw [hflag] at hfree
    exact h.unmarked id c hc hfree other (hattacked other hother)
  · intro id other hne hone hback
    exact h.one_sided id other hne (hbefore id other hone) (hbefore other id hback)

namespace SameMarks

theorem of_creatures (h : w'.creatures = w.creatures) : SameMarks w w' := by
  constructor
  · intro id
    rw [creature?, creature?, h]
  · intro id
    rw [creature?, creature?, h]

theorem refl (w : World) : SameMarks w w := of_creatures rfl

/-- A change of one creature that leaves its marks alone. -/
theorem of_modifyCreature (id : CreatureId) {f : Creature → Creature}
    (hfixed : ∀ c, (f c).fixed = c.fixed) (hattacked : ∀ c, (f c).attacked = c.attacked) :
    SameMarks w (w.modifyCreature id f) :=
  ⟨map_creature?_modifyCreature hfixed w id, map_creature?_modifyCreature hattacked w id⟩

/-- Each creature with its marks, as it was and as it is. -/
theorem exists_before (h : SameMarks w w') {c' : Creature} (hc' : w'.creature? id = some c') :
    ∃ c, w.creature? id = some c ∧ c'.fixed = c.fixed ∧ c'.attacked = c.attacked := by
  have hfixed := h.fixed id
  have hattacked := h.attacked id
  rw [hc'] at hfixed hattacked
  obtain ⟨c, hc, hsame⟩ := Option.map_eq_some_iff.1 hfixed.symm
  rw [hc] at hattacked
  exact ⟨c, hc, hsame.symm, Option.some.inj hattacked⟩

theorem noNewMarks (h : SameMarks w w') : w.NoNewMarks w' := by
  intro id c' hc'
  obtain ⟨c, hc, hfixed, hattacked⟩ := h.exists_before hc'
  refine ⟨c, hc, Creature.read_of_fixed hfixed Creature.id,
    Creature.read_of_fixed hfixed fun d => d.has (·.gainsNoFights), fun other hother => ?_⟩
  rw [← hattacked]
  exact hother

/-- Marks stay. -/
theorem assailed (h : SameMarks w w') (hmark : w.Assailed id other) : w'.Assailed id other := by
  obtain ⟨c, hc, hother⟩ := hmark
  have hattacked := h.attacked id
  rw [hc] at hattacked
  obtain ⟨c', hc', hsame⟩ := Option.map_eq_some_iff.1 hattacked
  refine ⟨c', hc', ?_⟩
  rw [hsame]
  exact hother

end SameMarks

/-! ## §2. Blows. -/

theorem sameMarks_extendFight (w : World) (id : CreatureId) (ticks : UInt32) (lock : Bool) :
    w.SameMarks (w.extendFight id ticks lock) := by
  unfold extendFight
  split
  · exact .refl w
  · rename_i c _
    split
    · have hlocked : w.SameMarks (w.modifyCreature id fun d =>
          { d with protectionLocked := c.protectionLocked || lock }) :=
        .of_modifyCreature id (fun _ => rfl) fun _ => rfl
      exact ⟨hlocked.fixed, hlocked.attacked⟩
    · exact .refl w

/-- After the attack is put down, a blow bears on no marks. -/
theorem sameMarks_attackedCreature (w : World) (attacker target : CreatureId) :
    (w.noteAttack attacker target).SameMarks (w.attackedCreature attacker target) := by
  unfold attackedCreature
  dsimp only
  split
  · exact sameMarks_extendFight _ _ _ _
  · exact .refl _

/-- **That the victim began** excuses every attack on it. -/
theorem OneSided.not_began (h : w.OneSided) {player victim : Creature}
    (hvictim : w.creature? id = some victim) (hunprovoked : w.isUnprovoked player victim = true) :
    player.id ∉ victim.attacked := by
  intro hbegan
  -- a victim that gains no fights would be held to have attacked nobody
  have hmarked : victim.has (·.gainsNoFights) = false :=
    Bool.eq_false_iff.2 fun hfree => h.unmarked id victim hvictim hfree player.id hbegan
  have hattacked : victim.hasAttacked player = true := by
    rw [Creature.hasAttacked, hmarked, Std.ExtTreeSet.contains_iff_mem.2 hbegan]
    rfl
  simp [isUnprovoked, hattacked] at hunprovoked

/-- **Striking back** at a player who began, through whomever, is not put down. -/
theorem OneSided.noteAttack_of_began (h : w.OneSided) {striker target : CreatureId}
    {s t player victim : Creature} (hs : w.creature? striker = some s) (ht : w.creature? target = some t)
    (hplayer : w.playerInCharge s = some player) (hvictim : w.playerInCharge t = some victim)
    (hbegan : player.id ∈ victim.attacked) : w.noteAttack striker target = w := by
  rcases w.noteAttack_spec striker target with
    hsame | ⟨s', t', player', victim', hs', ht', hplayer', hvictim', -, hunprovoked, -⟩
  · exact hsame
  · obtain rfl : s = s' := Option.some.inj (hs.symm.trans hs')
    obtain rfl : t = t' := Option.some.inj (ht.symm.trans ht')
    obtain rfl : player = player' := Option.some.inj (hplayer.symm.trans hplayer')
    obtain rfl : victim = victim' := Option.some.inj (hvictim.symm.trans hvictim')
    have hregistered := creature?_playerInCharge h.keyed ht hvictim
    exact absurd hbegan (h.not_began hregistered hunprovoked)

/-- Only who gains fights is ever marked. -/
theorem gainsNoFights_of_isUnprovoked {player victim : Creature}
    (h : w.isUnprovoked player victim = true) : player.has (·.gainsNoFights) = false := by
  simp only [isUnprovoked, Bool.and_eq_true, Bool.not_eq_true'] at h
  exact h.1.1.1.1.1

/-- A creature that gets one mark: what is marked now was marked before, or is the new mark. -/
theorem assailed_of_insert {marked victim : CreatureId} {f : Creature → Creature}
    (hf : ∀ c, (f c).attacked = c.attacked.insert victim)
    (h : (w.modifyCreature marked f).Assailed id other) :
    w.Assailed id other ∨ id = marked ∧ other = victim := by
  obtain ⟨c, hc, hother⟩ := h
  rw [creature?_modifyCreature] at hc
  split at hc
  · rename_i hid
    obtain ⟨d, hd, rfl⟩ := Option.map_eq_some_iff.1 hc
    rw [hf, Std.ExtTreeSet.mem_insert] at hother
    rcases hother with hnew | hold
    · exact .inr ⟨hid.symm, (Std.compare_eq_iff_eq.1 hnew).symm⟩
    · exact .inl ⟨d, hd, hold⟩
  · exact .inl ⟨c, hc, hother⟩

/-- **Putting an attack down marks one side only.** -/
theorem OneSided.noteAttack (h : w.OneSided) (attacker target : CreatureId) :
    (w.noteAttack attacker target).OneSided := by
  rcases w.noteAttack_spec attacker target with
    hsame | ⟨a, t, player, victim, ha, ht, hplayer, hvictim, hother, hunprovoked, hmarked⟩
  · rw [hsame]
    exact h
  · have hpregistered := creature?_playerInCharge h.keyed ha hplayer
    have hvregistered := creature?_playerInCharge h.keyed ht hvictim
    have hfirst : ¬ w.Assailed victim.id player.id := by
      rintro ⟨v, hv, hbegan⟩
      obtain rfl : victim = v := Option.some.inj (hvregistered.symm.trans hv)
      exact h.not_began hvregistered hunprovoked hbegan
    have hbefore : ∀ id other, (w.noteAttack attacker target).Assailed id other →
        w.Assailed id other ∨ id = player.id ∧ other = victim.id := by
      intro id other hmark
      rw [hmarked] at hmark
      exact assailed_of_insert (fun _ => rfl) hmark
    have hframe : w.Frame (fun _ => False) (fun _ => True) (fun _ => False) (fun _ => 0)
        (w.noteAttack attacker target) := frame_noteAttack w attacker target fun _ _ _ _ => trivial
    refine ⟨hframe.keyed h.keyed, fun id c hc hfree => ?_, fun id other hne hone hback => ?_⟩
    · rw [hmarked, creature?_modifyCreature] at hc
      split at hc
      · -- the player marked is not one that gains no fights
        rename_i hid
        rw [← hid, hpregistered] at hc
        obtain rfl := Option.some.inj hc
        have hfree' : player.has (·.gainsNoFights) = true := hfree
        rw [gainsNoFights_of_isUnprovoked hunprovoked] at hfree'
        cases hfree'
      · exact h.unmarked id c hc hfree
    · -- of two marks for one another, one is the new one, and it had no counterpart
      rcases hbefore id other hone with hone | ⟨rfl, rfl⟩
      · rcases hbefore other id hback with hback | ⟨rfl, rfl⟩
        · exact h.one_sided id other hne hone hback
        · exact hfirst hone
      · rcases hbefore _ _ hback with hback | ⟨hsame, -⟩
        · exact hfirst hback
        · exact hother hsame.symm

/-- Marks stay when another attack is put down. -/
theorem Assailed.noteAttack (h : w.Assailed id other) (attacker target : CreatureId) :
    (w.noteAttack attacker target).Assailed id other := by
  rcases noteAttack_cases w attacker target with hsame | ⟨a, player, victim, -, -, hmarked⟩
  · rw [hsame]
    exact h
  · obtain ⟨c, hc, hother⟩ := h
    rw [hmarked, Assailed, creature?_modifyCreature, hc]
    split
    · exact ⟨_, rfl, Std.ExtTreeSet.mem_insert.2 (.inr hother)⟩
    · exact ⟨c, rfl, hother⟩

end

end World

/-! ## §3. Casts. -/

/-- **Which single changes bear on who attacked whom:** blows, by putting an attack down. -/
theorem Cast.Change.blame_cases {c : Cast} {wears : Prop} {w w' : World}
    (h : c.Change wears w w') :
    w.SameMarks w' ∨ ∃ attacker target, (w.noteAttack attacker target).SameMarks w' := by
  rcases h.fights_cases with hspares | ⟨attacker, target, rfl⟩ | ⟨id, lock, rfl⟩
  · -- what spares the fights spares the marks, and no change of a cast touches names and flags
    refine .inl ⟨h.frame.creature?_fixed, fun id => ?_⟩
    have hmarks := congrArg (Option.map fun m => m.2.2) (hspares.marks id)
    rw [Option.map_map, Option.map_map] at hmarks
    exact hmarks
  · exact .inr ⟨attacker, target, w.sameMarks_attackedCreature attacker target⟩
  · exact .inl (w.sameMarks_extendFight id _ lock)

/-- **A single change of a cast** marks one side only. -/
theorem Cast.Change.oneSided {c : Cast} {wears : Prop} {w w' : World} (h : c.Change wears w w')
    (hw : w.OneSided) :
    w'.OneSided := by
  rcases h.blame_cases with hsame | ⟨attacker, target, hsame⟩
  · exact hw.of_noNewMarks hsame.noNewMarks
  · exact (hw.noteAttack attacker target).of_noNewMarks hsame.noNewMarks

/-- No single change of a cast takes a mark away. -/
theorem Cast.Change.assailed {c : Cast} {wears : Prop} {w w' : World} (h : c.Change wears w w')
    {id other : CreatureId}
    (hmark : w.Assailed id other) : w'.Assailed id other := by
  rcases h.blame_cases with hsame | ⟨attacker, target, hsame⟩
  · exact hsame.assailed hmark
  · exact hsame.assailed (hmark.noteAttack attacker target)

namespace World

section

variable {w : World}

/-- **A cast takes no mark away.** -/
theorem Assailed.cast {id other : CreatureId} (h : w.Assailed id other) (c : Cast) (e : Cast.Entry) :
    (w.take (.cast c e)).Assailed id other := by
  have hchanges : c.Changes True w (w.take (.cast c e)) := c.changes_enter ⟨w, []⟩ e
  generalize w.take (.cast c e) = w' at hchanges ⊢
  induction hchanges with
  | refl => exact h
  | tail _ hlast ih => exact hlast.assailed ih

/-! ## §4. Time and deeds. -/

/-- **Time** takes marks away, and makes none. -/
theorem OneSided.tick (h : w.OneSided) (time : UInt32) : (w.tick time).OneSided := by
  refine h.of_noNewMarks fun id c' hc' => ?_
  rw [creature?_tick] at hc'
  obtain ⟨c, hc, rfl⟩ := Option.map_eq_some_iff.1 hc'
  refine ⟨c, hc, id_afterTime w time id c, ?_⟩
  unfold afterTime
  split
  · exact ⟨rfl, fun other hother => absurd hother Std.ExtTreeSet.not_mem_empty⟩
  · exact ⟨rfl, fun other hother => hother⟩

theorem oneSided_new (types : Catalogue) (rules : Rules) (seed : UInt64) :
    (World.new types rules seed).OneSided := by
  have hnobody : ∀ id, (World.new types rules seed).creature? id = none :=
    fun _ => Std.ExtTreeMap.getElem?_empty
  refine ⟨(consistent_new types rules seed).keyed, fun id c hc => ?_, fun id other _ hone => ?_⟩
  · rw [hnobody] at hc
    cases hc
  · obtain ⟨c, hc, -⟩ := hone
    rw [hnobody] at hc
    cases hc

theorem OneSided.addTile (h : w.OneSided) (p : Position) (flags : TileFlags) :
    (w.addTile p flags).OneSided := by
  unfold World.addTile
  split
  · exact h.of_noNewMarks (SameMarks.of_creatures rfl).noNewMarks
  · exact h.of_noNewMarks (SameMarks.of_creatures rfl).noNewMarks

/-- **Whoever comes without marks** is one side of no fight yet, though others may be marked for attacking
    one of its name. -/
theorem OneSided.addCreature (h : w.OneSided) {c : Creature} (hclean : c.attacked = {}) :
    (w.addCreature c).OneSided := by
  have hnone : ∀ other, other ∉ c.attacked := by
    intro other hother
    rw [hclean] at hother
    exact Std.ExtTreeSet.not_mem_empty hother
  have hbefore : ∀ id other, (w.addCreature c).Assailed id other → w.Assailed id other := by
    rintro id other ⟨d, hd, hother⟩
    rw [creature?_addCreature] at hd
    split at hd
    · obtain rfl := Option.some.inj hd
      exact absurd hother (hnone other)
    · exact ⟨d, hd, hother⟩
  constructor
  · exact h.keyed.addCreature c
  · intro id d hd hfree
    rw [creature?_addCreature] at hd
    split at hd
    · rw [← Option.some.inj hd]
      exact hnone
    · exact h.unmarked id d hd hfree
  · intro id other hne hone hback
    exact h.one_sided id other hne (hbefore id other hone) (hbefore other id hback)

/-- **Whoever leaves** takes its own marks along. -/
theorem OneSided.removeCreature (h : w.OneSided) (id : CreatureId) : (w.removeCreature id).OneSided := by
  refine h.of_noNewMarks fun other c hc => ?_
  obtain ⟨-, hc⟩ := of_creature?_removeCreature hc
  exact ⟨c, hc, rfl, rfl, fun _ hmark => hmark⟩

theorem OneSided.take (h : w.OneSided) (r : Round) : (w.take r).OneSided :=
  take_induction (fun _ _ _ hchange h => hchange.oneSided h) (fun _ time h => h.tick time) w r h

theorem OneSided.perform (h : w.OneSided) {d : Deed} (hclean : d.IsBlameless) :
    (w.perform d).OneSided := by
  cases d with
  | addTile p flags => exact h.addTile p flags
  | placeItem p id amount => exact h.of_noNewMarks (SameMarks.of_creatures rfl).noNewMarks
  | addCreature c => exact h.addCreature hclean
  | removeCreature id => exact h.removeCreature id
  | round r => exact h.take r

/-- **A run** of deeds that bring in nobody with marks. -/
theorem OneSided.run (h : w.OneSided) {deeds : List Deed} (hclean : ∀ d ∈ deeds, d.IsBlameless) :
    (w.run deeds).OneSided := by
  induction deeds generalizing w with
  | nil => exact h
  | cons d deeds ih =>
    have hhead : (w.perform d).OneSided := h.perform (hclean d List.mem_cons_self)
    exact ih hhead fun later hlater => hclean later (List.mem_cons_of_mem d hlater)

/-- **A cast marks nobody for striking back.** -/
theorem OneSided.not_assailed_cast (h : w.OneSided) {id other : CreatureId} (hne : id ≠ other)
    (hbegan : w.Assailed other id) (c : Cast) (e : Cast.Entry) :
    ¬ (w.take (.cast c e)).Assailed id other :=
  fun hback => (h.take (.cast c e)).one_sided id other hne hback (hbegan.cast c e)

end

/-- **Of two players in a fight, one began it.**  Build a world from nothing, with tiles and items, with
    creatures that are held to have attacked nobody, and with whatever is cast, waited for and removed on
    the way.  Then no two registered creatures are marked for attacking each other.  A strike at one whose
    player is marked for attacking the striker's, in person or through summons, is not put down; and no
    cast, whoever casts it, marks anyone for attacking one who is marked for attacking it. -/
theorem run_one_sided (types : Catalogue) (rules : Rules) (seed : UInt64) (deeds : List Deed)
    (hclean : ∀ d ∈ deeds, d.IsBlameless) :
    let w := (World.new types rules seed).run deeds
    (∀ id other, id ≠ other → w.Assailed id other → ¬ w.Assailed other id)
    ∧ (∀ striker target s t player victim, w.creature? striker = some s →
        w.creature? target = some t → w.playerInCharge s = some player →
        w.playerInCharge t = some victim → player.id ∈ victim.attacked →
        w.noteAttack striker target = w)
    ∧ ∀ id other, id ≠ other → w.Assailed other id → ∀ (c : Cast) (e : Cast.Entry),
        ¬ (w.take (.cast c e)).Assailed id other := by
  intro w
  -- the invariant carries every step; what is said of strikes and casts is read off it
  have h : w.OneSided := (oneSided_new types rules seed).run hclean
  refine ⟨h.one_sided, ?_, ?_⟩
  · intro striker target s t player victim hs ht hplayer hvictim hbegan
    exact h.noteAttack_of_began hs ht hplayer hvictim hbegan
  · intro id other hne hbegan c e
    exact h.not_assailed_cast hne hbegan c e

/-- The skirmish goes on: the druid's wolf comes, and the druid assails the knight's tile in turn. -/
def returnedSkirmish : List Deed :=
  skirmish ++
    [.addCreature { Creature.new ⟨3⟩ "wolf" .monster ⟨101, 101, 7⟩ with master := some ⟨2⟩ },
      .round (.cast ⟨{}, some ⟨2⟩⟩ (.impactAt ⟨100, 100, 7⟩ .conditions))]

/-- The knight began: it stays marked for attacking the druid, and neither the druid's own strikes nor those
    of its wolf are put down. -/
theorem run_one_sided_returnedSkirmish :
    let w := (World.new .empty {} 0).run returnedSkirmish
    (∀ d ∈ returnedSkirmish, d.IsBlameless)
    ∧ w.Assailed ⟨1⟩ ⟨2⟩ ∧ ¬ w.Assailed ⟨2⟩ ⟨1⟩
    ∧ w.noteAttack ⟨2⟩ ⟨1⟩ = w ∧ w.noteAttack ⟨3⟩ ⟨1⟩ = w
    ∧ ∀ (c : Cast) (e : Cast.Entry), ¬ (w.take (.cast c e)).Assailed ⟨2⟩ ⟨1⟩ := by
  intro w
  have hclean : ∀ d ∈ returnedSkirmish, d.IsBlameless := by
    simp [returnedSkirmish, skirmish, Deed.IsBlameless, Creature.new]
  obtain ⟨hone, hback, hcast⟩ := run_one_sided .empty {} 0 returnedSkirmish hclean
  have hbegan : (w.creature? ⟨1⟩).any (fun c => c.isPlayer && c.attacked.contains ⟨2⟩) = true := by
    decide
  obtain ⟨knight, hknight, hmark⟩ := (Option.any_eq_true _ _).1 hbegan
  rw [Bool.and_eq_true, Std.ExtTreeSet.contains_iff_mem] at hmark
  have hvictim : w.playerInCharge knight = some knight := if_pos hmark.1
  -- the druid answers for itself and for its wolf
  have hcharge : ∀ striker ∈ [CreatureId.mk 2, ⟨3⟩],
      ((w.creature? striker).bind w.playerInCharge).map Creature.id = some ⟨2⟩ := by
    decide
  have hstrikes : ∀ striker ∈ [CreatureId.mk 2, ⟨3⟩], w.noteAttack striker ⟨1⟩ = w := by
    intro striker hstriker
    obtain ⟨player, hplayer, hname⟩ := Option.map_eq_some_iff.1 (hcharge striker hstriker)
    obtain ⟨s, hs, hplayer⟩ := Option.bind_eq_some_iff.1 hplayer
    refine hback striker ⟨1⟩ s knight player knight hs hknight hplayer hvictim ?_
    rw [hname]
    exact hmark.2
  have hassailed : w.Assailed ⟨1⟩ ⟨2⟩ := ⟨knight, hknight, hmark.2⟩
  exact ⟨hclean, hassailed, hone ⟨1⟩ ⟨2⟩ (by decide) hassailed, hstrikes ⟨2⟩ (by decide),
    hstrikes ⟨3⟩ (by decide), hcast ⟨2⟩ ⟨1⟩ (by decide) hassailed⟩

end World

end Realm
