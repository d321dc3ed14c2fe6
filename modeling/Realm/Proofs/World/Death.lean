/-
  Realm.Proofs.World.Death — death, and what time does to the dead.

  A dead creature takes no hit, so no cast raises it and none tells of its death again.  Time does not
  look whether a creature lives: a condition that heals is a toll like any other, and raises the dead.
  Where no toll of a run heals its creature once that is dead, death is final and is told once.

  Main statements:
  * `Cast.falls_enter` — a cast tells of a death when it happens, and raises nobody;
  * `World.falls_tick` — so does a stretch of time that heals no dead creature;
  * `World.play_buries_once` — death in the course of a run.
-/
import Realm.Proofs.Condition.Advance
import Realm.Proofs.World.Ledger

namespace Realm

/-! ## §1. Damage to the dead. -/

/-- Of a loss something is left, or nothing: never a gain. -/
theorem Resistances.apply_nonneg (r : Resistances) (t : DamageType) {amount : Int32}
    (h : 0 ≤ amount.toInt) : 0 ≤ (r.apply t amount).toInt := by
  unfold Resistances.apply
  split
  · exact h
  · dsimp only
    rw [toInt_ofIntClamp]
    omega

namespace Vitals

variable {v : Vitals} {t : DamageType} {change : Int32}

/-- Resistances turn no damage into healing. -/
theorem resisted_nonpos (h : change ≤ 0) : (v.resisted t change).toInt ≤ 0 := by
  rw [Int32.le_iff_toInt_le, Int32.toInt_zero] at h
  unfold resisted
  split
  · -- what is left of the loss is no gain, and its negation is a word
    have hloss : 0 ≤ (opposite change).toInt := by
      rw [opposite, toInt_ofIntClamp]
      omega
    have hleft := v.resistances.apply_nonneg t hloss
    have hword := (v.resistances.apply t (opposite change)).toInt_lt
    rw [Int32.toInt_neg, Int.bmod_eq_of_le (by omega) (by omega)]
    omega
  · exact h

/-- **Damage leaves the dead dead.** -/
theorem isDead_changeHealth (hdead : v.isDead = true) (h : change ≤ 0) :
    (v.changeHealth t change).2.isDead = true := by
  have hchange : (v.resisted t change).toInt ≤ 0 := resisted_nonpos h
  -- the sum of the two is at most 0, however it is cut
  unfold isDead changeHealth settle at *
  simp only [decide_eq_true_eq, Int32.le_iff_toInt_le, toInt_max, toInt_min, toInt_ofIntClamp,
    Int32.toInt_zero] at hdead ⊢
  omega

end Vitals

namespace World

/-! ## §2. Tolls of the dead. -/

/-- **Whether a toll heals the dead:** one that gives health, when its turn comes, to vitals that the
    tolls before it left dead. -/
def healsDead : Vitals → List Toll → Bool
  | _, [] => false
  | v, t :: tolls =>
    (v.isDead && 0 < t.change) || healsDead (v.changeHealth t.type t.change).2 tolls

/-- Whether a stretch of time heals a creature that is dead, or dies meanwhile. -/
def healsDeadIn (time : UInt32) (c : Creature) : Bool :=
  healsDead c.vitals (c.conditions.filterMap (tollOf time))

/-- The dead stay dead through tolls that do not heal them. -/
theorem isDead_foldl_takeToll (id : CreatureId) (tolls : List Toll) :
    ∀ s : Vitals × List Event, healsDead s.1 tolls = false → s.1.isDead = true →
      (tolls.foldl (takeToll id) s).1.isDead = true := by
  induction tolls with
  | nil => exact fun s _ hdead => hdead
  | cons t tolls ih =>
    intro s h hdead
    rw [healsDead, hdead, Bool.true_and, Bool.or_eq_false_iff, decide_eq_false_iff_not] at h
    -- this toll gives nothing, so the others find the creature as dead
    have hchange : t.change ≤ 0 := Int32.not_lt.1 h.1
    exact ih (takeToll id s t) h.2 (Vitals.isDead_changeHealth hdead hchange)

theorem isDead_vitalsAfter {time : UInt32} {c : Creature} (h : healsDeadIn time c = false)
    (hdead : c.vitals.isDead = true) : (vitalsAfter time c).1.isDead = true :=
  isDead_foldl_takeToll c.id _ (c.vitals, []) h hdead

/-- Tolls tell of no death. -/
theorem count_died_foldl_takeToll (id other : CreatureId) (tolls : List Toll) :
    ∀ s : Vitals × List Event,
      (tolls.foldl (takeToll id) s).2.count (.died other) = s.2.count (.died other) := by
  induction tolls with
  | nil => exact fun s => rfl
  | cons t tolls ih =>
    intro s
    have htold : (takeToll id s t).2.count (.died other) = s.2.count (.died other) := by
      unfold takeToll
      dsimp only
      split
      · rfl
      · -- a change of health is no death
        refine List.count_cons_of_ne ?_
        nofun
    rw [List.foldl_cons, ih, htold]

/-- The deaths that a stretch of time tells of. -/
theorem count_died_eventsIn (time : UInt32) (id : CreatureId) (cs : List Creature) :
    (eventsIn time cs).count (.died id) = cs.countP fun c => c.id = id ∧ diesIn time c = true := by
  have htolls : (cs.flatMap fun c => (vitalsAfter time c).2.reverse).count (.died id) = 0 := by
    rw [List.count_eq_zero]
    intro hin
    obtain ⟨c, -, hc⟩ := List.mem_flatMap.1 hin
    have hnone : (vitalsAfter time c).2.count (.died id) = 0 :=
      count_died_foldl_takeToll c.id id _ (c.vitals, [])
    exact List.count_eq_zero.1 hnone (List.mem_reverse.1 hc)
  rw [eventsIn, List.count_append, htolls, Nat.zero_add, List.count_eq_countP, List.countP_map,
    List.countP_filter]
  refine List.countP_congr fun c _ => ?_
  simp

/-! ## §3. Deaths. -/

/-- Whether a creature is registered, and dead. -/
def isDead (w : World) (id : CreatureId) : Bool := (w.creature? id).any (·.vitals.isDead)

/-- **A creature's death is told once** between two worlds, when it comes: the history has grown, and
    tells of the death once if the creature was not dead and is now, and not at all otherwise.  That
    leaves no way for the dead to be raised. -/
def Falls (id : CreatureId) (w w' : World) : Prop :=
  ∃ told, w'.history = w.history ++ told
    ∧ (w.isDead id).toNat + told.count (.died id) = (w'.isDead id).toNat

namespace Falls

variable {id : CreatureId} {w w' w'' : World}

/-- **Deaths add up.** -/
theorem trans (h : Falls id w w') (h' : Falls id w' w'') : Falls id w w'' := by
  obtain ⟨told, hhistory, hcount⟩ := h
  obtain ⟨more, hmore, hcount'⟩ := h'
  refine ⟨told ++ more, by rw [hmore, hhistory, List.append_assoc], ?_⟩
  rw [List.count_append]
  omega

/-- A change that neither kills nor raises the creature, and tells of no death. -/
theorem of_tells (htells : Tells (fun e => e != .died id) w w') (hdead : w'.isDead id = w.isDead id) :
    Falls id w w' := by
  obtain ⟨told, hhistory, hkind⟩ := htells
  refine ⟨told, hhistory, ?_⟩
  have hnone : told.count (.died id) = 0 :=
    List.count_eq_zero.2 fun hin => bne_iff_ne.1 (hkind _ hin) rfl
  rw [hnone, hdead, Nat.add_zero]

theorem refl (w : World) : Falls id w w := of_tells (.refl w) rfl

theorem of_spares (h : Spares w w') : Falls id w w' := by
  refine of_tells (h.tells.mono fun e he => ?_) ?_
  · cases e with
    | died => cases he
    | _ => rfl
  · have hvitals := h.vitals id
    unfold World.isDead
    generalize w.creature? id = m, w'.creature? id = m' at hvitals ⊢
    cases hvitals with
    | none => rfl
    | some hsame => rw [Option.any_some, Option.any_some, hsame]

/-- **The dead stay dead.** -/
theorem isDead (h : Falls id w w') (hdead : w.isDead id = true) : w'.isDead id = true := by
  obtain ⟨told, -, hcount⟩ := h
  rw [hdead] at hcount
  cases hafter : w'.isDead id with
  | true => rfl
  | false =>
    rw [hafter] at hcount
    simp at hcount

/-- **A hit that kills or does not:** it takes one that lives, and tells of the death it brings. -/
theorem of_hit {w₁ : World} {target : CreatureId} {kills : Bool} {e : Event}
    (hhistory : w₁.history = w.history ++ [e]) (he : e ≠ .died id)
    (hlives : target = id → w.isDead id = false)
    (hafter : w₁.isDead id = if target = id then kills else w.isDead id) :
    Falls id w (if kills then w₁.emit (.died target) else w₁) := by
  cases kills with
  | true =>
    refine ⟨[e, .died target], ?_, ?_⟩
    · show (w₁.emit (.died target)).history = _
      rw [history_emit, hhistory, List.append_assoc]
      rfl
    · show _ = (w₁.isDead id).toNat
      rw [hafter, List.count_cons_of_ne he]
      by_cases hid : target = id
      · rw [hlives hid, if_pos hid, hid, List.count_singleton_self]
        rfl
      · -- it is another one that dies
        have hother : Event.died target ≠ .died id := fun hsame => hid (Event.died.inj hsame)
        rw [if_neg hid, List.count_cons_of_ne hother, List.count_nil, Nat.add_zero]
  | false =>
    refine ⟨[e], hhistory, ?_⟩
    show _ = (w₁.isDead id).toNat
    rw [hafter, List.count_cons_of_ne he, List.count_nil, Nat.add_zero]
    split
    · rename_i hid
      rw [hlives hid]
    · rfl

end Falls

/-! ## §4. Casts. -/

/-- Who is dead once a creature has new vitals. -/
theorem isDead_setVitals {w : World} {target : CreatureId} {c : Creature}
    (hc : w.creature? target = some c) (vitals : Vitals) (id : CreatureId) :
    (w.modifyCreature target fun d => { d with vitals }).isDead id
      = if target = id then vitals.isDead else w.isDead id := by
  unfold isDead
  rw [creature?_modifyCreature]
  split
  · rename_i hid
    rw [← hid, hc]
    rfl
  · rfl

/-- **A hit kills the living only,** and tells of it. -/
theorem falls_changeHealth (w : World) (attacker : Option CreatureId) (target : CreatureId)
    (t : DamageType) (change : Int32) (id : CreatureId) :
    Falls id w (w.changeHealth attacker target t change).2 := by
  unfold changeHealth
  split
  · exact .refl w
  · rename_i c hc
    split
    · -- the dead are not hit
      exact .refl w
    · rename_i halive
      have hlives : target = id → w.isDead id = false := by
        rintro rfl
        rw [isDead, hc, Option.any_some]
        exact Bool.eq_false_iff.2 halive
      have hafter := isDead_setVitals hc (c.vitals.changeHealth t change).2 id
      -- how the vitals come about does not matter here
      generalize c.vitals.changeHealth t change = hit at hafter ⊢
      exact .of_hit (history_emit (w.modifyCreature target _) _) nofun hlives hafter

theorem falls_changeMana (w : World) (attacker : Option CreatureId) (target : CreatureId)
    (change : Int32) (id : CreatureId) : Falls id w (w.changeMana attacker target change).2 := by
  unfold changeMana
  split
  · exact .refl w
  · rename_i c hc
    split
    · exact .refl w
    · refine .of_tells ((Tells.modifyCreature _ _).trans (.emit rfl)) ?_
      -- mana is no matter of life and death
      have hsame : (c.vitals.changeMana change).2.isDead = c.vitals.isDead := rfl
      refine (isDead_setVitals hc (c.vitals.changeMana change).2 id).trans ?_
      split
      · rename_i hid
        rw [hsame, isDead, ← hid, hc]
        rfl
      · rfl

end World

namespace Cast

theorem Change.falls {c : Cast} {wears : Prop} {w w' : World} (h : c.Change wears w w')
    (id : CreatureId) :
    World.Falls id w w' := by
  rcases h.vitals_cases with hspares | ⟨target, change, rfl⟩ | ⟨target, change, rfl⟩
  · exact .of_spares hspares
  · exact w.falls_changeHealth _ target _ change id
  · exact w.falls_changeMana _ target change id

/-- **No cast raises the dead,** and each tells of the deaths that it brings. -/
theorem falls_enter (c : Cast) (s : Scene) (e : Entry) (id : CreatureId) :
    World.Falls id s.world (c.enter s e).world := by
  have hchanges := c.changes_enter s e
  generalize (c.enter s e).world = w' at hchanges ⊢
  induction hchanges with
  | refl => exact .refl _
  | tail _ hlast ih => exact ih.trans (hlast.falls id)

end Cast

namespace World

/-! ## §5. Time. -/

theorem isDead_tick (w : World) (time : UInt32) (id : CreatureId) :
    (w.tick time).isDead id = (w.creature? id).any fun c => (vitalsAfter time c).1.isDead := by
  unfold isDead
  rw [creature?_tick]
  cases w.creature? id with
  | none => rw [Option.map_none, Option.any_none, Option.any_none]
  | some c => rw [Option.map_some, Option.any_some, Option.any_some, vitals_afterTime]

/-- Time leaves the dead dead that it does not heal. -/
theorem isDead_tick_of_isDead {w : World} {time : UInt32} {id : CreatureId}
    (h : (w.creature? id).any (healsDeadIn time) = false) (hdead : w.isDead id = true) :
    (w.tick time).isDead id = true := by
  rw [isDead_tick]
  unfold isDead at hdead
  cases hc : w.creature? id with
  | none =>
    rw [hc] at hdead
    cases hdead
  | some c =>
    rw [hc, Option.any_some] at h hdead
    exact isDead_vitalsAfter h hdead

/-- A creature's own conditions tell of its death, and those of no other creature. -/
theorem count_died_tick {w : World} (hkeyed : w.Keyed) (time : UInt32) (id : CreatureId) :
    (eventsIn time (w.creatures.toList.map Prod.snd)).count (.died id)
      = ((w.creature? id).any (diesIn time)).toNat := by
  have hothers : ∀ cs : List Creature, (∀ d ∈ cs, d.id ≠ id) →
      (cs.countP fun c => c.id = id ∧ diesIn time c = true) = 0 := by
    intro cs hcs
    refine List.countP_eq_zero.2 fun d hd => ?_
    simp [hcs d hd]
  rw [count_died_eventsIn]
  cases hc : w.creature? id with
  | none =>
    refine hothers _ fun d hd hid => ?_
    obtain ⟨e, he, rfl⟩ := List.mem_map.1 hd
    have hlisted : w.creature? e.1 = some e.2 :=
      Std.ExtTreeMap.mem_toList_iff_getElem?_eq_some.1 he
    rw [← hkeyed e.1 e.2 hlisted, hid, hc] at hlisted
    cases hlisted
  | some c =>
    obtain ⟨before, after, hlist, hbefore, hafter⟩ := hkeyed.listed_once hc
    have hid := hkeyed id c hc
    rw [hid] at hbefore hafter
    rw [hlist, List.countP_append, List.countP_cons, hothers before hbefore, hothers after hafter]
    cases hdies : diesIn time c with
    | true => simp [hid, hdies]
    | false => simp [hdies]

/-- **A stretch of time that heals no dead creature** raises nobody, and tells of the deaths that it
    brings. -/
theorem falls_tick {w : World} (hkeyed : w.Keyed) {time : UInt32} {id : CreatureId}
    (h : (w.creature? id).any (healsDeadIn time) = false) : Falls id w (w.tick time) := by
  refine ⟨_, history_tick w time, ?_⟩
  rw [count_died_tick hkeyed, isDead_tick]
  unfold isDead
  cases hc : w.creature? id with
  | none => rfl
  | some c =>
    rw [hc, Option.any_some] at h
    rw [Option.any_some, Option.any_some, Option.any_some, diesIn]
    -- time tells of the deaths of the living only, so it must not raise a dead one
    cases hdead : c.vitals.isDead with
    | true => rw [isDead_vitalsAfter h hdead]; rfl
    | false => simp

/-! ## §6. Runs. -/

/-- Whether time heals a creature, in the course of rounds, that is dead or dies meanwhile. -/
def healsDeadDuring (w : World) (id : CreatureId) : List Round → Bool
  | [] => false
  | .cast c e :: rounds => healsDeadDuring (w.take (.cast c e)) id rounds
  | .tick time :: rounds =>
    (w.creature? id).any (healsDeadIn time) || healsDeadDuring (w.take (.tick time)) id rounds

theorem play_append (w : World) (rounds more : List Round) :
    w.play (rounds ++ more) = (w.play rounds).play more := List.foldl_append

theorem healsDeadDuring_append (w : World) (id : CreatureId) (rounds more : List Round) :
    w.healsDeadDuring id (rounds ++ more)
      = (w.healsDeadDuring id rounds || (w.play rounds).healsDeadDuring id more) := by
  induction rounds generalizing w with
  | nil => rfl
  | cons r rounds ih =>
    cases r with
    | cast c e => exact ih (w.take (.cast c e))
    | tick time =>
      rw [List.cons_append, healsDeadDuring, healsDeadDuring, ih, Bool.or_assoc]
      rfl

/-- Rounds leave the dead dead that time does not heal meanwhile. -/
theorem isDead_play {w : World} {id : CreatureId} (rounds : List Round)
    (h : w.healsDeadDuring id rounds = false) (hdead : w.isDead id = true) :
    (w.play rounds).isDead id = true := by
  induction rounds generalizing w with
  | nil => exact hdead
  | cons r rounds ih =>
    cases r with
    | cast c e => exact ih h ((c.falls_enter ⟨w, []⟩ e id).isDead hdead)
    | tick time =>
      rw [healsDeadDuring, Bool.or_eq_false_iff] at h
      exact ih h.2 (isDead_tick_of_isDead h.1 hdead)

/-- **The deaths of every run** are told as they come, where time heals no dead creature. -/
theorem falls_play {w : World} (hkeyed : w.Keyed) {id : CreatureId} (rounds : List Round)
    (h : w.healsDeadDuring id rounds = false) : Falls id w (w.play rounds) := by
  -- from any world, since each round leaves another; all of them keep creatures under their names
  induction rounds generalizing w with
  | nil => exact .refl w
  | cons r rounds ih =>
    cases r with
    | cast c e =>
      exact (c.falls_enter ⟨w, []⟩ e id).trans (ih (hkeyed.take (.cast c e)) h)
    | tick time =>
      rw [healsDeadDuring, Bool.or_eq_false_iff] at h
      exact (falls_tick hkeyed h.1).trans (ih (hkeyed.tick time) h.2)

/-- **Death is final and is told once,** however combats are cast and time passes, as long as no toll of
    a condition heals the creature when it is dead: whoever is dead after some rounds is dead after all
    later ones, and, where creatures are registered under their own names, the rounds tell of a death
    once if it came meanwhile, and else not at all. -/
theorem play_buries_once (w : World) (id : CreatureId) (rounds : List Round)
    (h : w.healsDeadDuring id rounds = false) :
    (∀ n m, n ≤ m → (w.play (rounds.take n)).isDead id = true →
      (w.play (rounds.take m)).isDead id = true)
    ∧ (w.Keyed → ∃ told, (w.play rounds).history = w.history ++ told
      ∧ told.count (.died id) = (!w.isDead id && (w.play rounds).isDead id).toNat) := by
  constructor
  · intro n m hle hdead
    -- the rounds between the two are part of the run
    have hmiddle : rounds.take m = rounds.take n ++ (rounds.drop n).take (m - n) := by
      rw [← List.take_add, Nat.add_sub_cancel' hle]
    rw [← List.take_append_drop m rounds, hmiddle, healsDeadDuring_append, healsDeadDuring_append,
      Bool.or_eq_false_iff, Bool.or_eq_false_iff] at h
    rw [hmiddle, play_append]
    exact isDead_play _ h.1.2 hdead
  · intro hkeyed
    obtain ⟨told, hhistory, hcount⟩ := falls_play hkeyed rounds h
    refine ⟨told, hhistory, ?_⟩
    cases hbefore : w.isDead id with
    | true =>
      -- its death was told before the run
      rw [hbefore, isDead_play rounds h hbefore] at hcount
      exact Nat.add_left_cancel hcount
    | false =>
      rw [hbefore] at hcount
      rw [Bool.not_false, Bool.true_and, ← hcount]
      exact (Nat.zero_add _).symm

/-- A rat heals and burns at once: a hit leaves it little, and the fire more than outdoes the healing.
    It dies once, and later hits and fire find it dead. -/
theorem play_buries_once_rat :
    let rat : Creature := { Creature.new ⟨5⟩ "rat" .monster ⟨100, 100, 7⟩ with
      vitals := .full 30 0
      conditions := [(Condition.new .regeneration 4000).withDamage 5 2000,
        (Condition.new .fire 6000).withDamage (-10) 2000] }
    let w := (World.new .empty {} 0).addCreature rat
    let hit : Cast := ⟨{ settings := { damageType := .physical } }, none⟩
    let rounds := [.cast hit (.healthOn ⟨5⟩ ⟨-25, -25⟩), .tick 4000,
      .cast hit (.healthOn ⟨5⟩ ⟨-25, -25⟩), .tick 2000]
    w.healsDeadDuring ⟨5⟩ rounds = false ∧ w.Keyed
      ∧ (w.play (rounds.take 1)).isDead ⟨5⟩ = false
      ∧ (w.play (rounds.take 2)).isDead ⟨5⟩ = true ∧ (w.play (rounds.take 4)).isDead ⟨5⟩ = true
      ∧ ∃ told, (w.play rounds).history = w.history ++ told ∧ told.count (.died ⟨5⟩) = 1 := by
  intro rat w hit rounds
  have hunhealed : w.healsDeadDuring ⟨5⟩ rounds = false := by decide
  have hkeyed : w.Keyed := ((consistent_new _ _ _).addCreature rat).keyed
  obtain ⟨hfinal, htold⟩ := play_buries_once w ⟨5⟩ rounds hunhealed
  have hdies : (w.play (rounds.take 2)).isDead ⟨5⟩ = true := by decide
  have hstays : (w.play (rounds.take 4)).isDead ⟨5⟩ = true := hfinal 2 4 (by decide) hdies
  obtain ⟨told, hhistory, hcount⟩ := htold hkeyed
  have hbefore : w.isDead ⟨5⟩ = false := by decide
  have hafter : (w.play rounds).isDead ⟨5⟩ = true := hstays
  rw [hbefore, hafter] at hcount
  exact ⟨hunhealed, hkeyed, by decide, hdies, hstays, told, hhistory, hcount⟩

/-- A rat that regenerates is killed, raised by the next stretch of time, and killed again: it dies
    twice. -/
theorem rat_dies_twice :
    let rat : Creature := { Creature.new ⟨5⟩ "rat" .monster ⟨100, 100, 7⟩ with
      vitals := .full 30 0
      conditions := [(Condition.new .regeneration (-1)).withDamage 5 1000] }
    let w := (World.new .empty {} 0).addCreature rat
    let hit : Cast := ⟨{ settings := { damageType := .physical } }, none⟩
    let rounds := [.cast hit (.healthOn ⟨5⟩ ⟨-30, -30⟩), .tick 1000,
      .cast hit (.healthOn ⟨5⟩ ⟨-30, -30⟩)]
    (w.play (rounds.take 1)).isDead ⟨5⟩ = true ∧ (w.play (rounds.take 2)).isDead ⟨5⟩ = false
      ∧ w.history = [] ∧ (w.play rounds).history.count (.died ⟨5⟩) = 2 := by
  decide

end World

end Realm
