/-
  Realm.Proofs.World.Ledger — the history of a world, read as a ledger.

  Health and mana are changed by hits and by conditions, and either way what landed is told.  So what
  became of a creature can be added up from the history, as long as its health and mana are within their
  limits, where no change is lost to a word that is too short.  They stay there: every change settles
  between nothing and the limit.

  Main statements:
  * `Cast.Change.vitals_cases` — what a single change of a cast does to vitals;
  * `Cast.Change.books` — such a change is told as it landed;
  * `books_tick` — so is what a stretch of time costs;
  * `play_balances` — the balance of any run of casts and stretches of time.
-/
import Mathlib.Algebra.Ring.Int.Defs
import Realm.Proofs.World.History
import Realm.Proofs.World.Run

namespace Realm

/-! ## §1. Levels and their limits. -/

/-- What a creature has more or less of. -/
inductive Stat
  | health
  | mana
deriving DecidableEq

/-- So much of one level, and nothing of the other. -/
def Stat.just (stat : Stat) (n : Int) (other : Stat) : Int := if stat = other then n else 0

theorem Stat.just_self (stat : Stat) (n : Int) : stat.just n stat = n := if_pos rfl

theorem Stat.just_of_ne {stat other : Stat} (n : Int) (h : stat ≠ other) : stat.just n other = 0 :=
  if_neg h

theorem Stat.just_zero (stat : Stat) : stat.just 0 = fun _ => 0 := funext fun _ => ite_self 0

namespace Vitals

def level (v : Vitals) : Stat → Int32
  | .health => v.health
  | .mana => v.mana

def limit (v : Vitals) : Stat → Int32
  | .health => v.maxHealth
  | .mana => v.maxMana

/-- Health and mana are between nothing and their limits. -/
def Bounded (v : Vitals) : Prop := ∀ stat, 0 ≤ v.level stat ∧ v.level stat ≤ v.limit stat

/-- Words are compared as the integers that they stand for. -/
theorem toInt_max (a b : Int32) : (max a b).toInt = max a.toInt b.toInt := by
  show (if a ≤ b then b else a).toInt = _
  split <;> rename_i hle <;> rw [Int32.le_iff_toInt_le] at hle <;> omega

theorem toInt_min (a b : Int32) : (min a b).toInt = min a.toInt b.toInt := by
  show (if a ≤ b then a else b).toInt = _
  split <;> rename_i hle <;> rw [Int32.le_iff_toInt_le] at hle <;> omega

/-- An amount settles between nothing and its limit. -/
theorem settle_within (before change : Int32) {limit : Int32} (h : 0 ≤ limit) :
    0 ≤ settle before change limit ∧ settle before change limit ≤ limit := by
  unfold settle
  dsimp only
  -- wherever the sum was clamped, the limits hold it
  generalize Int32.ofIntClamp (before.toInt + change.toInt) = after
  simp only [Int32.le_iff_toInt_le, toInt_max, toInt_min, Int32.toInt_zero] at h ⊢
  omega

/-- Where an amount settles is where it was and the difference: between amounts that are not negative,
    that fits a word. -/
theorem toInt_settle {before limit : Int32} (change : Int32) (hbefore : 0 ≤ before)
    (hlimit : 0 ≤ limit) :
    (settle before change limit).toInt
      = before.toInt + (settle before change limit - before).toInt := by
  obtain ⟨hafter, -⟩ := settle_within before change hlimit
  generalize settle before change limit = after at hafter ⊢
  rw [Int32.le_iff_toInt_le, Int32.toInt_zero] at hbefore hafter
  have hlt := before.toInt_lt
  have hlt' := after.toInt_lt
  rw [Int32.toInt_sub, Int.bmod_eq_of_le (by omega) (by omega)]
  omega

/-- **Levels move** by an amount each, and stay within their limits. -/
def Moves (amount : Stat → Int) (v v' : Vitals) : Prop :=
  v.Bounded → v'.Bounded ∧ ∀ stat, (v'.level stat).toInt = (v.level stat).toInt + amount stat

namespace Moves

variable {amount amount' : Stat → Int} {v v' v'' : Vitals}

theorem refl (v : Vitals) : Moves (fun _ => 0) v v :=
  fun h => ⟨h, fun _ => (Int.add_zero _).symm⟩

/-- **Amounts add up.** -/
theorem trans (h : Moves amount v v') (h' : Moves amount' v' v'') :
    Moves (fun stat => amount stat + amount' stat) v v'' := by
  intro hv
  obtain ⟨hv', hmoved⟩ := h hv
  obtain ⟨hv'', hmoved'⟩ := h' hv'
  refine ⟨hv'', fun stat => ?_⟩
  rw [hmoved', hmoved, Int.add_assoc]

end Moves

/-- **A level that settles** moves by what landed, and the other one stays. -/
theorem moves_of_settle {v v' : Vitals} {stat : Stat} {change : Int32}
    (hlevel : v'.level stat = settle (v.level stat) change (v.limit stat))
    (hother : ∀ other, stat ≠ other → v'.level other = v.level other)
    (hlimit : ∀ other, v'.limit other = v.limit other) :
    Moves (stat.just (v'.level stat - v.level stat).toInt) v v' := by
  intro hv
  obtain ⟨hnonneg, hbelow⟩ := hv stat
  have hroom := Int32.le_trans hnonneg hbelow
  refine ⟨fun other => ?_, fun other => ?_⟩
  · rw [hlimit]
    by_cases hsame : stat = other
    · rw [← hsame, hlevel]
      exact settle_within _ change hroom
    · rw [hother other hsame]
      exact hv other
  · by_cases hsame : stat = other
    · rw [← hsame, Stat.just_self, hlevel]
      exact toInt_settle change hnonneg hroom
    · rw [hother other hsame, Stat.just_of_ne _ hsame, Int.add_zero]

theorem moves_changeHealth (v : Vitals) (t : DamageType) (change : Int32) :
    Moves (Stat.health.just (v.changeHealth t change).1.toInt) v (v.changeHealth t change).2 := by
  have hlevel : (v.changeHealth t change).2.level .health
      = settle (v.level .health) (v.resisted t change) (v.limit .health) := rfl
  have hlanded : (v.changeHealth t change).1
      = (v.changeHealth t change).2.level .health - v.level .health := rfl
  have hother : ∀ other, Stat.health ≠ other →
      (v.changeHealth t change).2.level other = v.level other := by
    intro other hother
    cases other with
    | health => exact absurd rfl hother
    | mana => rfl
  rw [hlanded]
  exact moves_of_settle hlevel hother fun other => by cases other <;> rfl

theorem moves_changeMana (v : Vitals) (change : Int32) :
    Moves (Stat.mana.just (v.changeMana change).1.toInt) v (v.changeMana change).2 := by
  have hlevel : (v.changeMana change).2.level .mana
      = settle (v.level .mana) change (v.limit .mana) := rfl
  have hlanded : (v.changeMana change).1
      = (v.changeMana change).2.level .mana - v.level .mana := rfl
  have hother : ∀ other, Stat.mana ≠ other →
      (v.changeMana change).2.level other = v.level other := by
    intro other hother
    cases other with
    | health => rfl
    | mana => exact absurd rfl hother
  rw [hlanded]
  exact moves_of_settle hlevel hother fun other => by cases other <;> rfl

end Vitals

/-! ## §2. Entries. -/

/-- What an event puts down to a creature. -/
def Event.entry (id : CreatureId) : Event → Stat → Int
  | .healthChanged _ target _ change, .health => if target = id then change.toInt else 0
  | .manaChanged _ target change, .mana => if target = id then change.toInt else 0
  | _, _ => 0

/-- Whether an event puts nothing down to anyone. -/
def Event.isQuiet : Event → Bool
  | .healthChanged .. | .manaChanged .. => false
  | _ => true

/-- Whether an event tells nothing of anyone's vitals: of health, of mana or of a death. -/
def Event.sparesVitals : Event → Bool
  | .healthChanged .. | .manaChanged .. | .died .. => false
  | _ => true

theorem Event.entry_of_isQuiet {e : Event} (h : e.isQuiet = true) (id : CreatureId) (stat : Stat) :
    e.entry id stat = 0 := by
  cases e with
  | healthChanged => cases h
  | manaChanged => cases h
  | _ => rfl

theorem Event.entry_healthChanged (attacker : Option CreatureId) (target : CreatureId)
    (t : DamageType) (change : Int32) :
    (Event.healthChanged attacker target t change).entry target = Stat.health.just change.toInt := by
  funext stat
  cases stat with
  | health => exact if_pos rfl
  | mana => rfl

theorem Event.entry_manaChanged (attacker : Option CreatureId) (target : CreatureId)
    (change : Int32) :
    (Event.manaChanged attacker target change).entry target = Stat.mana.just change.toInt := by
  funext stat
  cases stat with
  | health => rfl
  | mana => exact if_pos rfl

theorem Event.entry_healthChanged_of_ne {target id : CreatureId} (h : target ≠ id)
    (attacker : Option CreatureId) (t : DamageType) (change : Int32) (stat : Stat) :
    (Event.healthChanged attacker target t change).entry id stat = 0 := by
  cases stat with
  | health => exact if_neg h
  | mana => rfl

theorem Event.entry_manaChanged_of_ne {target id : CreatureId} (h : target ≠ id)
    (attacker : Option CreatureId) (change : Int32) (stat : Stat) :
    (Event.manaChanged attacker target change).entry id stat = 0 := by
  cases stat with
  | health => rfl
  | mana => exact if_neg h

/-- **What events put down to a creature,** added up. -/
def booked (id : CreatureId) (told : List Event) (stat : Stat) : Int :=
  (told.map fun e => e.entry id stat).sum

section

variable (id : CreatureId) (told more : List Event) (stat : Stat)

theorem booked_cons (e : Event) :
    booked id (e :: told) stat = e.entry id stat + booked id told stat := by
  rw [booked, List.map_cons, List.sum_cons, booked]

theorem booked_singleton (e : Event) : booked id [e] = e.entry id := by
  funext stat
  rw [booked_cons]
  exact Int.add_zero _

theorem booked_append :
    booked id (told ++ more) stat = booked id told stat + booked id more stat := by
  rw [booked, List.map_append, List.sum_append, booked, booked]

theorem booked_reverse : booked id told.reverse stat = booked id told stat := by
  rw [booked, List.map_reverse, List.sum_reverse, booked]

variable {told}

theorem booked_eq_zero (h : ∀ e ∈ told, e.entry id stat = 0) : booked id told stat = 0 := by
  rw [booked, List.map_congr_left h]
  simp

end

namespace World

/-! ## §3. Changes that leave vitals alone. -/

/-- **Vitals are spared** between two worlds: they are what they were, and nothing is told of them. -/
structure Spares (w w' : World) : Prop where
  tells : Tells Event.sparesVitals w w'
  vitals : ∀ id, Option.Rel (fun c c' : Creature => c'.vitals = c.vitals)
    (w.creature? id) (w'.creature? id)

namespace Spares

variable {w w' : World}

/-- A change that leaves the creatures alone. -/
theorem of_creatures (hcreatures : w'.creatures = w.creatures)
    (htells : Tells Event.sparesVitals w w') : Spares w w' := by
  refine ⟨htells, fun id => ?_⟩
  rw [creature?, creature?, hcreatures]
  exact rel_refl (R := fun c c' : Creature => c'.vitals = c.vitals) (fun _ => rfl) _

theorem refl (w : World) : Spares w w := of_creatures rfl (.refl w)

/-- A change within a frame that hurts nobody. -/
theorem of_frame {marked armed : CreatureId → Prop} {gain : Position → Nat}
    (hframe : Frame (fun _ => False) marked armed gain w w')
    (htells : Tells Event.sparesVitals w w') : Spares w w' :=
  ⟨htells, fun id => rel_imp (hframe.creature id) fun _ _ hwithin =>
    (hwithin.unhurt not_false).1⟩

/-- A change of one creature that leaves its vitals alone. -/
theorem of_modifyCreature (id : CreatureId) {f : Creature → Creature}
    (hf : ∀ c, (f c).vitals = c.vitals) : Spares w (w.modifyCreature id f) := by
  refine ⟨.modifyCreature id f, fun id' => ?_⟩
  rw [creature?_modifyCreature]
  cases w.creature? id' with
  | none =>
    rw [Option.map_none, ite_self]
    exact .none
  | some c =>
    split
    · exact .some (hf c)
    · exact .some rfl

end Spares

/-! ## §4. Books. -/

/-- **The books balance** between two worlds: the history has grown, and what it tells moves the levels
    of each creature to where they are. -/
def Books (w w' : World) : Prop :=
  ∃ told, w'.history = w.history ++ told ∧ ∀ id,
    Option.Rel (fun c c' : Creature => c.vitals.Moves (booked id told) c'.vitals)
      (w.creature? id) (w'.creature? id)

namespace Books

variable {w w' w'' : World}

/-- A change that leaves vitals alone, and tells of none. -/
theorem of_quiet (htells : Tells Event.isQuiet w w')
    (hvitals : ∀ id, Option.Rel (fun c c' : Creature => c'.vitals = c.vitals)
      (w.creature? id) (w'.creature? id)) : Books w w' := by
  obtain ⟨told, hhistory, hquiet⟩ := htells
  refine ⟨told, hhistory, fun id => ?_⟩
  have hnothing : booked id told = fun _ => 0 :=
    funext fun stat => booked_eq_zero id stat fun e he => e.entry_of_isQuiet (hquiet e he) id stat
  refine rel_imp (hvitals id) fun c c' hsame => ?_
  rw [hnothing, hsame]
  exact .refl _

theorem of_spares (h : Spares w w') : Books w w' := by
  refine of_quiet (h.tells.mono fun e he => ?_) h.vitals
  cases e with
  | healthChanged => cases he
  | manaChanged => cases he
  | _ => rfl

theorem refl (w : World) : Books w w := of_spares (.refl w)

/-- **Books add up.** -/
theorem trans (h : Books w w') (h' : Books w' w'') : Books w w'' := by
  obtain ⟨told, hhistory, hmoved⟩ := h
  obtain ⟨more, hmore, hmoved'⟩ := h'
  refine ⟨told ++ more, by rw [hmore, hhistory, List.append_assoc], fun id => ?_⟩
  have hboth : booked id (told ++ more) = fun stat => booked id told stat + booked id more stat :=
    funext (booked_append id told more)
  rw [hboth]
  exact rel_comp (hmoved id) (hmoved' id) fun _ _ _ hfirst hsecond => hfirst.trans hsecond

/-- **New vitals for one creature,** with the event that puts them down to it and to nobody else. -/
theorem of_event {target : CreatureId} {c : Creature} {vitals : Vitals} {e : Event}
    (hc : w.creature? target = some c) (hown : c.vitals.Moves (e.entry target) vitals)
    (hothers : ∀ id, target ≠ id → ∀ stat, e.entry id stat = 0) :
    Books w ((w.modifyCreature target fun d => { d with vitals }).emit e) := by
  refine ⟨[e], history_emit (w.modifyCreature target _) e, fun id => ?_⟩
  show Option.Rel _ _ ((w.modifyCreature target _).creature? id)
  rw [creature?_modifyCreature, booked_singleton]
  -- the creature itself, and everyone else
  by_cases hid : target = id
  · subst hid
    rw [if_pos rfl, hc]
    exact .some hown
  · have hnothing : e.entry id = fun _ => 0 := funext (hothers id hid)
    rw [if_neg hid, hnothing]
    exact rel_refl (fun d => .refl d.vitals) _

end Books

/-! ## §5. Hits. -/

theorem books_changeHealth (w : World) (attacker : Option CreatureId) (target : CreatureId)
    (t : DamageType) (change : Int32) : Books w (w.changeHealth attacker target t change).2 := by
  unfold changeHealth
  split
  · exact .refl w
  · rename_i c hc
    split
    · exact .refl w
    · have hlanded : Books w ((w.modifyCreature target fun d =>
          { d with vitals := (c.vitals.changeHealth t change).2 }).emit
          (.healthChanged attacker target t (c.vitals.changeHealth t change).1)) := by
        refine .of_event hc ?_ fun id hid => Event.entry_healthChanged_of_ne hid _ _ _
        rw [Event.entry_healthChanged]
        exact c.vitals.moves_changeHealth t change
      dsimp only
      generalize (w.modifyCreature target _).emit _ = w₁ at hlanded ⊢
      split
      · -- a death puts nothing down
        exact hlanded.trans (.of_quiet (.emit rfl) (Spares.refl _).vitals)
      · exact hlanded

theorem books_changeMana (w : World) (attacker : Option CreatureId) (target : CreatureId)
    (change : Int32) : Books w (w.changeMana attacker target change).2 := by
  unfold changeMana
  split
  · exact .refl w
  · rename_i c hc
    split
    · exact .refl w
    · refine .of_event hc ?_ fun id hid => Event.entry_manaChanged_of_ne hid _ _
      rw [Event.entry_manaChanged]
      exact c.vitals.moves_changeMana change

end World

/-- **What a single change does to vitals:** it changes one creature's health, or its mana, or it leaves
    all of them alone. -/
theorem Cast.Change.vitals_cases {c : Cast} {wears : Prop} {w w' : World}
    (h : c.Change wears w w') :
    w.Spares w'
      ∨ (∃ target change, w' = (w.changeHealth c.caster target c.settings.damageType change).2)
      ∨ ∃ target change, w' = (w.changeMana c.caster target change).2 := by
  cases h with
  | rolled min max => exact .inl (.of_creatures rfl (.of_events rfl))
  | shown e hshow =>
    have hspares : e.sparesVitals = true := by
      cases e with
      | healthChanged => cases hshow
      | manaChanged => cases hshow
      | died => cases hshow
      | _ => rfl
    exact .inl (.of_creatures rfl (.emit hspares))
  | health target change => exact .inr (.inl ⟨target, change, rfl⟩)
  | mana target change => exact .inr (.inr ⟨target, change, rfl⟩)
  | conditions target =>
    obtain ⟨f, hf, hadded⟩ := c.addConditions_eq w target
    rw [hadded]
    refine .inl (.of_modifyCreature target fun t => ?_)
    obtain ⟨ds, hds⟩ := hf t
    rw [hds]
  | dispelled target =>
    unfold dispel
    split
    · exact .inl (.refl w)
    · exact .inl (.of_modifyCreature target fun t => rfl)
  | attacked caster target _ _ =>
    have hframe : w.Frame (fun _ => False) (fun _ => True) (fun _ => False) (fun _ => 0)
        (w.attackedCreature caster target) :=
      World.frame_attackedCreature w caster target fun _ _ _ _ => trivial
    exact .inl (.of_frame hframe (World.tells_attackedCreature w (fun _ _ _ => rfl) caster target))
  | fight id lock =>
    have hframe : w.Frame (fun _ => False) (fun _ => True) (fun _ => False) (fun _ => 0)
        (w.extendFight id w.rules.fightDuration lock) :=
      World.frame_extendFight w id _ lock fun _ => trivial
    exact .inl (.of_frame hframe (World.tells_extendFight w (fun _ _ _ => rfl) id _ lock))
  | worn caster weapon _ => exact .inl (.of_modifyCreature caster.id fun p => rfl)
  | field p =>
    have hkept : c.Keeps (fun _ => False) (fun _ => 1) w (c.layField w p) :=
      c.frame_layField w (Nat.le_refl 1)
    refine .inl (.of_frame hkept ?_)
    rw [layField_eq]
    split
    · exact .refl w
    · exact World.tells_lay w (fun _ _ => rfl) (fun _ _ => rfl) p _
  | covered target =>
    obtain ⟨-, -, hmap⟩ := c.cover_spec w target
    rw [hmap]
    exact .inl (.of_creatures rfl (.of_events rfl))

/-- **A single change of a cast** is told as it landed. -/
theorem Cast.Change.books {c : Cast} {wears : Prop} {w w' : World} (h : c.Change wears w w') :
    w.Books w' := by
  rcases h.vitals_cases with hspares | ⟨target, change, rfl⟩ | ⟨target, change, rfl⟩
  · exact .of_spares hspares
  · exact w.books_changeHealth _ target _ change
  · exact w.books_changeMana _ target change

namespace World

/-! ## §6. Time. -/

/-- **One toll** moves a creature by what it tells, and tells of nobody else. -/
theorem takeToll_spec (id : CreatureId) (s : Vitals × List Event) (t : Toll) :
    ∃ told, (takeToll id s t).2 = told ++ s.2 ∧ s.1.Moves (booked id told) (takeToll id s t).1
      ∧ ∀ other, id ≠ other → ∀ stat, booked other told stat = 0 := by
  have hmoved := s.1.moves_changeHealth t.type t.change
  unfold takeToll
  dsimp only
  by_cases hnothing : (s.1.changeHealth t.type t.change).1 = 0
  · -- what did not land is not told
    refine ⟨[], if_pos hnothing, ?_, fun other _ stat => rfl⟩
    rw [hnothing, Int32.toInt_zero, Stat.just_zero] at hmoved
    exact hmoved
  · refine ⟨[.healthChanged t.owner id t.type (s.1.changeHealth t.type t.change).1],
      if_neg hnothing, ?_, fun other hother stat => ?_⟩
    · rw [booked_singleton, Event.entry_healthChanged]
      exact hmoved
    · rw [booked_singleton]
      exact Event.entry_healthChanged_of_ne hother _ _ _ stat

/-- **All tolls,** one after the other. -/
theorem foldl_takeToll_spec (id : CreatureId) (tolls : List Toll) :
    ∀ s : Vitals × List Event, ∃ told, (tolls.foldl (takeToll id) s).2 = told ++ s.2
      ∧ s.1.Moves (booked id told) (tolls.foldl (takeToll id) s).1
      ∧ ∀ other, id ≠ other → ∀ stat, booked other told stat = 0 := by
  induction tolls with
  | nil => exact fun s => ⟨[], rfl, .refl s.1, fun other _ stat => rfl⟩
  | cons t tolls ih =>
    intro s
    obtain ⟨told, htold, hmoved, hothers⟩ := takeToll_spec id s t
    obtain ⟨more, hmore, hmoved', hothers'⟩ := ih (takeToll id s t)
    refine ⟨more ++ told, ?_, ?_, fun other hother stat => ?_⟩
    · rw [List.foldl_cons, hmore, htold, List.append_assoc]
    · -- the last event comes first
      have hboth : booked id (more ++ told) = fun stat => booked id told stat + booked id more stat := by
        funext stat
        rw [booked_append, Int.add_comm]
      rw [hboth]
      exact hmoved.trans hmoved'
    · rw [booked_append, hothers' other hother, hothers other hother, Int.add_zero]

/-- **A stretch of time** moves a creature by what its conditions tell. -/
theorem vitalsAfter_spec (time : UInt32) (c : Creature) :
    c.vitals.Moves (booked c.id (vitalsAfter time c).2) (vitalsAfter time c).1
      ∧ ∀ other, c.id ≠ other → ∀ stat, booked other (vitalsAfter time c).2 stat = 0 := by
  obtain ⟨told, htold, hmoved, hothers⟩ :=
    foldl_takeToll_spec c.id (c.conditions.filterMap (tollOf time)) (c.vitals, [])
  have hall : (vitalsAfter time c).2 = told := htold.trans (List.append_nil told)
  rw [hall]
  exact ⟨hmoved, hothers⟩

theorem booked_flatMap_eq_zero (time : UInt32) {id : CreatureId} {cs : List Creature}
    (h : ∀ c ∈ cs, c.id ≠ id) (stat : Stat) :
    booked id (cs.flatMap fun c => (vitalsAfter time c).2.reverse) stat = 0 := by
  induction cs with
  | nil => rfl
  | cons c cs ih =>
    rw [List.flatMap_cons, booked_append, booked_reverse,
      (vitalsAfter_spec time c).2 id (h c List.mem_cons_self),
      ih fun d hd => h d (List.mem_cons_of_mem c hd), Int.add_zero]

/-- Of all that a stretch of time tells, a creature's own conditions put something down to it. -/
theorem booked_eventsIn (time : UInt32) {c : Creature} {before after : List Creature}
    (hbefore : ∀ d ∈ before, d.id ≠ c.id) (hafter : ∀ d ∈ after, d.id ≠ c.id) (stat : Stat) :
    booked c.id (eventsIn time (before ++ c :: after)) stat
      = booked c.id (vitalsAfter time c).2 stat := by
  have hdeaths : ∀ cs : List Creature,
      booked c.id (cs.map fun c => Event.died c.id) stat = 0 := by
    intro cs
    refine booked_eq_zero c.id stat fun e he => ?_
    obtain ⟨d, -, rfl⟩ := List.mem_map.1 he
    rfl
  rw [eventsIn, booked_append, hdeaths, List.flatMap_append, List.flatMap_cons, booked_append,
    booked_append, booked_reverse, booked_flatMap_eq_zero time hbefore,
    booked_flatMap_eq_zero time hafter]
  omega

/-- No two creatures are listed under one name. -/
theorem Keyed.pairwise_ids {w : World} (h : w.Keyed) :
    (w.creatures.toList.map Prod.snd).Pairwise fun c d => c.id ≠ d.id := by
  have hname : ∀ e ∈ w.creatures.toList, e.2.id = e.1 := fun e he =>
    h e.1 e.2 (Std.ExtTreeMap.mem_toList_iff_getElem?_eq_some.1 he)
  rw [List.pairwise_map]
  refine Std.ExtTreeMap.distinct_keys_toList.imp_of_mem fun {e e'} he he' hkeys hsame => hkeys ?_
  rw [Std.compare_eq_iff_eq, ← hname e he, ← hname e' he', hsame]

/-- A registered creature is listed once, between creatures of other names. -/
theorem Keyed.listed_once {w : World} (h : w.Keyed) {id : CreatureId} {c : Creature}
    (hc : w.creature? id = some c) :
    ∃ before after, w.creatures.toList.map Prod.snd = before ++ c :: after
      ∧ (∀ d ∈ before, d.id ≠ c.id) ∧ ∀ d ∈ after, d.id ≠ c.id := by
  have hlisted : c ∈ w.creatures.toList.map Prod.snd :=
    List.mem_map_of_mem (f := Prod.snd) (Std.ExtTreeMap.mem_toList_iff_getElem?_eq_some.2 hc)
  obtain ⟨before, after, hsplit⟩ := List.append_of_mem hlisted
  have hids := h.pairwise_ids
  rw [hsplit, List.pairwise_append, List.pairwise_cons] at hids
  obtain ⟨-, ⟨hnext, -⟩, hprevious⟩ := hids
  exact ⟨before, after, hsplit, fun d hd => hprevious d hd c List.mem_cons_self,
    fun d hd hsame => hnext d hd hsame.symm⟩

/-- What a stretch of time tells. -/
theorem history_tick (w : World) (time : UInt32) :
    (w.tick time).history = w.history ++ eventsIn time (w.creatures.toList.map Prod.snd) := by
  show List.reverse (_ ++ _) = _
  rw [List.reverse_append, List.reverse_reverse]
  rfl

/-- **A stretch of time** is told as it landed, where creatures are registered under their own names. -/
theorem books_tick {w : World} (hkeyed : w.Keyed) (time : UInt32) : w.Books (w.tick time) := by
  refine ⟨_, history_tick w time, fun id => ?_⟩
  rw [creature?_tick]
  cases hc : w.creature? id with
  | none => exact .none
  | some c =>
    refine .some ?_
    -- of the conditions of all creatures, only its own put something down to this one
    obtain ⟨before, after, hlist, hbefore, hafter⟩ := hkeyed.listed_once hc
    have hown : booked c.id (eventsIn time (before ++ c :: after))
        = booked c.id (vitalsAfter time c).2 := funext (booked_eventsIn time hbefore hafter)
    rw [vitals_afterTime, hlist, ← hkeyed id c hc, hown]
    exact (vitalsAfter_spec time c).1

/-! ## §7. Runs. -/

/-- The vitals of all creatures are within their limits. -/
def Bounded (w : World) : Prop := ∀ id c, w.creature? id = some c → c.vitals.Bounded

theorem Books.bounded {w w' : World} (h : w.Books w') (hbounded : w.Bounded) : w'.Bounded := by
  intro id c' hc'
  obtain ⟨told, -, hmoved⟩ := h
  obtain ⟨c, hc, hmoves⟩ := exists_left_of_rel (hmoved id) hc'
  exact (hmoves (hbounded id c hc)).1

/-- Within their limits vitals stay, whatever names their creatures go by. -/
theorem Bounded.tick {w : World} (h : w.Bounded) (time : UInt32) : (w.tick time).Bounded := by
  intro id c' hc'
  rw [creature?_tick] at hc'
  obtain ⟨c, hc, rfl⟩ := Option.map_eq_some_iff.1 hc'
  rw [vitals_afterTime]
  exact ((vitalsAfter_spec time c).1 (h id c hc)).1

/-- **No run takes vitals out of their limits.** -/
theorem Bounded.play {w : World} (h : w.Bounded) (rounds : List Round) :
    (w.play rounds).Bounded := by
  induction rounds generalizing w with
  | nil => exact h
  | cons r rounds ih =>
    exact ih (take_induction (fun c _ _ hchange h => hchange.books.bounded h)
      (fun _ time h => h.tick time) w r h)

/-- **The books of every run balance.** -/
theorem books_play {w : World} (hkeyed : w.Keyed) (rounds : List Round) :
    w.Books (w.play rounds) := by
  -- the names are kept along with the books, since time needs them
  have hrun : ∀ v : World, v.Keyed → w.Books v → w.Books (v.play rounds) := by
    induction rounds with
    | nil => exact fun v _ hbooks => hbooks
    | cons r rounds ih =>
      intro v hv hbooks
      have hround : (v.take r).Keyed ∧ w.Books (v.take r) :=
        take_induction (P := fun v => v.Keyed ∧ w.Books v)
          (fun c _ _ hchange h => ⟨(hchange.frame c).keyed h.1, h.2.trans hchange.books⟩)
          (fun _ time h => ⟨h.1.tick time, h.2.trans (books_tick h.1 time)⟩) v r ⟨hv, hbooks⟩
      exact ih (v.take r) hround.1 hround.2
  exact hrun w hkeyed (.refl w)

/-- **The history is a faithful ledger.**  Where all health and mana are within their limits, they stay
    there, however combats are cast and time passes.  And where creatures are registered under their own
    names, what became of each one's health, and of its mana, is what the history tells of it since,
    added up. -/
theorem play_balances (w : World) (hbounded : w.Bounded) (rounds : List Round) :
    (∀ n, (w.play (rounds.take n)).Bounded)
    ∧ (w.Keyed → ∃ told, (w.play rounds).history = w.history ++ told
      ∧ ∀ id c, w.creature? id = some c → ∃ c', (w.play rounds).creature? id = some c'
        ∧ c'.vitals.health.toInt - c.vitals.health.toInt = booked id told .health
        ∧ c'.vitals.mana.toInt - c.vitals.mana.toInt = booked id told .mana) := by
  refine ⟨fun n => hbounded.play (rounds.take n), fun hkeyed => ?_⟩
  obtain ⟨told, hhistory, hmoved⟩ := books_play hkeyed rounds
  refine ⟨told, hhistory, fun id c hc => ?_⟩
  obtain ⟨c', hc', hmoves⟩ := exists_right_of_rel (hmoved id) hc
  obtain ⟨-, hlevels⟩ := hmoves (hbounded id c hc)
  have hhealth : c'.vitals.health.toInt = c.vitals.health.toInt + _ := hlevels .health
  have hmana : c'.vitals.mana.toInt = c.vitals.mana.toInt + _ := hlevels .mana
  exact ⟨c', hc', by omega, by omega⟩

/-- A burning rat is hit once, and burns for two intervals. -/
theorem play_balances_rat :
    let rat : Creature := { Creature.new ⟨5⟩ "rat" .monster ⟨100, 100, 7⟩ with
      vitals := .full 30 0
      conditions := [(Condition.new .fire 6000).withDamage (-10) 2000] }
    let w := (World.new .empty {} 0).addCreature rat
    let hit : Cast := ⟨{ settings := { damageType := .physical } }, none⟩
    let rounds := [.cast hit (.healthOn ⟨5⟩ ⟨-7, -7⟩), .tick 4000]
    w.Bounded ∧ w.Keyed ∧ (w.play rounds).Bounded
      ∧ ∃ told, (w.play rounds).history = w.history ++ told ∧ booked ⟨5⟩ told .health = -27
        ∧ booked ⟨5⟩ told .mana = 0 := by
  intro rat w hit rounds
  have hbounded : w.Bounded := by
    intro id c hc
    rw [creature?_addCreature] at hc
    split at hc
    · obtain rfl := Option.some.inj hc
      intro stat
      cases stat <;> decide
    · cases hc
  have hkeyed : w.Keyed := ((consistent_new _ _ _).addCreature rat).keyed
  obtain ⟨hsafe, hbalance⟩ := play_balances w hbounded rounds
  obtain ⟨told, hhistory, hmoved⟩ := hbalance hkeyed
  have hbefore : w.creature? ⟨5⟩ = some rat := (creature?_addCreature _ rat ⟨5⟩).trans (if_pos rfl)
  obtain ⟨c', hc', hhealth, hmana⟩ := hmoved ⟨5⟩ rat hbefore
  have hleft : ((w.play rounds).creature? ⟨5⟩).map (fun c => (c.vitals.health, c.vitals.mana))
      = some (3, 0) := by decide
  rw [hc', Option.map_some, Option.some.injEq, Prod.mk.injEq] at hleft
  rw [hleft.1] at hhealth
  rw [hleft.2] at hmana
  exact ⟨hbounded, hkeyed, hsafe 2, told, hhistory, hhealth.symm, hmana.symm⟩

end World

end Realm
