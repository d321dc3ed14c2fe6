/-
  Realm.Proofs.World.Run — worlds in the course of time.

  A world is built from outside, by deeds, and between deeds it plays rounds: someone casts a combat, or
  time passes.  What every deed keeps holds in every world that was ever built; a round is a run of a
  cast's single changes or a stretch of time, so there are few things to look at.

  Main statements:
  * `take_induction` — what single changes and stretches of time keep, a round keeps;
  * `consistent_run` — creatures and tiles agree in every world that was built;
  * `run_stands_once` — there each creature stands exactly once, and on its place.
-/
import Mathlib.Data.List.Nodup
import Realm.Proofs.Combat.Changes
import Realm.Proofs.World.Consistency

namespace Realm

/-! ## §1. Rounds and deeds. -/

/-- What a world goes through by itself: a combat is cast, or time passes. -/
inductive Round
  | cast (c : Cast) (e : Cast.Entry)
  | tick (time : UInt32)

/-- What is done to a world from outside. -/
inductive Deed
  | addTile (p : Position) (flags : TileFlags)
  | placeItem (p : Position) (id amount : UInt16)
  | addCreature (c : Creature)
  | removeCreature (id : CreatureId)
  | round (r : Round)

namespace World

/-- A world after a round. -/
def take (w : World) : Round → World
  | .cast c e => (c.enter ⟨w, []⟩ e).world
  | .tick time => w.tick time

/-- A world after rounds, one after the other. -/
def play (w : World) (rounds : List Round) : World := rounds.foldl take w

/-- A world after a deed. -/
def perform (w : World) : Deed → World
  | .addTile p flags => w.addTile p flags
  | .placeItem p id amount => w.placeItem p id amount
  | .addCreature c => w.addCreature c
  | .removeCreature id => w.removeCreature id
  | .round r => w.take r

/-- A world after deeds, one after the other. -/
def run (w : World) (deeds : List Deed) : World := deeds.foldl perform w

/-! ## §2. Time. -/

/-- Whether a player's fight runs out in a stretch of time. -/
def endsFight (w : World) (time : UInt32) (id : CreatureId) : Bool :=
  w.fights.contains id && w.fightTicks id ≤ time

/-- A creature after a stretch of time, out of its fight if that has run out. -/
def afterTime (w : World) (time : UInt32) (id : CreatureId) (c : Creature) : Creature :=
  if w.endsFight time id then outOfFight (creatureAfter time c) else creatureAfter time c

section

variable (w : World) (time : UInt32) (id : CreatureId) (c : Creature)

theorem creature?_tick :
    (w.tick time).creature? id = (w.creature? id).map (w.afterTime time id) :=
  Std.ExtTreeMap.getElem?_map

theorem id_afterTime : (w.afterTime time id c).id = c.id := by
  unfold afterTime
  split <;> rfl

theorem position_afterTime : (w.afterTime time id c).position = c.position := by
  unfold afterTime
  split <;> rfl

theorem vitals_afterTime : (w.afterTime time id c).vitals = (vitalsAfter time c).1 := by
  unfold afterTime
  split <;> rfl

end

/-- Time changes no names. -/
theorem Keyed.tick {w : World} (h : w.Keyed) (time : UInt32) : (w.tick time).Keyed := by
  intro id c' hc'
  rw [creature?_tick] at hc'
  obtain ⟨c, hc, rfl⟩ := Option.map_eq_some_iff.1 hc'
  rw [id_afterTime, h id c hc]

/-- Time moves nobody. -/
theorem Consistent.tick {w : World} (h : w.Consistent) (time : UInt32) :
    (w.tick time).Consistent := by
  refine h.of_places (fun id => ?_) fun p => rfl
  rw [creature?_tick, Option.map_map]
  congr 1
  funext c
  rw [Function.comp_apply, id_afterTime, position_afterTime]

/-! ## §3. Runs. -/

/-- **What single changes and stretches of time keep,** a round keeps. -/
theorem take_induction {P : World → Prop}
    (hchange : ∀ (c : Cast) w w', c.Change True w w' → P w → P w')
    (htick : ∀ (w : World) time, P w → P (w.tick time)) (w : World) (r : Round) (h : P w) :
    P (w.take r) := by
  cases r with
  | tick time => exact htick w time h
  | cast c e =>
    have hchanges : c.Changes True w (c.enter ⟨w, []⟩ e).world := c.changes_enter ⟨w, []⟩ e
    show P (c.enter ⟨w, []⟩ e).world
    generalize (c.enter ⟨w, []⟩ e).world = w' at hchanges ⊢
    induction hchanges with
    | refl => exact h
    | tail _ hlast ih => exact hchange c _ _ hlast ih

theorem Keyed.take {w : World} (h : w.Keyed) (r : Round) : (w.take r).Keyed :=
  take_induction (fun c _ _ hchange h => (hchange.frame c).keyed h) (fun _ time h => h.tick time) w r h

theorem Consistent.take {w : World} (h : w.Consistent) (r : Round) : (w.take r).Consistent :=
  take_induction (fun c _ _ hchange h => h.of_frame (hchange.frame c)) (fun _ time h => h.tick time)
    w r h

theorem Consistent.perform {w : World} (h : w.Consistent) (d : Deed) : (w.perform d).Consistent := by
  cases d with
  | addTile p flags => exact h.addTile p flags
  | placeItem p id amount => exact h.placeItem p id amount
  | addCreature c => exact h.addCreature c
  | removeCreature id => exact h.removeCreature id
  | round r => exact h.take r

theorem Consistent.run {w : World} (h : w.Consistent) (deeds : List Deed) :
    (w.run deeds).Consistent := by
  induction deeds generalizing w with
  | nil => exact h
  | cons d deeds ih => exact ih (h.perform d)

/-- **Creatures and tiles agree** in every world that was built from nothing. -/
theorem consistent_run (types : Catalogue) (rules : Rules) (seed : UInt64) (deeds : List Deed) :
    ((World.new types rules seed).run deeds).Consistent :=
  (consistent_new types rules seed).run deeds

/-! ## §4. Everyone on the map. -/

/-- Everyone who stands on a tile, tile by tile. -/
def everyone (w : World) : List CreatureId := w.map.toList.flatMap fun e => e.2.creatures

theorem mem_toList_iff (m : TileMap) (e : Position × Tile) :
    e ∈ m.toList ↔ m.tile? e.1 = some e.2 := Std.ExtTreeMap.mem_toList_iff_getElem?_eq_some

theorem mem_everyone_iff (w : World) (id : CreatureId) :
    id ∈ w.everyone ↔ ∃ p, id ∈ w.standing p := by
  rw [everyone, List.mem_flatMap]
  constructor
  · rintro ⟨e, he, hid⟩
    exact ⟨e.1, (w.mem_standing_iff_exists e.1 id).2 ⟨e.2, (mem_toList_iff w.map e).1 he, hid⟩⟩
  · rintro ⟨p, hid⟩
    obtain ⟨t, ht, hid⟩ := (w.mem_standing_iff_exists p id).1 hid
    exact ⟨(p, t), (mem_toList_iff w.map (p, t)).2 ht, hid⟩

/-- **In a consistent world no one stands twice,** on one tile or on two. -/
theorem Consistent.nodup_everyone {w : World} (h : w.Consistent) : w.everyone.Nodup := by
  have hstanding : ∀ e ∈ w.map.toList, e.2.creatures = w.standing e.1 := by
    intro e he
    rw [standing, World.tile?, (mem_toList_iff w.map e).1 he]
    rfl
  rw [everyone, List.nodup_flatMap]
  constructor
  · intro e he
    rw [hstanding e he]
    exact h.nodup_standing e.1
  · -- whoever stands on two tiles has one place only, and no place is listed twice
    refine Std.ExtTreeMap.distinct_keys_toList.imp_of_mem fun {e e'} he he' hkeys id hid hid' => ?_
    dsimp only at hid hid'
    rw [hstanding e he] at hid
    rw [hstanding e' he'] at hid'
    obtain ⟨c, hc, hplace⟩ := h.registered e.1 id hid
    have hsame := (h.mem_standing_iff hc e'.1).1 hid'
    rw [← hplace, hsame] at hkeys
    exact hkeys Std.ReflCmp.compare_self

/-- **In every world that was built from nothing,** whatever was added, replaced, removed, cast and
    waited for: each registered creature stands exactly once among all tiles, on the tile of its place,
    and whoever stands on a tile is registered. -/
theorem run_stands_once (types : Catalogue) (rules : Rules) (seed : UInt64) (deeds : List Deed) :
    let w := (World.new types rules seed).run deeds
    (∀ id c, w.creature? id = some c → c.id = id ∧ w.everyone.count id = 1
      ∧ ∃ t, w.tile? c.position = some t ∧ id ∈ t.creatures)
    ∧ ∀ p t, w.tile? p = some t → ∀ id ∈ t.creatures, (w.creature? id).isSome := by
  intro w
  have h : w.Consistent := consistent_run types rules seed deeds
  constructor
  · intro id c hc
    have hstands : id ∈ w.standing c.position := (h.mem_standing_iff hc c.position).2 rfl
    have heveryone : id ∈ w.everyone := (mem_everyone_iff w id).2 ⟨c.position, hstands⟩
    exact ⟨h.keyed id c hc, List.count_eq_one_of_mem h.nodup_everyone heveryone,
      (w.mem_standing_iff_exists c.position id).1 hstands⟩
  · intro p t ht id hid
    obtain ⟨c, hc, -⟩ := h.registered p id ((w.mem_standing_iff_exists p id).2 ⟨t, ht, hid⟩)
    rw [hc]
    rfl

end World

end Realm
