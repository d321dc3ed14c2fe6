/-
  Realm.Creature.Id — the names of creatures.
-/
import Std.Data.ExtTreeSet

namespace Realm

/-- The name of a creature, for as long as it is registered. -/
structure CreatureId where
  val : UInt32
deriving Repr, DecidableEq

namespace CreatureId

instance : Ord CreatureId := ⟨compareOn val⟩

instance : Std.TransOrd CreatureId := inferInstanceAs (Std.TransCmp (compareOn val))

instance : Std.LawfulEqOrd CreatureId where
  eq_of_compare {a b} h := by
    have h' : compare a.val b.val = .eq := h
    have := Std.LawfulEqOrd.eq_of_compare h'
    cases a
    cases b
    simp_all

end CreatureId

/-- A set of creatures. -/
abbrev CreatureSet : Type := Std.ExtTreeSet CreatureId

end Realm
