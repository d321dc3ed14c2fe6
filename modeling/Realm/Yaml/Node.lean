/-
  Realm.Yaml.Node — what a text says, as a tree of texts, lists and records.

  A node may have an anchor, under which other places refer to it, and a tag.  Anchors are of any type:
  names as they are written, or numbers that say what a name means at one place of the text.
-/
import Realm.Yaml.Token

namespace Realm.Yaml

/-- What may stand in front of a node: the anchor that others refer to, and a tag. -/
structure Properties (ν : Type) where
  anchor : Option ν := none
  tag : Option Tag := none
deriving Repr, DecidableEq

/-- **A node:** a reference to another one, a text, a list of nodes, or fields whose keys are nodes
    too. -/
inductive Node (ν : Type)
  | reference (target : ν)
  | scalar (props : Properties ν) (style : Style) (text : String)
  | list (props : Properties ν) (items : List (Node ν))
  | record (props : Properties ν) (fields : List (Node ν × Node ν))

namespace Node

/-- What stands where nothing is written. -/
def empty {ν : Type} : Node ν := scalar {} .plain ""

/-- The anchor of a node. -/
def anchor? {ν : Type} : Node ν → Option ν
  | reference _ => none
  | scalar p _ _ => p.anchor
  | list p _ => p.anchor
  | record p _ => p.anchor

/-! ## §1. All nodes. -/

mutual

/-- A node and all nodes in it, in the order in which they start. -/
def all {ν : Type} : Node ν → List (Node ν)
  | list p items => list p items :: allOf items
  | record p fields => record p fields :: allOfFields fields
  | n => [n]

def allOf {ν : Type} : List (Node ν) → List (Node ν)
  | [] => []
  | n :: rest => n.all ++ allOf rest

def allOfFields {ν : Type} : List (Node ν × Node ν) → List (Node ν)
  | [] => []
  | (k, v) :: rest => k.all ++ v.all ++ allOfFields rest

end

/-- The anchored nodes with their anchors, in the order in which they start. -/
def anchored {ν : Type} (n : Node ν) : List (ν × Node ν) :=
  n.all.filterMap fun m => m.anchor?.map (·, m)

/-- The marks that write a node: one for a text or a reference, and one for each end of a list or a
    record. -/
def ownSize {ν : Type} : Node ν → Nat
  | list _ _ => 2
  | record _ _ => 2
  | _ => 1

/-- The marks that write a node and all nodes in it. -/
def size {ν : Type} (n : Node ν) : Nat := n.all.foldl (fun size m => size + m.ownSize) 0

end Node

end Realm.Yaml
