/-
  Realm.Yaml.Document — a whole text: one node, and what its references mean.

  An anchor's number says how many names were there before it.  A name that is used again gets a number
  of its own, which the next new name gets too; what such a number means is the node that starts last.
-/
import Realm.Yaml.Grammar
import Realm.Yaml.Layout

namespace Realm.Yaml

/-! ## §1. Anchors by number. -/

/-- The numbers that names have at one place of a text. -/
abbrev Names : Type := List (String × Nat)

/-- Gives a name the next number, over one that it has. -/
def Names.put (names : Names) (name : String) : Names :=
  (name, names.length) :: names.filter (·.1 != name)

/-- An anchor by its number. -/
def Properties.number (p : Properties String) : StateT Names Option (Properties Nat) := do
  match p.anchor with
  | none => return { tag := p.tag }
  | some name =>
    let names ← get
    set (names.put name)
    return { anchor := some names.length, tag := p.tag }

namespace Node

mutual

/-- **A node with numbers for names.**  A reference comes after its anchor, and may stand in what is
    anchored. -/
def number : Node String → StateT Names Option (Node Nat)
  | reference name => do return reference (← (← get).lookup name)
  | scalar p style text => do return scalar (← p.number) style text
  | list p items => do return list (← p.number) (← numberAll items)
  | record p fields => do return record (← p.number) (← numberFields fields)

def numberAll : List (Node String) → StateT Names Option (List (Node Nat))
  | [] => return []
  | n :: rest => do return (← n.number) :: (← numberAll rest)

def numberFields :
    List (Node String × Node String) → StateT Names Option (List (Node Nat × Node Nat))
  | [] => return []
  | (k, v) :: rest => do return (← k.number, ← v.number) :: (← numberFields rest)

end

end Node

/-! ## §2. Documents. -/

/-- A text as one node, and the anchored nodes by their numbers, the last one first. -/
structure Document where
  root : Node Nat
  anchored : List (Nat × Node Nat)
  size : Nat

namespace Document

/-- The node that a number means. -/
def node? (d : Document) (n : Nat) : Option (Node Nat) := d.anchored.lookup n

/-- How many references may be followed for each mark of a text. -/
def referencesPerMark : Nat := 100

/-- How many references may be followed in all. -/
def limit (d : Document) : Nat := d.size * referencesPerMark

/-- **The document that a text writes.** -/
def ofText? (text : String) : Option Document := do
  let (root, _) ← (← Node.ofTokens? (← Token.ofText? text)).number.run []
  return { root, anchored := root.anchored.reverse, size := root.size }

end Document

end Realm.Yaml
