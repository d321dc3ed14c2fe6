/-
  Realm.Proofs.NodeFile.Forest — ordered forests, their spelling in a file, and their place in an arena.

  A forest is the value that a node file stands for.  Its nodes carry a kind and a label: the property
  bytes for a forest that is read, the pieces handed over one after the other for one that is written,
  and a `Spelling` for one as it stands in a file.

  Main statements:
  * `bytes_unique` — the bytes of a forest, followed by no further opener, determine the forest;
  * `tree_unique` — the bytes of a tree, followed by anything, determine where the tree ends;
  * `layout_within` — the arena of a forest measures stretches inside the forest's own bytes.
-/
import Realm.NodeFile.Arena

namespace Realm.NodeFile

/-! ## §1. Forests. -/

/-- **An ordered forest:** nothing, or a first tree and the forest behind it.  A tree is a node with a
    kind, a label and the forest inside it. -/
inductive Forest (α : Type) where
  | nil
  | node (kind : UInt8) (label : α) (inside behind : Forest α)
deriving Repr, DecidableEq

/-- One tree of a forest: the kind and the label of its root, and the forest inside it. -/
structure Tree (α : Type) where
  kind : UInt8
  label : α
  inside : Forest α

namespace Forest

variable {α β : Type}

/-- How many nodes there are. -/
def size : Forest α → Nat
  | nil => 0
  | node _ _ inside behind => 1 + inside.size + behind.size

/-- The same forest under other labels. -/
def map (g : UInt8 → α → β) : Forest α → Forest β
  | nil => nil
  | node kind label inside behind => node kind (g kind label) (inside.map g) (behind.map g)

/-- The labels with their places in preorder, counted from `i` on. -/
def numbered : Forest α → Nat → Forest (Nat × α)
  | nil, _ => nil
  | node kind label inside behind, i =>
    node kind (i, label) (inside.numbered (i + 1)) (behind.numbered (i + 1 + inside.size))

/-- What leads to a forest whose first node has the place `i`: nothing, when there is no node. -/
def link : Forest α → Nat → Option Nat
  | nil, _ => none
  | node .., i => some i

/-- The places of the first nodes of the trees, when the first one has the place `i`. -/
def roots : Forest α → Nat → List Nat
  | nil, _ => []
  | node _ _ inside behind, i => i :: behind.roots (i + 1 + inside.size)

/-- The trees of a forest, first one first. -/
def trees : Forest α → List (Tree α)
  | nil => []
  | node kind label inside behind => ⟨kind, label, inside⟩ :: behind.trees

@[simp] theorem length_roots (f : Forest α) (i : Nat) : (f.roots i).length = f.trees.length := by
  induction f generalizing i with
  | nil => rfl
  | node kind label inside behind _ ih => simp [roots, trees, ih]

@[simp] theorem size_map (g : UInt8 → α → β) (f : Forest α) : (f.map g).size = f.size := by
  induction f with
  | nil => rfl
  | node kind label inside behind ihInside ihBehind => simp [map, size, ihInside, ihBehind]

@[simp] theorem link_map (g : UInt8 → α → β) (f : Forest α) (i : Nat) :
    (f.map g).link i = f.link i := by
  cases f <;> rfl

theorem link_of_ne_nil {f : Forest α} (hf : f ≠ nil) (i : Nat) : f.link i = some i := by
  cases f with
  | nil => exact absurd rfl hf
  | node kind label inside behind => rfl

theorem map_eq_nil {g : UInt8 → α → β} {f : Forest α} : f.map g = nil ↔ f = nil := by
  cases f <;> simp [map]

end Forest

/-! ## §2. Spelling. -/

/-- **How a file spells a node** between its opener and what lies inside it: whether the kind stands
    behind an escape mark, and the property bytes as they are in the file. -/
structure Spelling where
  escapedKind : Bool
  props : List UInt8
deriving Repr, DecidableEq

theorem isReserved_eq_true {b : UInt8} :
    isReserved b = true ↔ b = opener ∨ b = closer ∨ b = escaper := by
  simp [isReserved, or_assoc]

/-- **Property bytes as a file may hold them:** bytes that are no marks, and pairs of an escape mark and
    any byte. -/
inductive PropsText : List UInt8 → Prop
  | nil : PropsText []
  | plain {b : UInt8} {rest : List UInt8} (unreserved : isReserved b = false)
      (tail : PropsText rest) : PropsText (b :: rest)
  | pair {b : UInt8} {rest : List UInt8} (tail : PropsText rest) : PropsText (escaper :: b :: rest)

namespace Spelling

/-- The bytes of a kind. -/
def kindBytes (s : Spelling) (kind : UInt8) : List UInt8 :=
  if s.escapedKind then [escaper, kind] else [kind]

/-- The bytes between an opener and what lies inside the node. -/
def heading (s : Spelling) (kind : UInt8) : List UInt8 := s.kindBytes kind ++ s.props

/-- A spelling that can be read: a kind without an escape mark is not one itself. -/
structure Valid (s : Spelling) (kind : UInt8) : Prop where
  kind_plain : s.escapedKind = false → kind ≠ escaper
  props_text : PropsText s.props

end Spelling

namespace Forest

/-- **The bytes of a forest.** -/
def bytes : Forest Spelling → List UInt8
  | nil => []
  | node kind s inside behind =>
    opener :: (s.heading kind ++ inside.bytes ++ closer :: behind.bytes)

/-- Every node is spelled in a way that can be read. -/
def Valid : Forest Spelling → Prop
  | nil => True
  | node kind s inside behind => s.Valid kind ∧ inside.Valid ∧ behind.Valid

/-- **The arena of a forest** whose first node has the place `i` in it and opens at `place` in the file:
    in preorder, each node with where its properties lie, its first child and its next sibling. -/
def layout : Forest Spelling → Nat → Nat → List Node
  | nil, _, _ => []
  | node kind s inside behind, i, place =>
    let propsAt := place + 1 + (s.kindBytes kind).length
    let inner := propsAt + s.props.length
    { kind, start := place, propsAt, propsSize := s.props.length,
      child := inside.link (i + 1), next := behind.link (i + 1 + inside.size) }
      :: (inside.layout (i + 1) inner
        ++ behind.layout (i + 1 + inside.size) (inner + inside.bytes.length + 1))

@[simp] theorem length_layout (f : Forest Spelling) (i place : Nat) :
    (f.layout i place).length = f.size := by
  induction f generalizing i place with
  | nil => rfl
  | node kind s inside behind ihInside ihBehind =>
    simp only [layout, size, List.length_cons, List.length_append, ihInside, ihBehind]
    omega

/-- The bytes of a forest that is not empty begin with an opener. -/
theorem bytes_eq_cons {f : Forest Spelling} (hf : f ≠ nil) : ∃ rest, f.bytes = opener :: rest := by
  cases f with
  | nil => exact absurd rfl hf
  | node kind s inside behind => exact ⟨_, rfl⟩

/-- **Measured stretches lie inside the forest's own bytes,** and hold the spelled properties. -/
theorem layout_within (f : Forest Spelling) :
    ∀ (i place : Nat), ∀ n ∈ f.layout i place,
      place < n.propsAt ∧ n.propsAt + n.propsSize < place + f.bytes.length := by
  induction f with
  | nil => intro i place n hn; simp [layout] at hn
  | node kind s inside behind ihInside ihBehind =>
    intro i place n hn
    have hlen : (node kind s inside behind).bytes.length
        = 1 + ((s.kindBytes kind).length + s.props.length) + inside.bytes.length + 1
          + behind.bytes.length := by
      simp only [bytes, Spelling.heading, List.length_cons, List.length_append]
      omega
    simp only [layout, List.mem_cons, List.mem_append] at hn
    rcases hn with rfl | hn | hn
    · rw [hlen]
      constructor <;> simp only <;> omega
    · have := ihInside _ _ n hn
      omega
    · have := ihBehind _ _ n hn
      omega

end Forest

/-! ## §3. The spelling determines the forest. -/

/-- Two texts of properties in front of openers or closers are the same text. -/
theorem propsText_unique {p q x y : List UInt8} {a b : UInt8} (hp : PropsText p) (hq : PropsText q)
    (ha : a = opener ∨ a = closer) (hb : b = opener ∨ b = closer)
    (h : p ++ a :: x = q ++ b :: y) : p = q ∧ a :: x = b :: y := by
  have hres : ∀ m : UInt8, m = opener ∨ m = closer → isReserved m = true ∧ m ≠ escaper := by
    rintro m (rfl | rfl) <;> decide
  induction hp generalizing q with
  | nil =>
    cases hq with
    | nil => exact ⟨rfl, h⟩
    | plain hc _ =>
      obtain ⟨rfl, _⟩ := List.cons.inj h
      rw [(hres _ ha).1] at hc
      exact absurd hc (by decide)
    | pair _ => exact absurd (List.cons.inj h).1 (hres _ ha).2
  | plain hc _ ih =>
    cases hq with
    | nil =>
      obtain ⟨rfl, _⟩ := List.cons.inj h
      rw [(hres _ hb).1] at hc
      exact absurd hc (by decide)
    | plain hd hq' =>
      obtain ⟨rfl, htail⟩ := List.cons.inj h
      obtain ⟨rfl, hrest⟩ := ih hq' htail
      exact ⟨rfl, hrest⟩
    | pair _ =>
      obtain ⟨rfl, _⟩ := List.cons.inj h
      exact absurd hc (by decide)
  | pair _ ih =>
    cases hq with
    | nil => exact absurd (List.cons.inj h).1.symm (hres _ hb).2
    | plain hd _ =>
      obtain ⟨rfl, _⟩ := List.cons.inj h
      exact absurd hd (by decide)
    | pair hq' =>
      obtain ⟨rfl, htail⟩ := List.cons.inj (List.cons.inj h).2
      obtain ⟨rfl, hrest⟩ := ih hq' htail
      exact ⟨rfl, hrest⟩

/-- The bytes of a kind determine it, and what stands behind it. -/
theorem kindBytes_unique {s t : Spelling} {k l : UInt8} {x y : List UInt8} (hs : s.Valid k)
    (ht : t.Valid l) (h : s.kindBytes k ++ x = t.kindBytes l ++ y) :
    k = l ∧ s.escapedKind = t.escapedKind ∧ x = y := by
  unfold Spelling.kindBytes at h
  cases hes : s.escapedKind <;> cases het : t.escapedKind <;> rw [hes, het] at h
  · obtain ⟨rfl, rfl⟩ := List.cons.inj h
    exact ⟨rfl, rfl, rfl⟩
  · obtain ⟨rfl, _⟩ := List.cons.inj h
    exact absurd rfl (hs.kind_plain hes)
  · obtain ⟨rfl, _⟩ := List.cons.inj h
    exact absurd rfl (ht.kind_plain het)
  · obtain ⟨rfl, rfl⟩ := List.cons.inj (List.cons.inj h).2
    exact ⟨rfl, rfl, rfl⟩

/-- What stands behind a heading begins with an opener or with a closer. -/
theorem exists_mark_behind (f : Forest Spelling) (x : List UInt8) :
    ∃ a rest, f.bytes ++ closer :: x = a :: rest ∧ (a = opener ∨ a = closer) := by
  cases f with
  | nil => exact ⟨closer, x, rfl, Or.inr rfl⟩
  | node kind s inside behind => exact ⟨opener, _, rfl, Or.inl rfl⟩

/-- Behind a closer nothing opens at once. -/
theorem head?_closer_ne (x : List UInt8) : (closer :: x).head? ≠ some opener := by
  simp [opener, closer]

/-- **A heading in front of what lies inside a node** determines the kind and its spelling. -/
theorem heading_unique {s t : Spelling} {k l : UInt8} {f g : Forest Spelling} {x y : List UInt8}
    (hs : s.Valid k) (ht : t.Valid l)
    (h : s.heading k ++ (f.bytes ++ closer :: x) = t.heading l ++ (g.bytes ++ closer :: y)) :
    k = l ∧ s = t ∧ f.bytes ++ closer :: x = g.bytes ++ closer :: y := by
  simp only [Spelling.heading, List.append_assoc] at h
  obtain ⟨rfl, hescaped, hprops⟩ := kindBytes_unique hs ht h
  obtain ⟨a, r, hr, ha⟩ := exists_mark_behind f x
  obtain ⟨b, r', hr', hb⟩ := exists_mark_behind g y
  rw [hr, hr'] at hprops ⊢
  obtain ⟨hsame, hinner⟩ := propsText_unique hs.props_text ht.props_text ha hb hprops
  refine ⟨rfl, ?_, hinner⟩
  cases s
  cases t
  simp_all

/-- **The bytes of a forest determine it,** when no further node opens behind them. -/
theorem bytes_unique {f g : Forest Spelling} {x y : List UInt8} (hf : f.Valid) (hg : g.Valid)
    (hx : x.head? ≠ some opener) (hy : y.head? ≠ some opener)
    (h : f.bytes ++ x = g.bytes ++ y) : f = g ∧ x = y := by
  induction f generalizing g x y with
  | nil =>
    cases g with
    | nil => exact ⟨rfl, h⟩
    | node kind s inside behind =>
      rw [show x = _ from h] at hx
      exact absurd rfl hx
  | node kind s inside behind ihInside ihBehind =>
    cases g with
    | nil =>
      rw [show y = _ from h.symm] at hy
      exact absurd rfl hy
    | node kind' s' inside' behind' =>
      obtain ⟨hs, hin, hbe⟩ := hf
      obtain ⟨hs', hin', hbe'⟩ := hg
      simp only [Forest.bytes, List.cons_append, List.append_assoc] at h
      obtain ⟨rfl, rfl, hinner⟩ := heading_unique hs hs' (List.cons.inj h).2
      obtain ⟨rfl, houter⟩ :=
        ihInside hin hin' (head?_closer_ne _) (head?_closer_ne _) hinner
      obtain ⟨rfl, rfl⟩ := ihBehind hbe hbe' hx hy (List.cons.inj houter).2
      exact ⟨rfl, rfl⟩

/-- **The bytes of a tree determine where it ends,** whatever stands behind them. -/
theorem tree_unique {k l : UInt8} {s t : Spelling} {f g : Forest Spelling} {x y : List UInt8}
    (hf : (Forest.node k s f .nil).Valid) (hg : (Forest.node l t g .nil).Valid)
    (h : (Forest.node k s f .nil).bytes ++ x = (Forest.node l t g .nil).bytes ++ y) : x = y := by
  obtain ⟨hs, hin, -⟩ := hf
  obtain ⟨ht, hin', -⟩ := hg
  simp only [Forest.bytes, List.cons_append, List.append_assoc, List.nil_append] at h
  obtain ⟨-, -, hinner⟩ := heading_unique hs ht (List.cons.inj h).2
  obtain ⟨-, houter⟩ := bytes_unique hin hin' (head?_closer_ne x) (head?_closer_ne y) hinner
  exact (List.cons.inj houter).2

end Realm.NodeFile
