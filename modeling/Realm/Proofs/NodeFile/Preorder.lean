/-
  Realm.Proofs.NodeFile.Preorder — the arena of a file that opens is a forest in preorder.

  Links are written down while nodes are still open, but the arena that is there at the end shows one
  forest, and all that links do can be read off the forest.  `Visits` is the walk that follows the links
  with nothing to stop it but their ends, and `Chain` the same for the siblings of a node; on a shown
  forest both are finite, and a walk meets the places one by one.

  Main statements:
  * `visits_of_shows` — a walk over a shown forest meets its places in turn;
  * `exists_link_of_shows` — one link leads to each place of a shown forest but the first;
  * `layout_ordered` — properties stand in the file in the order of the nodes;
  * `preorder_openFile` — every file that opens gives an arena in preorder.
-/
import Realm.Proofs.NodeFile.RoundTrip
import Realm.Proofs.NodeFile.Soundness

namespace Realm.NodeFile

/-! ## §1. Walks over links. -/

namespace Arena

/-- **One node leads to another:** it is its first child or its next sibling. -/
def Links (a : Arena) (i j : Nat) : Prop := a.child? i = some j ∨ a.next? i = some j

/-- **The siblings from a link on,** to the last one. -/
inductive Chain (a : Arena) : Option Nat → List Nat → Prop
  | ends : Chain a none []
  | more {i : Nat} {rest : List Nat} (tail : Chain a (a.next? i) rest) : Chain a (some i) (i :: rest)

/-- **The nodes that a walk meets** from a link on: a node, then all below it, then all behind it. -/
inductive Visits (a : Arena) : Option Nat → List Nat → Prop
  | nothing : Visits a none []
  | node {i : Nat} {inside behind : List Nat} (below : Visits a (a.child? i) inside)
      (after : Visits a (a.next? i) behind) : Visits a (some i) (i :: (inside ++ behind))

/-- A walk meets the same nodes whenever it is made. -/
theorem Visits.unique {a : Arena} {link : Option Nat} {l l' : List Nat} (h : a.Visits link l)
    (h' : a.Visits link l') : l = l' := by
  induction h generalizing l' with
  | nothing =>
    cases h'
    rfl
  | node _ _ ihBelow ihAfter =>
    cases h' with
    | node below' after' => rw [ihBelow below', ihAfter after']

/-- What one walk meets, and only that. -/
theorem Visits.iff {a : Arena} {link : Option Nat} {l : List Nat} (h : a.Visits link l)
    (l' : List Nat) : a.Visits link l' ↔ l' = l := by
  constructor
  · exact fun h' => h'.unique h
  · rintro rfl
    exact h

theorem child?_of_le {a : Arena} {i : Nat} (h : a.size ≤ i) : a.child? i = none := by
  rw [child?, Array.getElem?_eq_none h]
  rfl

theorem next?_of_le {a : Arena} {i : Nat} (h : a.size ≤ i) : a.next? i = none := by
  rw [next?, Array.getElem?_eq_none h]
  rfl

/-- Links leave from nodes of the arena. -/
theorem Links.lt_size {a : Arena} {i j : Nat} (h : a.Links i j) : i < a.size := by
  refine Nat.lt_of_not_le fun hle => ?_
  rcases h with h | h
  · rw [child?_of_le hle] at h
    cases h
  · rw [next?_of_le hle] at h
    cases h

end Arena

/-! ## §2. The links of a shown forest. -/

theorem Forest.link_of_size_pos {α : Type} {f : Forest α} (h : 0 < f.size) (i : Nat) :
    f.link i = some i := by
  refine Forest.link_of_ne_nil ?_ i
  rintro rfl
  exact absurd h (Nat.lt_irrefl 0)

section

variable {nodes : Arena} {props : Nat → Except Error (List UInt8)}

/-- **Each place of a shown forest shows a node:** what lies inside it comes next, and then what stands
    behind it. -/
theorem exists_node_of_shows (f : Forest (List UInt8)) :
    ∀ i k, Shows nodes props f i → i ≤ k → k < i + f.size →
      ∃ kind data inside behind, Shows nodes props (.node kind data inside behind) k
        ∧ k + (1 + inside.size + behind.size) ≤ i + f.size := by
  induction f with
  | nil =>
    intro i k _ hle hlt
    exact absurd hlt (Nat.not_lt.mpr hle)
  | node kind data inside behind ihInside ihBehind =>
    intro i k hshows hle hlt
    obtain ⟨-, -, -, -, hinside, hbehind⟩ := id hshows
    rw [Forest.size] at hlt ⊢
    by_cases hroot : k = i
    · rw [hroot]
      exact ⟨kind, data, inside, behind, hshows, by omega⟩
    · by_cases hin : k < i + 1 + inside.size
      · obtain ⟨kind', data', inside', behind', hshows', hsize⟩ :=
          ihInside (i + 1) k hinside (by omega) (by omega)
        exact ⟨kind', data', inside', behind', hshows', by omega⟩
      · obtain ⟨kind', data', inside', behind', hshows', hsize⟩ :=
          ihBehind (i + 1 + inside.size) k hbehind (by omega) (by omega)
        exact ⟨kind', data', inside', behind', hshows', by omega⟩

/-- A shown node leads to the places of the two forests that it has, when they are not empty. -/
theorem links_of_shows_node {kind : UInt8} {data : List UInt8} {inside behind : Forest (List UInt8)}
    {i j : Nat} (h : Shows nodes props (.node kind data inside behind) i) (hlink : nodes.Links i j) :
    (j = i + 1 ∧ 0 < inside.size) ∨ (j = i + 1 + inside.size ∧ 0 < behind.size) := by
  obtain ⟨-, -, hchild, hnext, -, -⟩ := h
  rcases hlink with hlink | hlink
  · rw [hchild] at hlink
    exact .inl (Forest.link_eq_some hlink)
  · rw [hnext] at hlink
    exact .inr (Forest.link_eq_some hlink)

/-- Links of a shown forest lead forward in it. -/
theorem links_of_shows {f : Forest (List UInt8)} {i j k : Nat} (h : Shows nodes props f i)
    (hle : i ≤ k) (hlt : k < i + f.size) (hlink : nodes.Links k j) : k < j ∧ j < i + f.size := by
  obtain ⟨kind, data, inside, behind, hnode, hsize⟩ := exists_node_of_shows f i k h hle hlt
  rcases links_of_shows_node hnode hlink with ⟨rfl, hpos⟩ | ⟨rfl, hpos⟩ <;> omega

/-- **One link leads to each place of a shown forest** but the first. -/
theorem exists_link_of_shows (f : Forest (List UInt8)) :
    ∀ i j, Shows nodes props f i → i < j → j < i + f.size →
      ∃ k, nodes.Links k j ∧ ∀ k', i ≤ k' → k' < i + f.size → nodes.Links k' j → k' = k := by
  induction f with
  | nil =>
    intro i j _ hlt hsize
    exact absurd (Nat.lt_trans hlt hsize) (Nat.lt_irrefl i)
  | node kind data inside behind ihInside ihBehind =>
    intro i j hshows hlt hsize
    obtain ⟨-, -, hchild, hnext, hinside, hbehind⟩ := id hshows
    have hforward : ∀ k, i ≤ k → k < i + (Forest.node kind data inside behind).size →
        nodes.Links k j → k < j := fun k hle hk hlink => (links_of_shows hshows hle hk hlink).1
    have hroot : nodes.Links i j → j = i + 1 ∨ j = i + 1 + inside.size := fun hlink =>
      (links_of_shows_node hshows hlink).imp And.left And.left
    have hinner : ∀ k, i < k → k < i + 1 + inside.size → nodes.Links k j →
        j < i + 1 + inside.size := fun k hle hk hlink => (links_of_shows hinside hle hk hlink).2
    rw [Forest.size] at hsize hforward ⊢
    -- the place lies inside the node, or is the first behind it, or lies further behind
    rcases Nat.lt_trichotomy j (i + 1 + inside.size) with hj | rfl | hj
    · by_cases hfirst : j = i + 1
      · subst hfirst
        refine ⟨i, .inl (hchild.trans (Forest.link_of_size_pos (by omega) _)), fun k hle hk hlink => ?_⟩
        have := hforward k hle hk hlink
        omega
      · obtain ⟨k₀, hlink₀, hunique⟩ := ihInside (i + 1) j hinside (by omega) hj
        refine ⟨k₀, hlink₀, fun k hle hk hlink => ?_⟩
        have hkj := hforward k hle hk hlink
        rcases Nat.eq_or_lt_of_le hle with rfl | hne
        · have := hroot hlink
          omega
        · exact hunique k hne (by omega) hlink
    · refine ⟨i, .inr (hnext.trans (Forest.link_of_size_pos (by omega) _)), fun k hle hk hlink => ?_⟩
      have hkj := hforward k hle hk hlink
      rcases Nat.eq_or_lt_of_le hle with rfl | hne
      · rfl
      · exact absurd (hinner k hne hkj hlink) (Nat.lt_irrefl _)
    · obtain ⟨k₀, hlink₀, hunique⟩ := ihBehind (i + 1 + inside.size) j hbehind hj (by omega)
      refine ⟨k₀, hlink₀, fun k hle hk hlink => ?_⟩
      by_cases hk' : i + 1 + inside.size ≤ k
      · exact hunique k hk' (by omega) hlink
      · -- neither the node nor what lies inside it leads so far
        exfalso
        rcases Nat.eq_or_lt_of_le hle with rfl | hne
        · have := hroot hlink
          omega
        · have := hinner k hne (by omega) hlink
          omega

/-- The chain from the first tree of a shown forest on ends behind the last tree. -/
theorem chain_of_shows (f : Forest (List UInt8)) :
    ∀ i, Shows nodes props f i → nodes.Chain (f.link i) (f.roots i) := by
  induction f with
  | nil => exact fun _ _ => .ends
  | node kind data inside behind _ ihBehind =>
    intro i hshows
    obtain ⟨-, -, -, hnext, -, hbehind⟩ := hshows
    refine .more ?_
    rw [hnext]
    exact ihBehind _ hbehind

/-- **A walk over a shown forest meets its places in turn.** -/
theorem visits_of_shows (f : Forest (List UInt8)) :
    ∀ i, Shows nodes props f i → nodes.Visits (f.link i) (List.range' i f.size) := by
  induction f with
  | nil => exact fun _ _ => .nothing
  | node kind data inside behind ihInside ihBehind =>
    intro i hshows
    obtain ⟨-, -, hchild, hnext, hinside, hbehind⟩ := hshows
    have hplaces : List.range' i (Forest.node kind data inside behind).size
        = i :: (List.range' (i + 1) inside.size ++ List.range' (i + 1 + inside.size) behind.size) := by
      rw [List.range'_append_1, Forest.size, Nat.add_assoc, Nat.add_comm 1, List.range'_succ]
    rw [hplaces]
    refine .node ?_ ?_
    · rw [hchild]
      exact ihInside _ hinside
    · rw [hnext]
      exact ihBehind _ hbehind

end

/-! ## §3. Properties in the order of the nodes. -/

namespace Forest

/-- A node opens inside the bytes of its forest, and its properties start behind that. -/
theorem layout_start (f : Forest Spelling) :
    ∀ (i place : Nat), ∀ n ∈ f.layout i place, place ≤ n.start ∧ n.start < n.propsAt := by
  induction f with
  | nil => intro i place n hn; simp [layout] at hn
  | node kind s inside behind ihInside ihBehind =>
    intro i place n hn
    simp only [layout, List.mem_cons, List.mem_append] at hn
    rcases hn with rfl | hn | hn
    · constructor <;> simp only <;> omega
    · have := ihInside _ _ n hn
      omega
    · have := ihBehind _ _ n hn
      omega

/-- **Properties stand in the file in the order of the nodes:** those of a node end before the next node
    opens. -/
theorem layout_ordered (f : Forest Spelling) :
    ∀ i place, (f.layout i place).Pairwise fun m n => m.propsAt + m.propsSize ≤ n.start := by
  induction f with
  | nil => exact fun _ _ => .nil
  | node kind s inside behind ihInside ihBehind =>
    intro i place
    rw [layout]
    refine .cons (fun n hn => ?_) (List.pairwise_append.mpr ⟨ihInside _ _, ihBehind _ _, ?_⟩)
    · rcases List.mem_append.mp hn with hn | hn
      · exact (layout_start inside _ _ n hn).1
      · have := (layout_start behind _ _ n hn).1
        simp only
        omega
    · intro m hm n hn
      have hend := (layout_within inside _ _ m hm).2
      have hstart := (layout_start behind _ _ n hn).1
      omega

end Forest

/-! ## §4. Arenas in preorder. -/

namespace Arena

/-- **An arena in preorder.**  The first child of a node comes behind it at once, and its next sibling
    behind all that a walk from its child meets.  One node leads to each node but the first, and none to
    that.  The children of every node come to an end, and a walk from the first node meets every node
    once. -/
structure Preorder (a : Arena) : Prop where
  child_eq : ∀ i j, a.child? i = some j → j = i + 1
  next_eq : ∀ i < a.size, ∃ n, (∀ l, a.Visits (a.child? i) l ↔ l = List.range' (i + 1) n)
    ∧ ∀ j, a.next? i = some j → j = i + (1 + n)
  links_inside : ∀ i j, a.Links i j → j < a.size
  linked_once : ∀ j, 0 < j → j < a.size → ∃ i, a.Links i j ∧ ∀ k, a.Links k j → k = i
  first_unlinked : ∀ i, ¬ a.Links i 0
  children_end : ∀ i, a.Chain (a.child? i) (a.children i)
  visits_all : ∀ l, a.Visits (some 0) l ↔ l = List.range a.size

/-- **Properties in the order of the nodes:** they lie inside a file of a size, and those of a node end
    before the next node opens. -/
structure OrderedIn (a : Arena) (fileSize : Nat) : Prop where
  props_within : ∀ (i : Nat) (n : Node), a[i]? = some n → n.propsAt + n.propsSize ≤ fileSize
  props_ordered : ∀ (i j : Nat) (m n : Node), i < j → a[i]? = some m → a[j]? = some n →
    m.propsAt + m.propsSize ≤ n.start ∧ n.start < n.propsAt

/-- **An arena that shows a forest,** and nothing else, is in preorder. -/
theorem preorder_of_shows {a : Arena} {props : Nat → Except Error (List UInt8)}
    {f : Forest (List UInt8)} (hsize : a.size = f.size) (hne : f ≠ .nil) (h : Shows a props f 0) :
    a.Preorder := by
  have hnode : ∀ i < a.size, ∃ kind data inside behind,
      Shows a props (.node kind data inside behind) i
        ∧ i + (1 + inside.size + behind.size) ≤ 0 + f.size := fun i hi =>
    exists_node_of_shows f 0 i h (Nat.zero_le i) (by omega)
  have hforward : ∀ i j, a.Links i j → i < j ∧ j < 0 + f.size := fun i j hij =>
    links_of_shows h (Nat.zero_le i) (by have := hij.lt_size; omega) hij
  refine {
    child_eq := ?child
    next_eq := ?next
    links_inside := ?inside
    linked_once := ?once
    first_unlinked := ?first
    children_end := ?children
    visits_all := ?all }
  case child =>
    intro i j hij
    obtain ⟨kind, data, inside, behind, ⟨-, -, hchild, -⟩, -⟩ := hnode i (Links.lt_size (.inl hij))
    exact (Forest.link_eq_some (hchild.symm.trans hij)).1
  case next =>
    intro i hi
    obtain ⟨kind, data, inside, behind, ⟨-, -, hchild, hnext, hinside, -⟩, -⟩ := hnode i hi
    refine ⟨inside.size, ?_, fun j hij => ?_⟩
    · rw [hchild]
      exact (visits_of_shows inside (i + 1) hinside).iff
    · rw [(Forest.link_eq_some (hnext.symm.trans hij)).1, Nat.add_assoc]
  case inside =>
    intro i j hij
    have := (hforward i j hij).2
    omega
  case once =>
    intro j hj hlt
    obtain ⟨i, hij, hunique⟩ := exists_link_of_shows f 0 j h hj (by omega)
    refine ⟨i, hij, fun k hkj => hunique k (Nat.zero_le k) ?_ hkj⟩
    have := hkj.lt_size
    omega
  case first => exact fun i hi => absurd (hforward i 0 hi).1 (Nat.not_lt_zero i)
  case children =>
    intro i
    by_cases hi : i < a.size
    · obtain ⟨kind, data, inside, behind, hshows, hle⟩ := hnode i hi
      rw [children_of_shows (by omega) hshows]
      obtain ⟨-, -, hchild, -, hinside, -⟩ := hshows
      rw [hchild]
      exact chain_of_shows inside (i + 1) hinside
    · -- a place without a node has no links
      rw [children, child?_of_le (Nat.le_of_not_lt hi), siblingsFrom]
      exact .ends
  case all =>
    rw [hsize, List.range_eq_range', ← Forest.link_of_ne_nil hne 0]
    exact (visits_of_shows f 0 h).iff

/-- **The properties of a complete file** are in the order of its nodes. -/
theorem orderedIn_of_complete {data : Array UInt8} {body : List UInt8} {f : Forest Spelling}
    (hsplit : data.toList = headerBytes ++ body) (hbody : Complete body f) :
    OrderedIn (f.layout 0 headerSize).toArray data.size where
  props_within := Session.layout_within_file hsplit hbody
  props_ordered := by
    intro i j m n hij hm hn
    rw [List.getElem?_toArray] at hm hn
    obtain ⟨hi, hm⟩ := List.getElem?_eq_some_iff.mp hm
    obtain ⟨hj, hn⟩ := List.getElem?_eq_some_iff.mp hn
    have hordered := List.pairwise_iff_getElem.mp (f.layout_ordered 0 headerSize) i j hi hj hij
    rw [hm, hn] at hordered
    exact ⟨hordered, (f.layout_start 0 headerSize n (hn ▸ List.getElem_mem hj)).2⟩

end Arena

namespace Session

/-- **Every file that opens gives an arena in preorder,** whatever its bytes are and with a cache or
    without: the first node is the root, the links are those of a forest in preorder, and the properties
    stand in the file in the order of the nodes. -/
theorem preorder_openFile {s t : Session} {path : String} {caching : Bool}
    (h : s.perform (openFile path caching) = (.ok (), t)) :
    ∃ data, s.close.disk.lookup path = .file data ∧ t.root = some 0
      ∧ t.nodes.Preorder ∧ t.nodes.OrderedIn data.size := by
  obtain ⟨data, body, f, hfile, hsplit, hbody, hroot, hlayout, hshows⟩ := exists_shown_of_opened h
  refine ⟨data, hfile, hroot, ?_, ?_⟩
  · have hsize : t.nodes.size = f.said.size := by
      rw [hlayout, List.size_toArray, Forest.length_layout]
      exact (Forest.size_map _ f).symm
    have hne : f.said ≠ .nil := fun hnil => hbody.ne_nil (Forest.map_eq_nil.mp hnil)
    exact Arena.preorder_of_shows hsize hne hshows
  · rw [hlayout]
    exact Arena.orderedIn_of_complete hsplit hbody

end Session

/-- Two trees, the first with a node inside it. -/
def twoTrees : Forest Spelling :=
  .node 1 ⟨false, [0x61]⟩ (.node 2 ⟨false, []⟩ .nil .nil) (.node 3 ⟨true, []⟩ .nil .nil)

theorem complete_twoTrees (rest : List UInt8) :
    Complete (twoTrees.bytes ++ closer :: rest) twoTrees := by
  have hvalid : twoTrees.Valid :=
    ⟨⟨by decide, .plain (by decide) .nil⟩, ⟨⟨by decide, .nil⟩, trivial, trivial⟩,
      ⟨⟨by decide, .nil⟩, trivial, trivial⟩⟩
  exact ⟨hvalid, nofun, _, rfl, .inr rfl⟩

namespace Session

/-- Behind the two trees stand a closer and a byte more; the walk goes over the three nodes. -/
theorem preorder_openFile_twoTrees :
    ∃ (disk : Disk) (t : Session), (Session.on disk).perform (openFile "w" true) = (.ok (), t)
      ∧ disk.lookup "w" = .file (headerBytes ++ (twoTrees.bytes ++ [closer, 7])).toArray
      ∧ (∀ j, t.nodes.child? 0 = some j → j = 0 + 1)
      ∧ ∀ l, t.nodes.Visits (some 0) l ↔ l = List.range 3 := by
  obtain ⟨disk, hfile⟩ :=
    Disk.exists_lookup_eq (headerBytes ++ (twoTrees.bytes ++ [closer, 7])).toArray
  obtain ⟨t, hopened, -, hlayout, -⟩ := openFile_ok (s := .on disk) true hfile
    (.complete rfl (complete_twoTrees [7]))
  obtain ⟨-, -, -, hpreorder, -⟩ := preorder_openFile hopened
  have hsize : t.nodes.size = 3 := by
    rw [hlayout]
    rfl
  exact ⟨disk, t, hopened, hfile, hpreorder.child_eq 0, hsize ▸ hpreorder.visits_all⟩

end Session

end Realm.NodeFile
