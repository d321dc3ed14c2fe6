/-
  Realm.NodeFile.Arena — the nodes of a file, in the order in which they open.

  A node is an opener, a kind byte, property bytes, child nodes and a closer.  Reading walks over the
  file once, with the open nodes on a stack, and writes down for every node where its properties lie,
  its first child and its next sibling.

  Main statement: `step_advances` — every step of the walk moves forward in the file, so the walk ends.
-/
import Realm.Bytes.LittleEndian
import Realm.NodeFile.Escape
import Realm.NodeFile.Source

namespace Realm.NodeFile

/-! ## §1. Nodes and links. -/

/-- A node: its kind, where it opens, where its properties start, how many file bytes they take, and
    its links. -/
structure Node where
  kind : UInt8
  start : Nat
  propsAt : Nat
  propsSize : Nat
  child : Option Nat
  next : Option Nat
deriving Repr, DecidableEq

/-- A node that has just opened. -/
def Node.opening (start : Nat) : Node := ⟨0, start, start + 2, 0, none, none⟩

/-- The nodes of a file; a node's index is its place in the order of opening. -/
abbrev Arena : Type := Array Node

namespace Arena

def child? (a : Arena) (i : Nat) : Option Nat := (a[i]?).bind Node.child

def next? (a : Arena) (i : Nat) : Option Nat := (a[i]?).bind Node.next

def kind? (a : Arena) (i : Nat) : Option UInt8 := (a[i]?).map Node.kind

/-- The node `i` and its later siblings, as far as `fuel` links go. -/
def siblingsFrom (a : Arena) : Nat → Option Nat → List Nat
  | _, none => []
  | 0, some _ => []
  | fuel + 1, some i => i :: siblingsFrom a fuel (a.next? i)

/-- The children of a node, first to last.  A chain of siblings is no longer than the arena. -/
def children (a : Arena) (i : Nat) : List Nat := a.siblingsFrom a.size (a.child? i)

end Arena

/-! ## §2. The walk. -/

/-- An open node, and whether its properties are already measured. -/
structure Frame where
  node : Nat
  measured : Bool
deriving Repr, DecidableEq

/-- The state of a walk: the nodes so far, the open ones innermost first, and whether the next byte is
    a kind. -/
structure Walk where
  nodes : Arena
  stack : List Frame
  expectsKind : Bool
deriving Repr, DecidableEq

/-- What a step leads to. -/
inductive Progress
  | more (w : Walk)
  | done (nodes : Arena)

namespace Walk

/-- The walk behind the opener of the first node. -/
def atRoot (start : Nat) : Walk := ⟨#[Node.opening start], [⟨0, false⟩], true⟩

/-- The innermost node gets its kind; its properties start at `place`. -/
def named (w : Walk) (top : Frame) (kind : UInt8) (place : Nat) : Walk :=
  { w with
    nodes := w.nodes.modify top.node fun n => { n with kind := kind, propsAt := place },
    expectsKind := false }

/-- The properties of a node end before `place`. -/
def measure (nodes : Arena) (node place : Nat) : Arena :=
  nodes.modify node fun n => { n with propsSize := place - n.propsAt }

/-- A node opens at `place` inside the innermost one. -/
def descend (w : Walk) (top : Frame) (outer : List Frame) (place : Nat) : Walk :=
  let child := w.nodes.size
  let nodes := (measure w.nodes top.node place).push (.opening place)
  { nodes := nodes.modify top.node fun n => { n with child := some child },
    stack := ⟨child, false⟩ :: ⟨top.node, true⟩ :: outer,
    expectsKind := true }

/-- The innermost node is closed and a sibling of it opens at `place`. -/
def advance (w : Walk) (top : Frame) (outer : List Frame) (place : Nat) : Walk :=
  let sibling := w.nodes.size
  let nodes := w.nodes.push (.opening place)
  { nodes := nodes.modify top.node fun n => { n with next := some sibling },
    stack := ⟨sibling, false⟩ :: outer,
    expectsKind := true }

/-- **After a closer.**  The innermost node is closed; the byte behind decides whether a sibling opens,
    the parent closes too, or the file ends. -/
def afterCloser (s : Source) (w : Walk) (top : Frame) (outer : List Frame) :
    Except Error Progress × Source :=
  match s.readByte with
  | (.error e, s') => (.error e, s')
  | (.ok none, s') => if outer.isEmpty then (.ok (.done w.nodes), s') else (.error .endOfFile, s')
  | (.ok (some b), s') =>
    if b == opener then
      match s'.tellLast with
      | .error e => (.error e, s')
      | .ok place => (.ok (.more (w.advance top outer place)), s')
    else if b == closer then
      match s'.tellLast with
      | .error e => (.error e, s')
      | .ok place =>
        match s'.seek place with
        | (.error e, s'') => (.error e, s'')
        | (.ok _, s'') =>
          if outer.isEmpty then (.ok (.done w.nodes), s'')
          else (.ok (.more { w with stack := outer }), s'')
    else (.error .invalidFormat, s')

/-- **One step of the walk:** a kind, a property byte or an escaped pair of them, an opener, or a
    closer. -/
def step (s : Source) (w : Walk) : Except Error Progress × Source :=
  match w.stack with
  | [] => (.ok (.done w.nodes), s)
  | top :: outer =>
    match s.nextByte with
    | (.error e, s') => (.error e, s')
    | (.ok b, s') =>
      if w.expectsKind then
        if b == escaper then
          match s'.nextByte with
          | (.error e, s'') => (.error e, s'')
          | (.ok kind, s'') => (.ok (.more (w.named top kind s''.position)), s'')
        else (.ok (.more (w.named top b s'.position)), s')
      else if b == opener then
        match s'.tellLast with
        | .error e => (.error e, s')
        | .ok place => (.ok (.more (w.descend top outer place)), s')
      else if b == closer then
        if top.measured then afterCloser s' w top outer
        else
          match s'.tellLast with
          | .error e => (.error e, s')
          | .ok place => afterCloser s' { w with nodes := measure w.nodes top.node place } top outer
      else if b == escaper then
        match s'.nextByte with
        | (.error e, s'') => (.error e, s'')
        | (.ok _, s'') => (.ok (.more w), s'')
      else (.ok (.more w), s')

/-! ## §3. The walk ends. -/

theorem afterCloser_advances {s s' : Source} {w w' : Walk} {top : Frame} {outer : List Frame}
    (h : afterCloser s w top outer = (.ok (.more w'), s')) :
    s'.data = s.data ∧ s.position ≤ s'.position := by
  unfold afterCloser at h
  split at h
  · simp at h
  · split at h <;> simp at h
  · rename_i b s1 hr
    obtain ⟨hd, hp, _⟩ := Source.readByte_advances hr
    split at h
    · split at h
      · simp at h
      · simp only [Prod.mk.injEq] at h
        obtain ⟨_, rfl⟩ := h
        exact ⟨hd, by omega⟩
    · split at h
      · split at h
        · simp at h
        · rename_i place ht
          split at h
          · simp at h
          · rename_i u s2 hs
            obtain ⟨hd2, hp2⟩ := Source.seek_ok hs
            have hlast := Source.tellLast_ok ht
            split at h
            · simp at h
            · simp only [Prod.mk.injEq] at h
              obtain ⟨_, rfl⟩ := h
              exact ⟨by rw [hd2, hd], by omega⟩
      · simp at h

/-- **Every step moves forward** in a file that it leaves as it was. -/
theorem step_advances {s s' : Source} {w w' : Walk} (h : step s w = (.ok (.more w'), s')) :
    s'.data = s.data ∧ s.position < s'.position ∧ s.position < s.data.size := by
  unfold step at h
  split at h
  · simp at h
  · rename_i top outer hstack
    split at h
    · simp at h
    · rename_i b s1 hb
      obtain ⟨hd, hp, hlt⟩ := Source.nextByte_advances hb
      split at h
      · split at h
        · split at h
          · simp at h
          · rename_i kind s2 hk
            obtain ⟨hd2, hp2, _⟩ := Source.nextByte_advances hk
            simp only [Prod.mk.injEq] at h
            obtain ⟨_, rfl⟩ := h
            exact ⟨by rw [hd2, hd], by omega, hlt⟩
        · simp only [Prod.mk.injEq] at h
          obtain ⟨_, rfl⟩ := h
          exact ⟨hd, by omega, hlt⟩
      · split at h
        · split at h
          · simp at h
          · simp only [Prod.mk.injEq] at h
            obtain ⟨_, rfl⟩ := h
            exact ⟨hd, by omega, hlt⟩
        · split at h
          · split at h
            · obtain ⟨hd2, hp2⟩ := afterCloser_advances h
              exact ⟨by rw [hd2, hd], by omega, hlt⟩
            · split at h
              · simp at h
              · obtain ⟨hd2, hp2⟩ := afterCloser_advances h
                exact ⟨by rw [hd2, hd], by omega, hlt⟩
          · split at h
            · split at h
              · simp at h
              · rename_i _ s2 hk
                obtain ⟨hd2, hp2, _⟩ := Source.nextByte_advances hk
                simp only [Prod.mk.injEq] at h
                obtain ⟨_, rfl⟩ := h
                exact ⟨by rw [hd2, hd], by omega, hlt⟩
            · simp only [Prod.mk.injEq] at h
              obtain ⟨_, rfl⟩ := h
              exact ⟨hd, by omega, hlt⟩

set_option linter.unusedVariables false in
/-- The walk to its end. -/
def run (s : Source) (w : Walk) : Except Error Arena × Source :=
  match hstep : step s w with
  | (.error e, s') => (.error e, s')
  | (.ok (.done nodes), s') => (.ok nodes, s')
  | (.ok (.more w'), s') => run s' w'
termination_by s.data.size - s.position
decreasing_by
  obtain ⟨hd, hp, hlt⟩ := step_advances hstep
  rw [hd]
  omega

end Walk

/-! ## §4. Whole files. -/

/-- Bytes in front of the first node: the version of the format. -/
def headerSize : Nat := 4

/-- The version written into every file, and the only one read. -/
def formatVersion : Nat := 0

/-- The nodes of a file behind its header. -/
def parseNodes (s : Source) : Except Error Arena × Source :=
  match s.seek headerSize with
  | (.error e, s') => (.error e, s')
  | (.ok _, s') =>
    match s'.readByte with
    | (.error e, s'') => (.error e, s'')
    | (.ok none, s'') => (.error .invalidFormat, s'')
    | (.ok (some b), s'') =>
      if b == opener then Walk.run s'' (.atRoot headerSize) else (.error .invalidFormat, s'')

/-- **Opening a file's bytes:** the version, then the nodes, read through a cache if asked to. -/
def parseFile (data : Array UInt8) (caching : Bool) : Except Error (Arena × Source) :=
  match ({ data := data : Source }).readAt 0 headerSize with
  | (.error _, _) => .error .endOfFile
  | (.ok version, s) =>
    if version.toList = littleEndian headerSize formatVersion then
      let s := if caching then { s with cache := some (.forFileSize data.size) } else s
      match parseNodes s with
      | (.error e, _) => .error e
      | (.ok nodes, s') => .ok (nodes, s')
    else .error .invalidVersion

end Realm.NodeFile
