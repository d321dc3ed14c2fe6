/-
  Realm.NodeFile.Outline — a listing of the tree under a file's root.

  One line per node, parents before children, each indented by its depth, then the totals.
-/
import Realm.Command
import Realm.NodeFile.Session

namespace Realm.NodeFile

/-! ## §1. Lines. -/

/-- Two lower-case hexadecimal digits. -/
def hexByte (b : UInt8) : String :=
  let digit (n : Nat) : Char := (Nat.digitChar n)
  String.ofList [digit (b.toNat / 16), digit (b.toNat % 16)]

/-- Property bytes that a line shows. -/
def previewSize : Nat := 16

/-- What is said of one node. -/
def describe (kind : UInt8) : Except Error (List UInt8) → String
  | .ok props =>
    let shown := " ".intercalate ((props.take previewSize).map hexByte)
    let more := if props.length > previewSize then " .." else ""
    s!"type={kind} props={props.length} [{shown}{more}]"
  | .error e => s!"type={kind} props unreadable: {e.message}"

/-- A listing: its lines and the property bytes they stand for. -/
structure Outline where
  lines : List String := []
  propBytes : Nat := 0
deriving Repr, DecidableEq

/-! ## §2. The walk over the tree. -/

namespace Outline

/-- Lists the nodes that wait on a stack, each with its depth, and everything below them.  No node is
    met twice, so as many visits as there are nodes are enough. -/
def visit : Nat → List (Nat × Nat) → Session → Outline → Outline × Session
  | _, [], s, o => (o, s)
  | 0, _ :: _, s, o => (o, s)
  | fuel + 1, (i, depth) :: waiting, s, o =>
    let (props, s) := s.perform (Session.getProps i)
    let kind := (s.nodes.kind? i).getD 0
    let line := "".pushn ' ' (2 * depth) ++ describe kind props
    let size := match props with
      | .ok bytes => bytes.length
      | .error _ => 0
    let below := (s.nodes.children i).map fun c => (c, depth + 1)
    visit fuel (below ++ waiting) s ⟨line :: o.lines, o.propBytes + size⟩

/-- The listing of everything under the root, with its totals. -/
def ofSession (s : Session) (root : Nat) : List String :=
  let (o, s) := visit s.nodes.size [(root, 0)] s {}
  let block := match s.cacheBlockSize with
    | some size => [s!"cache block size: {size}"]
    | none => []
  o.lines.reverse
    ++ [s!"nodes: {o.lines.length} (parsed {s.nodes.size})", s!"prop bytes: {o.propBytes}"]
    ++ block

end Outline

/-! ## §3. The listing command. -/

/-- **The listing command.**  Its first argument names the file; a later `--no-cache` reads the file
    without a block cache. -/
def listCommand (disk : Disk) (args : List String) : CommandResult :=
  match args with
  | [] => .failure "usage: node_dump <node-file> [--no-cache]"
  | path :: options =>
    let caching := !options.contains "--no-cache"
    match (Session.on disk).perform (Session.openFile path caching) with
    | (.error e, _) => .failure s!"node_dump: open {path} failed: {e.message}"
    | (.ok _, s) =>
      match s.root with
      | none => .failure s!"node_dump: {path} has no root node"
      | some root => ⟨0, Outline.ofSession s root, []⟩

end Realm.NodeFile
