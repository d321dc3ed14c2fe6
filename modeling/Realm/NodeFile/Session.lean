/-
  Realm.NodeFile.Session — a reader and writer of node files.

  A session is closed, reads one file or writes one file.  Opening parses the whole file at once;
  writing emits the nodes as the caller goes.  Every failed operation is remembered as the last error.
-/
import Realm.Blob.Cursor
import Realm.Disk
import Realm.NodeFile.Arena

namespace Realm.NodeFile

/-! ## §1. Sessions. -/

/-- What a session is doing. -/
inductive Mode
  | closed
  | reading (source : Source)
  | writing (writer : Writer)

/-- Bytes of room that a session's scratch buffer starts with. -/
def initialRoom : Nat := 1024

/-- A session and the disk it works on.  Property bytes pass through its scratch buffer. -/
structure Session where
  disk : Disk
  mode : Mode := .closed
  nodes : Arena := #[]
  root : Option Nat := none
  scratch : Array UInt8 := Array.replicate initialRoom 0
  lastError : Option Error := none

/-- An operation on a session: it may fail, and it changes the session either way. -/
abbrev Operation (α : Type) : Type := ExceptT Error (StateM Session) α

namespace Session

/-- A fresh session on a disk. -/
def on (disk : Disk) : Session := { disk := disk }

/-- What an operation answers, and the session behind it. -/
def perform {α : Type} (s : Session) (op : Operation α) : Except Error α × Session := op.run s

/-- Fails, and remembers why. -/
def refuse {α : Type} (e : Error) : Operation α := do
  modify fun s => { s with lastError := some e }
  throw e

section

variable {α β : Type} (s : Session)

@[simp] theorem perform_pure (a : α) : s.perform (pure a) = (.ok a, s) := rfl

@[simp] theorem perform_bind (op : Operation α) (next : α → Operation β) :
    s.perform (op >>= next) =
      match s.perform op with
      | (.ok a, s') => s'.perform (next a)
      | (.error e, s') => (.error e, s') := by
  unfold perform ExceptT.run
  simp only [bind, ExceptT.bind, ExceptT.mk, StateT.bind, ExceptT.bindCont]
  cases op s with
  | mk answer s' => cases answer <;> rfl

@[simp] theorem perform_map (f : α → β) (op : Operation α) :
    s.perform (f <$> op) =
      match s.perform op with
      | (.ok a, s') => (.ok (f a), s')
      | (.error e, s') => (.error e, s') := by
  unfold perform ExceptT.run
  simp only [Functor.map, ExceptT.map, ExceptT.mk, bind, StateT.bind]
  cases op s with
  | mk answer s' => cases answer <;> rfl

@[simp] theorem perform_get : s.perform get = (.ok s, s) := rfl

@[simp] theorem perform_set (s' : Session) : s.perform (set s') = (.ok ⟨⟩, s') := rfl

@[simp] theorem perform_modify (f : Session → Session) : s.perform (modify f) = (.ok ⟨⟩, f s) := rfl

@[simp] theorem perform_refuse (e : Error) :
    s.perform (refuse e : Operation α) = (.error e, { s with lastError := some e }) := rfl

end

/-- Hands what a writer still holds to its file and closes the session. -/
def close (s : Session) : Session :=
  match s.mode with
  | .writing w => { s with disk := (w.flush s.disk).2, mode := .closed }
  | _ => { s with mode := .closed }

/-! ## §2. Writing. -/

/-- Bytes at the end of the file being written. -/
def emit (bytes : List UInt8) : Operation Unit := do
  let s ← get
  match s.mode with
  | .writing w =>
    let (w, disk) := w.append s.disk bytes.toArray
    set { s with mode := .writing w, disk := disk }
  | _ => refuse .notOpen

/-- Begins a file.  The file is emptied first; what an earlier writer still holds reaches its own file
    after that.  When the file cannot be made, what the session was doing goes on without its nodes. -/
def createFile (path : String) : Operation Unit := do
  modify fun s => { s with nodes := #[], root := none }
  let s ← get
  match s.disk.create? path with
  | none => refuse .cannotCreate
  | some disk =>
    set { ({ s with disk := disk }).close with mode := .writing { path := path } }
    emit (littleEndian headerSize formatVersion)

/-- Opens a node of a kind. -/
def startNode (kind : UInt8) : Operation Unit := do
  emit [opener]
  emit (escape [kind])

/-- Property bytes of the innermost open node. -/
def setProps (data : List UInt8) : Operation Unit := emit (escape data)

/-- Closes the innermost open node. -/
def endNode : Operation Unit := emit [closer]

/-- Completes the file being written.  A session that reads goes on reading. -/
def finish : Operation Unit := do
  let s ← get
  match s.mode with
  | .writing _ => set s.close
  | .reading _ => pure ()
  | .closed => refuse .notOpen

/-! ## §3. Reading. -/

/-- **Opens a file and parses it.**  Whatever the session did before ends; a failure leaves it closed
    and without nodes. -/
def openFile (path : String) (caching : Bool) : Operation Unit := do
  modify fun s => { s.close with nodes := #[], root := none }
  let s ← get
  match s.disk.lookup path with
  | .missing => refuse .cannotOpen
  | .folder => refuse .endOfFile
  | .file bytes =>
    match parseFile bytes caching with
    | .error e => refuse e
    | .ok (nodes, source) => set { s with nodes := nodes, root := some 0, mode := .reading source }

/-- The first child of a node, or the root. -/
def child (s : Session) : Option Nat → Option Nat
  | some i => s.nodes.child? i
  | none => s.root

/-- Bytes in a block of the cache, when the session reads through one. -/
def cacheBlockSize (s : Session) : Option Nat :=
  match s.mode with
  | .reading source => source.cache.map BlockCache.blockSize
  | _ => none

/-- The first of `room`, `2 * room`, `4 * room` and so on that is more than `size`. -/
def roomFor (size room : Nat) : Nat :=
  if 0 < room ∧ room ≤ size then roomFor size (2 * room) else room
termination_by size + 1 - room
decreasing_by omega

/-- A scratch buffer with room for more than `size` bytes: the one there, or a larger one of zeros. -/
def makeRoom (scratch : Array UInt8) (size : Nat) : Array UInt8 :=
  if size < scratch.size then scratch else Array.replicate (roomFor size (max scratch.size 1)) 0

/-- Bytes laid over the beginning of a scratch buffer. -/
def overwrite (scratch bytes : Array UInt8) : Array UInt8 :=
  bytes ++ scratch.extract bytes.size scratch.size

/-- **The property bytes of a node,** read into the scratch buffer and unescaped there. -/
def getProps (i : Nat) : Operation (List UInt8) := do
  let s ← get
  match s.mode with
  | .reading source =>
    match s.nodes[i]? with
    | none => refuse .invalidNode
    | some node =>
      let scratch := makeRoom s.scratch node.propsSize
      match source.readAt node.propsAt node.propsSize with
      | (.error e, source) =>
        set { s with mode := .reading source, scratch := scratch }
        refuse e
      | (.ok bytes, source) =>
        let (scratch, length) := compact (overwrite scratch bytes) node.propsSize 0 0
        set { s with mode := .reading source, scratch := scratch }
        pure (scratch.extract 0 length).toList
  | _ => refuse .notOpen

/-- The properties of a node as a blob to read. -/
def propsCursor (i : Nat) : Operation Cursor := Cursor.ofBytes <$> getProps i

/-! ## §4. Sessions from files. -/

/-- **A new session on the same disk,** for writing or reading a file.  When it opens, it takes the
    place of the old session, which is closed; when it does not, the old session goes on. -/
def reopen (path : String) (write caching : Bool) (s : Session) : Except Error Unit × Session :=
  let op := if write then createFile path else openFile path caching
  match (on s.disk).perform op with
  | (.ok _, fresh) =>
    (.ok (), { fresh with disk := ({ s with disk := fresh.disk }).close.disk })
  | (.error e, fresh) => (.error e, { s with disk := fresh.disk })

end Session

end Realm.NodeFile
