/-
  Realm.Proofs.NodeFile.Calls — the calls that a session offers, and what each of them can come to.

  A caller makes its calls in any order, with any indexes, and goes on after errors.  Between the calls
  others may change the disk; what a session reads it took in when it opened its file.  `Outcome` lists
  what a call can come to, refusals with the rest, so that whatever is kept by calls is kept by cases.

  Main statements:
  * `outcome` — every call on every session has one of the outcomes;
  * `perform_unserved` — a call that does not fit what the session does is refused, and changes nothing
    but the last error;
  * `lastError_run` — the last error is the one that the caller was told of last.
-/
import Realm.Proofs.Disk
import Realm.Proofs.NodeFile.Reading

namespace Realm.NodeFile

/-! ## §1. Calls. -/

/-- A call that a session offers. -/
inductive Call
  | createFile (path : String)
  | openFile (path : String) (caching : Bool)
  | startNode (kind : UInt8)
  | setProps (data : List UInt8)
  | endNode
  | finish
  | getProps (i : Nat)
  | propsCursor (i : Nat)
deriving Repr, DecidableEq

namespace Call

/-- A call, without what it answers when it succeeds. -/
def operation : Call → Operation Unit
  | createFile path => Session.createFile path
  | openFile path caching => Session.openFile path caching
  | startNode kind => Session.startNode kind
  | setProps data => Session.setProps data
  | endNode => Session.endNode
  | finish => Session.finish
  | getProps i => (fun _ => ()) <$> Session.getProps i
  | propsCursor i => (fun _ => ()) <$> Session.propsCursor i

/-- Whether a call puts a file in the place of the one before. -/
def opens : Call → Bool
  | createFile _ | openFile _ _ => true
  | _ => false

/-- Whether a call adds to the file being written. -/
def writes : Call → Bool
  | startNode _ | setProps _ | endNode => true
  | _ => false

/-- Whether a call reads a node of the file. -/
def reads : Call → Bool
  | getProps _ | propsCursor _ => true
  | _ => false

end Call

namespace Session

/-- What happens around a session: a call, or a change that others make on the disk. -/
inductive Event
  | call (c : Call)
  | elsewhere (disk : Disk)

/-- The session behind an event. -/
def after (s : Session) : Event → Session
  | .call c => (s.perform c.operation).2
  | .elsewhere disk => { s with disk := disk }

def run (s : Session) (events : List Event) : Session := events.foldl after s

/-- The error that a caller is told of, when there is one. -/
def failure? (s : Session) : Event → Option Error
  | .call c =>
    match (s.perform c.operation).1 with
    | .ok _ => none
    | .error e => some e
  | .elsewhere _ => none

/-- **The errors that a caller is told of,** first to last. -/
def errors (s : Session) : List Event → List Error
  | [] => []
  | e :: events => (s.failure? e).toList ++ (s.after e).errors events

/-- Whether a session reads a file. -/
def isReading (s : Session) : Bool :=
  match s.mode with
  | .reading _ => true
  | _ => false

/-- Whether a session writes a file. -/
def isWriting (s : Session) : Bool :=
  match s.mode with
  | .writing _ => true
  | _ => false

/-- Whether a call fits what the session does. -/
def serves (s : Session) : Call → Bool
  | .createFile _ | .openFile _ _ => true
  | .startNode _ | .setProps _ | .endNode => s.isWriting
  | .finish => s.isReading || s.isWriting
  | .getProps _ | .propsCursor _ => s.isReading

variable {s : Session}

@[simp] theorem run_nil (s : Session) : s.run [] = s := rfl

@[simp] theorem run_cons (s : Session) (e : Event) (events : List Event) :
    s.run (e :: events) = (s.after e).run events := rfl

theorem isReading_eq_true : s.isReading = true ↔ ∃ source, s.mode = .reading source := by
  unfold isReading
  cases s.mode <;> simp

theorem isWriting_eq_true : s.isWriting = true ↔ ∃ w, s.mode = .writing w := by
  unfold isWriting
  cases s.mode <;> simp

theorem mode_eq_closed : s.mode = .closed ↔ s.isReading = false ∧ s.isWriting = false := by
  unfold isReading isWriting
  cases s.mode <;> simp

/-- A session does not read and write at once. -/
theorem isReading_of_isWriting (h : s.isWriting = true) : s.isReading = false := by
  obtain ⟨w, hmode⟩ := isWriting_eq_true.mp h
  rw [isReading, hmode]

theorem isWriting_of_isReading (h : s.isReading = true) : s.isWriting = false := by
  obtain ⟨source, hmode⟩ := isReading_eq_true.mp h
  rw [isWriting, hmode]

/-- A call that puts another file in the place of the one before fits every session. -/
theorem opens_of_not_serves {c : Call} (h : s.serves c = false) : c.opens = false := by
  cases c <;> simp_all [serves, Call.opens]

/-- A closed session serves nothing until it opens a file. -/
theorem serves_of_closed (h : s.mode = .closed) {c : Call} (hc : c.opens = false) :
    s.serves c = false := by
  obtain ⟨hreading, hwriting⟩ := mode_eq_closed.mp h
  cases c <;> simp_all [serves, Call.opens]

/-! ## §2. What a call comes to. -/

@[simp] theorem mode_close : s.close.mode = .closed := by
  unfold close
  cases s.mode <;> rfl

@[simp] theorem nodes_close : s.close.nodes = s.nodes := by
  unfold close
  cases s.mode <;> rfl

@[simp] theorem root_close : s.close.root = s.root := by
  unfold close
  cases s.mode <;> rfl

@[simp] theorem lastError_close : s.close.lastError = s.lastError := by
  unfold close
  cases s.mode <;> rfl

/-- A session that closes makes no folder. -/
@[simp] theorem folders_close (s : Session) : s.close.disk.folders = s.disk.folders := by
  unfold close
  cases s.mode with
  | writing w => exact Disk.folders_writeAt s.disk w.path w.offset w.buffer
  | closed => rfl
  | reading source => rfl

/-- A session whose call was refused for want of a file. -/
def unserved (s : Session) : Session := { s with lastError := some .notOpen }

/-- What a session is when a file could not be made. -/
def notCreated (s : Session) : Session :=
  { s with nodes := #[], root := none, lastError := some .cannotCreate }

/-- The last error behind an answer. -/
def told {α : Type} (last : Option Error) : Except Error α → Option Error
  | .ok _ => last
  | .error e => some e

/-- A session behind a request. -/
def requested {α : Type} (s : Session) (answer : Except Error α) (source : Source)
    (scratch : Array UInt8) : Session :=
  { s with mode := .reading source, scratch := scratch, lastError := told s.lastError answer }

/-- **What a call on a session can come to:** its answer, and the session behind it. -/
inductive Outcome (s : Session) : Call → Except Error Unit → Session → Prop
  /-- The call does not fit what the session does. -/
  | unserved {c : Call} (h : s.serves c = false) : Outcome s c (.error .notOpen) s.unserved
  /-- Bytes were added to the file being written. -/
  | written {c : Call} {w : Writer} {disk : Disk} (hc : c.writes = true) (h : s.isWriting = true)
      (folders : disk.folders = s.disk.folders) :
      Outcome s c (.ok ()) { s with mode := .writing w, disk := disk }
  /-- The file being written is complete. -/
  | finished (h : s.isWriting = true) : Outcome s .finish (.ok ()) s.close
  /-- A session that reads does not finish. -/
  | goesOn (h : s.isReading = true) : Outcome s .finish (.ok ()) s
  /-- A node was read, or could not be; what the session read before, it still reads. -/
  | read {c : Call} {answer : Except Error Unit} {source : Source} {scratch : Array UInt8}
      (hc : c.reads = true) (h : s.isReading = true)
      (reads : ∀ data, s.Reads data → (s.requested answer source scratch).Reads data) :
      Outcome s c answer (s.requested answer source scratch)
  /-- A new file has its header. -/
  | created {path : String} {w : Writer} {disk : Disk} (folders : disk.folders = s.disk.folders) :
      Outcome s (.createFile path) (.ok ())
        { s with nodes := #[], root := none, mode := .writing w, disk := disk }
  | notCreated {path : String} : Outcome s (.createFile path) (.error .cannotCreate) s.notCreated
  /-- A file was parsed to the nodes that its bytes say. -/
  | opened {path : String} {caching : Bool} {data : Array UInt8} {nodes : Arena} {source : Source}
      (hdata : Verdict data.toList (.ok nodes))
      (reads : ({ s.close with
        nodes := nodes, root := some 0, mode := .reading source } : Session).Reads data) :
      Outcome s (.openFile path caching) (.ok ())
        { s.close with nodes := nodes, root := some 0, mode := .reading source }
  | notOpened {path : String} {caching : Bool} {e : Error} :
      Outcome s (.openFile path caching) (.error e) (s.refused e)

/-! ### Writing -/

theorem perform_emit (s : Session) (bytes : List UInt8) :
    s.perform (emit bytes) =
      match s.mode with
      | .writing w =>
        (.ok (), { s with
          mode := .writing (w.append s.disk bytes.toArray).1
          disk := (w.append s.disk bytes.toArray).2 })
      | _ => (.error .notOpen, s.unserved) := by
  simp only [emit, perform_bind, perform_get]
  cases hmode : s.mode <;> simp only [perform_set, perform_refuse, unserved, hmode]

/-- A session that writes takes any bytes. -/
theorem perform_emit_writing (h : s.isWriting = true) (bytes : List UInt8) :
    ∃ w disk, s.perform (emit bytes) = (.ok (), { s with mode := .writing w, disk := disk })
      ∧ disk.folders = s.disk.folders := by
  obtain ⟨w, hmode⟩ := isWriting_eq_true.mp h
  rw [perform_emit, hmode]
  exact ⟨_, _, rfl, w.folders_append s.disk _⟩

/-- No other session takes bytes. -/
theorem perform_emit_unserved (h : s.isWriting = false) (bytes : List UInt8) :
    s.perform (emit bytes) = (.error .notOpen, s.unserved) := by
  rw [perform_emit]
  unfold isWriting at h
  split at h <;> simp_all

/-- **What making a file comes to.**  When it cannot be made, the session goes on as it was, but without
    its nodes. -/
theorem perform_createFile_eq (s : Session) (path : String) :
    s.perform (createFile path) =
      match s.disk.create? path with
      | none => (.error .cannotCreate, s.notCreated)
      | some disk =>
        ({ ({ s with nodes := #[], root := none, disk := disk } : Session).close with
          mode := .writing { path := path } } : Session).perform
            (emit (littleEndian headerSize formatVersion)) := by
  simp only [createFile, perform_bind, perform_modify, perform_get]
  cases s.disk.create? path <;> rfl

theorem outcome_createFile (s : Session) (path : String) :
    Outcome s (.createFile path) (s.perform (createFile path)).1 (s.perform (createFile path)).2 := by
  rw [perform_createFile_eq]
  cases hcreate : s.disk.create? path with
  | none => exact .notCreated
  | some disk =>
    obtain ⟨w, disk', hemit, hfolders⟩ := perform_emit_writing (s := { ({ s with
      nodes := #[], root := none, disk := disk } : Session).close with
        mode := .writing { path := path } }) rfl (littleEndian headerSize formatVersion)
    simp only [hemit]
    have hsame : ({ ({ s with nodes := #[], root := none, disk := disk } : Session).close with
        mode := .writing w, disk := disk' } : Session)
          = { s with nodes := #[], root := none, mode := .writing w, disk := disk' } := by
      unfold close
      cases s.mode <;> rfl
    rw [hsame]
    exact .created (hfolders.trans ((folders_close _).trans (Disk.folders_create? hcreate)))

/-! ### Reading -/

theorem outcome_openFile (s : Session) (path : String) (caching : Bool) :
    Outcome s (.openFile path caching) (s.perform (openFile path caching)).1
      (s.perform (openFile path caching)).2 := by
  cases hfile : s.close.disk.lookup path with
  | missing =>
    rw [perform_openFile, hfile]
    exact .notOpened
  | folder =>
    rw [perform_openFile, hfile]
    exact .notOpened
  | file data =>
    cases hparse : parseFile data caching with
    | error e =>
      simp only [perform_openFile, hfile, hparse]
      exact .notOpened
    | ok found =>
      obtain ⟨nodes, source⟩ := found
      have hverdict : Verdict data.toList (.ok nodes) :=
        (parseFile_eq_iff caching).mp (by rw [hparse]; rfl)
      obtain ⟨t, hopened, hreads, -, -⟩ := openFile_ok caching hfile hverdict
      simp only [perform_openFile, hfile, hparse] at hopened ⊢
      obtain ⟨-, rfl⟩ := Prod.mk.inj hopened
      exact .opened hverdict hreads

/-- **A request moves the source and the scratch buffer** of a session that reads, and nothing else. -/
theorem perform_getProps_reading (h : s.isReading = true) (i : Nat) :
    ∃ answer source scratch,
      s.perform (getProps i) = (answer, s.requested answer source scratch) := by
  obtain ⟨source, hmode⟩ := isReading_eq_true.mp h
  simp only [getProps, perform_bind, perform_get, hmode]
  cases s.nodes[i]? with
  | none =>
    refine ⟨.error .invalidNode, source, s.scratch, ?_⟩
    simp only [perform_refuse, requested, told, hmode]
  | some n =>
    cases hread : source.readAt n.propsAt n.propsSize with
    | mk answer source' =>
      cases answer with
      | error e =>
        simp only [hread, perform_bind, perform_set, perform_refuse]
        exact ⟨.error e, source', makeRoom s.scratch n.propsSize, rfl⟩
      | ok bytes =>
        simp only [hread, perform_bind, perform_set, perform_pure]
        exact ⟨.ok _, source', _, rfl⟩

/-- Properties are requested as bytes or as a blob, and the session behind is the same. -/
theorem perform_propsCursor (s : Session) (i : Nat) :
    s.perform (Call.propsCursor i).operation = s.perform (Call.getProps i).operation := by
  simp only [Call.operation, propsCursor, perform_map]
  cases s.perform (getProps i) with
  | mk answer t => cases answer <;> rfl

theorem outcome_request (h : s.isReading = true) (i : Nat) {c : Call} (hc : c.reads = true) :
    Outcome s c (s.perform (Call.getProps i).operation).1
      (s.perform (Call.getProps i).operation).2 := by
  obtain ⟨answer, source, scratch, hperform⟩ := perform_getProps_reading h i
  have hkeeps : ∀ data, s.Reads data → (s.requested answer source scratch).Reads data := by
    intro data hreads
    obtain ⟨t, hagain, ht, -, -⟩ := getProps_reads hreads i
    rw [hperform] at hagain
    rwa [(Prod.mk.inj hagain).2]
  simp only [Call.operation, perform_map, hperform]
  cases answer with
  | error e => exact @Outcome.read s c (.error e) source scratch hc h hkeeps
  | ok props => exact @Outcome.read s c (.ok ()) source scratch hc h hkeeps

/-- A session that does not read refuses requests. -/
theorem perform_getProps_unserved (h : s.isReading = false) (i : Nat) :
    s.perform (getProps i) = (.error .notOpen, s.unserved) := by
  simp only [getProps, perform_bind, perform_get]
  unfold isReading at h
  split at h <;> simp_all [unserved]

/-! ### All calls -/

/-- **A call that does not fit what the session does** is refused, and changes nothing but the last
    error. -/
theorem perform_unserved {c : Call} (h : s.serves c = false) :
    s.perform c.operation = (.error .notOpen, s.unserved) := by
  cases c with
  | createFile path => exact absurd h (by simp [serves])
  | openFile path caching => exact absurd h (by simp [serves])
  | startNode kind =>
    simp only [Call.operation, startNode, perform_bind, perform_emit_unserved h]
  | setProps data => exact perform_emit_unserved h _
  | endNode => exact perform_emit_unserved h _
  | finish =>
    have hmode : s.mode = .closed := mode_eq_closed.mpr (by simpa [serves] using h)
    simp only [Call.operation, finish, perform_bind, perform_get, hmode, perform_refuse, unserved]
  | getProps i =>
    simp only [Call.operation, perform_map, perform_getProps_unserved h]
  | propsCursor i =>
    simp only [Call.operation, propsCursor, perform_map, perform_getProps_unserved h]

theorem outcome (s : Session) (c : Call) :
    Outcome s c (s.perform c.operation).1 (s.perform c.operation).2 := by
  cases hserves : s.serves c with
  | false =>
    rw [perform_unserved hserves]
    exact .unserved hserves
  | true =>
    cases c with
    | createFile path => exact outcome_createFile s path
    | openFile path caching => exact outcome_openFile s path caching
    | startNode kind =>
      obtain ⟨w, disk, hopener, hfolders⟩ := perform_emit_writing hserves [opener]
      obtain ⟨w', disk', hkind, hfolders'⟩ :=
        perform_emit_writing (s := { s with mode := .writing w, disk := disk }) rfl (escape [kind])
      simp only [Call.operation, startNode, perform_bind, hopener, hkind]
      exact .written rfl hserves (hfolders'.trans hfolders)
    | setProps data =>
      obtain ⟨w, disk, hemit, hfolders⟩ := perform_emit_writing hserves (escape data)
      simp only [Call.operation, setProps, hemit]
      exact .written rfl hserves hfolders
    | endNode =>
      obtain ⟨w, disk, hemit, hfolders⟩ := perform_emit_writing hserves [closer]
      simp only [Call.operation, endNode, hemit]
      exact .written rfl hserves hfolders
    | finish =>
      simp only [Call.operation, finish, perform_bind, perform_get]
      cases hmode : s.mode with
      | closed => simp [serves, isReading, isWriting, hmode] at hserves
      | reading source => exact .goesOn (isReading_eq_true.mpr ⟨source, hmode⟩)
      | writing w => exact .finished (isWriting_eq_true.mpr ⟨w, hmode⟩)
    | getProps i => exact outcome_request hserves i rfl
    | propsCursor i =>
      rw [perform_propsCursor]
      exact outcome_request hserves i rfl

/-- **No call makes or removes a folder.** -/
theorem Outcome.folders_eq {c : Call} {answer : Except Error Unit} {t : Session}
    (h : Outcome s c answer t) : t.disk.folders = s.disk.folders := by
  cases h with
  | unserved => rfl
  | written _ _ hfolders => exact hfolders
  | finished => exact folders_close s
  | goesOn => rfl
  | read => rfl
  | created hfolders => exact hfolders
  | notCreated => rfl
  | opened => exact folders_close s
  | notOpened => exact folders_close s

/-! ## §3. The last error. -/

/-- A call that fails is remembered, and any other call is not. -/
theorem Outcome.lastError_eq {c : Call} {answer : Except Error Unit} {t : Session}
    (h : Outcome s c answer t) : t.lastError = told s.lastError answer := by
  cases h with
  | unserved => rfl
  | written => rfl
  | finished => exact lastError_close
  | goesOn => rfl
  | read => rfl
  | created => rfl
  | notCreated => rfl
  | opened => exact lastError_close
  | notOpened => rfl

theorem lastError_after (s : Session) (e : Event) :
    (s.after e).lastError = (s.failure? e).or s.lastError := by
  cases e with
  | elsewhere disk => rfl
  | call c =>
    have h := (outcome s c).lastError_eq
    simp only [after, failure?, h]
    cases (s.perform c.operation).1 <;> rfl

/-- **The last error is the one that the caller was told of last;** when there is none, it is what it
    was. -/
theorem lastError_run (s : Session) (events : List Event) :
    (s.run events).lastError = (s.errors events).getLast?.or s.lastError := by
  induction events generalizing s with
  | nil => rfl
  | cons e events ih =>
    rw [run_cons, ih, lastError_after, errors, List.getLast?_append, ← Option.or_assoc]
    cases s.failure? e <;> rfl

end Session

end Realm.NodeFile
