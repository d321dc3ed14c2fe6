/-
  Realm.Proofs.NodeFile.Writing — what a session that writes a file leaves in it.

  A session emits the marks and the escaped bytes of its nodes one after the other.  `Appends` says of an
  operation which bytes it adds to what was written, whatever was written before; it composes, so the
  bytes of a whole forest follow from those of one node.

  Main statements:
  * `appends_writeForest` — writing a forest appends its bytes, however its properties are cut;
  * `perform_writeFile` — a whole file holds the header and what was appended behind it.
-/
import Realm.NodeFile.Session
import Realm.Proofs.Disk
import Realm.Proofs.NodeFile.Escaping
import Realm.Proofs.NodeFile.Parsing

namespace Realm.NodeFile

namespace Session

/-! ## §1. Sessions that write. -/

/-- **A session that writes a file,** and everything it wrote to it so far. -/
def Writes (s : Session) (path : String) (bytes : List UInt8) : Prop :=
  ∃ w, s.mode = .writing w ∧ w.path = path ∧ w.Written s.disk bytes.toArray

/-- The file that a session is writing, by the spelling of its place. -/
def writingTo? (s : Session) : Option String :=
  match s.mode with
  | .writing w => s.disk.fileKey? w.path
  | _ => none

/-- A fresh session writes to no file that could be made. -/
theorem writingTo?_on_ne {d : Disk} {path : String} (h : (d.fileKey? path).isSome) :
    (Session.on d).writingTo? ≠ d.fileKey? path := by
  intro hsame
  rw [← hsame] at h
  exact Bool.noConfusion h

/-- **An operation that appends:** it succeeds, and adds these bytes to what was written. -/
def Appends (op : Operation Unit) (more : List UInt8) : Prop :=
  ∀ (s : Session) (path : String) (bytes : List UInt8), s.Writes path bytes →
    ∃ s', s.perform op = (.ok (), s') ∧ s'.Writes path (bytes ++ more)

theorem appends_emit (more : List UInt8) : Appends (emit more) more := by
  intro s path bytes h
  obtain ⟨w, hmode, rfl, hw⟩ := h
  obtain ⟨hnext, hpath⟩ := hw.append more.toArray
  simp only [emit, perform_bind, perform_get, hmode, perform_set]
  refine ⟨_, rfl, _, rfl, hpath, ?_⟩
  rw [← List.append_toArray]
  exact hnext

theorem appends_pure : Appends (pure ()) [] := by
  intro s path bytes h
  exact ⟨s, rfl, by rwa [List.append_nil]⟩

/-- One operation after the other appends the one's bytes before the other's. -/
theorem Appends.andThen {op next : Operation Unit} {more rest : List UInt8} (h : Appends op more)
    (hnext : Appends next rest) : Appends (op >>= fun _ => next) (more ++ rest) := by
  intro s path bytes hs
  obtain ⟨s₁, hop, hs₁⟩ := h s path bytes hs
  obtain ⟨s₂, hop₂, hs₂⟩ := hnext s₁ path _ hs₁
  refine ⟨s₂, ?_, by rwa [← List.append_assoc]⟩
  rw [perform_bind, hop]
  exact hop₂

theorem Appends.congr {op : Operation Unit} {more rest : List UInt8} (h : Appends op more)
    (heq : more = rest) : Appends op rest := heq ▸ h

/-- The same kind of operation for each of a list appends their bytes in this order. -/
theorem appends_forM {α : Type} {op : α → Operation Unit} {more : α → List UInt8}
    (h : ∀ a, Appends (op a) (more a)) (l : List α) : Appends (l.forM op) (l.flatMap more) := by
  induction l with
  | nil => exact appends_pure
  | cons a l ih => exact (h a).andThen ih

/-! ## §2. Nodes. -/

theorem appends_startNode (kind : UInt8) :
    Appends (startNode kind) (opener :: escape [kind]) :=
  (appends_emit [opener]).andThen (appends_emit (escape [kind]))

theorem appends_setProps (data : List UInt8) : Appends (setProps data) (escape data) :=
  appends_emit (escape data)

theorem appends_endNode : Appends endNode [closer] := appends_emit [closer]

/-- **A node over others appends its bytes,** in which its kind and its data are escaped. -/
theorem appends_node (kind : UInt8) {data : List UInt8} {props inner : Operation Unit}
    {inside : Forest (List UInt8)} (hprops : Appends props (escape data))
    (hinner : Appends inner inside.written.bytes) :
    Appends (do startNode kind; props; inner; endNode)
      (Forest.node kind data inside .nil).written.bytes := by
  refine ((appends_startNode kind).andThen (hprops.andThen (hinner.andThen appends_endNode))).congr ?_
  rw [← Spelling.kindBytes_written kind data]
  simp [Forest.written, Forest.map, Forest.bytes, Spelling.heading, Spelling.written]

/-- The trees behind a tree follow it. -/
theorem bytes_behind (kind : UInt8) (data : List UInt8) (inside behind : Forest (List UInt8)) :
    (Forest.node kind data inside .nil).written.bytes ++ behind.written.bytes
      = (Forest.node kind data inside behind).written.bytes := by
  simp [Forest.written, Forest.map, Forest.bytes]

/-- **Writes a forest,** tree by tree, each node's properties in the pieces that its label lists. -/
def writeForest : Forest (List (List UInt8)) → Operation Unit
  | .nil => pure ()
  | .node kind pieces inside behind => do
    startNode kind
    pieces.forM setProps
    writeForest inside
    endNode
    writeForest behind

/-- **Writing a forest appends its bytes,** however its properties are cut. -/
theorem appends_writeForest (f : Forest (List (List UInt8))) :
    Appends (writeForest f) (f.map fun _ pieces => pieces.flatten).written.bytes := by
  induction f with
  | nil => exact appends_pure
  | node kind pieces inside behind ihInside ihBehind =>
    have hprops : Appends (pieces.forM setProps) (escape pieces.flatten) :=
      (appends_forM appends_setProps pieces).congr (escape_flatten pieces).symm
    have h := (appends_node kind hprops ihInside).andThen ihBehind
    rw [bytes_behind] at h
    simp only [bind_assoc] at h
    exact h

/-! ## §3. Whole files. -/

/-- **A new file** holds the header.  Nobody else may still hold bytes for it: an earlier writer on the
    same file hands them over first, and they would stand where the new ones go. -/
theorem perform_createFile {s : Session} {path : String} (hroom : (s.disk.fileKey? path).isSome)
    (hfree : s.writingTo? ≠ s.disk.fileKey? path) :
    ∃ s', s.perform (createFile path) = (.ok (), s') ∧ s'.Writes path headerBytes := by
  obtain ⟨d, hcreate, hfolders, hholds⟩ := Disk.Holds.create? hroom
  have hclosed : (({ s with nodes := #[], root := none, disk := d } : Session).close.disk).Holds path
      #[] := by
    cases hmode : s.mode with
    | closed => exact hholds
    | reading source => exact hholds
    | writing w =>
      -- what the earlier writer hands over on closing goes to another file
      have hne : d.fileKey? w.path ≠ d.fileKey? path := by
        rw [Disk.fileKey?_congr hfolders, Disk.fileKey?_congr hfolders]
        rw [writingTo?, hmode] at hfree
        exact hfree
      show Disk.Holds (w.flush d).2 path #[]
      exact hholds.writeAt_other hne
  simp only [createFile, perform_bind, perform_modify, perform_get, hcreate, perform_set]
  exact appends_emit headerBytes _ path [] ⟨_, rfl, rfl, Writer.Written.start hclosed⟩

/-- A finished file holds everything that was written, and the session is closed. -/
theorem perform_finish {s : Session} {path : String} {bytes : List UInt8} (h : s.Writes path bytes) :
    ∃ s', s.perform finish = (.ok (), s') ∧ s'.mode = .closed
      ∧ s'.disk.Holds path bytes.toArray := by
  obtain ⟨w, hmode, rfl, hw⟩ := h
  simp only [finish, perform_bind, perform_get, hmode, perform_set]
  exact ⟨_, rfl, by simp only [close, hmode], by simpa only [close, hmode] using hw.flush.1⟩

/-- A file from beginning to end. -/
def writeFile (path : String) (body : Operation Unit) : Operation Unit := do
  createFile path
  body
  finish

/-- **A whole file** holds the header and what was appended behind it. -/
theorem perform_writeFile {s : Session} {path : String} {body : Operation Unit} {more : List UInt8}
    (hroom : (s.disk.fileKey? path).isSome) (hfree : s.writingTo? ≠ s.disk.fileKey? path)
    (h : Appends body more) :
    ∃ s', s.perform (writeFile path body) = (.ok (), s') ∧ s'.mode = .closed
      ∧ s'.disk.Holds path (headerBytes ++ more).toArray := by
  obtain ⟨s₁, hcreate, hs₁⟩ := perform_createFile hroom hfree
  obtain ⟨s₂, hbody, hs₂⟩ := h s₁ path headerBytes hs₁
  obtain ⟨s', hfinish, hclosed, hholds⟩ := perform_finish hs₂
  refine ⟨s', ?_, hclosed, hholds⟩
  simp only [writeFile, perform_bind, hcreate, hbody, hfinish]

end Session

end Realm.NodeFile
