/-
  Realm.Proofs.NodeFile.Refusals — what a session still does after a failure to open or to make a file.

  A file that does not open leaves the session closed.  A file that cannot be made does not: the session
  loses its nodes, but it goes on with the file that it had.  So whether later calls are refused depends
  on what the session did before.

  Main statements:
  * `refuses_of_not_serves` — a call that does not fit a session is refused until a file opens;
  * `refuses_after_failure` — which calls are refused after a failure, until a file opens;
  * `nodes_reach_old_file` — after a file could not be made, nodes still go to the file before it.
-/
import Realm.Proofs.NodeFile.Calls
import Realm.Proofs.NodeFile.Writing

namespace Realm.NodeFile

namespace Session

/-! ## §1. Events that open nothing. -/

/-- Whether an event puts a file in the place of the one before. -/
def Event.opens : Event → Bool
  | .call c => c.opens
  | .elsewhere _ => false

/-- **Nothing opens along some events:** every call that could put a file in the place of the one before
    fails. -/
def OpensNothing (s : Session) : List Event → Prop
  | [] => True
  | e :: events => (e.opens = true → (s.failure? e).isSome) ∧ (s.after e).OpensNothing events

/-- **A session refuses a call** as long as nothing opens: the answer is that no file is open, and
    nothing changes but the last error. -/
def Refuses (s : Session) (c : Call) : Prop :=
  ∀ events, s.OpensNothing events →
    (s.run events).perform c.operation = (.error .notOpen, (s.run events).unserved)

variable {s t : Session}

/-- Without a file that opens, a session closes or goes on with what it does. -/
theorem Outcome.closed_or_goes_on {c : Call} {answer : Except Error Unit} (h : Outcome s c answer t)
    (hopens : c.opens = true → answer ≠ .ok ()) :
    t.mode = .closed ∨ t.isReading = s.isReading ∧ t.isWriting = s.isWriting := by
  cases h with
  | unserved => exact .inr ⟨rfl, rfl⟩
  | written _ hw => exact .inr ⟨(isReading_of_isWriting hw).symm, hw.symm⟩
  | finished => exact .inl mode_close
  | goesOn => exact .inr ⟨rfl, rfl⟩
  | read _ hr => exact .inr ⟨hr.symm, (isWriting_of_isReading hr).symm⟩
  | created => exact absurd rfl (hopens rfl)
  | notCreated => exact .inr ⟨rfl, rfl⟩
  | opened => exact absurd rfl (hopens rfl)
  | notOpened => exact .inl mode_close

/-- **A call that does not fit a session** still does not fit it after an event that opens nothing. -/
theorem not_serves_after {c : Call} (h : s.serves c = false) {e : Event}
    (hopens : e.opens = true → (s.failure? e).isSome) : (s.after e).serves c = false := by
  cases e with
  | elsewhere disk => exact h
  | call d =>
    have hquiet : d.opens = true → (s.perform d.operation).1 ≠ .ok () := by
      intro hd hok
      simpa [failure?, hok] using hopens hd
    rcases (outcome s d).closed_or_goes_on hquiet with hclosed | ⟨hreading, hwriting⟩
    · exact serves_of_closed hclosed (opens_of_not_serves h)
    · rw [← h]
      cases c <;> simp only [serves, after, hreading, hwriting]

theorem not_serves_run {c : Call} (h : s.serves c = false) {events : List Event}
    (hevents : s.OpensNothing events) : (s.run events).serves c = false := by
  induction events generalizing s with
  | nil => exact h
  | cons e events ih => exact ih (not_serves_after h hevents.1) hevents.2

/-- **A call that does not fit a session is refused** until a file opens. -/
theorem refuses_of_not_serves {c : Call} (h : s.serves c = false) : s.Refuses c :=
  fun _ hevents => perform_unserved (not_serves_run h hevents)

/-! ## §2. Failures to open and to make a file. -/

/-- A failure to put a file in the place of the one before is one of two. -/
theorem Outcome.notOpened_or_notCreated {c : Call} {e : Error} (h : Outcome s c (.error e) t)
    (hc : c.opens = true) :
    (∃ path caching, c = .openFile path caching) ∧ t = s.refused e
      ∨ (∃ path, c = .createFile path) ∧ t = s.notCreated := by
  cases h with
  | unserved h =>
    rw [opens_of_not_serves h] at hc
    cases hc
  | read hreads => cases c <;> cases hreads <;> cases hc
  | notCreated => exact .inr ⟨⟨_, rfl⟩, rfl⟩
  | notOpened => exact .inl ⟨⟨_, _, rfl⟩, rfl⟩

/-- **Writing is refused** exactly by a session that does not write. -/
theorem refuses_writes_iff : (∀ d : Call, d.writes = true → s.Refuses d) ↔ s.isWriting = false := by
  constructor
  · intro hrefuses
    rw [← Bool.not_eq_true]
    intro hwriting
    obtain ⟨w, disk, hemit, -⟩ := perform_emit_writing hwriting [closer]
    have hanswer : s.perform (emit [closer]) = (.error .notOpen, s.unserved) :=
      hrefuses .endNode rfl [] trivial
    rw [hemit] at hanswer
    cases hanswer
  · intro hidle d hd
    refine refuses_of_not_serves ?_
    cases d <;> cases hd <;> exact hidle

/-- **Reading is refused** exactly by a session that does not read: one that reads and has no nodes says
    so instead. -/
theorem refuses_reads_iff (hnodes : s.nodes = #[]) :
    (∀ d : Call, d.reads = true → s.Refuses d) ↔ s.isReading = false := by
  constructor
  · intro hrefuses
    rw [← Bool.not_eq_true]
    intro hreading
    obtain ⟨source, hmode⟩ := isReading_eq_true.mp hreading
    have hanswer : s.perform (Call.getProps 0).operation = (.error .notOpen, s.unserved) :=
      hrefuses (.getProps 0) rfl [] trivial
    simp [Call.operation, getProps, hmode, hnodes] at hanswer
  · intro hidle d hd
    refine refuses_of_not_serves ?_
    cases d <;> cases hd <;> exact hidle

/-- **After a failure to open or to make a file,** as long as nothing opens:

    * writing is refused, and changes no file, exactly when the session did not write before or it was
      to open a file;
    * reading is refused exactly when the session did not read before or it was to open a file.

    When a file cannot be made, the session loses its nodes and its root, and nothing else. -/
theorem refuses_after_failure (s : Session) {c : Call} {e : Error} (hopens : c.opens = true)
    (hfail : (s.perform c.operation).1 = .error e) :
    let t := s.after (.call c)
    ((∀ d : Call, d.writes = true → t.Refuses d)
        ↔ (s.isWriting = true → ∃ path caching, c = .openFile path caching))
      ∧ ((∀ d : Call, d.reads = true → t.Refuses d)
        ↔ (s.isReading = true → ∃ path caching, c = .openFile path caching))
      ∧ (∀ path, c = .createFile path →
          t = { s with nodes := #[], root := none, lastError := some .cannotCreate }) := by
  intro t
  have houtcome := outcome s c
  rw [hfail] at houtcome
  rcases houtcome.notOpened_or_notCreated hopens with ⟨hc, ht⟩ | ⟨⟨path, rfl⟩, ht⟩
  · have hrefused : t = s.refused e := ht
    obtain ⟨hreading, hwriting⟩ := mode_eq_closed.mp (show (s.refused e).mode = .closed from mode_close)
    rw [hrefused, refuses_writes_iff, refuses_reads_iff rfl]
    refine ⟨iff_of_true hwriting fun _ => hc, iff_of_true hreading fun _ => hc, ?_⟩
    rintro path rfl
    obtain ⟨_, _, hno⟩ := hc
    cases hno
  · have hkept : t = s.notCreated := ht
    rw [hkept, refuses_writes_iff, refuses_reads_iff rfl]
    have hno : ¬ ∃ path' caching, Call.createFile path = .openFile path' caching := nofun
    refine ⟨?_, ?_, fun _ _ => rfl⟩
    · rw [← Bool.not_eq_true, show s.notCreated.isWriting = s.isWriting from rfl, imp_iff_not hno]
    · rw [← Bool.not_eq_true, show s.notCreated.isReading = s.isReading from rfl, imp_iff_not hno]

/-! ## §3. A session in the middle of a file. -/

/-- A session in the middle of a file. -/
def begun : Session :=
  (Session.on Disk.empty).run [.call (.createFile "w"), .call (.startNode 1)]

theorem writes_begun : begun.Writes "w" (headerBytes ++ opener :: escape [1]) := by
  obtain ⟨s₁, hmade, hs₁⟩ := perform_createFile (s := Session.on Disk.empty)
    (Disk.isSome_fileKey? Disk.isSome_create?_empty)
    (writingTo?_on_ne (Disk.isSome_fileKey? Disk.isSome_create?_empty))
  obtain ⟨s₂, hstarted, hs₂⟩ := appends_startNode 1 s₁ _ _ hs₁
  simp only [begun, run_cons, run_nil, after, Call.operation, hmade, hstarted]
  exact hs₂

theorem folders_begun : begun.disk.folders = Disk.empty.folders :=
  (outcome _ (.startNode 1)).folders_eq.trans
    (outcome (Session.on Disk.empty) (.createFile "w")).folders_eq

theorem isWriting_begun : begun.isWriting = true := by
  obtain ⟨w, hmode, -⟩ := writes_begun
  exact isWriting_eq_true.mpr ⟨w, hmode⟩

/-- A session in the middle of a file that fails to open another refuses to write on. -/
theorem refuses_after_failure_begun :
    (Call.openFile "nodir/f" true).opens = true
      ∧ (begun.perform (Call.openFile "nodir/f" true).operation).1 = .error .cannotOpen
      ∧ begun.isWriting = true
      ∧ (∀ d : Call, d.writes = true →
          (begun.after (.call (.openFile "nodir/f" true))).Refuses d)
      ∧ ∀ d : Call, d.reads = true →
          (begun.after (.call (.openFile "nodir/f" true))).Refuses d := by
  have hfolders : begun.close.disk.folders = Disk.empty.folders :=
    (folders_close begun).trans folders_begun
  have hfail : (begun.perform (Call.openFile "nodir/f" true).operation).1 = .error .cannotOpen := by
    rw [Call.operation, perform_openFile, Disk.lookup_in_missing_folder hfolders]
  obtain ⟨hwrites, hreads, -⟩ := refuses_after_failure begun rfl hfail
  exact ⟨rfl, hfail, isWriting_begun, hwrites.mpr fun _ => ⟨_, _, rfl⟩,
    hreads.mpr fun _ => ⟨_, _, rfl⟩⟩

/-- **What is written after a file could not be made** goes to the file before it. -/
theorem nodes_reach_old_file :
    let t := begun.after (.call (.createFile "nodir/f"))
    (begun.perform (createFile "nodir/f")).1 = .error .cannotCreate
      ∧ (t.perform (startNode 2)).1 = .ok ()
      ∧ (t.run [.call (.startNode 2), .call .finish]).disk.read? "w"
        = some #[0, 0, 0, 0, 0xFE, 1, 0xFE, 2] := by
  have hfailed : begun.perform (createFile "nodir/f")
      = (.error .cannotCreate, begun.notCreated) := by
    rw [perform_createFile_eq, Disk.create?_in_missing_folder folders_begun]
  -- the writer of the old file is still there, with all that it was given
  have hkept : begun.notCreated.Writes "w" (headerBytes ++ opener :: escape [1]) := writes_begun
  obtain ⟨s₁, hstarted, hs₁⟩ := appends_startNode 2 _ _ _ hkept
  obtain ⟨s₂, hfinished, -, hholds⟩ := perform_finish hs₁
  simp only [hfailed, run_cons, run_nil, after, Call.operation, hstarted, hfinished]
  exact ⟨trivial, trivial, hholds.read?⟩

end Session

end Realm.NodeFile
