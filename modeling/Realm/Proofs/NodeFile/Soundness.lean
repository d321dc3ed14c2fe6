/-
  Realm.Proofs.NodeFile.Soundness — what is true of a session after any calls.

  The mode, the nodes, the root and the source of a session are separate fields, and calls change them
  one at a time, also when they fail halfway.  `Sound` says how they belong together.  A fresh session is
  sound, every outcome of a call keeps it so, and so does every run.

  Main statements:
  * `Forest.links_layout` — in the arena of a forest, links lead forward and stay inside;
  * `sound_run` — a session stays sound, whatever is called;
  * `run_on` — its root, its links, the nodes that can be read, what is left of it when a file does not
    open, and its last error.
-/
import Realm.Proofs.NodeFile.Calls

namespace Realm.NodeFile

/-! ## §1. Links lead forward. -/

/-- **Every link of an arena leads forward,** to a node of the arena. -/
def Arena.Forward (a : Arena) : Prop :=
  ∀ i j, a.child? i = some j ∨ a.next? i = some j → i < j ∧ j < a.size

theorem Arena.forward_empty : Arena.Forward #[] := by
  intro i j h
  simp [Arena.child?, Arena.next?] at h

namespace Forest

theorem link_eq_some {α : Type} {f : Forest α} {i j : Nat} (h : f.link i = some j) :
    j = i ∧ 0 < f.size := by
  cases f with
  | nil => cases h
  | node kind label inside behind =>
    refine ⟨(Option.some.inj h).symm, ?_⟩
    simp only [size]
    omega

/-- **In the arena of a forest, links lead forward** and stay inside: to the children that come next, and
    over them to the siblings behind. -/
theorem links_layout (f : Forest Spelling) :
    ∀ (i place k : Nat) (n : Node), (f.layout i place)[k]? = some n →
      ∀ j, n.child = some j ∨ n.next = some j → i + k < j ∧ j < i + f.size := by
  induction f with
  | nil => intro i place k n h; simp [layout] at h
  | node kind s inside behind ihInside ihBehind =>
    intro i place k n h j hj
    simp only [layout, size] at h ⊢
    cases k with
    | zero =>
      rw [List.getElem?_cons_zero] at h
      obtain rfl := Option.some.inj h
      rcases hj with hj | hj <;> obtain ⟨rfl, hpos⟩ := link_eq_some hj <;> omega
    | succ k =>
      rw [List.getElem?_cons_succ, List.getElem?_append, length_layout] at h
      split at h
      · have := ihInside _ _ k n h j hj
        omega
      · have := ihBehind _ _ _ n h j hj
        omega

end Forest

/-- The arena that a file says has its links forward. -/
theorem Verdict.forward {bytes : List UInt8} {nodes : Arena} (h : Verdict bytes (.ok nodes)) :
    nodes.Forward := by
  cases h with
  | complete hsplit hbody =>
    rename_i body f
    intro i j hj
    simp only [Arena.child?, Arena.next?, Option.bind_eq_some_iff, List.getElem?_toArray] at hj
    obtain ⟨n, hn, hlink⟩ : ∃ n, (f.layout 0 headerSize)[i]? = some n
        ∧ (n.child = some j ∨ n.next = some j) := by
      rcases hj with ⟨n, hn, hlink⟩ | ⟨n, hn, hlink⟩
      · exact ⟨n, hn, .inl hlink⟩
      · exact ⟨n, hn, .inr hlink⟩
    have hforward := f.links_layout 0 headerSize i n hn j hlink
    rw [List.size_toArray, Forest.length_layout]
    omega

namespace Session

/-! ## §2. Sound sessions. -/

/-- **A sound session:** it has a root only while it reads, and then the first node; its links lead
    forward; and what it reads is fit to be read. -/
structure Sound (s : Session) : Prop where
  root_zero : s.root = none ∨ s.root = some 0
  root_reading : s.root.isSome → s.isReading = true
  forward : s.nodes.Forward
  reads : s.isReading = true → ∃ data, s.Reads data

variable {s t : Session}

theorem sound_on (disk : Disk) : (Session.on disk).Sound where
  root_zero := .inl rfl
  root_reading := nofun
  forward := Arena.forward_empty
  reads := nofun

/-- A session that does not read is sound when it has no root. -/
theorem sound_of_not_reading (hmode : t.isReading = false) (hroot : t.root = none)
    (hnodes : t.nodes.Forward) : t.Sound where
  root_zero := .inl hroot
  root_reading := by simp [hroot]
  forward := hnodes
  reads := by simp [hmode]

/-- A session that does not read has no root. -/
theorem Sound.root_eq_none (h : s.Sound) (hmode : s.isReading = false) : s.root = none := by
  cases hroot : s.root with
  | none => rfl
  | some i =>
    have hreads := h.root_reading (by rw [hroot]; rfl)
    rw [hmode] at hreads
    cases hreads

/-- The scratch buffer, the disk and the last error play no part in soundness. -/
theorem Sound.congr (h : s.Sound) (hmode : t.mode = s.mode) (hnodes : t.nodes = s.nodes)
    (hroot : t.root = s.root) : t.Sound where
  root_zero := by rw [hroot]; exact h.root_zero
  root_reading := by
    rw [hroot, isReading, hmode]
    exact h.root_reading
  forward := by rw [hnodes]; exact h.forward
  reads := by
    rw [isReading, hmode]
    intro hr
    obtain ⟨data, hsource, hwithin⟩ := h.reads hr
    exact ⟨data, by rwa [hmode], by rwa [hnodes]⟩

/-- A session that lost its nodes is sound: there is nothing left to read. -/
theorem Sound.notCreated (h : s.Sound) : s.notCreated.Sound where
  root_zero := .inl rfl
  root_reading := nofun
  forward := Arena.forward_empty
  reads := by
    intro hr
    obtain ⟨data, hsource, -⟩ := h.reads hr
    exact ⟨data, hsource, by simp [Session.notCreated]⟩

theorem sound_refused (s : Session) (e : Error) : (s.refused e).Sound := by
  refine sound_of_not_reading ?_ rfl Arena.forward_empty
  exact (mode_eq_closed.mp (show (s.refused e).mode = .closed from mode_close)).1

/-- **Every outcome of a call leaves a sound session,** whatever the answer is. -/
theorem Sound.outcome (h : s.Sound) {c : Call} {answer : Except Error Unit}
    (hc : Outcome s c answer t) : t.Sound := by
  cases hc with
  | unserved => exact h.congr rfl rfl rfl
  | written _ hw =>
    exact sound_of_not_reading rfl (h.root_eq_none (isReading_of_isWriting hw)) h.forward
  | finished hw =>
    refine sound_of_not_reading (mode_eq_closed.mp mode_close).1 ?_ ?_
    · rw [root_close]
      exact h.root_eq_none (isReading_of_isWriting hw)
    · rw [nodes_close]
      exact h.forward
  | goesOn => exact h
  | read _ hr keeps =>
    obtain ⟨data, hdata⟩ := h.reads hr
    exact ⟨h.root_zero, fun _ => rfl, h.forward, fun _ => ⟨data, keeps data hdata⟩⟩
  | created => exact sound_of_not_reading rfl rfl Arena.forward_empty
  | notCreated => exact h.notCreated
  | opened hverdict hreads =>
    exact ⟨.inr rfl, fun _ => rfl, hverdict.forward, fun _ => ⟨_, hreads⟩⟩
  | notOpened => exact sound_refused s _

theorem Sound.after (h : s.Sound) (e : Event) : (s.after e).Sound := by
  cases e with
  | call c => exact h.outcome (Session.outcome s c)
  | elsewhere disk => exact h.congr rfl rfl rfl

/-- **A session stays sound,** whatever is called and whatever comes of it. -/
theorem sound_run (h : s.Sound) (events : List Event) : (s.run events).Sound := by
  induction events generalizing s with
  | nil => exact h
  | cons e events ih => exact ih (h.after e)

/-! ## §3. What a sound session answers. -/

/-- A sound session that reads gives the properties of exactly the nodes that it has. -/
theorem Sound.getProps_ok_iff (h : s.Sound) (hr : s.isReading = true) (i : Nat) :
    (∃ props, (s.perform (getProps i)).1 = .ok props) ↔ i < s.nodes.size := by
  obtain ⟨data, hdata⟩ := h.reads hr
  obtain ⟨t, hperform, -⟩ := getProps_reads hdata i
  rw [hperform, propsIn]
  by_cases hi : i < s.nodes.size <;> simp [hi]

/-- A file that does not open leaves the session refused. -/
theorem Outcome.eq_refused {path : String} {caching : Bool} {e : Error}
    (h : Outcome s (.openFile path caching) (.error e) t) : t = s.refused e := by
  cases h with
  | unserved h => cases h
  | read hc => cases hc
  | notOpened => rfl

/-- **After any calls,** answered or refused, and whatever others do on the disk in between:

    * the root is the first node when there is one, and then the session reads;
    * every link leads forward, to a node that is there;
    * a session that reads gives the properties of exactly the nodes that it has;
    * a file that does not open leaves no root and no nodes, and all other calls are refused;
    * the last error is the one that the caller was told of last. -/
theorem run_on (disk : Disk) (events : List Event) :
    let s := (Session.on disk).run events
    (s.root = none ∨ s.root = some 0 ∧ s.isReading = true)
      ∧ (∀ i j, s.nodes.child? i = some j ∨ s.nodes.next? i = some j → i < j ∧ j < s.nodes.size)
      ∧ (s.isReading = true →
          ∀ i, (∃ props, (s.perform (getProps i)).1 = .ok props) ↔ i < s.nodes.size)
      ∧ (∀ path caching e t, s.perform (openFile path caching) = (.error e, t) →
          t.root = none ∧ t.nodes = #[]
            ∧ ∀ c : Call, c.opens = false →
                t.perform c.operation = (.error .notOpen, { t with lastError := some .notOpen }))
      ∧ s.lastError = ((Session.on disk).errors events).getLast? := by
  intro s
  have hs : s.Sound := sound_run (sound_on disk) events
  refine ⟨?_, hs.forward, hs.getProps_ok_iff, ?_, ?_⟩
  · rcases hs.root_zero with hroot | hroot
    · exact .inl hroot
    · exact .inr ⟨hroot, hs.root_reading (by rw [hroot]; rfl)⟩
  · intro path caching e t hfail
    have houtcome := outcome_openFile s path caching
    rw [hfail] at houtcome
    obtain rfl := houtcome.eq_refused
    refine ⟨rfl, rfl, fun c hc => ?_⟩
    exact perform_unserved (serves_of_closed (s := s.refused e) mode_close hc)
  · rw [lastError_run]
    cases ((Session.on disk).errors events).getLast? <;> rfl

end Session

end Realm.NodeFile
