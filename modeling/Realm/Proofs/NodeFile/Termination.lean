/-
  Realm.Proofs.NodeFile.Termination — the reading of a file's nodes ends, and what it costs until then.

  The walk over a file takes a byte back: behind a closer it has to look at the next one, and a second
  closer is read again for the node around.  So neither a read nor the stack tells that the walk gets on.
  A whole step does, for it begins with a byte that no later step begins with.  `Moves` says once what a
  step can come to, and where the walk then stands; the rest is counted from there, the steps by their
  places, and the nodes by the two bytes that each of them takes.

  Nothing is assumed of the bytes, nor of a cache and what it holds.

  Main statements:
  * `step_moves` — all that a step can come to, unless it fails;
  * `Moves.affords` — a step pays for the node that it opens;
  * `Reaches.place`, `Reaches.affords` — where any number of steps leads, and that they are paid for;
  * `parseNodes_ends` — the reading ends, within a step for each byte, and what it can cost.
-/
import Realm.Proofs.NodeFile.Parsing

namespace Realm.NodeFile

namespace Walk

/-! ## §1. What a step comes to. -/

/-- The innermost node is closed at `place`.  Its properties end there, unless an inner node has ended
    them before. -/
def closed (w : Walk) (top : Frame) (place : Nat) : Walk :=
  if top.measured then w else { w with nodes := measure w.nodes top.node place }

section

variable (w : Walk) (top : Frame) (outer : List Frame) (kind : UInt8) (place : Nat)

@[simp] theorem size_measure (nodes : Arena) (node : Nat) :
    (measure nodes node place).size = nodes.size :=
  Array.size_modify

@[simp] theorem size_named : (w.named top kind place).nodes.size = w.nodes.size :=
  Array.size_modify

@[simp] theorem size_descend : (w.descend top outer place).nodes.size = w.nodes.size + 1 := by
  simp [descend]

@[simp] theorem size_advance : (w.advance top outer place).nodes.size = w.nodes.size + 1 := by
  simp [advance]

@[simp] theorem size_closed : (w.closed top place).nodes.size = w.nodes.size := by
  unfold closed
  split <;> simp

theorem expectsKind_closed : (w.closed top place).expectsKind = w.expectsKind := by
  unfold closed
  split <;> rfl

end

/-- **What a step comes to** that begins at `place`, and where the walk stands behind it.  A closer that
    follows a closer is left for the step behind. -/
inductive Moves (w : Walk) (place : Nat) : Progress → Nat → Prop
  | kind {top : Frame} {outer : List Frame} {behind : Nat} (b : UInt8)
      (hstack : w.stack = top :: outer) (hkind : w.expectsKind = true)
      (hbehind : behind = place + 1 ∨ behind = place + 2) :
      Moves w place (.more (w.named top b behind)) behind
  | props {behind : Nat} (hkind : w.expectsKind = false)
      (hbehind : behind = place + 1 ∨ behind = place + 2) : Moves w place (.more w) behind
  | descend {top : Frame} {outer : List Frame} (hstack : w.stack = top :: outer)
      (hkind : w.expectsKind = false) :
      Moves w place (.more (w.descend top outer place)) (place + 1)
  | advance {top : Frame} {outer : List Frame} (hstack : w.stack = top :: outer)
      (hkind : w.expectsKind = false) :
      Moves w place (.more ((w.closed top place).advance top outer (place + 1))) (place + 2)
  | leave {top : Frame} {outer : List Frame} (hstack : w.stack = top :: outer)
      (hkind : w.expectsKind = false) (houter : outer ≠ []) :
      Moves w place (.more { w.closed top place with stack := outer }) (place + 1)
  | finish {top : Frame} (hstack : w.stack = [top]) (hkind : w.expectsKind = false) :
      Moves w place (.done (w.closed top place).nodes) (place + 1)
  | idle (hstack : w.stack = []) : Moves w place (.done w.nodes) place

section

variable {s s' : Source} {w : Walk} {top : Frame} {outer : List Frame} {p : Progress}

/-- What can follow a closer, unless it fails.  A second closer is taken back, and the walk stands where
    it stood. -/
theorem afterCloser_cases (h : afterCloser s w top outer = (.ok p, s')) :
    (s.position ≤ s.data.size → s'.position ≤ s.data.size)
      ∧ ((p = .more (w.advance top outer s.position) ∧ s'.position = s.position + 1)
        ∨ (p = .more { w with stack := outer } ∧ outer ≠ [] ∧ s'.position = s.position)
        ∨ (p = .done w.nodes ∧ outer = [] ∧ s'.position = s.position)) := by
  unfold afterCloser at h
  split at h
  · cases h
  · -- the end of the file
    rename_i s₁ hread
    obtain ⟨_, hplace⟩ := Source.readByte_none hread
    split at h
    · rename_i hempty
      cases h
      exact ⟨by omega, .inr (.inr ⟨rfl, List.isEmpty_iff.mp hempty, hplace⟩)⟩
    · cases h
  · rename_i b s₁ hread
    obtain ⟨_, hplace, hlt⟩ := Source.readByte_advances hread
    split at h
    · -- an opener
      split at h
      · cases h
      · rename_i place htell
        have hlast := Source.tellLast_ok htell
        obtain rfl : place = s.position := by omega
        cases h
        exact ⟨by omega, .inl ⟨rfl, hplace⟩⟩
    · split at h
      · -- a closer
        split at h
        · cases h
        · rename_i place htell
          have hlast := Source.tellLast_ok htell
          split at h
          · cases h
          · rename_i u s₂ hseek
            obtain ⟨_, hback⟩ := Source.seek_ok hseek
            have hsame : s₂.position = s.position := by omega
            split at h
            · rename_i hempty
              cases h
              exact ⟨by omega, .inr (.inr ⟨rfl, List.isEmpty_iff.mp hempty, hsame⟩)⟩
            · rename_i hempty
              cases h
              exact ⟨by omega, .inr (.inl ⟨rfl, by simpa using hempty, hsame⟩)⟩
      · cases h

/-- What a step comes to whose byte, at `place`, is a closer. -/
theorem moves_of_closer {place : Nat} (hstack : w.stack = top :: outer)
    (hkind : w.expectsKind = false) (hplace : s.position = place + 1)
    (h : (if top.measured then afterCloser s w top outer
      else match s.tellLast with
        | .error e => (.error e, s)
        | .ok place => afterCloser s { w with nodes := measure w.nodes top.node place } top outer)
      = (.ok p, s')) :
    (s.position ≤ s.data.size → s'.position ≤ s.data.size) ∧ Moves w place p s'.position := by
  -- the rest of the step is the same, whether the properties are measured now or were before
  have hrest : afterCloser s (w.closed top place) top outer = (.ok p, s') := by
    unfold closed
    split at h
    · rename_i hmeasured
      rw [if_pos hmeasured]
      exact h
    · rename_i hmeasured
      rw [if_neg hmeasured]
      split at h
      · cases h
      · rename_i last htell
        have hlast := Source.tellLast_ok htell
        obtain rfl : last = place := by omega
        exact h
  obtain ⟨hin, hcases⟩ := afterCloser_cases hrest
  refine ⟨hin, ?_⟩
  rw [hplace] at hcases
  rcases hcases with ⟨rfl, hbehind⟩ | ⟨rfl, houter, hbehind⟩ | ⟨rfl, rfl, hbehind⟩
  · rw [hbehind]
    exact .advance hstack hkind
  · rw [hbehind]
    exact .leave hstack hkind houter
  · rw [hbehind]
    exact .finish hstack hkind

/-- **All that a step can come to,** unless it fails.  It does not lead out of the file. -/
theorem step_moves (h : step s w = (.ok p, s')) :
    (s.position ≤ s.data.size → s'.position ≤ s.data.size) ∧ Moves w s.position p s'.position := by
  unfold step at h
  split at h
  · rename_i hstack
    cases h
    exact ⟨id, .idle hstack⟩
  · rename_i top outer hstack
    split at h
    · cases h
    · rename_i b s₁ hread
      obtain ⟨hdata, hplace, hlt⟩ := Source.nextByte_advances hread
      split at h
      · rename_i hkind
        split at h
        · split at h
          · cases h
          · rename_i kind s₂ hread₂
            obtain ⟨_, hplace₂, hlt₂⟩ := Source.nextByte_advances hread₂
            rw [hdata] at hlt₂
            cases h
            exact ⟨by omega, .kind kind hstack hkind (.inr (by omega))⟩
        · cases h
          exact ⟨by omega, .kind b hstack hkind (.inl hplace)⟩
      · rename_i hkind
        have hkind : w.expectsKind = false := by simpa using hkind
        split at h
        · -- an opener
          split at h
          · cases h
          · rename_i place htell
            have hlast := Source.tellLast_ok htell
            obtain rfl : place = s.position := by omega
            cases h
            rw [hplace]
            exact ⟨by omega, .descend hstack hkind⟩
        · split at h
          · obtain ⟨hin, hmoves⟩ := moves_of_closer hstack hkind hplace h
            rw [hdata] at hin
            exact ⟨fun _ => hin (by omega), hmoves⟩
          · -- a property byte, or a pair of bytes that stands for one
            split at h
            · split at h
              · cases h
              · rename_i s₂ hread₂
                obtain ⟨_, hplace₂, hlt₂⟩ := Source.nextByte_advances hread₂
                rw [hdata] at hlt₂
                cases h
                exact ⟨by omega, .props hkind (.inr (by omega))⟩
            · cases h
              exact ⟨by omega, .props hkind (.inl hplace)⟩

end

/-! ## §2. What a step costs. -/

/-- **What a walk that stands at `place` has paid for:** every node with two bytes, an opener and a kind,
    of which the last kind can be still to come; and no more nodes are open than there are. -/
structure Affords (w : Walk) (place : Nat) : Prop where
  nodes_le : headerSize + 2 * w.nodes.size ≤ place + w.expectsKind.toNat
  stack_le : w.stack.length ≤ w.nodes.size

theorem affords_atRoot : (atRoot headerSize).Affords (headerSize + 1) where
  nodes_le := Nat.le_refl _
  stack_le := Nat.le_refl _

/-- **A step pays for the node that it opens,** if it opens one. -/
theorem Moves.affords {w w' : Walk} {place behind : Nat} (h : Moves w place (.more w') behind)
    (hw : w.Affords place) : w'.Affords behind := by
  obtain ⟨hnodes, hstack⟩ := hw
  cases h with
  | kind b hopen hkind hbehind =>
    -- the kind pays what the opener left
    rw [hkind, Bool.toNat_true] at hnodes
    constructor
    · rw [size_named]
      show headerSize + 2 * w.nodes.size ≤ behind + 0
      omega
    · rw [size_named]
      exact hstack
  | props hkind hbehind => exact ⟨by omega, hstack⟩
  | descend hopen hkind =>
    rw [hkind, Bool.toNat_false] at hnodes
    rw [hopen, List.length_cons] at hstack
    constructor
    · rw [size_descend]
      show headerSize + 2 * (w.nodes.size + 1) ≤ place + 1 + 1
      omega
    · rw [size_descend]
      show _ + 1 + 1 ≤ w.nodes.size + 1
      omega
  | advance hopen hkind =>
    rw [hkind, Bool.toNat_false] at hnodes
    rw [hopen, List.length_cons] at hstack
    constructor
    · rw [size_advance, size_closed]
      show headerSize + 2 * (w.nodes.size + 1) ≤ place + 2 + 1
      omega
    · rw [size_advance, size_closed]
      show _ + 1 ≤ w.nodes.size + 1
      omega
  | @leave top outer hopen hkind houter =>
    -- no node opens, and the closer pays for none
    rw [hopen, List.length_cons] at hstack
    constructor
    · show headerSize + 2 * (w.closed top place).nodes.size
        ≤ place + 1 + (w.closed top place).expectsKind.toNat
      rw [size_closed, expectsKind_closed]
      omega
    · show outer.length ≤ (w.closed top place).nodes.size
      rw [size_closed]
      omega

/-- The last step opens no node. -/
theorem Moves.size_done {w : Walk} {nodes : Arena} {place behind : Nat}
    (h : Moves w place (.done nodes) behind) : nodes.size = w.nodes.size := by
  cases h with
  | finish hopen hkind => exact size_closed w _ place
  | idle hopen => rfl

/-! ## §3. Any number of steps. -/

/-- The way to the first node: behind its opener, or to the error that the reading ends with. -/
def openFirst (s : Source) : Except Error Unit × Source :=
  match s.seek headerSize with
  | (.error e, s₁) => (.error e, s₁)
  | (.ok _, s₁) =>
    match s₁.readByte with
    | (.error e, s₂) => (.error e, s₂)
    | (.ok none, s₂) => (.error .invalidFormat, s₂)
    | (.ok (some b), s₂) => if b == opener then (.ok (), s₂) else (.error .invalidFormat, s₂)

theorem parseNodes_eq (s : Source) :
    parseNodes s = match openFirst s with
      | (.error e, s') => (.error e, s')
      | (.ok _, s') => run s' (.atRoot headerSize) := by
  unfold parseNodes openFirst
  rcases s.seek headerSize with ⟨_ | _, s₁⟩
  · rfl
  · dsimp only
    rcases s₁.readByte with ⟨_ | _ | b, s₂⟩
    · rfl
    · rfl
    · dsimp only
      split <;> rfl

theorem openFirst_ok {s s' : Source} {u : Unit} (h : openFirst s = (.ok u, s')) :
    s'.data = s.data ∧ s'.position = headerSize + 1 ∧ s'.position ≤ s.data.size := by
  unfold openFirst at h
  split at h
  · cases h
  · rename_i s₁ hseek
    obtain ⟨hdata, hplace⟩ := Source.seek_ok hseek
    split at h
    · cases h
    · cases h
    · rename_i b s₂ hread
      obtain ⟨hdata₂, hplace₂, hlt⟩ := Source.readByte_advances hread
      rw [hdata] at hdata₂ hlt
      split at h
      · cases h
        exact ⟨hdata₂, by omega, by omega⟩
      · cases h

/-- **Where the reading of the nodes of `s` has come to** when `k` steps are made. -/
inductive Reaches (s : Source) : Nat → Source → Walk → Prop
  | first {s₁ : Source} (hopen : openFirst s = (.ok (), s₁)) : Reaches s 0 s₁ (.atRoot headerSize)
  | next {k : Nat} {s₁ s₂ : Source} {w₁ w₂ : Walk} (h : Reaches s k s₁ w₁)
      (hstep : step s₁ w₁ = (.ok (.more w₂), s₂)) : Reaches s (k + 1) s₂ w₂

/-- **The reading of the nodes of `s` ends** when `k` steps are made, the one that ends it among them.
    Without an opener it ends before the first. -/
inductive Ends (s : Source) : Nat → Except Error Arena × Source → Prop
  | refused {s' : Source} {e : Error} (hopen : openFirst s = (.error e, s')) : Ends s 0 (.error e, s')
  | failed {k : Nat} {s₁ s' : Source} {w₁ : Walk} {e : Error} (h : Reaches s k s₁ w₁)
      (hstep : step s₁ w₁ = (.error e, s')) : Ends s (k + 1) (.error e, s')
  | done {k : Nat} {s₁ s' : Source} {w₁ : Walk} {nodes : Arena} (h : Reaches s k s₁ w₁)
      (hstep : step s₁ w₁ = (.ok (.done nodes), s')) : Ends s (k + 1) (.ok nodes, s')

section

variable {s s₁ s₂ : Source} {w₁ w₂ : Walk} {j k : Nat}

/-- After each step the walk stands further in the file, and still inside it. -/
theorem Reaches.place (h : Reaches s k s₁ w₁) :
    s₁.data = s.data ∧ headerSize + k < s₁.position ∧ s₁.position ≤ s.data.size := by
  induction h with
  | first hopen =>
    obtain ⟨hdata, hplace, hin⟩ := openFirst_ok hopen
    exact ⟨hdata, by omega, hin⟩
  | next _ hstep ih =>
    obtain ⟨hdata, hplace, hin⟩ := ih
    obtain ⟨hsame, hlt, _⟩ := step_advances hstep
    obtain ⟨hstays, _⟩ := step_moves hstep
    rw [hdata] at hsame hstays
    exact ⟨hsame, by omega, hstays hin⟩

/-- **There is a byte for each step** that is made, and for the one that comes next. -/
theorem Reaches.lt (h : Reaches s k s₁ w₁) : k < s.data.size - headerSize := by
  obtain ⟨_, hplace, hin⟩ := h.place
  omega

/-- **Any number of steps** is paid for. -/
theorem Reaches.affords (h : Reaches s k s₁ w₁) : w₁.Affords s₁.position := by
  induction h with
  | first hopen =>
    obtain ⟨_, hplace, _⟩ := openFirst_ok hopen
    rw [hplace]
    exact affords_atRoot
  | next _ hstep ih =>
    obtain ⟨_, hmoves⟩ := step_moves hstep
    exact hmoves.affords ih

/-- There is a node for every two bytes at the most, and one more may end behind its opener. -/
theorem Reaches.size_le (h : Reaches s k s₁ w₁) :
    w₁.nodes.size ≤ (s.data.size - headerSize + 1) / 2 := by
  obtain ⟨_, _, hin⟩ := h.place
  have hnodes := h.affords.nodes_le
  have hbit : w₁.expectsKind.toNat ≤ 1 := Bool.toNat_le _
  omega

/-- Each number of steps leads to one state. -/
theorem Reaches.unique (h₁ : Reaches s k s₁ w₁) (h₂ : Reaches s k s₂ w₂) : s₁ = s₂ ∧ w₁ = w₂ := by
  induction h₁ generalizing s₂ w₂ with
  | first hopen =>
    cases h₂ with
    | first hopen₂ =>
      rw [hopen] at hopen₂
      cases hopen₂
      exact ⟨rfl, rfl⟩
  | next _ hstep ih =>
    cases h₂ with
    | next h₂ hstep₂ =>
      obtain ⟨rfl, rfl⟩ := ih h₂
      rw [hstep] at hstep₂
      cases hstep₂
      exact ⟨rfl, rfl⟩

/-- **No two steps begin at one place:** a later one begins further in the file. -/
theorem Reaches.position_lt (h₁ : Reaches s j s₁ w₁) (h₂ : Reaches s k s₂ w₂) (hjk : j < k) :
    s₁.position < s₂.position := by
  induction h₂ with
  | first hopen => omega
  | @next k s₂ s₃ w₂ w₃ h₂ hstep ih =>
    obtain ⟨_, hlt, _⟩ := step_advances hstep
    by_cases hlast : j = k
    · subst hlast
      obtain ⟨rfl, -⟩ := h₁.unique h₂
      exact hlt
    · have hbefore := ih (by omega)
      omega

/-! ## §4. The end. -/

/-- Fewer steps are made on the way to more. -/
theorem Reaches.earlier (h : Reaches s k s₁ w₁) (hjk : j ≤ k) : ∃ s' w', Reaches s j s' w' := by
  induction h with
  | first hopen =>
    obtain rfl : j = 0 := by omega
    exact ⟨_, _, .first hopen⟩
  | @next k s₁ s₂ w₁ w₂ h hstep ih =>
    by_cases hlast : j = k + 1
    · subst hlast
      exact ⟨_, _, h.next hstep⟩
    · exact ih (by omega)

/-- Behind a step that does not lead on there is no other. -/
theorem Reaches.lt_succ_of_last (h₁ : Reaches s j s₁ w₁) (h₂ : Reaches s k s₂ w₂)
    (hlast : ∀ w s', step s₂ w₂ ≠ (.ok (.more w), s')) : j < k + 1 := by
  refine Nat.lt_of_not_le fun hjk => ?_
  obtain ⟨s', w', h⟩ := h₁.earlier hjk
  cases h with
  | next h hstep =>
    obtain ⟨rfl, rfl⟩ := h.unique h₂
    exact hlast _ _ hstep

/-- **Behind the end no step is made.** -/
theorem Reaches.lt_of_ends {answer : Except Error Arena × Source} (h : Reaches s j s₁ w₁)
    (hends : Ends s k answer) : j < k := by
  cases hends with
  | refused hopen =>
    obtain ⟨s', w', hfirst⟩ := h.earlier (Nat.zero_le j)
    cases hfirst with
    | first hopen₂ =>
      rw [hopen] at hopen₂
      cases hopen₂
  | failed hk hstep => exact h.lt_succ_of_last hk (by simp [hstep])
  | done hk hstep => exact h.lt_succ_of_last hk (by simp [hstep])

/-- **From wherever the walk has come to, it goes on to an end.** -/
theorem Reaches.exists_ends (h : Reaches s k s₁ w₁) : ∃ m, Ends s m (run s₁ w₁) := by
  -- on the steps that there are bytes left for
  induction hleft : s.data.size - headerSize - k using Nat.strongRecOn generalizing k s₁ w₁ with
  | ind left ih =>
    rw [run_eq_resume]
    have hlt := h.lt
    rcases hstep : step s₁ w₁ with ⟨e | w₂ | nodes, s₂⟩
    · exact ⟨k + 1, .failed h hstep⟩
    · exact ih _ (by omega) (h.next hstep) rfl
    · exact ⟨k + 1, .done h hstep⟩

end

theorem exists_ends (s : Source) : ∃ k, Ends s k (parseNodes s) := by
  rw [parseNodes_eq]
  rcases hopen : openFirst s with ⟨e | u, s₁⟩
  · exact ⟨0, .refused hopen⟩
  · exact (Reaches.first hopen).exists_ends

/-- **A step for each byte** is enough. -/
theorem Ends.le {s : Source} {k : Nat} {answer : Except Error Arena × Source} (h : Ends s k answer) :
    k ≤ s.data.size - headerSize := by
  cases h with
  | refused => exact Nat.zero_le _
  | failed h => exact h.lt
  | done h => exact h.lt

theorem Ends.size_le {s s' : Source} {k : Nat} {nodes : Arena} (h : Ends s k (.ok nodes, s')) :
    nodes.size ≤ (s.data.size - headerSize + 1) / 2 := by
  cases h with
  | done h hstep =>
    obtain ⟨_, hmoves⟩ := step_moves hstep
    rw [hmoves.size_done]
    exact h.size_le

/-- **The reading of a file's nodes ends,** whatever the file's bytes are, and through any cache or none.
    Let there be `n` bytes behind the header.  Then

    * the reading is at its end after some `k` steps, at most `n`, and makes no others;
    * each step begins further in the file than all those before it;
    * between the steps there are never more than `(n + 1) / 2` nodes, nor more open ones than nodes;
    * a file that opens has no more than `(n + 1) / 2` nodes.

    A step reads the kind of a node, or goes once round the loop over what follows the kind. -/
theorem parseNodes_ends (s : Source) :
    let n := s.data.size - headerSize
    (∃ k ≤ n, Ends s k (parseNodes s) ∧ ∀ j s₁ w₁, Reaches s j s₁ w₁ → j < k)
      ∧ (∀ i j s₁ s₂ w₁ w₂, Reaches s i s₁ w₁ → Reaches s j s₂ w₂ → i < j →
          s₁.position < s₂.position)
      ∧ (∀ j s₁ w₁, Reaches s j s₁ w₁ →
          w₁.nodes.size ≤ (n + 1) / 2 ∧ w₁.stack.length ≤ w₁.nodes.size)
      ∧ ∀ nodes s', parseNodes s = (.ok nodes, s') → nodes.size ≤ (n + 1) / 2 := by
  intro n
  obtain ⟨k, hends⟩ := exists_ends s
  refine ⟨⟨k, hends.le, hends, ?_⟩, ?_, ?_, ?_⟩
  · intro j s₁ w₁ h
    exact h.lt_of_ends hends
  · intro i j s₁ s₂ w₁ w₂ hi hj hij
    exact hi.position_lt hj hij
  · intro j s₁ w₁ h
    exact ⟨h.size_le, h.affords.stack_le⟩
  · intro nodes s' hparse
    rw [hparse] at hends
    exact hends.size_le

/-- Openers and kinds in turns take all that there is to take: three bytes, three steps, two nodes, and
    both of them open. -/
example :
    let s : Source := { data := #[0, 0, 0, 0, opener, 1, opener] }
    ∃ s₁ w₁, Reaches s 2 s₁ w₁ ∧ w₁.nodes.size = 2 ∧ w₁.stack.length = 2
      ∧ Ends s 3 (.error .endOfFile, s₁) := by
  intro s
  have h : Reaches s 2 _ _ := .next (.next (.first rfl) rfl) rfl
  exact ⟨_, _, h, rfl, rfl, .failed h rfl⟩

end Walk

end Realm.NodeFile
