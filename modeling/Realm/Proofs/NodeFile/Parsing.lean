/-
  Realm.Proofs.NodeFile.Parsing — the walk over a file follows the spelling of its forest.

  The walk is a loop over single bytes with the open nodes on a stack.  Its states are described by what
  was spelled so far: `opened` behind an opener, `within` behind a heading.  A run through a whole forest
  ends behind the closer of its last tree, with the forest's layout written down; this holds with any
  nodes before the forest, any open nodes around it and any bytes behind it.

  Main statements:
  * `run_forest` — a run through a forest writes down its layout;
  * `run_path` — a run through the headings of open nodes leads inside the innermost one;
  * `parseFile_eq_iff` — parsing a file comes to exactly what its bytes say, with a cache or without.
-/
import Realm.Proofs.NodeFile.CacheCoherence
import Realm.Proofs.NodeFile.Grammar
import Mathlib.Tactic.Set

namespace Realm.NodeFile

/-! ## §1. States of a walk, by what was spelled. -/

namespace Node

/-- A node behind its kind. -/
def headed (place : Nat) (kind : UInt8) (s : Spelling) : Node :=
  { Node.opening place with kind, propsAt := place + 1 + (s.kindBytes kind).length }

end Node

namespace Walk

/-- Behind the opener of a node that follows the nodes `before`. -/
def opened (before : List Node) (outer : List Frame) (place : Nat) : Walk :=
  ⟨(before ++ [Node.opening place]).toArray, ⟨before.length, false⟩ :: outer, true⟩

/-- Among the properties of the node `n`, which follows the nodes `before`. -/
def within (before : List Node) (n : Node) (outer : List Frame) : Walk :=
  ⟨(before ++ [n]).toArray, ⟨before.length, false⟩ :: outer, false⟩

/-- What follows a step: nothing after an error or at the end, else the rest of the run. -/
def resume : Except Error Progress × Source → Except Error Arena × Source
  | (.error e, s) => (.error e, s)
  | (.ok (.done nodes), s) => (.ok nodes, s)
  | (.ok (.more w), s) => run s w

theorem run_eq_resume (s : Source) (w : Walk) : run s w = resume (step s w) := by
  rw [run]
  split <;> next h => rw [h]; rfl

/-- A change of the node behind `before` leaves the others alone. -/
theorem modify_behind (before after : List Node) (n : Node) (g : Node → Node) :
    (before ++ n :: after).toArray.modify before.length g = (before ++ g n :: after).toArray := by
  induction before with
  | nil => rfl
  | cons m before ih =>
    simp only [List.modify_toArray, List.cons_append, List.length_cons, List.modify_succ_cons] at ih ⊢
    rw [Array.mk.injEq] at ih
    rw [ih]

/-! ## §2. Single steps. -/

section

variable {s : Source} {data : Array UInt8} {place : Nat} {b : UInt8} {rest : List UInt8}
variable (w : Walk) (top : Frame) (before after : List Node) (n : Node) (outer : List Frame)

/-- Behind an opener the kind comes next. -/
theorem run_kind {kind : UInt8} {sp : Spelling} (hsp : sp.escapedKind = false → kind ≠ escaper)
    (h : s.Stands data (place + 1) (sp.kindBytes kind ++ rest)) :
    ∃ s', s'.Stands data (place + 1 + (sp.kindBytes kind).length) rest
      ∧ run s (opened before outer place) = run s' (within before (.headed place kind sp) outer) := by
  unfold Spelling.kindBytes at h
  cases hesc : sp.escapedKind with
  | false =>
    rw [hesc] at h
    obtain ⟨s', hread, hs', _⟩ := Source.nextByte_cons h
    have hlen : (sp.kindBytes kind).length = 1 := by simp [Spelling.kindBytes, hesc]
    rw [hlen]
    refine ⟨s', hs', ?_⟩
    rw [run_eq_resume]
    have hne : (kind == escaper) = false := by simpa using hsp hesc
    simp only [step, opened, hread, hne, named, hs'.position_eq, modify_behind]
    simp [resume, within, Node.headed, hlen]
  | true =>
    rw [hesc] at h
    obtain ⟨s₁, hread₁, hs₁, _⟩ := Source.nextByte_cons h
    obtain ⟨s', hread, hs', _⟩ := Source.nextByte_cons hs₁
    have hlen : (sp.kindBytes kind).length = 2 := by simp [Spelling.kindBytes, hesc]
    rw [hlen]
    refine ⟨s', hs', ?_⟩
    rw [run_eq_resume]
    simp only [step, opened, hread₁, hread, named, hs'.position_eq, modify_behind]
    simp [resume, within, Node.headed, hlen]

/-- Property bytes change nothing but the place. -/
theorem run_props {p : List UInt8} (hp : PropsText p) (hkind : w.expectsKind = false)
    (hstack : w.stack = top :: outer) (h : s.Stands data place (p ++ rest)) :
    ∃ s', s'.Stands data (place + p.length) rest ∧ run s w = run s' w := by
  induction hp generalizing s place with
  | nil => exact ⟨s, h, rfl⟩
  | @plain c p hres _ ih =>
    obtain ⟨s₁, hread, hs₁, _⟩ := Source.nextByte_cons h
    obtain ⟨s', hs', hrun⟩ := ih hs₁
    refine ⟨s', ?_, ?_⟩
    · rw [List.length_cons, Nat.add_comm p.length, ← Nat.add_assoc]
      exact hs'
    · have hnot : (c == opener) = false ∧ (c == closer) = false ∧ (c == escaper) = false := by
        simpa [isReserved, and_assoc] using hres
      rw [run_eq_resume, ← hrun]
      simp [step, hstack, hread, hkind, hnot, resume]
  | @pair c p _ ih =>
    obtain ⟨s₁, hread₁, hs₁, _⟩ := Source.nextByte_cons h
    obtain ⟨s₂, hread₂, hs₂, _⟩ := Source.nextByte_cons hs₁
    obtain ⟨s', hs', hrun⟩ := ih hs₂
    refine ⟨s', ?_, ?_⟩
    · rw [show place + (escaper :: c :: p).length = place + 1 + 1 + p.length by
        simp only [List.length_cons]
        omega]
      exact hs'
    · rw [run_eq_resume, ← hrun]
      simp [step, hstack, hread₁, hread₂, hkind, resume, escaper, opener, closer]

/-- Behind an opener the whole heading comes next. -/
theorem run_heading {kind : UInt8} {sp : Spelling} (hsp : sp.Valid kind)
    (h : s.Stands data (place + 1) (sp.heading kind ++ rest)) :
    ∃ s', s'.Stands data (place + 1 + (sp.heading kind).length) rest
      ∧ run s (opened before outer place) = run s' (within before (.headed place kind sp) outer) := by
  unfold Spelling.heading at h ⊢
  rw [List.append_assoc] at h
  obtain ⟨s₁, hs₁, hrun₁⟩ := run_kind before outer hsp.kind_plain h
  obtain ⟨s', hs', hrun⟩ := run_props (within before (.headed place kind sp) outer) _ _
    hsp.props_text rfl rfl hs₁
  refine ⟨s', ?_, hrun₁.trans hrun⟩
  rw [List.length_append, ← Nat.add_assoc]
  exact hs'

/-- An opener among the properties ends them and opens a first inner node. -/
theorem run_descend (h : s.Stands data place (opener :: rest)) :
    ∃ s', s'.Stands data (place + 1) rest
      ∧ run s (within before n outer)
        = run s' (opened
            (before ++ [{ n with propsSize := place - n.propsAt, child := some (before.length + 1) }])
            (⟨before.length, true⟩ :: outer) place) := by
  obtain ⟨s', hread, hs', hset⟩ := Source.nextByte_cons h
  refine ⟨s', hs', ?_⟩
  rw [run_eq_resume]
  simp only [step, within, hread, Source.tellLast_settled hs' hset, descend, measure, modify_behind,
    List.push_toArray, List.append_assoc, List.cons_append]
  simp [resume, opened]

/-- A closer among the properties ends them and the node. -/
theorem run_close (h : s.Stands data place (closer :: rest)) :
    ∃ s', s'.Stands data (place + 1) rest
      ∧ run s (within before n outer)
        = resume (afterCloser s' (within before { n with propsSize := place - n.propsAt } outer)
            ⟨before.length, false⟩ outer) := by
  obtain ⟨s', hread, hs', hset⟩ := Source.nextByte_cons h
  refine ⟨s', hs', ?_⟩
  rw [run_eq_resume]
  simp only [step, within, hread, Source.tellLast_settled hs' hset, measure, modify_behind]
  rfl

/-- A closer behind inner nodes ends the node around them. -/
theorem run_close_measured (hkind : w.expectsKind = false) (hstack : w.stack = top :: outer)
    (htop : top.measured = true) (h : s.Stands data place (closer :: rest)) :
    ∃ s', s'.Stands data (place + 1) rest
      ∧ run s w = resume (afterCloser s' w top outer) := by
  obtain ⟨s', hread, hs', _⟩ := Source.nextByte_cons h
  refine ⟨s', hs', ?_⟩
  rw [run_eq_resume]
  simp only [step, hstack, hread, hkind, htop]
  rfl

/-! ### Behind a closer -/

/-- An opener behind a closer opens the next sibling. -/
theorem resume_advance (h : s.Stands data place (opener :: rest))
    (hnodes : w.nodes = (before ++ n :: after).toArray) (htop : top.node = before.length) :
    ∃ s', s'.Stands data (place + 1) rest
      ∧ resume (afterCloser s w top outer)
        = run s' (opened
            (before ++ { n with next := some (before.length + 1 + after.length) } :: after)
            outer place) := by
  obtain ⟨s', hread, hs', hset⟩ := Source.readByte_cons h
  refine ⟨s', hs', ?_⟩
  have hsize : (before ++ n :: after).length = before.length + 1 + after.length := by
    simp only [List.length_append, List.length_cons]
    omega
  simp only [afterCloser, hread, Source.tellLast_settled hs' hset, advance, hnodes, htop,
    List.push_toArray, List.append_assoc, List.cons_append, modify_behind]
  simp [resume, opened, hsize, Nat.add_assoc, Nat.add_comm 1]

/-- Behind the closer of an inner node the closer of the node around it is read again. -/
theorem resume_leave (h : s.Stands data place (closer :: rest)) (houter : outer ≠ []) :
    ∃ s', s'.Stands data place (closer :: rest)
      ∧ resume (afterCloser s w top outer) = run s' { w with stack := outer } := by
  obtain ⟨s₁, hread, hs₁, hset⟩ := Source.readByte_cons h
  have hle : place ≤ data.size := Nat.le_of_lt (Source.lt_size_of_drop h.rest_eq)
  obtain ⟨s', hseek, hs'⟩ := Source.seek_within hs₁.data_eq hs₁.coherent hle
  rw [h.rest_eq] at hs'
  refine ⟨s', hs', ?_⟩
  have hempty : outer.isEmpty = false := by simpa using houter
  simp only [afterCloser, hread, Source.tellLast_settled hs₁ hset, hseek, hempty]
  rfl

/-- Behind the closer of a root the file may end, or a closer may end the reading. -/
theorem resume_done (h : s.Stands data place rest)
    (hrest : rest = [] ∨ rest.head? = some closer) :
    ∃ s', s'.data = data ∧ s'.Coherent
      ∧ resume (afterCloser s w top []) = (.ok w.nodes, s') := by
  rcases hrest with rfl | hrest
  · refine ⟨s, h.data_eq, h.coherent, ?_⟩
    simp only [afterCloser, Source.readByte_nil h]
    rfl
  · obtain ⟨r, rfl⟩ : ∃ r, rest = closer :: r := by
      cases rest with
      | nil => simp at hrest
      | cons c r => exact ⟨r, by rw [Option.some.inj hrest]⟩
    obtain ⟨s₁, hread, hs₁, hset⟩ := Source.readByte_cons h
    have hle : place ≤ data.size := Nat.le_of_lt (Source.lt_size_of_drop h.rest_eq)
    obtain ⟨s', hseek, hs'⟩ := Source.seek_within hs₁.data_eq hs₁.coherent hle
    refine ⟨s', hs'.data_eq, hs'.coherent, ?_⟩
    simp only [afterCloser, hread, Source.tellLast_settled hs₁ hset, hseek]
    rfl

/-- Behind the closer of an inner node the file may not end. -/
theorem resume_early (h : s.Stands data place []) (houter : outer ≠ []) :
    (resume (afterCloser s w top outer)).1 = .error .endOfFile := by
  have hempty : outer.isEmpty = false := by simpa using houter
  simp only [afterCloser, Source.readByte_nil h, hempty]
  rfl

/-- Behind a closer nothing but an opener or a closer may stand. -/
theorem resume_stray (h : s.Stands data place (b :: rest)) (hop : b ≠ opener) (hcl : b ≠ closer) :
    (resume (afterCloser s w top outer)).1 = .error .invalidFormat := by
  obtain ⟨s', hread, _, _⟩ := Source.readByte_cons h
  have hop' : (b == opener) = false := by simpa using hop
  have hcl' : (b == closer) = false := by simpa using hcl
  simp only [afterCloser, hread, hop', hcl']
  rfl

/-! ### Ends inside a node -/

theorem run_noKind (h : s.Stands data (place + 1) []) :
    (run s (opened before outer place)).1 = .error .endOfFile := by
  rw [run_eq_resume]
  simp only [step, opened, Source.nextByte_nil h]
  rfl

theorem run_halfKind (h : s.Stands data (place + 1) [escaper]) :
    (run s (opened before outer place)).1 = .error .endOfFile := by
  obtain ⟨s', hread, hs', _⟩ := Source.nextByte_cons h
  rw [run_eq_resume]
  simp only [step, opened, hread, Source.nextByte_nil hs']
  rfl

theorem run_noProps (h : s.Stands data place []) :
    (run s (within before n outer)).1 = .error .endOfFile := by
  rw [run_eq_resume]
  simp only [step, within, Source.nextByte_nil h]
  rfl

theorem run_halfPair (h : s.Stands data place [escaper]) :
    (run s (within before n outer)).1 = .error .endOfFile := by
  obtain ⟨s', hread, hs', _⟩ := Source.nextByte_cons h
  rw [run_eq_resume]
  simp only [step, within, hread, Source.nextByte_nil hs']
  rfl

end

/-! ## §3. Runs through forests. -/

/-- **What a run through a forest comes to:** behind the closer of its last tree its layout is written
    down, whatever nodes stand before it, are open around it, or bytes follow it. -/
def RunsThrough (data : Array UInt8) (f : Forest Spelling) : Prop :=
  ∀ (before : List Node) (outer : List Frame) (place : Nat) (s : Source) (rest : List UInt8),
    s.Stands data (place + 1) (f.bytes.tail ++ rest) →
    ∃ (s' : Source) (w : Walk) (top : Frame),
      s'.Stands data (place + f.bytes.length) rest
        ∧ w.nodes = (before ++ f.layout before.length place).toArray ∧ w.expectsKind = false
        ∧ top.node < before.length + f.size
        ∧ run s (opened before outer place) = resume (afterCloser s' w top outer)

/-- A run that comes to the opener of a forest goes on through the forest. -/
theorem RunsThrough.after {data : Array UInt8} {f : Forest Spelling} (hf : RunsThrough data f)
    {before : List Node} {outer : List Frame} {place : Nat} {s : Source} (rest : List UInt8)
    {run₀ : Except Error Arena × Source} (hrun : run₀ = run s (opened before outer place))
    (h : s.Stands data (place + 1) (f.bytes.tail ++ rest)) :
    ∃ (s' : Source) (w : Walk) (top : Frame),
      s'.Stands data (place + f.bytes.length) rest
        ∧ w.nodes = (before ++ f.layout before.length place).toArray ∧ w.expectsKind = false
        ∧ top.node < before.length + f.size
        ∧ run₀ = resume (afterCloser s' w top outer) := by
  rw [hrun]
  exact hf before outer place s rest h

/-- A run through one node, once what lies inside can be run through. -/
theorem run_node {data : Array UInt8} {kind : UInt8} {sp : Spelling} {inside : Forest Spelling}
    (before : List Node) (outer : List Frame) {place : Nat} {s : Source} {rest : List UInt8}
    (hsp : sp.Valid kind) (hinside : inside ≠ .nil → RunsThrough data inside)
    (h : s.Stands data (place + 1) (sp.heading kind ++ inside.bytes ++ closer :: rest)) :
    ∃ (s' : Source) (w : Walk) (measured : Bool),
      s'.Stands data (place + 1 + (sp.heading kind).length + inside.bytes.length + 1) rest
        ∧ w.nodes = (before ++ (Forest.node kind sp inside .nil).layout before.length place).toArray
        ∧ w.expectsKind = false
        ∧ run s (opened before outer place)
          = resume (afterCloser s' w ⟨before.length, measured⟩ outer) := by
  rw [List.append_assoc] at h
  obtain ⟨s₁, hs₁, hrun₁⟩ := run_heading before outer hsp h
  have hlen : place + 1 + (sp.heading kind).length
      = place + 1 + (sp.kindBytes kind).length + sp.props.length := by
    rw [Spelling.heading, List.length_append, ← Nat.add_assoc]
  by_cases hnil : inside = .nil
  · subst hnil
    obtain ⟨s', hs', hrun⟩ := run_close before (.headed place kind sp) outer hs₁
    refine ⟨s', _, false, hs', ?_, rfl, hrun₁.trans hrun⟩
    simp [within, Forest.layout, Forest.link, Node.headed, Node.opening, hlen]
  · -- descend, run through the inner nodes, and read the closer behind them once more
    obtain ⟨r, hr⟩ := Forest.bytes_eq_cons hnil
    rw [hr] at hs₁
    obtain ⟨s₂, hs₂, hrun₂⟩ := run_descend before (.headed place kind sp) outer hs₁
    obtain ⟨s₃, w₃, top₃, hs₃, hnodes₃, hkind₃, _, hrun₃⟩ := (hinside hnil).after
      (closer :: rest) hrun₂ (by rw [hr]; exact hs₂)
    obtain ⟨s₄, hs₄, hrun₄⟩ := resume_leave w₃ top₃ _ hs₃
      (List.cons_ne_nil (Frame.mk before.length true) outer)
    obtain ⟨s', hs', hrun⟩ := run_close_measured
      { w₃ with stack := ⟨before.length, true⟩ :: outer } _ _ hkind₃ rfl rfl hs₄
    refine ⟨s', { w₃ with stack := ⟨before.length, true⟩ :: outer }, true, hs', ?_, hkind₃, ?_⟩
    · simp only [hnodes₃, hlen, Forest.layout, Forest.link_of_ne_nil hnil]
      simp [Forest.link, Node.headed, Node.opening]
    · rw [hrun₁, hrun₃, hrun₄, hrun]

/-- **A run through a forest** writes down its layout. -/
theorem run_forest (data : Array UInt8) {f : Forest Spelling} (hvalid : f.Valid) (hne : f ≠ .nil) :
    RunsThrough data f := by
  induction f with
  | nil => exact absurd rfl hne
  | node kind sp inside behind ihInside ihBehind =>
    obtain ⟨hsp, hin, hbe⟩ := hvalid
    intro before outer place s rest h
    have htail : (Forest.node kind sp inside behind).bytes.tail ++ rest
        = sp.heading kind ++ inside.bytes ++ closer :: (behind.bytes ++ rest) := by
      simp [Forest.bytes]
    rw [htail] at h
    obtain ⟨s₁, w₁, measured, hs₁, hnodes₁, hkind₁, hrun₁⟩ :=
      run_node before outer hsp (ihInside hin) h
    have hplace : place + (Forest.node kind sp inside behind).bytes.length
        = place + 1 + (sp.heading kind).length + inside.bytes.length + 1 + behind.bytes.length := by
      simp only [Forest.bytes, List.length_cons, List.length_append]
      omega
    rw [hplace]
    cases behind with
    | nil =>
      refine ⟨s₁, w₁, _, hs₁, hnodes₁, hkind₁, ?_, hrun₁⟩
      simp only [Forest.size]
      omega
    | node k t inner later =>
      -- the closer is followed by the opener of the next sibling
      simp only [Forest.layout, Forest.link, List.append_nil] at hnodes₁
      obtain ⟨s₂, hs₂, hrun₂⟩ := resume_advance _ ⟨before.length, measured⟩ _ _ _ outer
        hs₁ hnodes₁ rfl
      obtain ⟨s', w', top', hs', hnodes', hkind', hlt, hrun'⟩ :=
        (ihBehind hbe (by simp)).after rest hrun₂ hs₂
      refine ⟨s', w', top', hs', ?_, hkind', ?_, ?_⟩
      · rw [hnodes']
        simp [Forest.layout, Forest.link, Spelling.heading, Nat.add_assoc, Nat.add_comm 1]
      · simp only [List.length_append, List.length_cons, Forest.length_layout] at hlt
        simp only [Forest.size] at hlt ⊢
        omega
      · rw [hrun₁, hrun']

/-! ## §4. Runs into open nodes. -/

section

variable {data : Array UInt8} {s : Source} {place : Nat}

/-- A run over closed siblings leads behind the opener that follows them. -/
theorem run_siblings {f : Forest Spelling} {l : List UInt8} (hf : f.Valid) (before : List Node)
    (outer : List Frame) (h : s.Stands data (place + 1) (f.bytes ++ opener :: l).tail) :
    ∃ (s' : Source) (before' : List Node) (place' : Nat), s'.Stands data (place' + 1) l
      ∧ run s (opened before outer place) = run s' (opened before' outer place') := by
  by_cases hnil : f = .nil
  · subst hnil
    exact ⟨s, before, place, h, rfl⟩
  · obtain ⟨r, hr⟩ := Forest.bytes_eq_cons hnil
    obtain ⟨s₁, w, top, hs₁, hnodes, _, hlt, hrun₁⟩ :=
      run_forest data hf hnil before outer place s (opener :: l) (by rw [hr] at h ⊢; exact h)
    -- the last tree closed is some node of those so far
    set nodes := before ++ f.layout before.length place with hdef
    have hin : top.node < nodes.length := by
      rw [hdef, List.length_append, Forest.length_layout]
      exact hlt
    have hsplit : nodes = nodes.take top.node ++ nodes[top.node] :: nodes.drop (top.node + 1) := by
      rw [List.getElem_cons_drop, List.take_append_drop]
    have htake : top.node = (nodes.take top.node).length := by
      rw [List.length_take]
      omega
    rw [hsplit] at hnodes
    obtain ⟨s', hs', hrun'⟩ := resume_advance w top _ _ _ outer hs₁ hnodes htake
    exact ⟨s', _, _, hs', hrun₁.trans hrun'⟩

/-- **A run through the headings of open nodes** leads inside the innermost one. -/
theorem run_path {path : List Level} (hpath : path ≠ []) (hvalid : ∀ l ∈ path, l.Valid)
    (rest : List UInt8) (before : List Node) (outer : List Frame)
    (h : s.Stands data (place + 1) (pathBytes path ++ rest).tail) :
    ∃ (s' : Source) (before' : List Node) (n : Node) (outer' : List Frame) (place' : Nat),
      s'.Stands data place' rest
        ∧ run s (opened before outer place) = run s' (within before' n outer') := by
  induction path generalizing s place before outer with
  | nil => exact absurd rfl hpath
  | cons l path ih =>
    obtain ⟨hl, hvalid⟩ := List.forall_mem_cons.mp hvalid
    have hbytes : pathBytes (l :: path) ++ rest = l.siblings.bytes
        ++ opener :: (l.spelling.heading l.kind ++ (pathBytes path ++ rest)) := by
      simp [pathBytes, Level.bytes]
    rw [hbytes] at h
    obtain ⟨s₁, before₁, place₁, hs₁, hrun₁⟩ := run_siblings hl.siblings before outer h
    obtain ⟨s₂, hs₂, hrun₂⟩ := run_heading before₁ outer hl.spelling hs₁
    by_cases hnil : path = []
    · subst hnil
      exact ⟨s₂, before₁, _, outer, _, hs₂, hrun₁.trans hrun₂⟩
    · obtain ⟨r, hr⟩ := pathBytes_eq_cons hnil
      rw [hr] at hs₂
      obtain ⟨s₃, hs₃, hrun₃⟩ := run_descend before₁ _ outer hs₂
      obtain ⟨s', before', n, outer', place', hs', hrun'⟩ :=
        ih hnil hvalid _ _ (by rw [hr]; exact hs₃)
      exact ⟨s', before', n, outer', place', hs', by rw [hrun₁, hrun₂, hrun₃, hrun']⟩

/-- A run through the headings of open nodes and one more opener leads behind that opener. -/
theorem run_into {path : List Level} (hvalid : ∀ l ∈ path, l.Valid) {rest : List UInt8}
    (h : s.Stands data (place + 1) (pathBytes path ++ opener :: rest).tail) :
    ∃ (s' : Source) (before : List Node) (outer : List Frame) (place' : Nat),
      s'.Stands data (place' + 1) rest ∧ (path ≠ [] → outer ≠ [])
        ∧ run s (opened [] [] place) = run s' (opened before outer place') := by
  by_cases hnil : path = []
  · subst hnil
    exact ⟨s, [], [], place, h, fun hne => absurd rfl hne, rfl⟩
  · obtain ⟨s₁, before, n, outer, place₁, hs₁, hrun₁⟩ := run_path hnil hvalid _ [] [] h
    obtain ⟨s', hs', hrun'⟩ := run_descend before n outer hs₁
    exact ⟨s', _, _, _, hs', fun _ => List.cons_ne_nil _ _, hrun₁.trans hrun'⟩

/-! ### The three ways of a run -/

theorem run_complete {l : List UInt8} {f : Forest Spelling} (hf : Complete (opener :: l) f)
    (h : s.Stands data (place + 1) l) :
    ∃ s', s'.data = data ∧ s'.Coherent
      ∧ run s (opened [] [] place) = (.ok (f.layout 0 place).toArray, s') := by
  obtain ⟨hvalid, hne, tail, hbody, htail⟩ := hf
  obtain ⟨r, hr⟩ := Forest.bytes_eq_cons hne
  rw [hr, List.cons_append] at hbody
  obtain ⟨s₁, w, top, hs₁, hnodes, _, _, hrun₁⟩ := run_forest data hvalid hne [] [] place s tail
    (by rw [hr, List.tail_cons, ← (List.cons.inj hbody).2]; exact h)
  obtain ⟨s', hdata, hcoh, hdone⟩ := resume_done w top hs₁ htail
  refine ⟨s', hdata, hcoh, ?_⟩
  rw [hrun₁, hdone, hnodes]
  rfl

theorem run_stray {l : List UInt8} (hl : StrayByte (opener :: l))
    (h : s.Stands data (place + 1) l) :
    (run s (opened [] [] place)).1 = .error .invalidFormat := by
  obtain ⟨path, f, b, rest, hpath, hf, hne, hop, hcl, hbody⟩ := hl
  obtain ⟨r, hr⟩ := Forest.bytes_eq_cons hne
  rw [List.append_assoc, hr, List.cons_append] at hbody
  obtain ⟨s₁, before, outer, place₁, hs₁, _, hrun₁⟩ := run_into hpath
    (by rw [← hbody]; exact h)
  obtain ⟨s₂, w, top, hs₂, _, _, _, hrun₂⟩ := (run_forest data hf hne).after (b :: rest) hrun₁
    (by rw [hr]; exact hs₁)
  rw [hrun₂]
  exact resume_stray w top outer hs₂ hop hcl

theorem run_endsInside {l : List UInt8} (hl : EndsInside (opener :: l))
    (h : s.Stands data (place + 1) l) :
    (run s (opened [] [] place)).1 = .error .endOfFile := by
  obtain ⟨path, f, last, hpath, hf, hlast, hbody⟩ := hl
  rw [List.append_assoc] at hbody
  have htail : s.Stands data (place + 1) (pathBytes path ++ (f.bytes ++ last)).tail := by
    rw [← hbody]
    exact h
  -- what follows the path begins with an opener, or there is nothing closed in it
  have hinto : ∀ x, (f.bytes ++ last).head? = some opener → f.bytes ++ last = x →
      ∃ (s' : Source) (before : List Node) (outer : List Frame) (place' : Nat),
        s'.Stands data (place' + 1) x.tail ∧ (path ≠ [] → outer ≠ [])
          ∧ run s (opened [] [] place) = run s' (opened before outer place') := by
    rintro x hx rfl
    obtain ⟨r, hr⟩ := List.head?_eq_some_iff.mp hx
    rw [hr] at htail ⊢
    exact run_into hpath htail
  cases hlast with
  | inNode deep =>
    by_cases hnil : f = .nil
    · subst hnil
      obtain ⟨s₁, before, n, outer, _, hs₁, hrun₁⟩ := run_path deep hpath _ [] [] htail
      rw [hrun₁]
      exact run_noProps before n outer hs₁
    · obtain ⟨r, hr⟩ := Forest.bytes_eq_cons hnil
      obtain ⟨s₁, before, outer, _, hs₁, houter, hrun₁⟩ := hinto _ (by rw [hr]; rfl) rfl
      obtain ⟨s₂, w, top, hs₂, _, _, _, hrun₂⟩ := (run_forest data hf hnil).after [] hrun₁
        (by rw [hr] at hs₁ ⊢; exact hs₁)
      rw [hrun₂]
      exact resume_early w top outer hs₂ (houter deep)
  | inPair deep =>
    obtain ⟨s₁, before, n, outer, _, hs₁, hrun₁⟩ := run_path deep hpath _ [] [] htail
    rw [hrun₁]
    exact run_halfPair before n outer hs₁
  | noKind =>
    obtain ⟨s₁, before, outer, _, hs₁, _, hrun₁⟩ := hinto _ (head?_bytes_append f []) rfl
    obtain ⟨s₂, before₂, _, hs₂, hrun₂⟩ := run_siblings hf before outer hs₁
    rw [hrun₁, hrun₂]
    exact run_noKind before₂ outer hs₂
  | inKind =>
    obtain ⟨s₁, before, outer, _, hs₁, _, hrun₁⟩ := hinto _ (head?_bytes_append f [escaper]) rfl
    obtain ⟨s₂, before₂, _, hs₂, hrun₂⟩ := run_siblings hf before outer hs₁
    rw [hrun₁, hrun₂]
    exact run_halfKind before₂ outer hs₂

end

end Walk

/-! ## §5. Whole files. -/

/-- What a file begins with. -/
def headerBytes : List UInt8 := [0, 0, 0, 0]

/-- The header is the version of the format. -/
theorem littleEndian_formatVersion : littleEndian headerSize formatVersion = headerBytes := rfl

/-- **What the bytes of a file say:** the arena to find in it, or the error to refuse it with. -/
inductive Verdict (bytes : List UInt8) : Except Error Arena → Prop
  | short (h : bytes.length < headerSize) : Verdict bytes (.error .endOfFile)
  | version (hlen : headerSize ≤ bytes.length) (h : bytes.take headerSize ≠ headerBytes) :
      Verdict bytes (.error .invalidVersion)
  | noOpener {body : List UInt8} (h : bytes = headerBytes ++ body)
      (hbody : body.head? ≠ some opener) : Verdict bytes (.error .invalidFormat)
  | stray {body : List UInt8} (h : bytes = headerBytes ++ body) (hbody : StrayByte body) :
      Verdict bytes (.error .invalidFormat)
  | early {body : List UInt8} (h : bytes = headerBytes ++ body) (hbody : EndsInside body) :
      Verdict bytes (.error .endOfFile)
  | complete {body : List UInt8} {f : Forest Spelling} (h : bytes = headerBytes ++ body)
      (hbody : Complete body f) : Verdict bytes (.ok (f.layout 0 headerSize).toArray)

section

variable {data : Array UInt8} (caching : Bool)

/-- Every file gets a verdict. -/
theorem exists_verdict (bytes : List UInt8) : ∃ r, Verdict bytes r := by
  by_cases hlen : bytes.length < headerSize
  · exact ⟨_, .short hlen⟩
  by_cases hversion : bytes.take headerSize = headerBytes
  case neg => exact ⟨_, .version (Nat.le_of_not_lt hlen) hversion⟩
  have hsplit : bytes = headerBytes ++ bytes.drop headerSize := by
    rw [← hversion, List.take_append_drop]
  by_cases hopen : (bytes.drop headerSize).head? = some opener
  case neg => exact ⟨_, .noOpener hsplit hopen⟩
  rcases complete_or_stray_or_endsInside hopen with ⟨f, hf⟩ | hstray | hearly
  · exact ⟨_, .complete hsplit hf⟩
  · exact ⟨_, .stray hsplit hstray⟩
  · exact ⟨_, .early hsplit hearly⟩

theorem parseFile_short (h : data.size < headerSize) :
    parseFile data caching = .error .endOfFile := by
  have hsize : (data.extract 0 (0 + headerSize)).size ≠ headerSize := by
    rw [Array.size_extract]
    omega
  simp only [parseFile, Source.readAt, if_neg hsize]

theorem parseFile_version (hlen : headerSize ≤ data.size)
    (h : data.toList.take headerSize ≠ headerBytes) :
    parseFile data caching = .error .invalidVersion := by
  have hsize : (data.extract 0 (0 + headerSize)).size = headerSize := by
    rw [Array.size_extract]
    omega
  have hread : ¬ (data.extract 0 (0 + headerSize)).toList = headerBytes := by
    simpa [Array.toList_extract, List.extract] using h
  simp only [parseFile, Source.readAt, littleEndian_formatVersion, if_pos hsize, if_neg hread]

/-- Behind a good header the nodes are read with a coherent cache, or with none. -/
theorem parseFile_body {body : List UInt8} (h : data.toList = headerBytes ++ body) :
    ∃ s : Source, s.data = data ∧ s.Coherent
      ∧ parseFile data caching = match parseNodes s with
        | (.error e, _) => .error e
        | (.ok nodes, s') => .ok (nodes, s') := by
  have hlen : data.size = headerSize + body.length := by
    rw [← Array.length_toList, h, List.length_append]
    rfl
  have hsize : (data.extract 0 (0 + headerSize)).size = headerSize := by
    rw [Array.size_extract]
    omega
  have hread : (data.extract 0 (0 + headerSize)).toList = headerBytes := by
    rw [Array.toList_extract, h]
    rfl
  simp only [parseFile, Source.readAt, littleEndian_formatVersion, if_pos hsize, if_pos hread]
  refine ⟨_, ?_, ?_, rfl⟩
  · cases caching <;> rfl
  · intro c hc
    cases caching with
    | false => simp at hc
    | true =>
      obtain rfl := Option.some.inj hc
      exact BlockCache.forFileSize_coherent data.size data

/-- Reading the nodes stands behind the first byte of the body, if there is one. -/
theorem drop_header {body : List UInt8} (h : data.toList = headerBytes ++ body) :
    data.toList.drop headerSize = body := by
  rw [h]
  rfl

theorem parseNodes_opener {s : Source} {l : List UInt8} (hdata : s.data = data)
    (hcoh : s.Coherent) (h : data.toList = headerBytes ++ opener :: l) :
    ∃ s', s'.Stands data (headerSize + 1) l
      ∧ parseNodes s = Walk.run s' (Walk.opened [] [] headerSize) := by
  have hle : headerSize ≤ data.size :=
    Nat.le_of_lt (Source.lt_size_of_drop (drop_header h))
  obtain ⟨s₁, hseek, hs₁⟩ := Source.seek_within hdata hcoh hle
  rw [drop_header h] at hs₁
  obtain ⟨s', hread, hs', _⟩ := Source.readByte_cons hs₁
  refine ⟨s', hs', ?_⟩
  simp only [parseNodes, hseek, hread]
  rfl

theorem parseNodes_noOpener {s : Source} {body : List UInt8} (hdata : s.data = data)
    (hcoh : s.Coherent) (h : data.toList = headerBytes ++ body)
    (hopen : body.head? ≠ some opener) : (parseNodes s).1 = .error .invalidFormat := by
  have hle : headerSize ≤ data.size := by
    rw [← Array.length_toList, h, List.length_append]
    exact Nat.le_add_right _ _
  obtain ⟨s₁, hseek, hs₁⟩ := Source.seek_within hdata hcoh hle
  rw [drop_header h] at hs₁
  cases body with
  | nil => simp only [parseNodes, hseek, Source.readByte_nil hs₁]
  | cons b l =>
    obtain ⟨s', hread, _, _⟩ := Source.readByte_cons hs₁
    have hne : (b == opener) = false := by simpa using hopen
    simp only [parseNodes, hseek, hread, hne]
    rfl

/-- A complete file opens, and its reader stays coherent. -/
theorem parseFile_complete {body : List UInt8} {f : Forest Spelling}
    (h : data.toList = headerBytes ++ body) (hf : Complete body f) :
    ∃ s', s'.data = data ∧ s'.Coherent
      ∧ parseFile data caching = .ok ((f.layout 0 headerSize).toArray, s') := by
  obtain ⟨r, hr⟩ := Forest.bytes_eq_cons hf.ne_nil
  obtain ⟨tail, hbody, _⟩ := hf.spelled
  rw [hr, List.cons_append] at hbody
  subst hbody
  obtain ⟨s, hdata, hcoh, hparse⟩ := parseFile_body caching h
  obtain ⟨s₁, hs₁, hnodes⟩ := parseNodes_opener hdata hcoh h
  obtain ⟨s', hdata', hcoh', hrun⟩ := Walk.run_complete hf hs₁
  refine ⟨s', hdata', hcoh', ?_⟩
  rw [hparse, hnodes, hrun]

/-- A body whose nodes cannot be read is refused for the same reason. -/
theorem parseFile_refused {body : List UInt8} {e : Error} (h : data.toList = headerBytes ++ body)
    (hnodes : ∀ s : Source, s.data = data → s.Coherent → (parseNodes s).1 = .error e) :
    parseFile data caching = .error e := by
  obtain ⟨s, hdata, hcoh, hparse⟩ := parseFile_body caching h
  have hfail := hnodes s hdata hcoh
  rw [hparse]
  generalize parseNodes s = answer at hfail ⊢
  obtain ⟨answer, s'⟩ := answer
  subst hfail
  rfl

/-- A verdict is what opening the file comes to. -/
theorem parseFile_of_verdict {r : Except Error Arena} (h : Verdict data.toList r) :
    (parseFile data caching).map Prod.fst = r := by
  cases h with
  | short h => rw [parseFile_short caching (by simpa using h)]; rfl
  | version hlen h => rw [parseFile_version caching (by simpa using hlen) h]; rfl
  | noOpener h hbody =>
    rw [parseFile_refused caching h fun s hdata hcoh => parseNodes_noOpener hdata hcoh h hbody]
    rfl
  | stray h hbody =>
    obtain ⟨l, rfl⟩ := hbody.eq_cons
    rw [parseFile_refused caching h]
    · rfl
    · intro s hdata hcoh
      obtain ⟨s', hs', hnodes⟩ := parseNodes_opener hdata hcoh h
      rw [hnodes]
      exact Walk.run_stray hbody hs'
  | early h hbody =>
    obtain ⟨l, rfl⟩ := hbody.eq_cons
    rw [parseFile_refused caching h]
    · rfl
    · intro s hdata hcoh
      obtain ⟨s', hs', hnodes⟩ := parseNodes_opener hdata hcoh h
      rw [hnodes]
      exact Walk.run_endsInside hbody hs'
  | complete h hbody =>
    obtain ⟨s', _, _, hparse⟩ := parseFile_complete caching h hbody
    rw [hparse]
    rfl

/-- **Parsing a file comes to exactly what its bytes say,** with a cache or without. -/
theorem parseFile_eq_iff {r : Except Error Arena} :
    (parseFile data caching).map Prod.fst = r ↔ Verdict data.toList r := by
  constructor
  · intro hr
    obtain ⟨r', hr'⟩ := exists_verdict data.toList
    rw [← hr, parseFile_of_verdict caching hr']
    exact hr'
  · exact parseFile_of_verdict caching

theorem parseFile_eq_error_iff {e : Error} :
    parseFile data caching = .error e ↔ Verdict data.toList (.error e) := by
  rw [← parseFile_eq_iff caching]
  cases parseFile data caching <;> simp [Except.map]

end

end Realm.NodeFile
