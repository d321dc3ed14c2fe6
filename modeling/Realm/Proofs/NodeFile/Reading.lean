/-
  Realm.Proofs.NodeFile.Reading — what a session that opened a file answers.

  Every request moves the cache of the session and what its scratch buffer holds.  The invariant `Reads`
  names what stays: the file, a cache that is coherent with it, and nodes that were measured inside it.
  Under it the answer to a request is a function of the file and the node, so no request can see the
  requests before it, nor whether there is a cache at all.

  Main statements:
  * `getProps_reads` — a request answers with the node's own bytes and keeps the invariant;
  * `answers_of_reads` — so does any list of requests, one after the other;
  * `caching_invisible` — with a cache and without, a session opens the same files and answers the same;
  * `openFile_grammar` — which files open, and with which error the others are refused.
-/
import Realm.NodeFile.Session
import Realm.Proofs.NodeFile.Escaping
import Realm.Proofs.NodeFile.Parsing

namespace Realm.NodeFile

namespace Session

/-! ## §1. The scratch buffer. -/

theorem lt_roomFor (size room : Nat) (hroom : 0 < room) : size < roomFor size room := by
  induction hn : size + 1 - room using Nat.strongRecOn generalizing room with
  | ind n ih =>
    subst hn
    unfold roomFor
    by_cases hle : room ≤ size
    · rw [if_pos ⟨hroom, hle⟩]
      exact ih _ (by omega) _ (by omega) rfl
    · rw [if_neg (fun h => hle h.2)]
      omega

theorem lt_size_makeRoom (scratch : Array UInt8) (size : Nat) :
    size < (makeRoom scratch size).size := by
  unfold makeRoom
  by_cases h : size < scratch.size
  · rw [if_pos h]
    exact h
  · rw [if_neg h, Array.size_replicate]
    exact lt_roomFor size _ (by omega)

theorem size_overwrite {scratch bytes : Array UInt8} (h : bytes.size ≤ scratch.size) :
    (overwrite scratch bytes).size = scratch.size := by
  rw [overwrite, Array.size_append, Array.size_extract]
  omega

/-- A scratch buffer begins with what was laid over it. -/
theorem take_overwrite (scratch bytes : Array UInt8) :
    (overwrite scratch bytes).toList.take bytes.size = bytes.toList := by
  rw [overwrite, Array.toList_append, ← Array.length_toList, List.take_left]

/-- **Bytes unescaped in a scratch buffer** are unescaped, whatever the buffer held before. -/
theorem compact_scratch (scratch bytes : Array UInt8) :
    let unescaped := compact (overwrite (makeRoom scratch bytes.size) bytes) bytes.size 0 0
    (unescaped.1.extract 0 unescaped.2).toList = unescape bytes.toList := by
  have hroom := lt_size_makeRoom scratch bytes.size
  have hsize := size_overwrite (Nat.le_of_lt hroom)
  obtain ⟨htake, _⟩ := compact_spec (overwrite (makeRoom scratch bytes.size) bytes) bytes.size 0 0
    (by omega) (Nat.le_refl 0)
  rw [take_overwrite, List.take_zero, List.nil_append, List.drop_zero,
    ← unescape_eq_decoded] at htake
  show ((compact _ _ 0 0).1.extract 0 (compact _ _ 0 0).2).toList = _
  rw [Array.toList_extract, List.extract_eq_take_drop, List.drop_zero, Nat.sub_zero]
  exact htake

/-! ## §2. Opening a file. -/

/-- The session behind a file that it did not open: closed, and without nodes. -/
def refused (s : Session) (e : Error) : Session :=
  { s.close with nodes := #[], root := none, lastError := some e }

/-- **What opening a file comes to,** by what is at the path once the session is closed. -/
theorem perform_openFile (s : Session) (path : String) (caching : Bool) :
    s.perform (openFile path caching) =
      match s.close.disk.lookup path with
      | .missing => (.error .cannotOpen, s.refused .cannotOpen)
      | .folder => (.error .endOfFile, s.refused .endOfFile)
      | .file data =>
        match parseFile data caching with
        | .error e => (.error e, s.refused e)
        | .ok (nodes, source) =>
          (.ok (), { s.close with nodes := nodes, root := some 0, mode := .reading source }) := by
  simp only [openFile, perform_bind, perform_modify, perform_get]
  rw [show ({ s.close with nodes := #[], root := none } : Session).disk = s.close.disk from rfl]
  cases s.close.disk.lookup path with
  | missing => rfl
  | folder => rfl
  | file data =>
    cases hparse : parseFile data caching with
    | error e =>
      simp only [hparse]
      rfl
    | ok opened =>
      simp only [hparse]
      rfl

/-! ## §3. Requests. -/

/-- **A session that reads a file:** through a cache that is coherent with it, or through none, and with
    nodes that were measured inside it. -/
structure Reads (s : Session) (data : Array UInt8) : Prop where
  source : ∃ source, s.mode = .reading source ∧ source.data = data ∧ source.Coherent
  within : ∀ (i : Nat) (n : Node), s.nodes[i]? = some n → n.propsAt + n.propsSize ≤ data.size

/-- What a file and its nodes alone answer to a request. -/
def propsIn (data : Array UInt8) (nodes : Arena) (i : Nat) : Except Error (List UInt8) :=
  match nodes[i]? with
  | none => .error .invalidNode
  | some n => .ok (unescape (data.extract n.propsAt (n.propsAt + n.propsSize)).toList)

/-- The answers to requests made one after the other. -/
def answers (s : Session) : List Nat → List (Except Error (List UInt8))
  | [] => []
  | i :: requests =>
    let (answer, s') := s.perform (getProps i)
    answer :: answers s' requests

variable {s : Session} {data : Array UInt8}

/-- **A request answers with the node's own bytes,** and leaves a session that reads the same nodes. -/
theorem getProps_reads (h : s.Reads data) (i : Nat) :
    ∃ s', s.perform (getProps i) = (propsIn data s.nodes i, s') ∧ s'.Reads data
      ∧ s'.nodes = s.nodes ∧ s'.root = s.root := by
  obtain ⟨source, hmode, hdata, hcoh⟩ := h.source
  simp only [getProps, perform_bind, perform_get, hmode]
  cases hnode : s.nodes[i]? with
  | none =>
    refine ⟨{ s with lastError := some .invalidNode }, ?_, ⟨⟨source, hmode, hdata, hcoh⟩, h.within⟩,
      rfl, rfl⟩
    simp only [perform_refuse, propsIn, hnode]
  | some n =>
    obtain ⟨source', hread, hstands⟩ := Source.readAt_within hdata hcoh (h.within i n hnode)
    have hsize : (data.extract n.propsAt (n.propsAt + n.propsSize)).size = n.propsSize := by
      rw [Array.size_extract]
      have := h.within i n hnode
      omega
    -- what the scratch buffer held, and how large it was, drops out here
    have hbytes := compact_scratch s.scratch (data.extract n.propsAt (n.propsAt + n.propsSize))
    rw [hsize] at hbytes
    simp only [hread, perform_bind, perform_set, perform_pure, propsIn, hnode]
    generalize compact (overwrite (makeRoom s.scratch n.propsSize) _) n.propsSize 0 0 = unescaped
      at hbytes ⊢
    refine ⟨{ s with mode := .reading source', scratch := unescaped.1 }, ?_,
      ⟨⟨source', rfl, hstands.data_eq, hstands.coherent⟩, h.within⟩, rfl, rfl⟩
    show (Except.ok (unescaped.1.extract 0 unescaped.2).toList, _) = _
    rw [hbytes]

/-- **The answers to any requests** are those of the file and its nodes. -/
theorem answers_of_reads (h : s.Reads data) (requests : List Nat) :
    s.answers requests = requests.map (propsIn data s.nodes) := by
  -- the session is another one after each request, but it reads the same nodes
  induction requests generalizing s with
  | nil => rfl
  | cons i requests ih =>
    obtain ⟨s', hperform, hreads, hnodes, _⟩ := getProps_reads h i
    simp only [answers, hperform, List.map_cons]
    rw [ih hreads, hnodes]

/-! ## §4. Files that open, and files that do not. -/

/-- The nodes of a complete file were measured inside it. -/
theorem layout_within_file {body : List UInt8} {f : Forest Spelling}
    (hsplit : data.toList = headerBytes ++ body) (hbody : Complete body f) (i : Nat) (n : Node)
    (hn : (f.layout 0 headerSize).toArray[i]? = some n) : n.propsAt + n.propsSize ≤ data.size := by
  have hmem : n ∈ f.layout 0 headerSize := List.mem_of_getElem? (by simpa using hn)
  have hwithin := (Forest.layout_within f 0 headerSize n hmem).2
  obtain ⟨tail, htail, _⟩ := hbody.spelled
  have hlen : data.size = headerSize + (f.bytes.length + tail.length) := by
    rw [← Array.length_toList, hsplit, htail, List.length_append, List.length_append]
    rfl
  omega

/-- **A file that opens leaves a session that reads it,** with the nodes its bytes say. -/
theorem openFile_ok {path : String} {nodes : Arena} (caching : Bool)
    (hfile : s.close.disk.lookup path = .file data) (h : Verdict data.toList (.ok nodes)) :
    ∃ s', s.perform (openFile path caching) = (.ok (), s') ∧ s'.Reads data ∧ s'.nodes = nodes
      ∧ s'.root = some 0 := by
  cases h with
  | complete hsplit hbody =>
    obtain ⟨source, hdata, hcoh, hparse⟩ := parseFile_complete caching hsplit hbody
    simp only [perform_openFile, hfile, hparse]
    exact ⟨_, rfl, ⟨⟨source, rfl, hdata, hcoh⟩, layout_within_file hsplit hbody⟩, rfl, rfl⟩

/-- A file that does not open leaves a session without nodes. -/
theorem openFile_error {path : String} {e : Error} (caching : Bool)
    (hfile : s.close.disk.lookup path = .file data) (h : Verdict data.toList (.error e)) :
    s.perform (openFile path caching) = (.error e, s.refused e) := by
  simp only [perform_openFile, hfile, (parseFile_eq_error_iff caching).mpr h]

/-- A file opens, or is refused, as its bytes say. -/
theorem openFile_eq_ok_iff {path : String} (caching : Bool)
    (hfile : s.close.disk.lookup path = .file data) :
    (s.perform (openFile path caching)).1 = .ok () ↔ ∃ nodes, Verdict data.toList (.ok nodes) := by
  constructor
  · intro h
    obtain ⟨r, hr⟩ := exists_verdict data.toList
    cases r with
    | error e =>
      rw [openFile_error caching hfile hr] at h
      cases h
    | ok nodes => exact ⟨nodes, hr⟩
  · rintro ⟨nodes, hr⟩
    obtain ⟨s', hopened, _⟩ := openFile_ok caching hfile hr
    rw [hopened]

theorem openFile_eq_error_iff {path : String} {e : Error} (caching : Bool)
    (hfile : s.close.disk.lookup path = .file data) :
    (s.perform (openFile path caching)).1 = .error e ↔ Verdict data.toList (.error e) := by
  rw [← parseFile_eq_error_iff caching]
  simp only [perform_openFile, hfile]
  cases parseFile data caching with
  | error e' => exact ⟨fun h => by rw [Except.error.inj h], fun h => by rw [Except.error.inj h]⟩
  | ok opened => exact ⟨nofun, nofun⟩

/-- **What opens is a file,** and holds a forest behind its header. -/
theorem exists_complete_of_opens {path : String} {caching : Bool}
    (h : (s.perform (openFile path caching)).1 = .ok ()) :
    ∃ data body f, s.close.disk.lookup path = .file data ∧ data.toList = headerBytes ++ body
      ∧ Complete body f := by
  cases hfile : s.close.disk.lookup path with
  | missing =>
    simp only [perform_openFile, hfile] at h
    cases h
  | folder =>
    simp only [perform_openFile, hfile] at h
    cases h
  | file data =>
    obtain ⟨nodes, hverdict⟩ := (openFile_eq_ok_iff caching hfile).mp h
    cases hverdict with
    | complete hsplit hbody => exact ⟨data, _, _, rfl, hsplit, hbody⟩

/-- **A file opens exactly when its bytes are a header, a forest, and then nothing or a closer with
    anything behind it;** the arena is the layout of that one forest.  Else the file is too short for a
    header or ends inside a node, has another version, or has at the beginning of its body or behind a
    closer a byte that may not stand there. -/
theorem openFile_grammar (s : Session) (path : String) (caching : Bool) :
    let opened := s.perform (openFile path caching)
    match s.close.disk.lookup path with
    | .missing => opened.1 = .error .cannotOpen
    | .folder => opened.1 = .error .endOfFile
    | .file data =>
      (opened.1 = .ok () ↔ ∃ body f, data.toList = headerBytes ++ body ∧ Complete body f)
        ∧ (opened.1 = .ok () → opened.2.root = some 0
            ∧ ∃ body f, data.toList = headerBytes ++ body ∧ (∀ g, Complete body g ↔ g = f)
              ∧ opened.2.nodes = (f.layout 0 headerSize).toArray)
        ∧ (opened.1 = .error .invalidVersion
            ↔ headerSize ≤ data.size ∧ data.toList.take headerSize ≠ headerBytes)
        ∧ (opened.1 = .error .invalidFormat
            ↔ ∃ body, data.toList = headerBytes ++ body
              ∧ (body.head? ≠ some opener ∨ StrayByte body))
        ∧ (opened.1 = .error .endOfFile
            ↔ data.size < headerSize ∨ ∃ body, data.toList = headerBytes ++ body ∧ EndsInside body)
        ∧ (∀ e, opened.1 = .error e →
            e = .invalidVersion ∨ e = .invalidFormat ∨ e = .endOfFile) := by
  intro opened
  cases hfile : s.close.disk.lookup path with
  | missing =>
    show (s.perform (openFile path caching)).1 = _
    simp only [perform_openFile, hfile]
  | folder =>
    show (s.perform (openFile path caching)).1 = _
    simp only [perform_openFile, hfile]
  | file data =>
    refine ⟨?_, ?_, ?_, ?_, ?_, ?_⟩
    · rw [openFile_eq_ok_iff caching hfile]
      constructor
      · rintro ⟨nodes, h⟩
        cases h with
        | complete hsplit hbody => exact ⟨_, _, hsplit, hbody⟩
      · rintro ⟨body, f, hsplit, hbody⟩
        exact ⟨_, .complete hsplit hbody⟩
    · intro hok
      obtain ⟨nodes, h⟩ := (openFile_eq_ok_iff caching hfile).mp hok
      obtain ⟨s', hopened, _, hnodes, hroot⟩ := openFile_ok caching hfile h
      rw [show opened = _ from hopened]
      cases h with
      | complete hsplit hbody =>
        refine ⟨hroot, _, _, hsplit, fun g => ⟨fun hg => complete_unique hg hbody, ?_⟩, hnodes⟩
        rintro rfl
        exact hbody
    · rw [openFile_eq_error_iff caching hfile, ← Array.length_toList]
      constructor
      · intro h
        cases h with
        | version hlen hversion => exact ⟨hlen, hversion⟩
      · rintro ⟨hlen, hversion⟩
        exact .version hlen hversion
    · rw [openFile_eq_error_iff caching hfile]
      constructor
      · intro h
        cases h with
        | noOpener hsplit hbody => exact ⟨_, hsplit, Or.inl hbody⟩
        | stray hsplit hbody => exact ⟨_, hsplit, Or.inr hbody⟩
      · rintro ⟨body, hsplit, hbody | hbody⟩
        · exact .noOpener hsplit hbody
        · exact .stray hsplit hbody
    · rw [openFile_eq_error_iff caching hfile, ← Array.length_toList]
      constructor
      · intro h
        cases h with
        | short hlen => exact Or.inl hlen
        | early hsplit hbody => exact Or.inr ⟨_, hsplit, hbody⟩
      · rintro (hlen | ⟨body, hsplit, hbody⟩)
        · exact .short hlen
        · exact .early hsplit hbody
    · intro e h
      cases (openFile_eq_error_iff caching hfile).mp h with
      | short => exact Or.inr (Or.inr rfl)
      | version => exact Or.inl rfl
      | noOpener => exact Or.inr (Or.inl rfl)
      | stray => exact Or.inr (Or.inl rfl)
      | early => exact Or.inr (Or.inr rfl)

/-! ## §5. The cache is invisible. -/

/-- A path is refused in one way, with a cache or without, or there is a file with nodes. -/
theorem refused_or_verdict (s : Session) (path : String) :
    (∃ e closed, ∀ caching, s.perform (openFile path caching) = (.error e, closed))
      ∨ ∃ data nodes, s.close.disk.lookup path = .file data ∧ Verdict data.toList (.ok nodes) := by
  cases hfile : s.close.disk.lookup path with
  | missing =>
    refine Or.inl ⟨.cannotOpen, s.refused .cannotOpen, ?_⟩
    intro caching
    simp only [perform_openFile, hfile]
  | folder =>
    refine Or.inl ⟨.endOfFile, s.refused .endOfFile, ?_⟩
    intro caching
    simp only [perform_openFile, hfile]
  | file data =>
    obtain ⟨r, hr⟩ := exists_verdict data.toList
    cases r with
    | error e => exact Or.inl ⟨e, _, fun caching => openFile_error caching hfile hr⟩
    | ok nodes => exact Or.inr ⟨data, nodes, rfl, hr⟩

/-- **With a cache and without,** a session refuses a file for the same reason or opens it to the same
    nodes, and then answers every list of requests alike: with what the file and the node say, whatever
    was asked before. -/
theorem caching_invisible (s : Session) (path : String) :
    let cached := s.perform (openFile path true)
    let direct := s.perform (openFile path false)
    cached.1 = direct.1 ∧ cached.2.nodes = direct.2.nodes ∧ cached.2.root = direct.2.root
      ∧ (cached.1 = .ok () → ∃ data, s.close.disk.lookup path = .file data
          ∧ ∀ requests : List Nat,
            cached.2.answers requests = requests.map (propsIn data cached.2.nodes)
              ∧ direct.2.answers requests = requests.map (propsIn data cached.2.nodes)) := by
  intro cached direct
  rcases refused_or_verdict s path with ⟨e, closed, hrefused⟩ | ⟨data, nodes, hfile, hr⟩
  · rw [show cached = _ from hrefused true, show direct = _ from hrefused false]
    exact ⟨rfl, rfl, rfl, nofun⟩
  · obtain ⟨s₁, hcached, hreads₁, hnodes₁, hroot₁⟩ := openFile_ok true hfile hr
    obtain ⟨s₂, hdirect, hreads₂, hnodes₂, hroot₂⟩ := openFile_ok false hfile hr
    rw [show cached = _ from hcached, show direct = _ from hdirect]
    refine ⟨rfl, hnodes₁.trans hnodes₂.symm, hroot₁.trans hroot₂.symm, fun _ => ⟨data, hfile, ?_⟩⟩
    intro requests
    rw [answers_of_reads hreads₁, answers_of_reads hreads₂]
    exact ⟨rfl, by rw [hnodes₁, hnodes₂]⟩

end Session

end Realm.NodeFile
