/-
  Realm.Proofs.NodeFile.Grammar — what can stand behind the header of a file.

  The bytes behind a header are read from the left: some nodes are open, some are closed inside the
  innermost open one, and something is left.  A body is complete when all its nodes are closed; else it
  has a stray byte behind a closer, or it ends inside a node, or it does not begin with an opener.

  Main statements:
  * `complete_or_stray_or_endsInside` — a body that begins with an opener is one of the three;
  * `complete_unique` — the forest of a complete body is the only one.
-/
import Realm.Proofs.NodeFile.Forest

namespace Realm.NodeFile

/-! ## §1. Open nodes. -/

/-- **A node that is still open:** the closed siblings in front of it, its kind and its spelling. -/
structure Level where
  siblings : Forest Spelling
  kind : UInt8
  spelling : Spelling
deriving Repr, DecidableEq

namespace Level

/-- The bytes from the first sibling to the end of the heading. -/
def bytes (l : Level) : List UInt8 := l.siblings.bytes ++ opener :: l.spelling.heading l.kind

structure Valid (l : Level) : Prop where
  siblings : l.siblings.Valid
  spelling : l.spelling.Valid l.kind

end Level

/-- The bytes of open nodes, outermost first. -/
def pathBytes (path : List Level) : List UInt8 := path.flatMap Level.bytes

/-! ## §2. Complete bodies, stray bytes and early ends. -/

/-- **A complete body:** a forest, and then nothing, or a closer and whatever stands behind it. -/
structure Complete (body : List UInt8) (f : Forest Spelling) : Prop where
  valid : f.Valid
  ne_nil : f ≠ .nil
  spelled : ∃ tail, body = f.bytes ++ tail ∧ (tail = [] ∨ tail.head? = some closer)

/-- A forest that can be read is complete with nothing behind it. -/
theorem complete_bytes {f : Forest Spelling} (hvalid : f.Valid) (hne : f ≠ .nil) :
    Complete f.bytes f :=
  ⟨hvalid, hne, [], (List.append_nil _).symm, Or.inl rfl⟩

/-- **A stray byte:** behind the closer of some node stands neither an opener nor a closer. -/
def StrayByte (body : List UInt8) : Prop :=
  ∃ (path : List Level) (f : Forest Spelling) (b : UInt8) (rest : List UInt8),
    (∀ l ∈ path, l.Valid) ∧ f.Valid ∧ f ≠ .nil ∧ b ≠ opener ∧ b ≠ closer
      ∧ body = pathBytes path ++ f.bytes ++ b :: rest

/-- What can stand last in a body that ends inside a node. -/
inductive Unfinished : List Level → Forest Spelling → List UInt8 → Prop
  /-- The end comes behind properties or behind an inner node. -/
  | inNode {path : List Level} {f : Forest Spelling} (deep : path ≠ []) : Unfinished path f []
  /-- The end comes inside a pair of property bytes. -/
  | inPair {path : List Level} (deep : path ≠ []) : Unfinished path .nil [escaper]
  /-- The end comes behind an opener. -/
  | noKind {path : List Level} {f : Forest Spelling} : Unfinished path f [opener]
  /-- The end comes inside an escaped kind. -/
  | inKind {path : List Level} {f : Forest Spelling} : Unfinished path f [opener, escaper]

/-- **An early end:** the body ends inside a node. -/
def EndsInside (body : List UInt8) : Prop :=
  ∃ (path : List Level) (f : Forest Spelling) (last : List UInt8),
    (∀ l ∈ path, l.Valid) ∧ f.Valid ∧ Unfinished path f last
      ∧ body = pathBytes path ++ f.bytes ++ last

/-! ### They begin with an opener -/

/-- A forest and an opener behind it begin with an opener. -/
theorem head?_bytes_append (f : Forest Spelling) (l : List UInt8) :
    (f.bytes ++ opener :: l).head? = some opener := by
  cases f <;> rfl

theorem pathBytes_eq_cons {path : List Level} (hpath : path ≠ []) :
    ∃ r, pathBytes path = opener :: r := by
  cases path with
  | nil => exact absurd rfl hpath
  | cons l path =>
    have hbytes : pathBytes (l :: path)
        = l.siblings.bytes ++ opener :: (l.spelling.heading l.kind ++ pathBytes path) := by
      simp [pathBytes, Level.bytes]
    rw [hbytes]
    exact List.head?_eq_some_iff.mp (head?_bytes_append _ _)

theorem StrayByte.eq_cons {body : List UInt8} (h : StrayByte body) : ∃ l, body = opener :: l := by
  obtain ⟨path, f, b, rest, _, _, hne, _, _, rfl⟩ := h
  by_cases hpath : path = []
  · subst hpath
    obtain ⟨r, hr⟩ := Forest.bytes_eq_cons hne
    exact ⟨r ++ b :: rest, by simp [pathBytes, hr]⟩
  · obtain ⟨r, hr⟩ := pathBytes_eq_cons hpath
    exact ⟨_, by rw [hr]; rfl⟩

theorem EndsInside.eq_cons {body : List UInt8} (h : EndsInside body) : ∃ l, body = opener :: l := by
  obtain ⟨path, f, last, _, _, hlast, rfl⟩ := h
  by_cases hpath : path = []
  · subst hpath
    cases hlast with
    | inNode deep => exact absurd rfl deep
    | inPair deep => exact absurd rfl deep
    | noKind => exact List.head?_eq_some_iff.mp (head?_bytes_append f [])
    | inKind => exact List.head?_eq_some_iff.mp (head?_bytes_append f [escaper])
  · obtain ⟨r, hr⟩ := pathBytes_eq_cons hpath
    exact ⟨_, by rw [hr]; rfl⟩

/-- The forest of a complete body is the only one. -/
theorem complete_unique {body : List UInt8} {f g : Forest Spelling} (hf : Complete body f)
    (hg : Complete body g) : f = g := by
  obtain ⟨hfv, _, tail, hft, htail⟩ := hf
  obtain ⟨hgv, _, tail', hgt, htail'⟩ := hg
  have hno : ∀ t : List UInt8, t = [] ∨ t.head? = some closer → t.head? ≠ some opener := by
    rintro t (rfl | ht)
    · simp
    · rw [ht]
      simp [opener, closer]
  exact (bytes_unique hfv hgv (hno tail htail) (hno tail' htail') (hft ▸ hgt)).1

/-! ## §3. Every body is read as far as it goes. -/

/-- What is left when reading stops: at the top something that opens no node; inside a node a stray
    byte or an early end. -/
inductive Stops : List Level → Forest Spelling → List UInt8 → Prop
  | top {f : Forest Spelling} {rest : List UInt8} (h : rest.head? ≠ some opener) : Stops [] f rest
  | stray {path : List Level} {f : Forest Spelling} {b : UInt8} {rest : List UInt8}
      (deep : path ≠ []) (ne_nil : f ≠ .nil) (no_opener : b ≠ opener) (no_closer : b ≠ closer) :
      Stops path f (b :: rest)
  | early {path : List Level} {f : Forest Spelling} {last : List UInt8}
      (h : Unfinished path f last) : Stops path f last

/-- A body that is read as far as it goes. -/
def Splits (body : List UInt8) : Prop :=
  ∃ (path : List Level) (f : Forest Spelling) (rest : List UInt8),
    (∀ l ∈ path, l.Valid) ∧ f.Valid ∧ body = pathBytes path ++ f.bytes ++ rest ∧ Stops path f rest

/-- The first byte or pair is a kind, unless the bytes end before it is whole. -/
theorem exists_kind (l : List UInt8) :
    l = [] ∨ l = [escaper] ∨ ∃ (escaped : Bool) (kind : UInt8) (rest : List UInt8),
      l = (Spelling.mk escaped []).kindBytes kind ++ rest ∧ (escaped = false → kind ≠ escaper) := by
  cases l with
  | nil => exact Or.inl rfl
  | cons b l =>
    by_cases hb : b = escaper
    · subst hb
      cases l with
      | nil => exact Or.inr (Or.inl rfl)
      | cons c l => exact Or.inr (Or.inr ⟨true, c, l, rfl, by simp⟩)
    · exact Or.inr (Or.inr ⟨false, b, l, rfl, fun _ => hb⟩)

/-- The longest run of property bytes ends at an opener, at a closer, or with the bytes. -/
theorem exists_props (l : List UInt8) : ∃ p t, PropsText p ∧ l = p ++ t
    ∧ (t = [] ∨ t = [escaper] ∨ t.head? = some opener ∨ t.head? = some closer) := by
  induction hn : l.length using Nat.strongRecOn generalizing l with
  | ind n ih =>
    subst hn
    cases l with
    | nil => exact ⟨[], [], .nil, rfl, Or.inl rfl⟩
    | cons b l =>
      by_cases hres : isReserved b = false
      · obtain ⟨p, t, hp, rfl, ht⟩ := ih l.length (Nat.lt_succ_self _) l rfl
        exact ⟨b :: p, t, .plain hres hp, rfl, ht⟩
      · -- a mark: an opener or a closer ends the run, an escape mark takes the next byte with it
        rcases isReserved_eq_true.mp (by simpa using hres) with rfl | rfl | rfl
        · exact ⟨[], _, .nil, rfl, Or.inr (Or.inr (Or.inl rfl))⟩
        · exact ⟨[], _, .nil, rfl, Or.inr (Or.inr (Or.inr rfl))⟩
        · cases l with
          | nil => exact ⟨[], _, .nil, rfl, Or.inr (Or.inl rfl)⟩
          | cons c l =>
            have hlt : l.length < (escaper :: c :: l).length := by
              rw [List.length_cons, List.length_cons]
              omega
            obtain ⟨p, t, hp, rfl, ht⟩ := ih l.length hlt l rfl
            exact ⟨escaper :: c :: p, t, .pair hp, rfl, ht⟩

section

variable {kind : UInt8} {s : Spelling} {inside : Forest Spelling} {body : List UInt8}

/-- Behind a closed node reading goes on with its siblings. -/
theorem Splits.behind_node (hs : s.Valid kind) (hin : inside.Valid) (h : Splits body) :
    Splits (opener :: (s.heading kind ++ inside.bytes ++ closer :: body)) := by
  obtain ⟨path, f, rest, hpath, hf, rfl, hstop⟩ := h
  cases path with
  | nil =>
    refine ⟨[], .node kind s inside f, rest, by simp, ⟨hs, hin, hf⟩, ?_, ?_⟩
    · simp [pathBytes, Forest.bytes]
    · cases hstop with
      | top hrest => exact .top hrest
      | stray deep => exact absurd rfl deep
      | early hlast =>
        cases hlast with
        | inNode deep => exact absurd rfl deep
        | inPair deep => exact absurd rfl deep
        | noKind => exact .early .noKind
        | inKind => exact .early .inKind
  | cons l path =>
    obtain ⟨hl, hpath⟩ := List.forall_mem_cons.mp hpath
    refine ⟨{ l with siblings := .node kind s inside l.siblings } :: path, f, rest, ?_, hf, ?_, ?_⟩
    · exact List.forall_mem_cons.mpr ⟨⟨⟨hs, hin, hl.siblings⟩, hl.spelling⟩, hpath⟩
    · simp [pathBytes, Level.bytes, Forest.bytes]
    · cases hstop with
      | stray _ hne hop hcl => exact .stray (by simp) hne hop hcl
      | early hlast =>
        cases hlast with
        | inNode _ => exact .early (.inNode (by simp))
        | inPair _ => exact .early (.inPair (by simp))
        | noKind => exact .early .noKind
        | inKind => exact .early .inKind

/-- Reading stops inside a node where it stops in what lies inside, unless a closer is left there. -/
theorem Splits.inside_node {path : List Level} {f : Forest Spelling} {rest : List UInt8}
    (hs : s.Valid kind) (hpath : ∀ l ∈ path, l.Valid) (hf : f.Valid) (hstop : Stops path f rest)
    (hopen : (pathBytes path ++ f.bytes ++ rest).head? = some opener)
    (hclose : path = [] → rest.head? ≠ some closer) :
    Splits (opener :: (s.heading kind ++ (pathBytes path ++ f.bytes ++ rest))) := by
  refine ⟨⟨.nil, kind, s⟩ :: path, f, rest, ?_, hf, ?_, ?_⟩
  · exact List.forall_mem_cons.mpr ⟨⟨trivial, hs⟩, hpath⟩
  · simp [pathBytes, Level.bytes, Forest.bytes]
  · cases hstop with
    | top hrest =>
      cases rest with
      | nil => exact .early (.inNode (by simp))
      | cons b rest =>
        have hne : f ≠ .nil := by
          rintro rfl
          exact hrest (by simpa [pathBytes, Forest.bytes] using hopen)
        have hcl := hclose rfl
        exact .stray (by simp) hne (by simpa using hrest) (by simpa using hcl)
    | stray _ hne hop hcl => exact .stray (by simp) hne hop hcl
    | early hlast =>
      cases hlast with
      | inNode _ => exact .early (.inNode (by simp))
      | inPair _ => exact .early (.inPair (by simp))
      | noKind => exact .early .noKind
      | inKind => exact .early .inKind

end

/-- **Every list of bytes is read as far as it goes.** -/
theorem splits (body : List UInt8) : Splits body := by
  induction hn : body.length using Nat.strongRecOn generalizing body with
  | ind n ih =>
    subst hn
    by_cases hopen : body.head? = some opener
    case neg => exact ⟨[], .nil, body, by simp, trivial, rfl, .top hopen⟩
    case pos =>
      obtain ⟨l, rfl⟩ : ∃ l, body = opener :: l := by
        cases body with
        | nil => simp at hopen
        | cons b l => exact ⟨l, by rw [Option.some.inj hopen]⟩
      rcases exists_kind l with rfl | rfl | ⟨escaped, kind, rest, rfl, hkind⟩
      · exact ⟨[], .nil, [opener], by simp, trivial, rfl, .early .noKind⟩
      · exact ⟨[], .nil, [opener, escaper], by simp, trivial, rfl, .early .inKind⟩
      obtain ⟨p, t, hp, rfl, ht⟩ := exists_props rest
      have hs : (Spelling.mk escaped p).Valid kind := ⟨hkind, hp⟩
      have hbody : opener :: ((Spelling.mk escaped []).kindBytes kind ++ (p ++ t))
          = opener :: ((Spelling.mk escaped p).heading kind ++ t) := by
        simp [Spelling.heading, Spelling.kindBytes]
      rw [hbody] at ih ⊢
      -- whatever stands behind the properties is shorter than the body
      have hshort : ∀ r : List UInt8, r.length ≤ t.length → Splits r := by
        intro r hr
        refine ih r.length ?_ r rfl
        simp only [List.length_cons, List.length_append]
        omega
      have hlevel : ∀ l ∈ [Level.mk .nil kind ⟨escaped, p⟩], l.Valid := by
        simpa using ⟨trivial, hs⟩
      rcases ht with rfl | rfl | ht | ht
      · refine ⟨_, .nil, [], hlevel, trivial, ?_, .early (.inNode (by simp))⟩
        simp [pathBytes, Level.bytes, Forest.bytes]
      · refine ⟨_, .nil, [escaper], hlevel, trivial, ?_, .early (.inPair (by simp))⟩
        simp [pathBytes, Level.bytes, Forest.bytes]
      · -- inner nodes: read them first, and the siblings if a closer is left
        obtain ⟨path, f, rest, hpath, hf, rfl, hstop⟩ := hshort t (Nat.le_refl _)
        by_cases hclosed : path = [] ∧ rest.head? = some closer
        · obtain ⟨rfl, hrest⟩ := hclosed
          cases rest with
          | nil => simp at hrest
          | cons b r =>
            obtain rfl := Option.some.inj hrest
            have hr : Splits r := by
              apply hshort
              simp only [List.length_cons, List.length_append]
              omega
            simpa [pathBytes] using hr.behind_node hs hf
        · exact Splits.inside_node hs hpath hf hstop ht (fun hnil hrest => hclosed ⟨hnil, hrest⟩)
      · -- a closer at once: the node holds nothing, its siblings follow
        cases t with
        | nil => simp at ht
        | cons b r =>
          obtain rfl := Option.some.inj ht
          have hr : Splits r := hshort r (Nat.le_succ _)
          have hnil : (Forest.nil : Forest Spelling).Valid := trivial
          simpa [Forest.bytes] using hr.behind_node hs hnil

/-- **The three ways of a body** that begins with an opener. -/
theorem complete_or_stray_or_endsInside {body : List UInt8} (hopen : body.head? = some opener) :
    (∃ f, Complete body f) ∨ StrayByte body ∨ EndsInside body := by
  obtain ⟨path, f, rest, hpath, hf, rfl, hstop⟩ := splits body
  cases hstop with
  | top hrest =>
    have hne : f ≠ .nil := by
      rintro rfl
      exact hrest (by simpa [pathBytes, Forest.bytes] using hopen)
    cases rest with
    | nil => exact Or.inl ⟨f, hf, hne, [], by simp [pathBytes], Or.inl rfl⟩
    | cons b rest =>
      by_cases hb : b = closer
      · exact Or.inl ⟨f, hf, hne, b :: rest, by simp [pathBytes], Or.inr (by rw [hb]; rfl)⟩
      · exact Or.inr (Or.inl ⟨[], f, b, rest, hpath, hf, hne, by simpa using hrest, hb, rfl⟩)
  | stray _ hne hop hcl => exact Or.inr (Or.inl ⟨path, f, _, _, hpath, hf, hne, hop, hcl, rfl⟩)
  | early hlast => exact Or.inr (Or.inr ⟨path, f, rest, hpath, hf, hlast, rfl⟩)

end Realm.NodeFile
