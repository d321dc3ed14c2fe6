/-
  Realm.Proofs.Footprint.Cache — a cache of areas, and the requests it has had.

  Put the shapes that were asked for, and could be built, in order: each once, the last one asked for
  first.  A cache knows exactly the first of them, as many as it may hold.  A request puts its shape in
  front, so a shape falls out when as many others have come in front of it since; and what is known of
  it until then is the area that an earlier request was given.

  Main statements:
  * `recency_append` — how far a shape has gone back since it was asked for;
  * `Follows.request` — what a request does to a cache that follows its requests;
  * `request_after` — any request, after any others.
-/
import Mathlib.Data.List.Dedup
import Realm.Footprint.Cache

namespace Realm

/-- Whether a shape can be built. -/
def Shape.isSound (s : Shape) : Bool := s.build.isOk

namespace AreaCache

/-! ## §1. Shapes by recency. -/

/-- **The shapes that were asked for and could be built,** each once, the last one asked for first.  The
    requests come latest first. -/
def recency : List Shape → List Shape
  | [] => []
  | s :: earlier =>
    if s.isSound then s :: (recency earlier).filter (· ≠ s) else recency earlier

theorem mem_recency_iff (requests : List Shape) (s : Shape) :
    s ∈ recency requests ↔ s ∈ requests ∧ s.isSound = true := by
  induction requests with
  | nil => simp [recency]
  | cons r earlier ih =>
    rw [recency]
    by_cases hsame : s = r
    · subst hsame
      cases hsound : s.isSound with
      | true => simp
      | false => simp [ih, hsound]
    · cases hsound : r.isSound with
      | true => simp [ih, hsame]
      | false => simp [ih, hsame]

theorem nodup_recency (requests : List Shape) : (recency requests).Nodup := by
  induction requests with
  | nil => exact List.nodup_nil
  | cons r earlier ih =>
    rw [recency]
    split
    · rw [List.nodup_cons]
      exact ⟨by simp, ih.filter _⟩
    · exact ih

/-- **How far a shape has gone back** since it was asked for: behind the shapes asked for since. -/
theorem recency_append {s : Shape} (hsound : s.isSound = true) {since : List Shape} (hs : s ∉ since)
    (earlier : List Shape) :
    ∃ older, recency (since ++ s :: earlier) = recency since ++ s :: older := by
  induction since with
  | nil =>
    refine ⟨(recency earlier).filter (· ≠ s), ?_⟩
    show recency (s :: earlier) = s :: _
    rw [recency, if_pos hsound]
  | cons r since ih =>
    rw [List.mem_cons, not_or] at hs
    obtain ⟨older, holder⟩ := ih hs.2
    rw [List.cons_append, recency, recency, holder]
    split
    · refine ⟨older.filter (· ≠ r), ?_⟩
      rw [List.filter_append, List.filter_cons_of_pos (by simpa using hs.1), List.cons_append]
    · exact ⟨older, rfl⟩

/-- So many other shapes came in front of it. -/
theorem length_recency (requests : List Shape) :
    (recency requests).length = (requests.filter Shape.isSound).dedup.length := by
  apply List.Perm.length_eq
  rw [List.perm_ext_iff_of_nodup (nodup_recency requests) (List.nodup_dedup _)]
  intro s
  rw [mem_recency_iff, List.mem_dedup, List.mem_filter]

/-! ## §2. The first of them. -/

section

variable {α : Type} [DecidableEq α] {a : α}

theorem filter_ne_of_not_mem {l : List α} (ha : a ∉ l) : l.filter (· ≠ a) = l := by
  rw [List.filter_eq_self]
  intro b hb
  rw [decide_eq_true_eq]
  rintro rfl
  exact ha hb

theorem length_filter_ne {l : List α} (hl : l.Nodup) (ha : a ∈ l) :
    (l.filter (· ≠ a)).length + 1 = l.length := by
  have herase : l.filter (· ≠ a) = l.erase a := by
    rw [hl.erase_eq_filter]
    exact List.filter_congr fun b _ => decide_not
  have hpos : 0 < l.length := List.length_pos_of_mem ha
  rw [herase, List.length_erase_of_mem ha]
  omega

/-- Taking away one of the first leaves one less of the first. -/
theorem take_filter_of_mem {n : Nat} {l : List α} (hl : l.Nodup) (ha : a ∈ l.take (n + 1)) :
    (l.filter (· ≠ a)).take n = (l.take (n + 1)).filter (· ≠ a) := by
  induction l generalizing n with
  | nil => simp
  | cons b l ih =>
    rw [List.nodup_cons] at hl
    rw [List.take_succ_cons] at ha ⊢
    by_cases hsame : b = a
    · subst hsame
      have hrest : b ∉ l.take n := fun hb => hl.1 (List.mem_of_mem_take hb)
      rw [List.filter_cons_of_neg (by simp), List.filter_cons_of_neg (by simp),
        filter_ne_of_not_mem hl.1, filter_ne_of_not_mem hrest]
    · cases n with
      | zero =>
        rw [List.take_zero, List.mem_singleton] at ha
        exact absurd ha.symm hsame
      | succ n =>
        rcases List.mem_cons.1 ha with heq | hrest
        · exact absurd heq.symm hsame
        · rw [List.filter_cons_of_pos (by simpa using hsame),
            List.filter_cons_of_pos (by simpa using hsame), List.take_succ_cons, ih hl.2 hrest]

/-- Taking away none of the first leaves them all but the last. -/
theorem take_filter_of_not_mem {n : Nat} {l : List α} (ha : a ∉ l.take (n + 1)) :
    (l.filter (· ≠ a)).take n = l.take n := by
  induction l generalizing n with
  | nil => rfl
  | cons b l ih =>
    rw [List.take_succ_cons, List.mem_cons, not_or] at ha
    cases n with
    | zero => rfl
    | succ n =>
      rw [List.filter_cons_of_pos (by simpa using fun h => ha.1 h.symm), List.take_succ_cons,
        List.take_succ_cons, ih ha.2]

end

/-! ## §3. Requests. -/

/-- A request that was made: its shape, what it was given, and whether the cache missed it. -/
structure Call where
  shape : Shape
  answer : Except Footprint.Fault SharedArea
  missed : Bool

/-- A miss that was built. -/
def Call.built (k : Call) : Bool := k.missed && k.answer.isOk

/-- A request of a cache. -/
def call (c : AreaCache) (s : Shape) : Call :=
  ⟨s, (c.request s).1, c.misses < (c.request s).2.misses⟩

/-- The requests for some shapes, one after the other. -/
def calls (c : AreaCache) : List Shape → List Call
  | [] => []
  | s :: rest => c.call s :: calls (c.request s).2 rest

/-- A cache after requests for some shapes. -/
def after (c : AreaCache) (shapes : List Shape) : AreaCache :=
  shapes.foldl (fun c s => (c.request s).2) c

/-- **A cache follows its requests:** it knows the first shapes by recency, each with an area that one of
    the requests was given, and its counts are those of the requests. -/
structure Follows (c : AreaCache) (limit : Nat) (made : List Call) : Prop where
  limit_eq : c.limit = limit
  known : c.entries.map Prod.fst = (recency (made.map Call.shape).reverse).take limit
  given : ∀ e ∈ c.entries, ∃ k ∈ made, k.shape = e.1 ∧ k.answer = .ok e.2
  afresh : ∀ e ∈ c.entries, e.1.build = .ok e.2.area
  serials : ∀ k ∈ made, ∀ a, k.answer = .ok a → a.serial < c.built
  calls_eq : c.hits + c.misses = made.length
  built_eq : c.evictions + c.size = made.countP Call.built

theorem follows_ofCapacity (capacity : Nat) :
    (ofCapacity capacity).Follows (max capacity 1) [] where
  limit_eq := rfl
  known := by simp [ofCapacity, recency]
  given := by simp [ofCapacity]
  afresh := by simp [ofCapacity]
  serials := by simp
  calls_eq := rfl
  built_eq := rfl

section

variable {c : AreaCache} {limit : Nat} {made : List Call} {s : Shape}

theorem find?_eq_none_iff : c.find? s = none ↔ s ∉ c.entries.map Prod.fst := by
  simp only [find?, Option.map_eq_none_iff, List.find?_eq_none, List.mem_map, not_exists, not_and,
    decide_eq_true_eq]

theorem mem_of_find? {a : SharedArea} (h : c.find? s = some a) : (s, a) ∈ c.entries := by
  obtain ⟨e, he, rfl⟩ := Option.map_eq_some_iff.1 h
  have hname : e.1 = s := by simpa using List.find?_some he
  rw [← hname]
  exact List.mem_of_find?_eq_some he

/-- **A shape is known** if it is one of the first by recency. -/
theorem Follows.isSome_find?_iff (h : c.Follows limit made) :
    (c.find? s).isSome = true ↔ s ∈ (recency (made.map Call.shape).reverse).take limit := by
  rw [← h.known, Option.isSome_iff_ne_none, ne_eq, find?_eq_none_iff, not_not]

/-- What a request does. -/
theorem request_cases (c : AreaCache) (s : Shape) :
    (∃ a, c.find? s = some a ∧ c.request s = (.ok a, c.promote s a))
    ∨ (∃ e, c.find? s = none ∧ s.build = .error e
        ∧ c.request s = (.error e, { c with misses := c.misses + 1 }))
    ∨ ∃ area, c.find? s = none ∧ s.build = .ok area
        ∧ c.request s = (.ok ⟨c.built, area⟩,
            { { c with misses := c.misses + 1 }.push s ⟨c.built, area⟩ with built := c.built + 1 }) := by
  unfold request
  cases hfind : c.find? s with
  | some a => exact .inl ⟨a, rfl, rfl⟩
  | none =>
    dsimp only
    cases hbuild : s.build with
    | error e => exact .inr (.inl ⟨e, rfl, rfl, rfl⟩)
    | ok area => exact .inr (.inr ⟨area, rfl, rfl, rfl⟩)

/-- What was given before another request. -/
theorem Follows.given_earlier (h : c.Follows limit made) (next : Call) {e : Shape × SharedArea}
    (he : e ∈ c.entries) : ∃ k ∈ made ++ [next], k.shape = e.1 ∧ k.answer = .ok e.2 := by
  obtain ⟨k, hk, hgiven⟩ := h.given e he
  exact ⟨k, List.mem_append_left _ hk, hgiven⟩

/-- The serials of what was given, with another request. -/
theorem Follows.serials_append (h : c.Follows limit made) {next : Call} {n : Nat} (hn : c.built ≤ n)
    (hnext : ∀ a, next.answer = .ok a → a.serial < n) :
    ∀ k ∈ made ++ [next], ∀ a, k.answer = .ok a → a.serial < n := by
  rw [List.forall_mem_append, List.forall_mem_singleton]
  exact ⟨fun k hk a ha => Nat.lt_of_lt_of_le (h.serials k hk a ha) hn, hnext⟩

/-- A shape that was known, and comes in front. -/
theorem Follows.promote (h : c.Follows limit made) (hlimit : 0 < limit) {a : SharedArea}
    (hfind : c.find? s = some a) : (c.promote s a).Follows limit (made ++ [⟨s, .ok a, false⟩]) := by
  obtain ⟨n, rfl⟩ : ∃ n, limit = n + 1 := ⟨limit - 1, by omega⟩
  have hentry : (s, a) ∈ c.entries := mem_of_find? hfind
  have hmem : s ∈ (recency (made.map Call.shape).reverse).take (n + 1) := by
    rw [← h.known]
    exact List.mem_map_of_mem hentry
  have hsound : s.isSound = true := ((mem_recency_iff _ s).1 (List.mem_of_mem_take hmem)).2
  have hnodup := nodup_recency (made.map Call.shape).reverse
  have hkeys : (c.entries.filter fun e => e.1 ≠ s).map Prod.fst
      = (c.entries.map Prod.fst).filter (· ≠ s) := by
    rw [List.filter_map]
    rfl
  constructor
  · exact h.limit_eq
  · show s :: (c.entries.filter fun e => e.1 ≠ s).map Prod.fst = _
    rw [hkeys, h.known, ← take_filter_of_mem hnodup hmem, List.map_append, List.reverse_append]
    show _ = (recency (s :: (made.map Call.shape).reverse)).take (n + 1)
    rw [recency, if_pos hsound, List.take_succ_cons]
  · intro e he
    rcases List.mem_cons.1 he with rfl | he
    · exact ⟨_, List.mem_append_right made (List.mem_singleton_self _), rfl, rfl⟩
    · exact h.given_earlier _ (List.mem_of_mem_filter he)
  · intro e he
    rcases List.mem_cons.1 he with rfl | he
    · exact h.afresh _ hentry
    · exact h.afresh e (List.mem_of_mem_filter he)
  · refine h.serials_append (Nat.le_refl _) fun b hb => ?_
    -- the area it is given was given before
    obtain ⟨k, hk, -, hanswer⟩ := h.given _ hentry
    rw [← Except.ok.inj hb]
    exact h.serials k hk a hanswer
  · have hcalls := h.calls_eq
    show c.hits + 1 + c.misses = _
    rw [List.length_append, List.length_singleton]
    omega
  · have hsize : ((s, a) :: c.entries.filter fun e => e.1 ≠ s).length = c.entries.length := by
      have hone : ((c.entries.map Prod.fst).filter (· ≠ s)).length + 1
          = (c.entries.map Prod.fst).length := by
        have hkeysNodup : (c.entries.map Prod.fst).Nodup := by
          rw [h.known]
          exact hnodup.sublist (List.take_sublist _ _)
        exact length_filter_ne hkeysNodup (List.mem_map_of_mem hentry)
      rw [← hkeys, List.length_map, List.length_map] at hone
      exact hone
    have hbuilt := h.built_eq
    show c.evictions + ((s, a) :: c.entries.filter fun e => e.1 ≠ s).length = _
    rw [hsize, List.countP_append]
    exact hbuilt

/-- A shape that cannot be built. -/
theorem Follows.refuse (h : c.Follows limit made) {e : Footprint.Fault} (hbuild : s.build = .error e) :
    ({ c with misses := c.misses + 1 } : AreaCache).Follows limit (made ++ [⟨s, .error e, true⟩]) := by
  have hunsound : ¬ s.isSound = true := by
    rw [Shape.isSound, hbuild]
    exact Bool.false_ne_true
  constructor
  · exact h.limit_eq
  · rw [List.map_append, List.reverse_append]
    show _ = (recency (s :: (made.map Call.shape).reverse)).take limit
    rw [recency, if_neg hunsound]
    exact h.known
  · exact fun e he => h.given_earlier _ he
  · exact h.afresh
  · exact h.serials_append (Nat.le_refl _) nofun
  · have hcalls := h.calls_eq
    show c.hits + (c.misses + 1) = _
    rw [List.length_append, List.length_singleton]
    omega
  · rw [List.countP_append]
    exact h.built_eq

/-- What stays when a new shape comes. -/
def staying (c : AreaCache) : List (Shape × SharedArea) :=
  if c.limit ≤ c.entries.length then c.entries.dropLast else c.entries

theorem mem_of_mem_staying {e : Shape × SharedArea} (he : e ∈ c.staying) : e ∈ c.entries := by
  unfold staying at he
  split at he
  · exact (List.dropLast_sublist c.entries).subset he
  · exact he

/-- What does not stay falls out. -/
theorem length_staying (hlimit : 0 < c.limit) :
    (if c.limit ≤ c.entries.length then 1 else 0) + c.staying.length = c.entries.length := by
  unfold staying
  split
  · rw [List.length_dropLast]
    omega
  · omega

/-- What stays is one less than the cache may hold. -/
theorem Follows.map_fst_staying {n : Nat} (h : c.Follows (n + 1) made) :
    c.staying.map Prod.fst = (recency (made.map Call.shape).reverse).take n := by
  have hlength : c.entries.length = min (n + 1) (recency (made.map Call.shape).reverse).length := by
    rw [← List.length_map Prod.fst, h.known, List.length_take]
  unfold staying
  rw [h.limit_eq]
  split
  · rw [List.map_dropLast, h.known, List.dropLast_eq_take, List.length_take, List.take_take]
    congr 1
    omega
  · rw [h.known, List.take_of_length_le (by omega), List.take_of_length_le (by omega)]

/-- **A new shape** comes in front, and where the cache is full the last one falls out. -/
theorem Follows.push (h : c.Follows limit made) (hlimit : 0 < limit) {area : Area}
    (hfind : c.find? s = none) (hbuild : s.build = .ok area) :
    ({ ({ c with misses := c.misses + 1 } : AreaCache).push s ⟨c.built, area⟩ with
        built := c.built + 1 } : AreaCache).Follows limit
      (made ++ [⟨s, .ok ⟨c.built, area⟩, true⟩]) := by
  obtain ⟨n, rfl⟩ : ∃ n, limit = n + 1 := ⟨limit - 1, by omega⟩
  have hsound : s.isSound = true := by
    rw [Shape.isSound, hbuild]
    rfl
  have hnew : s ∉ (recency (made.map Call.shape).reverse).take (n + 1) := by
    rw [← h.known]
    exact find?_eq_none_iff.1 hfind
  constructor
  · exact h.limit_eq
  · show s :: c.staying.map Prod.fst = _
    rw [h.map_fst_staying, List.map_append, List.reverse_append]
    show _ = (recency (s :: (made.map Call.shape).reverse)).take (n + 1)
    rw [recency, if_pos hsound, List.take_succ_cons, take_filter_of_not_mem hnew]
  · intro e he
    rcases List.mem_cons.1 he with rfl | he
    · exact ⟨_, List.mem_append_right made (List.mem_singleton_self _), rfl, rfl⟩
    · exact h.given_earlier _ (mem_of_mem_staying he)
  · intro e he
    rcases List.mem_cons.1 he with rfl | he
    · exact hbuild
    · exact h.afresh e (mem_of_mem_staying he)
  · refine h.serials_append (Nat.le_succ _) fun a ha => ?_
    rw [← Except.ok.inj ha]
    exact Nat.lt_succ_self c.built
  · have hcalls := h.calls_eq
    show c.hits + (c.misses + 1) = _
    rw [List.length_append, List.length_singleton]
    omega
  · have hbuilt := h.built_eq
    have hstays := length_staying (h.limit_eq ▸ hlimit)
    rw [size] at hbuilt
    rw [List.countP_append, ← hbuilt]
    show c.evictions + (if c.limit ≤ c.entries.length then 1 else 0) + (c.staying.length + 1)
      = c.evictions + c.entries.length + 1
    omega

/-- **What a request does to a cache that follows its requests:** it follows that one, too. -/
theorem Follows.request (h : c.Follows limit made) (hlimit : 0 < limit) (s : Shape) :
    (c.request s).2.Follows limit (made ++ [c.call s]) := by
  unfold call
  rcases request_cases c s with ⟨a, hfind, hrequest⟩ | ⟨e, -, hbuild, hrequest⟩
    | ⟨area, hfind, hbuild, hrequest⟩
  · rw [hrequest]
    have hkept : decide (c.misses < (c.promote s a).misses) = false :=
      decide_eq_false (Nat.lt_irrefl c.misses)
    rw [hkept]
    exact h.promote hlimit hfind
  · rw [hrequest]
    have hmissed : decide (c.misses < c.misses + 1) = true := decide_eq_true (Nat.lt_succ_self _)
    rw [hmissed]
    exact h.refuse hbuild
  · rw [hrequest]
    have hmissed : decide (c.misses < c.misses + 1) = true := decide_eq_true (Nat.lt_succ_self _)
    show Follows _ limit (made ++ [⟨s, _, decide (c.misses < c.misses + 1)⟩])
    rw [hmissed]
    exact h.push hlimit hfind hbuild

/-- A run of requests. -/
theorem Follows.after (h : c.Follows limit made) (hlimit : 0 < limit) (shapes : List Shape) :
    (c.after shapes).Follows limit (made ++ c.calls shapes) := by
  induction shapes generalizing c made with
  | nil =>
    show c.Follows limit (made ++ [])
    rw [List.append_nil]
    exact h
  | cons s shapes ih =>
    have hrest := ih (h.request hlimit s)
    rw [List.append_assoc] at hrest
    exact hrest

theorem length_calls (c : AreaCache) (shapes : List Shape) :
    (c.calls shapes).length = shapes.length := by
  induction shapes generalizing c with
  | nil => rfl
  | cons s shapes ih =>
    show (c.calls _).length = _
    rw [calls, List.length_cons, ih, List.length_cons]

theorem map_shape_calls (c : AreaCache) (shapes : List Shape) :
    (c.calls shapes).map Call.shape = shapes := by
  induction shapes generalizing c with
  | nil => rfl
  | cons s shapes ih =>
    rw [calls, List.map_cons, ih]
    rfl

/-! ## §4. What is still known. -/

/-- **A shape is still among the first** if, since it was asked for last, fewer others came in front. -/
theorem mem_take_recency_iff (requests : List Shape) (s : Shape) (n : Nat) :
    s ∈ (recency requests).take n ↔ s.isSound = true
      ∧ ∃ since earlier, requests = since ++ s :: earlier ∧ s ∉ since ∧ (recency since).length < n := by
  have hplace : ∀ {since earlier : List Shape}, s.isSound = true → s ∉ since →
      (s ∈ (recency (since ++ s :: earlier)).take n ↔ (recency since).length < n) := by
    intro since earlier hsound hs
    obtain ⟨older, holder⟩ := recency_append hsound hs earlier
    have hnot : s ∉ recency since := fun hmem => hs ((mem_recency_iff since s).1 hmem).1
    rw [holder, List.take_append]
    constructor
    · intro hmem
      by_contra hfar
      rw [Nat.sub_eq_zero_of_le (by omega), List.take_zero, List.append_nil] at hmem
      exact hnot (List.mem_of_mem_take hmem)
    · intro hnear
      obtain ⟨m, hm⟩ : ∃ m, n - (recency since).length = m + 1 :=
        ⟨n - (recency since).length - 1, by omega⟩
      rw [hm, List.take_succ_cons]
      exact List.mem_append_right _ List.mem_cons_self
  constructor
  · intro hmem
    obtain ⟨hasked, hsound⟩ := (mem_recency_iff requests s).1 (List.mem_of_mem_take hmem)
    -- the last time it was asked for is the first one in this order
    obtain ⟨since, earlier, rfl, hs⟩ := List.eq_append_cons_of_mem hasked
    exact ⟨hsound, since, earlier, rfl, hs, (hplace hsound hs).1 hmem⟩
  · rintro ⟨hsound, since, earlier, rfl, hs, hnear⟩
    exact (hplace hsound hs).2 hnear

/-- **What an earlier request for a shape was given** is given again exactly if the shape is known. -/
theorem Follows.given_again_iff (h : c.Follows limit made) (s : Shape) :
    (∃ a, (c.request s).1 = .ok a ∧ ∃ k ∈ made, k.shape = s ∧ k.answer = .ok a)
      ↔ (c.find? s).isSome = true := by
  rcases request_cases c s with ⟨a, hfind, hrequest⟩ | ⟨e, hfind, -, hrequest⟩
    | ⟨area, hfind, -, hrequest⟩
  · rw [hrequest, hfind]
    exact ⟨fun _ => rfl, fun _ => ⟨a, rfl, h.given _ (mem_of_find? hfind)⟩⟩
  · rw [hrequest, hfind]
    constructor
    · rintro ⟨a, ha, -⟩
      cases ha
    · intro hsome
      cases hsome
  · -- a new area has a number that no area had before
    rw [hrequest, hfind]
    constructor
    · rintro ⟨a, ha, k, hk, -, hanswer⟩
      have hbefore := h.serials k hk a hanswer
      rw [← Except.ok.inj ha] at hbefore
      exact absurd hbefore (Nat.lt_irrefl c.built)
    · intro hsome
      cases hsome

/-- **A request is answered as if nothing were remembered.** -/
theorem Follows.map_area_request (h : c.Follows limit made) (s : Shape) :
    (c.request s).1.map SharedArea.area = s.build := by
  rcases request_cases c s with ⟨a, hfind, hrequest⟩ | ⟨e, -, hbuild, hrequest⟩
    | ⟨area, -, hbuild, hrequest⟩
  · rw [hrequest, h.afresh _ (mem_of_find? hfind)]
    rfl
  · rw [hrequest, hbuild]
    rfl
  · rw [hrequest, hbuild]
    rfl

end

/-- **The cache shows in nothing but time, and forgets what was not asked for the longest.**  Ask a cache
    of any capacity, which holds one area at least, for any shapes, and then for one more.  It is given
    what its shape builds, or the fault that building it has, which changes nothing but the misses.  Hits
    and misses add up to the requests; the areas that are held, no more than fit, and those that were
    given up add up to the misses that were built.  And it is given the very area that an earlier request
    for the shape was given if and only if, since the last of these, fewer other shapes were asked for
    and could be built than the cache holds. -/
theorem request_after (capacity : Nat) (before : List Shape) (s : Shape) :
    let limit := max capacity 1
    let c := (ofCapacity capacity).after before
    let made := (ofCapacity capacity).calls before
    (c.request s).1.map SharedArea.area = s.build
    ∧ c.hits + c.misses = before.length
    ∧ c.size ≤ limit
    ∧ c.evictions + c.size = made.countP Call.built
    ∧ (∀ e, s.build = .error e → c.request s = (.error e, { c with misses := c.misses + 1 }))
    ∧ ((∃ a, (c.request s).1 = .ok a ∧ ∃ k ∈ made, k.shape = s ∧ k.answer = .ok a)
      ↔ s.isSound = true ∧ ∃ earlier since, before = earlier ++ s :: since ∧ s ∉ since
        ∧ (since.filter Shape.isSound).dedup.length < limit) := by
  intro limit c made
  have h : c.Follows limit made :=
    (follows_ofCapacity capacity).after (Nat.lt_of_lt_of_le Nat.one_pos (Nat.le_max_right _ _)) before
  refine ⟨h.map_area_request s, ?_, ?_, h.built_eq, ?_, ?_⟩
  · rw [h.calls_eq, length_calls]
  · rw [size, ← List.length_map Prod.fst, h.known, List.length_take]
    exact Nat.min_le_left _ _
  · intro e he
    rcases request_cases c s with ⟨a, hfind, -⟩ | ⟨e', -, hbuild, hrequest⟩ | ⟨area, -, hbuild, -⟩
    · rw [h.afresh _ (mem_of_find? hfind)] at he
      cases he
    · rw [hbuild] at he
      rw [hrequest, Except.error.inj he]
    · rw [hbuild] at he
      cases he
  · rw [h.given_again_iff, h.isSome_find?_iff, map_shape_calls, mem_take_recency_iff]
    -- the requests in their order, and the latest first
    have hcount : ∀ since : List Shape, (recency since.reverse).length
        = (since.filter Shape.isSound).dedup.length := by
      intro since
      rw [length_recency]
      exact ((since.reverse_perm.filter _).dedup).length_eq
    constructor
    · rintro ⟨hsound, since, earlier, hbefore, hs, hnear⟩
      refine ⟨hsound, earlier.reverse, since.reverse, ?_, by simpa using hs, ?_⟩
      · rw [← List.reverse_reverse before, hbefore]
        simp
      · rw [← hcount, List.reverse_reverse]
        exact hnear
    · rintro ⟨hsound, earlier, since, rfl, hs, hnear⟩
      refine ⟨hsound, since.reverse, earlier.reverse, by simp, by simpa using hs, ?_⟩
      rw [hcount]
      exact hnear

end AreaCache

end Realm
