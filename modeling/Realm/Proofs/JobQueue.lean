/-
  Realm.Proofs.JobQueue — no job is lost, and none is done twice.

  Those who share a queue move in any order.  A move lets a job into the line, takes one out, settles the
  one in hand, or does what a shutdown leaves; that is all it can do, and books are kept of it: what
  entered, what left the line, and what was settled at which moment.  The books add up after every move,
  whoever made it.

  Main statements:
  * `effect_apply` — what a move can do;
  * `perm_jobs_applyAll` — whatever the moves, a queue has the jobs that entered it, and no others;
  * `turns_of_waiting` — a drain with nothing in hand settles all that wait, in order;
  * `accounts` — the books of every run, and how a shutdown closes them.
-/
import Realm.JobQueue

namespace Realm.JobQueue

/-! ## §1. Books. -/

/-- How far a queue has come. -/
def Phase.age : Phase → Nat
  | .running => 0
  | .closing => 1
  | .terminated => 2

/-- The job that a move lets into the line. -/
def entering (q : JobQueue) : Move → List Job
  | .add j front => if (q.add j front).1 then [j] else []
  | _ => []

/-- The jobs that a move takes out of the line, in order: one that was not in hand before, or at the end of
    a shutdown all that wait. -/
def leaving (q : JobQueue) : Move → List Job
  | .take => if q.inHand = none then (q.apply .take).inHand.toList else []
  | .workerTake => if q.inHand = none then (q.apply .workerTake).inHand.toList else []
  | .close => if q.phase = .terminated ∧ q.inHand = none then q.waiting else []
  | _ => []

/-- The job that a move settles, and the moment. -/
def settling (q : JobQueue) : Move → List (Job × Nat)
  | .settle now => q.inHand.toList.map (·, now)
  | _ => []

/-- What comes together along a run of moves. -/
def collect {α : Type} (f : JobQueue → Move → List α) : JobQueue → List Move → List α
  | _, [] => []
  | q, m :: later => f q m ++ collect f (q.apply m) later

/-- All the jobs that a queue has, or had: done, dropped, waiting or in hand. -/
def jobs (q : JobQueue) : List Job := q.history ++ q.dropped ++ q.waiting ++ q.inHand.toList

/-- The jobs that were settled in time. -/
def inTime (settled : List (Job × Nat)) : List Job :=
  (settled.filter fun s => !s.1.isLate s.2).map Prod.fst

/-- The jobs that were settled late. -/
def tooLate (settled : List (Job × Nat)) : List Job :=
  (settled.filter fun s => s.1.isLate s.2).map Prod.fst

/-! ## §2. What a move can do. -/

/-- **What a move does:** to the queue, and to the books. -/
inductive Effect (q : JobQueue) :
    Move → JobQueue → List Job → List Job → List (Job × Nat) → Prop
  | idle (m : Move) (phase : Phase) (h : q.phase.age ≤ phase.age) :
      Effect q m { q with phase } [] [] []
  | enter (j : Job) (front : Bool) (h : q.phase = .running) :
      Effect q (.add j front) { q with waiting := enqueue j front q.waiting } [j] [] []
  | take (m : Move) (j : Job) (rest : List Job) (hm : m ≠ .close) (hhand : q.inHand = none)
      (hline : q.waiting = j :: rest) :
      Effect q m { q with inHand := some j, waiting := rest } [] [j] []
  | drop (now : Nat) (j : Job) (hhand : q.inHand = some j) (hlate : j.isLate now = true) :
      Effect q (.settle now) { q with inHand := none, dropped := j :: q.dropped } [] [] [(j, now)]
  | finish (now : Nat) (j : Job) (hhand : q.inHand = some j) (hlate : j.isLate now = false) :
      Effect q (.settle now) { q with inHand := none, finished := j :: q.finished } [] [] [(j, now)]
  | close (hphase : q.phase = .terminated) (hhand : q.inHand = none) :
      Effect q .close q.close [] q.waiting []

theorem take_of_inHand {q : JobQueue} {j : Job} (h : q.inHand = some j) : q.take = q := by
  unfold take
  rw [h]

theorem take_of_waiting {q : JobQueue} {j : Job} {rest : List Job} (hhand : q.inHand = none)
    (hline : q.waiting = j :: rest) : q.take = { q with inHand := some j, waiting := rest } := by
  unfold take
  rw [hhand, hline]

theorem take_of_empty {q : JobQueue} (h : q.waiting = []) : q.take = q := by
  unfold take
  rw [h]
  cases q.inHand <;> rfl

/-- A move that takes. -/
theorem effect_take (q : JobQueue) (m : Move) (hm : m ≠ .close) :
    Effect q m q.take [] (if q.inHand = none then q.take.inHand.toList else []) [] := by
  cases hhand : q.inHand with
  | some j =>
    rw [take_of_inHand hhand, if_neg (Option.some_ne_none j)]
    exact .idle m q.phase (Nat.le_refl _)
  | none =>
    rw [if_pos rfl]
    cases hline : q.waiting with
    | nil =>
      rw [take_of_empty hline, hhand]
      exact .idle m q.phase (Nat.le_refl _)
    | cons j rest =>
      rw [take_of_waiting hhand hline]
      exact .take m j rest hm hhand hline

/-- **What a move can do.** -/
theorem effect_apply (q : JobQueue) (m : Move) :
    Effect q m (q.apply m) (q.entering m) (q.leaving m) (q.settling m) := by
  have hidle : ∀ m, Effect q m q [] [] [] := fun m => .idle m q.phase (Nat.le_refl _)
  cases m with
  | add j front =>
    show Effect q _ (q.add j front).2 (if (q.add j front).1 then [j] else []) [] []
    unfold JobQueue.add
    split
    · exact .enter j front ‹_›
    · exact hidle _
  | stop =>
    show Effect q _ q.stop [] [] []
    unfold JobQueue.stop
    split
    · rename_i hphase
      refine .idle _ .closing ?_
      rw [hphase]
      exact Nat.zero_le _
    · exact hidle _
  | take => exact effect_take q .take nofun
  | workerTake =>
    show Effect q _ q.workerTake [] (if q.inHand = none then q.workerTake.inHand.toList else []) []
    unfold workerTake
    split
    · -- the worker takes nothing any more
      have hnone : (if q.inHand = none then q.inHand.toList else []) = [] := by
        cases q.inHand <;> simp
      rw [hnone]
      exact hidle _
    · exact effect_take q .workerTake nofun
  | settle now =>
    show Effect q _ (q.settle now) [] [] (q.inHand.toList.map (·, now))
    unfold JobQueue.settle
    cases hhand : q.inHand with
    | none => exact hidle _
    | some j =>
      dsimp only
      split
      · exact .drop now j hhand ‹_›
      · exact .finish now j hhand (Bool.eq_false_iff.2 ‹_›)
  | terminate =>
    refine .idle _ .terminated ?_
    cases q.phase <;> decide
  | close =>
    show Effect q _ (if q.phase = .terminated ∧ q.inHand = none then q.close else q) []
      (if q.phase = .terminated ∧ q.inHand = none then q.waiting else []) []
    split
    · rename_i h
      exact .close h.1 h.2
    · exact hidle _

/-- Jobs that are done one after the other. -/
theorem foldl_finish (js : List Job) (q : JobQueue) :
    js.foldl finish q = { q with finished := js.reverse ++ q.finished } := by
  induction js generalizing q with
  | nil => rfl
  | cons j js ih =>
    rw [List.foldl_cons, ih, List.reverse_cons, List.append_assoc]
    rfl

theorem close_eq (q : JobQueue) :
    q.close
      = { q with waiting := [], finished := q.waiting.reverse ++ q.finished, hasWorker := false } := by
  show ({ q.waiting.foldl finish { q with waiting := [] } with hasWorker := false } : JobQueue) = _
  rw [foldl_finish]

/-- **What is left is done** in the order in which it waits. -/
theorem history_close (q : JobQueue) : q.close.history = q.history ++ q.waiting := by
  rw [history, close_eq, List.reverse_append, List.reverse_reverse]
  rfl

section

variable {q q' : JobQueue} {m : Move} {entered left : List Job} {settled : List (Job × Nat)}

/-! ## §3. What every move keeps. -/

/-- A queue only grows older. -/
theorem Effect.age_le (h : Effect q m q' entered left settled) : q.phase.age ≤ q'.phase.age := by
  cases h with
  | idle _ phase h => exact h
  | close =>
    have hphase : q.close.phase = q.phase := by rw [close_eq]
    exact Nat.le_of_eq (congrArg Phase.age hphase.symm)
  | _ => exact Nat.le_refl _

/-- **A job enters** a running queue only. -/
theorem Effect.running (h : Effect q m q' entered left settled) (hentered : entered ≠ []) :
    q.phase = .running := by
  cases h with
  | enter j front h => exact h
  | _ => exact absurd rfl hentered

theorem perm_enqueue (j : Job) (front : Bool) (js : List Job) :
    (enqueue j front js).Perm (js ++ [j]) := by
  cases front with
  | true => exact (List.perm_append_singleton j js).symm
  | false => exact .refl _

/-- **No move loses a job,** makes one up, or has one twice. -/
theorem Effect.perm_jobs (h : Effect q m q' entered left settled) :
    q'.jobs.Perm (q.jobs ++ entered) := by
  -- places are counted, not order
  rw [List.perm_iff_count]
  intro a
  cases h with
  | idle _ phase h => simp [jobs, history]
  | enter j front h =>
    have hline := (perm_enqueue j front q.waiting).count_eq a
    simp only [jobs, history, List.count_append] at hline ⊢
    omega
  | take _ j rest hm hhand hline =>
    simp only [jobs, history, hhand, hline, Option.toList, List.count_append, List.count_cons,
      List.count_nil]
    omega
  | drop now j hhand hlate =>
    simp only [jobs, history, hhand, Option.toList, List.count_append, List.count_cons,
      List.count_nil]
    omega
  | finish now j hhand hlate =>
    simp only [jobs, history, hhand, Option.toList, List.count_append, List.count_cons,
      List.count_nil, List.reverse_cons]
    omega
  | close hphase hhand =>
    simp only [jobs, history_close, List.count_append]
    simp only [close_eq, hhand, Option.toList, List.count_nil]
    omega

/-- **The line moves at its front:** of the jobs that wait, the first ones leave in order, and the others
    stay in order. -/
theorem Effect.in_order (h : Effect q m q' entered left settled) :
    ∃ gone staying, q.waiting = gone ++ staying ∧ gone.Sublist left ∧ staying.Sublist q'.waiting := by
  cases h with
  | enter j front h =>
    refine ⟨[], q.waiting, rfl, .slnil, ?_⟩
    cases front with
    | true => exact List.sublist_cons_self j q.waiting
    | false => exact List.sublist_append_left q.waiting [j]
  | take _ j rest hm hhand hline => exact ⟨[j], rest, hline, .refl _, .refl _⟩
  | close => exact ⟨q.waiting, [], (List.append_nil _).symm, .refl _, List.nil_sublist _⟩
  | _ => exact ⟨[], q.waiting, rfl, .slnil, .refl _⟩

/-- **First in, first out,** when nothing goes to the front. -/
theorem Effect.first_in (h : Effect q m q' entered left settled) (hback : ∀ j, m ≠ .add j true) :
    left ++ q'.waiting = q.waiting ++ entered := by
  cases h with
  | enter j front h =>
    cases front with
    | true => exact absurd rfl (hback j)
    | false => rfl
  | take _ j rest hm hhand hline =>
    rw [hline, List.append_nil]
    rfl
  | close => rw [close_eq]
  | _ => exact (List.append_nil _).symm

/-- **What leaves the line is settled,** one after the other, before a shutdown does the rest. -/
theorem Effect.settled_in_turn (h : Effect q m q' entered left settled) (hopen : m ≠ .close) :
    settled.map Prod.fst ++ q'.inHand.toList = q.inHand.toList ++ left := by
  cases h with
  | take _ j rest hm hhand hline =>
    rw [hhand]
    rfl
  | drop now j hhand hlate =>
    rw [hhand]
    rfl
  | finish now j hhand hlate =>
    rw [hhand]
    rfl
  | close => exact absurd rfl hopen
  | _ => exact (List.append_nil _).symm

/-- **What is settled in time is done.** -/
theorem Effect.history_eq (h : Effect q m q' entered left settled) (hopen : m ≠ .close) :
    q'.history = q.history ++ inTime settled := by
  cases h with
  | drop now j hhand hlate =>
    show q.history = _
    simp [inTime, hlate]
  | finish now j hhand hlate =>
    show (j :: q.finished).reverse = _
    simp [history, inTime, hlate]
  | close => exact absurd rfl hopen
  | _ => exact (List.append_nil _).symm

/-- **What is settled late is dropped.** -/
theorem Effect.dropped_eq (h : Effect q m q' entered left settled) (hopen : m ≠ .close) :
    q'.dropped.reverse = q.dropped.reverse ++ tooLate settled := by
  cases h with
  | drop now j hhand hlate =>
    show (j :: q.dropped).reverse = _
    simp [tooLate, hlate]
  | finish now j hhand hlate =>
    show q.dropped.reverse = _
    simp [tooLate, hlate]
  | close => exact absurd rfl hopen
  | _ => exact (List.append_nil _).symm

end

/-! ## §4. What every run keeps. -/

section

variable {q : JobQueue} {moves : List Move}

theorem age_le_applyAll (q : JobQueue) (moves : List Move) :
    q.phase.age ≤ (q.applyAll moves).phase.age := by
  induction moves generalizing q with
  | nil => exact Nat.le_refl _
  | cons m moves ih => exact Nat.le_trans (effect_apply q m).age_le (ih (q.apply m))

theorem terminated_of_age {phase : Phase} (h : Phase.terminated.age ≤ phase.age) :
    phase = .terminated := by
  cases phase with
  | terminated => rfl
  | running => exact absurd h (by decide)
  | closing => exact absurd h (by decide)

/-- **Nothing enters** a queue that is terminated. -/
theorem collect_entering_of_terminated (h : q.phase = .terminated) (moves : List Move) :
    collect entering q moves = [] := by
  induction moves generalizing q with
  | nil => rfl
  | cons m moves ih =>
    have hnext : (q.apply m).phase = .terminated := by
      apply terminated_of_age
      rw [← h]
      exact (effect_apply q m).age_le
    have hnothing : q.entering m = [] := by
      cases hentering : q.entering m with
      | nil => rfl
      | cons j js =>
        have hrunning := (effect_apply q m).running (hentering ▸ List.cons_ne_nil j js)
        rw [h] at hrunning
        cases hrunning
    rw [collect, hnothing, ih hnext]
    rfl

/-- **Every job that entered is in one place:** done, dropped, waiting or in hand. -/
theorem perm_jobs_applyAll (q : JobQueue) (moves : List Move) :
    (q.applyAll moves).jobs.Perm (q.jobs ++ collect entering q moves) := by
  induction moves generalizing q with
  | nil =>
    rw [collect, List.append_nil]
    exact .refl _
  | cons m moves ih =>
    have hfirst := (effect_apply q m).perm_jobs
    rw [collect, ← List.append_assoc]
    exact (ih (q.apply m)).trans (hfirst.append_right _)

/-- **The line in the course of moves:** those who wait leave in order. -/
theorem in_order_applyAll (q : JobQueue) (moves : List Move) :
    ∃ gone staying, q.waiting = gone ++ staying ∧ gone.Sublist (collect leaving q moves)
      ∧ staying.Sublist (q.applyAll moves).waiting := by
  induction moves generalizing q with
  | nil => exact ⟨[], q.waiting, rfl, .slnil, .refl _⟩
  | cons m moves ih =>
    obtain ⟨gone, staying, hline, hgone, hstaying⟩ := (effect_apply q m).in_order
    obtain ⟨gone', staying', hline', hgone', hstaying'⟩ := ih (q.apply m)
    -- of those who stay for this move, some go later
    rw [hline', List.sublist_append_iff] at hstaying
    obtain ⟨later, always, rfl, hlater, halways⟩ := hstaying
    refine ⟨gone ++ later, always, ?_, ?_, halways.trans hstaying'⟩
    · rw [hline, List.append_assoc]
    · exact hgone.append (hlater.trans hgone')

theorem first_in_applyAll (q : JobQueue) (hback : ∀ j, .add j true ∉ moves) :
    collect leaving q moves ++ (q.applyAll moves).waiting
      = q.waiting ++ collect entering q moves := by
  induction moves generalizing q with
  | nil => exact (List.append_nil _).symm
  | cons m moves ih =>
    have hfirst := (effect_apply q m).first_in fun j hj => hback j (hj ▸ List.mem_cons_self)
    have hrest := ih (q.apply m) fun j hj => hback j (List.mem_cons_of_mem m hj)
    show q.leaving m ++ collect leaving (q.apply m) moves ++ ((q.apply m).applyAll moves).waiting
      = q.waiting ++ (q.entering m ++ collect entering (q.apply m) moves)
    rw [List.append_assoc, hrest, ← List.append_assoc, hfirst, List.append_assoc]

theorem settled_in_turn_applyAll (q : JobQueue) (hopen : .close ∉ moves) :
    (collect settling q moves).map Prod.fst ++ (q.applyAll moves).inHand.toList
      = q.inHand.toList ++ collect leaving q moves := by
  induction moves generalizing q with
  | nil => exact (List.append_nil _).symm
  | cons m moves ih =>
    rw [List.mem_cons, not_or] at hopen
    have hfirst := (effect_apply q m).settled_in_turn fun hm => hopen.1 hm.symm
    have hrest := ih (q.apply m) hopen.2
    show (q.settling m ++ collect settling (q.apply m) moves).map Prod.fst
        ++ ((q.apply m).applyAll moves).inHand.toList
      = q.inHand.toList ++ (q.leaving m ++ collect leaving (q.apply m) moves)
    rw [List.map_append, List.append_assoc, hrest, ← List.append_assoc, hfirst, List.append_assoc]

theorem inTime_append (s s' : List (Job × Nat)) : inTime (s ++ s') = inTime s ++ inTime s' := by
  rw [inTime, List.filter_append, List.map_append]
  rfl

theorem tooLate_append (s s' : List (Job × Nat)) : tooLate (s ++ s') = tooLate s ++ tooLate s' := by
  rw [tooLate, List.filter_append, List.map_append]
  rfl

theorem history_applyAll (q : JobQueue) (hopen : .close ∉ moves) :
    (q.applyAll moves).history = q.history ++ inTime (collect settling q moves) := by
  induction moves generalizing q with
  | nil => exact (List.append_nil _).symm
  | cons m moves ih =>
    rw [List.mem_cons, not_or] at hopen
    have hfirst := (effect_apply q m).history_eq fun hm => hopen.1 hm.symm
    show ((q.apply m).applyAll moves).history = _
    rw [ih (q.apply m) hopen.2, hfirst, collect, inTime_append, List.append_assoc]

theorem dropped_applyAll (q : JobQueue) (hopen : .close ∉ moves) :
    (q.applyAll moves).dropped.reverse = q.dropped.reverse ++ tooLate (collect settling q moves) := by
  induction moves generalizing q with
  | nil => exact (List.append_nil _).symm
  | cons m moves ih =>
    rw [List.mem_cons, not_or] at hopen
    have hfirst := (effect_apply q m).dropped_eq fun hm => hopen.1 hm.symm
    show ((q.apply m).applyAll moves).dropped.reverse = _
    rw [ih (q.apply m) hopen.2, hfirst, collect, tooLate_append, List.append_assoc]

end

/-! ## §5. Whole drains. -/

theorem inHand_settle (q : JobQueue) (now : Nat) : (q.settle now).inHand = none := by
  unfold settle
  split
  · assumption
  · dsimp only
    split <;> rfl

theorem phase_settle (q : JobQueue) (now : Nat) : (q.settle now).phase = q.phase := by
  unfold settle
  split
  · rfl
  · dsimp only
    split <;> rfl

/-- **One turn,** when nothing is in hand: the first job in line is done, or dropped when it is late. -/
theorem settle_take {q : JobQueue} {j : Job} {rest : List Job} (hhand : q.inHand = none)
    (hline : q.waiting = j :: rest) (now : Nat) :
    q.take.settle now = if j.isLate now then { q with waiting := rest, dropped := j :: q.dropped }
      else { q with waiting := rest, finished := j :: q.finished } := by
  rw [take_of_waiting hhand hline]
  -- the hand is empty again, as it was
  show (if j.isLate now then drop { q with inHand := none, waiting := rest } j
    else finish { q with inHand := none, waiting := rest } j) = _
  rw [← hhand]
  rfl

/-- **As many turns as jobs wait** settle all of them, in order. -/
theorem turns_of_waiting (now : Nat) {js : List Job} {q : JobQueue} (hhand : q.inHand = none)
    (hline : q.waiting = js) :
    turns now js.length q = { q with
      waiting := []
      finished := (js.filter fun j => !j.isLate now).reverse ++ q.finished
      dropped := (js.filter fun j => j.isLate now).reverse ++ q.dropped } := by
  induction js generalizing q with
  | nil =>
    show q = { q with waiting := [] }
    rw [← hline]
  | cons j rest ih =>
    rw [List.length_cons, turns, settle_take hhand hline]
    cases hlate : j.isLate now with
    | true =>
      have hrest := ih (q := { q with waiting := rest, dropped := j :: q.dropped }) hhand rfl
      rw [if_pos rfl, hrest]
      simp [hlate]
    | false =>
      have hrest := ih (q := { q with waiting := rest, finished := j :: q.finished }) hhand rfl
      rw [if_neg Bool.false_ne_true, hrest]
      simp [hlate]

theorem executed_le_settle (q : JobQueue) (now : Nat) : q.executed ≤ (q.settle now).executed := by
  unfold settle
  split
  · exact Nat.le_refl _
  · dsimp only
    split
    · exact Nat.le_refl _
    · exact Nat.le_succ _

theorem executed_take (q : JobQueue) : q.take.executed = q.executed := by
  unfold take
  split <;> rfl

theorem executed_le_turns (now n : Nat) (q : JobQueue) : q.executed ≤ (turns now n q).executed := by
  induction n generalizing q with
  | zero => exact Nat.le_refl _
  | succ n ih =>
    have hturn := executed_le_settle q.take now
    rw [executed_take] at hturn
    exact Nat.le_trans hturn (ih _)

/-- **The answer of a drain** is the number of jobs that were done. -/
theorem executed_runPending (q : JobQueue) (now : Nat) :
    (q.runPending now).2.executed = q.executed + (q.runPending now).1 :=
  (Nat.add_sub_cancel' (executed_le_turns now _ q)).symm

theorem turns_eq (now n : Nat) (q : JobQueue) :
    turns now n q = q.applyAll (List.replicate n [Move.take, .settle now]).flatten := by
  induction n generalizing q with
  | zero => rfl
  | succ n ih =>
    rw [turns, ih, List.replicate_succ, List.flatten_cons]
    rfl

/-- **A shutdown** begins, waits for the worker, and ends. -/
theorem shutdown_eq (q : JobQueue) (now : Nat) :
    (q.shutdown now).2 = q.applyAll [.terminate, .settle now, .close] := by
  have hready : (q.terminate.settle now).phase = .terminated
      ∧ (q.terminate.settle now).inHand = none :=
    ⟨phase_settle q.terminate now, inHand_settle q.terminate now⟩
  show _ = if _ then _ else _
  exact (if_pos hready).symm

/-- **Nothing moves** in a queue that is shut down. -/
theorem applyAll_close {q : JobQueue} (hphase : q.phase = .terminated) (hhand : q.inHand = none)
    (moves : List Move) : q.close.applyAll moves = q.close := by
  have hstill : ∀ m, q.close.apply m = q.close := by
    intro m
    rw [close_eq]
    cases m with
    | add j front => simp [apply, JobQueue.add, hphase]
    | stop => simp [apply, JobQueue.stop, hphase]
    | take => simp [apply, JobQueue.take, hhand]
    | workerTake => simp [apply, JobQueue.workerTake, hphase]
    | settle now => simp [apply, JobQueue.settle, hhand]
    | terminate => simp [apply, JobQueue.terminate, hphase]
    | close => simp [apply, close_eq, hphase, hhand]
  induction moves with
  | nil => rfl
  | cons m moves ih =>
    show (q.close.apply m).applyAll moves = _
    rw [hstill, ih]

/-! ## §6. Accounts. -/

/-- A queue after moves, from its beginning. -/
def run (moves : List Move) : JobQueue := ({} : JobQueue).applyAll moves

theorem run_append (moves later : List Move) : run (moves ++ later) = (run moves).applyAll later :=
  List.foldl_append

/-- What entered the line in the course of moves, in order. -/
def entered (moves : List Move) : List Job := collect entering {} moves

/-- What left the line, in order. -/
def left (moves : List Move) : List Job := collect leaving {} moves

/-- What was settled, in order, with the moments. -/
def settled (moves : List Move) : List (Job × Nat) := collect settling {} moves

/-- **The accounts of a queue** after moves. -/
structure Accounts (moves : List Move) : Prop where
  /-- The phase only goes forward. -/
  forward : ∀ later, (run moves).phase.age ≤ (run (moves ++ later)).phase.age
  /-- A job is accepted if and only if the queue is running. -/
  accepts : ∀ j front, ((run moves).add j front).1 = true ↔ (run moves).phase = .running
  /-- Each job that entered is in exactly one place: done, dropped, waiting or in hand. -/
  conserved : (entered moves).Perm ((run moves).history ++ (run moves).dropped ++ (run moves).waiting
    ++ (run moves).inHand.toList)
  counted : (entered moves).length = (run moves).executed + (run moves).expired
    + (run moves).waiting.length + (run moves).inHand.toList.length
  /-- Those who wait leave in the order in which they wait, whatever comes later. -/
  in_order : ∀ later, ∃ gone staying, (run moves).waiting = gone ++ staying
    ∧ gone.Sublist (collect leaving (run moves) later)
    ∧ staying.Sublist (run (moves ++ later)).waiting
  /-- First in, first out, when nothing went to the front. -/
  first_in : (∀ j, .add j true ∉ moves) → left moves ++ (run moves).waiting = entered moves
  /-- What was taken was settled in that order, but for the job in hand, -/
  in_turn : .close ∉ moves → (settled moves).map Prod.fst ++ (run moves).inHand.toList = left moves
  /-- was done once if it was in time, -/
  done : .close ∉ moves → (run moves).history = inTime (settled moves)
  /-- and dropped if it was late. -/
  dropped : .close ∉ moves → (run moves).dropped.reverse = tooLate (settled moves)
  /-- Doing what waits on the spot is taking and settling, again and again. -/
  drains : ∀ now, ∃ drain, ((run moves).runPending now).2 = run (moves ++ drain)
    ∧ ∀ m ∈ drain, m = .take ∨ m = .settle now
  /-- It answers how many jobs were done. -/
  answers : ∀ now, ((run moves).runPending now).2.executed
    = (run moves).executed + ((run moves).runPending now).1
  /-- With nothing in hand, it leaves nothing waiting: in order, what waits in time is done and what waits
      too long is dropped. -/
  drained : ∀ now, (run moves).inHand = none →
    let before := run moves
    let after := (before.runPending now).2
    after.waiting = [] ∧ after.inHand = none ∧ after.phase = before.phase
    ∧ after.history = before.history ++ before.waiting.filter (fun j => !j.isLate now)
    ∧ after.dropped.reverse = before.dropped.reverse ++ before.waiting.filter (fun j => j.isLate now)
    ∧ (before.runPending now).1 = (before.waiting.filter fun j => !j.isLate now).length
  /-- A shutdown begins, settles what is in hand, and ends; it answers how many jobs it did itself. -/
  shuts_down : ∀ now, (run (moves ++ [.terminate, .settle now])).inHand = none
    ∧ (run moves).shutdown now = ((run (moves ++ [.terminate, .settle now])).waiting.length,
        run (moves ++ [.terminate, .settle now, .close]))
  /-- Whatever others do after it began: once nothing is in hand, it does what waits, in order and in time
      or not, and drops nothing.  Then nothing waits, every job that ever entered is done or dropped, and
      no later move changes that, or lets a job in. -/
  closes : ∀ during, (run (moves ++ .terminate :: during)).inHand = none →
    let before := run (moves ++ .terminate :: during)
    let after := run (moves ++ .terminate :: during ++ [.close])
    after.waiting = [] ∧ after.history = before.history ++ before.waiting
    ∧ after.dropped = before.dropped ∧ after.executed + after.expired = (entered moves).length
    ∧ ∀ later, after.applyAll later = after ∧ collect entering after later = []

/-- **How a drain ends,** when nothing is in hand. -/
theorem runPending_of_inHand {q : JobQueue} (hhand : q.inHand = none) (now : Nat) :
    let after := (q.runPending now).2
    after.waiting = [] ∧ after.inHand = none ∧ after.phase = q.phase
    ∧ after.history = q.history ++ q.waiting.filter (fun j => !j.isLate now)
    ∧ after.dropped.reverse = q.dropped.reverse ++ q.waiting.filter (fun j => j.isLate now)
    ∧ (q.runPending now).1 = (q.waiting.filter fun j => !j.isLate now).length := by
  intro after
  have hafter : after = { q with
      waiting := []
      finished := (q.waiting.filter fun j => !j.isLate now).reverse ++ q.finished
      dropped := (q.waiting.filter fun j => j.isLate now).reverse ++ q.dropped } :=
    turns_of_waiting now hhand rfl
  have hanswer : after.executed = q.executed + (q.runPending now).1 := executed_runPending q now
  rw [hafter] at hanswer ⊢
  refine ⟨rfl, hhand, rfl, ?_, ?_, ?_⟩
  · rw [history, List.reverse_append, List.reverse_reverse]
    rfl
  · rw [List.reverse_append, List.reverse_reverse]
  · rw [executed, executed, List.length_append, List.length_reverse] at hanswer
    omega

theorem phase_terminate (q : JobQueue) (during : List Move) :
    (q.applyAll (.terminate :: during)).phase = .terminated :=
  terminated_of_age (age_le_applyAll q.terminate during)

theorem perm_run (moves : List Move) : (entered moves).Perm (run moves).jobs :=
  (perm_jobs_applyAll {} moves).symm

theorem length_jobs (q : JobQueue) :
    q.jobs.length = q.executed + q.expired + q.waiting.length + q.inHand.toList.length := by
  simp only [jobs, List.length_append, history, List.length_reverse]
  rfl

/-- **How a shutdown ends,** once nothing is in hand. -/
theorem closes_of_inHand (moves during : List Move)
    (hhand : (run (moves ++ .terminate :: during)).inHand = none) :
    let before := run (moves ++ .terminate :: during)
    let after := run (moves ++ .terminate :: during ++ [.close])
    after.waiting = [] ∧ after.history = before.history ++ before.waiting
    ∧ after.dropped = before.dropped ∧ after.executed + after.expired = (entered moves).length
    ∧ ∀ later, after.applyAll later = after ∧ collect entering after later = [] := by
  intro before after
  have hphase : before.phase = .terminated := by
    show (run (moves ++ _)).phase = _
    rw [run_append]
    exact phase_terminate _ _
  have hafter : after = before.close := by
    show run (_ ++ [.close]) = _
    rw [run_append]
    exact if_pos ⟨hphase, hhand⟩
  have hwaiting : after.waiting = [] := by
    rw [hafter, close_eq]
  have hempty : after.inHand = none := by
    rw [hafter, close_eq]
    exact hhand
  -- nothing entered since the shutdown began
  have htotal : (entered moves).length = after.jobs.length := by
    have hperm := perm_jobs_applyAll (run moves) (.terminate :: during ++ [.close])
    have hnothing : collect entering (run moves) (.terminate :: during ++ [.close]) = [] := by
      show collect entering (run moves).terminate (during ++ [.close]) = []
      exact collect_entering_of_terminated rfl _
    rw [hnothing, List.append_nil, ← run_append, ← List.append_assoc] at hperm
    rw [(perm_run moves).length_eq, ← hperm.length_eq]
  refine ⟨hwaiting, ?_, ?_, ?_, fun later => ⟨?_, ?_⟩⟩
  · rw [hafter, history_close]
  · rw [hafter, close_eq]
  · rw [htotal, length_jobs, hwaiting, hempty]
    rfl
  · rw [hafter, applyAll_close hphase hhand]
  · apply collect_entering_of_terminated
    rw [hafter, close_eq]
    exact hphase

/-- **No job is lost, and none is done twice.**  Let anyone add jobs at either end, stop the queue, do jobs
    on the spot or with a worker, and shut down, in any order of single moves: the accounts of the queue
    add up after every one of them. -/
theorem accounts (moves : List Move) : Accounts moves where
  forward later := by
    rw [run_append]
    exact age_le_applyAll _ _
  accepts j front := by
    unfold JobQueue.add
    split
    · rename_i hphase
      simp [hphase]
    · rename_i hphase
      simpa using hphase
  conserved := perm_run moves
  counted := by rw [(perm_run moves).length_eq, length_jobs]
  in_order later := by
    rw [run_append]
    exact in_order_applyAll _ _
  first_in hback := first_in_applyAll {} hback
  in_turn hopen := settled_in_turn_applyAll {} hopen
  done hopen := history_applyAll {} hopen
  dropped hopen := dropped_applyAll {} hopen
  drains now := by
    refine ⟨(List.replicate (run moves).waiting.length [Move.take, .settle now]).flatten, ?_, ?_⟩
    · rw [run_append]
      exact turns_eq now _ _
    · intro m hm
      obtain ⟨turn, hturn, hm⟩ := List.mem_flatten.1 hm
      rw [List.eq_of_mem_replicate hturn] at hm
      simpa using hm
  answers now := executed_runPending _ now
  drained now hhand := runPending_of_inHand hhand now
  shuts_down now := by
    rw [run_append, run_append]
    exact ⟨inHand_settle _ _, Prod.ext rfl (shutdown_eq _ _)⟩
  closes during hhand := closes_of_inHand moves during hhand

/-- One job goes to the front and is too late; one comes after the stop; the shutdown does what is left. -/
example :
    let q := run [.add ⟨1, none⟩ false, .add ⟨2, some 5⟩ true, .take, .settle 9, .stop,
      .add ⟨3, none⟩ false, .terminate, .settle 9, .close]
    q.history = [⟨1, none⟩] ∧ q.dropped = [⟨2, some 5⟩] ∧ q.waiting = [] := by
  decide

end Realm.JobQueue
