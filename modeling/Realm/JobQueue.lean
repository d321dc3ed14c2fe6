/-
  Realm.JobQueue — jobs that wait for their turn and are done one at a time.

  Jobs wait in one line; anyone may put one at either end while the queue is running.  A job may have a
  deadline: one that is taken after it is dropped undone.  A job is taken and settled in two moves, so
  that other moves may fall in between.  Every job that was accepted is waiting, in hand, done, or
  dropped, and nothing else.
-/
namespace Realm

/-! ## §1. Jobs and phases. -/

/-- A job, and the moment after which it is not worth doing. -/
structure Job where
  id : Nat
  deadline : Option Nat := none
deriving Repr, DecidableEq

namespace Job

/-- Whether a moment is past the deadline. -/
def isLate (j : Job) (now : Nat) : Bool :=
  match j.deadline with
  | some d => d < now
  | none => false

/-- The same job, to be done at any time. -/
def withoutDeadline (j : Job) : Job := { j with deadline := none }

end Job

/-- What a queue still does: accept jobs and do them, only do them, or nothing. -/
inductive JobQueue.Phase
  | running
  | closing
  | terminated
deriving Repr, DecidableEq

/-- A queue: the jobs that wait, the one that was taken and is not settled, and those that were done or
    dropped, newest first. -/
structure JobQueue where
  phase : JobQueue.Phase := .running
  waiting : List Job := []
  inHand : Option Job := none
  finished : List Job := []
  dropped : List Job := []
  /-- Whether somebody does the jobs as they come. -/
  hasWorker : Bool := false
deriving Repr, DecidableEq

namespace JobQueue

/-! ## §2. Single moves. -/

/-- How many jobs were done. -/
def executed (q : JobQueue) : Nat := q.finished.length

/-- How many jobs were dropped. -/
def expired (q : JobQueue) : Nat := q.dropped.length

/-- The jobs that were done, in the order they were done. -/
def history (q : JobQueue) : List Job := q.finished.reverse

/-- Puts a job at the front or at the back of those that wait. -/
def enqueue (j : Job) (front : Bool) (jobs : List Job) : List Job :=
  if front then j :: jobs else jobs ++ [j]

/-- **Adds a job.**  The answer says whether it was accepted, which only a running queue does. -/
def add (q : JobQueue) (j : Job) (front : Bool) : Bool × JobQueue :=
  match q.phase with
  | .running => (true, { q with waiting := enqueue j front q.waiting })
  | _ => (false, q)

/-- Accepts no more jobs. -/
def stop (q : JobQueue) : JobQueue :=
  match q.phase with
  | .running => { q with phase := .closing }
  | _ => q

/-- The worker takes nothing any more. -/
def terminate (q : JobQueue) : JobQueue := { q with phase := .terminated }

/-- Takes the first job that waits, unless one is in hand already. -/
def take (q : JobQueue) : JobQueue :=
  match q.inHand, q.waiting with
  | none, j :: rest => { q with inHand := some j, waiting := rest }
  | _, _ => q

/-- The worker's take; it takes nothing from a queue that is terminated. -/
def workerTake (q : JobQueue) : JobQueue := if q.phase = .terminated then q else q.take

/-- A job was done. -/
def finish (q : JobQueue) (j : Job) : JobQueue := { q with finished := j :: q.finished }

/-- A job was given up. -/
def drop (q : JobQueue) (j : Job) : JobQueue := { q with dropped := j :: q.dropped }

/-- **Settles the job in hand:** it is done, or dropped when it is late. -/
def settle (q : JobQueue) (now : Nat) : JobQueue :=
  match q.inHand with
  | none => q
  | some j =>
    let q := { q with inHand := none }
    if j.isLate now then q.drop j else q.finish j

/-- Does all jobs that wait, late or not. -/
def flush (q : JobQueue) : JobQueue :=
  q.waiting.foldl finish { q with waiting := [] }

/-- The worker leaves, and all jobs that still wait are done. -/
def close (q : JobQueue) : JobQueue := { q.flush with hasWorker := false }

/-! ## §3. Moves in any order. -/

/-- One move of those that share a queue: of anyone who adds jobs, of the one who does them, or of the one
    who shuts down. -/
inductive Move
  | add (j : Job) (front : Bool)
  | stop
  /-- Somebody who does the jobs on the spot takes one. -/
  | take
  /-- The worker takes one. -/
  | workerTake
  /-- The job in hand is settled; the moment is the one at which its deadline was looked at. -/
  | settle (now : Nat)
  /-- A shutdown begins. -/
  | terminate
  /-- A shutdown ends. -/
  | close
deriving Repr, DecidableEq

/-- **The queue after a move.**  A shutdown waits for the worker: it cannot end while a job is in hand, and
    nobody else moves while it does what is left. -/
def apply (q : JobQueue) : Move → JobQueue
  | .add j front => (q.add j front).2
  | .stop => q.stop
  | .take => q.take
  | .workerTake => q.workerTake
  | .settle now => q.settle now
  | .terminate => q.terminate
  | .close => if q.phase = .terminated ∧ q.inHand = none then q.close else q

/-- The queue after many moves. -/
def applyAll (q : JobQueue) (moves : List Move) : JobQueue := moves.foldl apply q

/-! ## §4. Whole drains. -/

/-- Takes and settles jobs, in so many turns.  With nothing in hand, as many turns as jobs wait are enough for
    all of them; a job that is in hand already takes up the first one. -/
def turns (now : Nat) : Nat → JobQueue → JobQueue
  | 0, q => q
  | n + 1, q => turns now n (q.take.settle now)

/-- **Does what waits.**  The answer is the number of jobs that were done. -/
def runPending (q : JobQueue) (now : Nat) : Nat × JobQueue :=
  let after := turns now q.waiting.length q
  (after.executed - q.executed, after)

/-- Lets a worker do the jobs that wait, if there is one and it may. -/
def work (q : JobQueue) (now : Nat) : JobQueue :=
  if q.hasWorker ∧ q.phase ≠ .terminated then (q.runPending now).2 else q

/-- A worker begins, unless there is one. -/
def start (q : JobQueue) : JobQueue := { q with hasWorker := true }

/-- **Shuts down:** the worker settles what it has in hand and leaves, and all jobs that still wait are
    done.  The answer is their number. -/
def shutdown (q : JobQueue) (now : Nat) : Nat × JobQueue :=
  let q := q.terminate.settle now
  (q.waiting.length, q.close)

end JobQueue

end Realm
