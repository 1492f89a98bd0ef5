import GuestBridge.Proofs.Removal
import Mathlib.Logic.Relation
import Mathlib.Tactic.Common

/-!
# Steps at a shared queue

Producers, blocking waits, tasks and other consumers share one event queue. What one of them does
under one of the queue's two locks is a step, and the steps of different ones mix in any order. So a
post is two steps, and a waiter looks at the queue in one and goes to sleep in another.

A blocking wait looks at the queue when it is entered. From then on it goes round: it records the
generation, looks at the queue, yields if that is empty, and blocks if the generation is still the
same. A task starts by recording the generation and looks at the queue; if it misses an event there,
it polls the signal, which parks its waker unless the generation has passed.
-/

namespace GuestBridge.Proofs

/-! ### The shared queue and those at it -/

/-- A producer that has pushed an event has still to tell the waiters of it. -/
inductive Producer where
  | idle
  | pushed
deriving DecidableEq, Repr

/-- What a thread in a blocking wait, up to `blocked`, or a task, from `starting` on, is about to do. It
comes with the generation that it recorded, and `parked` with whether the waker was woken since. -/
inductive Waiter where
  | away
  | entered
  | looping
  | watching (since : UInt64)
  | yielding (since : UInt64)
  | blocked (since : UInt64)
  | starting (goal : Goal)
  | looking (goal : Goal) (since : UInt64)
  | missed (goal : Goal) (since : UInt64)
  | parked (goal : Goal) (since : UInt64) (waker : Waker) (woken : Bool)
deriving DecidableEq, Repr

namespace Waiter

def recorded? : Waiter → Option UInt64
  | away | entered | looping | starting _ => none
  | watching g | yielding g | blocked g | looking _ g | missed _ g | parked _ g _ _ => some g

/-- The generation that was recorded before the queue was found empty. -/
def foundEmpty? : Waiter → Option UInt64
  | yielding g | blocked g | missed _ g | parked _ g _ _ => some g
  | _ => none

/-- A blocked thread, or a pending task whose waker was not woken since it was parked. -/
def Asleep : Waiter → Prop
  | blocked _ | parked _ _ _ false => True
  | _ => False

/-- A notification sends blocked threads back to comparing the generation and wakes tasks. -/
def notified (woken : List Waker) : Waiter → Waiter
  | blocked g => yielding g
  | parked goal g w done => parked goal g w (done || decide (w ∈ woken))
  | other => other

end Waiter

structure System (α : Type) where
  queue : EventQueue α
  producers : Nat → Producer
  waiters : Nat → Waiter

namespace System

variable {α : Type}

def initial : System α := ⟨.empty, fun _ => .idle, fun _ => .away⟩

def setWaiter (s : System α) (i : Nat) (w : Waiter) : System α :=
  { s with waiters := Function.update s.waiters i w }

def notify (s : System α) : System α :=
  { s with queue := s.queue.notify.2, waiters := fun i => (s.waiters i).notified s.queue.notify.1 }

end System

variable {α : Type}

def compared (q : EventQueue α) (since : UInt64) : Waiter :=
  if q.signal.passed since then .looping else .blocked since

def polled (q : EventQueue α) (goal : Goal) (since : UInt64) (w : Waker) : Waiter :=
  if (q.signal.poll since w).1 then .starting goal else .parked goal since w false

def afterPoll (q : EventQueue α) (since : UInt64) (w : Waker) : EventQueue α :=
  { q with signal := (q.signal.poll since w).2 }

/-- The steps that are no notification. A thread may stir without reason, a pending task may be polled
again at any time and with another waker, and a dropped one leaves its waker parked. The step
`pollSignal` is that of a task that waits for a notification only. -/
inductive Step : System α → System α → Prop where
  | push (s : System α) (i : Nat) (a : α) (h : s.producers i = .idle) :
    Step s { s with queue := s.queue.push a, producers := Function.update s.producers i .pushed }
  | poll (s : System α) : Step s { s with queue := s.queue.poll.2 }
  | pollWith {β ε : Type} (s : System α) (f : α → Except ε β) : Step s { s with queue := (s.queue.pollWith f).2 }
  | drain (s : System α) : Step s { s with queue := s.queue.drain.2 }
  | pollSignal (s : System α) (since : UInt64) (w : Waker) : Step s { s with queue := afterPoll s.queue since w }
  | enter (s : System α) (i : Nat) (h : s.waiters i = .away) : Step s (s.setWaiter i .entered)
  | peek (s : System α) (i : Nat) (h : s.waiters i = .entered) :
    Step s (s.setWaiter i (if s.queue.isReady then .away else .looping))
  | watch (s : System α) (i : Nat) (h : s.waiters i = .looping) :
    Step s (s.setWaiter i (.watching s.queue.signal.generation))
  | test (s : System α) (i : Nat) (g : UInt64) (h : s.waiters i = .watching g) :
    Step s (s.setWaiter i (if s.queue.isReady then .away else .yielding g))
  | compare (s : System α) (i : Nat) (g : UInt64) (h : s.waiters i = .yielding g) :
    Step s (s.setWaiter i (compared s.queue g))
  | stir (s : System α) (i : Nat) (g : UInt64) (h : s.waiters i = .blocked g) : Step s (s.setWaiter i (.yielding g))
  | create (s : System α) (i : Nat) (goal : Goal) (h : s.waiters i = .away) : Step s (s.setWaiter i (.starting goal))
  | record (s : System α) (i : Nat) (goal : Goal) (h : s.waiters i = .starting goal) :
    Step s (s.setWaiter i (.looking goal s.queue.signal.generation))
  | miss (s : System α) (i : Nat) (goal : Goal) (g : UInt64) (h : s.waiters i = .looking goal g)
    (hmiss : Task.attempt goal s.queue = none) : Step s (s.setWaiter i (.missed goal g))
  | hit (s : System α) (i : Nat) (goal : Goal) (g : UInt64) (h : s.waiters i = .looking goal g)
    (output : goal.Output α) (q : EventQueue α) (hhit : Task.attempt goal s.queue = some (output, q)) :
    Step s { s.setWaiter i .away with queue := q }
  | await (s : System α) (i : Nat) (goal : Goal) (g : UInt64) (w : Waker) (h : s.waiters i = .missed goal g) :
    Step s { s.setWaiter i (polled s.queue goal g w) with queue := afterPoll s.queue g w }
  | repoll (s : System α) (i : Nat) (goal : Goal) (g : UInt64) (v w : Waker) (woken : Bool)
    (h : s.waiters i = .parked goal g v woken) :
    Step s { s.setWaiter i (polled s.queue goal g w) with queue := afterPoll s.queue g w }
  | drop (s : System α) (i : Nat) (goal : Goal)
    (h : s.waiters i = .starting goal ∨ ∃ g w woken, s.waiters i = .parked goal g w woken) :
    Step s (s.setWaiter i .away)

/-- The second half of a post, or a notification without an event. -/
inductive Notification : System α → System α → Prop where
  | tell (s : System α) (i : Nat) (h : s.producers i = .pushed) :
    Notification s { s.notify with producers := Function.update s.producers i .idle }
  | bare (s : System α) : Notification s s.notify

/-- Reached from an empty queue with everyone idle by any steps in any order, `n` of them
notifications. -/
inductive Reachable : Nat → System α → Prop where
  | start : Reachable 0 .initial
  | step {n : Nat} {s t : System α} : Reachable n s → Step s t → Reachable n t
  | notify {n : Nat} {s t : System α} : Reachable n s → Notification s t → Reachable (n + 1) t

/-! ### Uninterrupted calls are runs of steps -/

namespace Waiter

/-- The task of the queue that a waiter is between its polls. -/
def task? : Waiter → Option Task
  | starting goal => some (.fresh goal)
  | parked goal g _ _ => some (.waiting goal g)
  | _ => none

/-- What a task has become after a poll with the waker. -/
def ofOutcome {β : Type} (w : Waker) : Task.Outcome β → Waiter
  | .pending (.fresh goal) => starting goal
  | .pending (.waiting goal g) => parked goal g w false
  | .pending (.notified _) | .ready _ => away

end Waiter

abbrev Steps : System α → System α → Prop := Relation.ReflTransGen Step

lemma Reachable.steps {n : Nat} {s t : System α} (hs : Reachable n s) (h : Steps s t) : Reachable n t := by
  induction h with
  | refl => exact hs
  | tail _ hstep ih => exact .step ih hstep

@[simp] lemma setWaiter_waiters_self (s : System α) (i : Nat) (w : Waiter) : (s.setWaiter i w).waiters i = w := by
  dsimp only [System.setWaiter]
  rw [Function.update_self]

@[simp] lemma setWaiter_setWaiter (s : System α) (i : Nat) (v w : Waiter) :
    (s.setWaiter i v).setWaiter i w = s.setWaiter i w := by
  unfold System.setWaiter
  rw [Function.update_idem]

/-- A post is a push and the notification that tells of it. -/
theorem steps_post (s : System α) (i : Nat) (a : α) (h : s.producers i = .idle) :
    ∃ t, Step s t ∧ Notification t
      { s with
        queue := (s.queue.post a).2
        waiters := fun j => (s.waiters j).notified (s.queue.post a).1 } := by
  refine ⟨_, .push s i a h, ?_⟩
  have hpushed : Function.update s.producers i .pushed i = .pushed := Function.update_self i _ _
  have htold := Notification.tell
    { s with queue := s.queue.push a, producers := Function.update s.producers i .pushed } i hpushed
  have hidle : Function.update (Function.update s.producers i .pushed) i .idle = s.producers := by
    rw [Function.update_idem, ← h, Function.update_eq_self]
  dsimp only [System.notify] at htold
  rw [hidle] at htold
  exact htold

/-- A blocking wait for an empty queue blocks. -/
theorem steps_wait (s : System α) (i : Nat) (h : s.waiters i = .away) (hempty : s.queue.isReady = false) :
    Steps s (s.setWaiter i (.blocked s.queue.signal.generation)) := by
  have hcompared : compared s.queue s.queue.signal.generation = .blocked s.queue.signal.generation := by
    unfold compared
    rw [passed_generation, if_neg Bool.false_ne_true]
  have hready : ∀ w, (s.setWaiter i w).queue.isReady = false := fun _ => hempty
  have h1 := Step.enter s i h
  have h2 := Step.peek _ i (setWaiter_waiters_self s i .entered)
  have h3 := Step.watch _ i (setWaiter_waiters_self s i .looping)
  have h4 := Step.test _ i _ (setWaiter_waiters_self s i (.watching s.queue.signal.generation))
  have h5 := Step.compare _ i _ (setWaiter_waiters_self s i (.yielding s.queue.signal.generation))
  rw [setWaiter_setWaiter, hready, if_neg Bool.false_ne_true] at h2 h4
  rw [setWaiter_setWaiter] at h3
  rw [setWaiter_setWaiter, show compared (s.setWaiter i _).queue _ = _ from hcompared] at h5
  exact ((((Relation.ReflTransGen.single h1).tail h2).tail h3).tail h4).tail h5

lemma steps_look (s : System α) (i : Nat) (goal : Goal) (w : Waker) (h : s.waiters i = .starting goal) :
    Steps s
      { s.setWaiter i (.ofOutcome w (Task.look goal s.queue w).1) with
        queue := (Task.look goal s.queue w).2 } := by
  have h1 := Step.record s i goal h
  have hlooking := setWaiter_waiters_self s i (.looking goal s.queue.signal.generation)
  unfold Task.look
  cases hattempt : Task.attempt goal s.queue with
  | some found =>
    have h2 := Step.hit _ i goal _ hlooking found.1 found.2 hattempt
    rw [setWaiter_setWaiter] at h2
    exact (Relation.ReflTransGen.single h1).tail h2
  | none =>
    have h2 := Step.miss _ i goal _ hlooking hattempt
    have hmissed := setWaiter_waiters_self s i (.missed goal s.queue.signal.generation)
    have h3 := Step.await _ i goal _ w hmissed
    unfold polled afterPoll at h3
    rw [setWaiter_setWaiter] at h2 h3
    have hpoll : (s.setWaiter i (.missed goal s.queue.signal.generation)).queue.signal.poll
        s.queue.signal.generation w = (false, s.queue.signal.park w) :=
      poll_of_not_passed w (passed_generation s.queue.signal)
    rw [hpoll] at h3
    exact ((Relation.ReflTransGen.single h1).tail h2).tail h3

/-- A poll of a task, woken or not. -/
theorem steps_poll (s : System α) (i : Nat) (t : Task) (w : Waker) (h : (s.waiters i).task? = some t) :
    Steps s
      { s.setWaiter i (.ofOutcome w (t.poll s.queue w).1) with queue := (t.poll s.queue w).2 } := by
  cases hw : s.waiters i with
  | starting goal =>
    rw [hw] at h
    cases h
    exact steps_look s i goal w hw
  | parked goal g v woken =>
    rw [hw] at h
    cases h
    have h1 := Step.repoll s i goal g v w woken hw
    unfold Task.poll
    dsimp only
    unfold polled afterPoll at h1
    cases hpassed : s.queue.signal.passed g with
    | true =>
      rw [poll_of_passed w hpassed] at h1
      have h2 := steps_look (s.setWaiter i (.starting goal)) i goal w (setWaiter_waiters_self s i _)
      rw [setWaiter_setWaiter] at h2
      exact (Relation.ReflTransGen.single h1).trans h2
    | false =>
      rw [poll_of_not_passed w hpassed] at h1
      exact Relation.ReflTransGen.single h1
  | _ =>
    rw [hw] at h
    cases h

end GuestBridge.Proofs
