import GuestBridge.Events.Task
import Mathlib.Tactic.Common

/-!
# What leaves a queue

A queue that was polled, drained or looked at for a task has its signal as before, and what it gave
away is what stood first in it: the first event by a poll, an accepting callback or a task after its
next event, all events by a drain, and none otherwise.
-/

namespace GuestBridge.Proofs

variable {α : Type}

/-- The second queue is the first one without the events, which stood first in it. -/
structure Removes (q : EventQueue α) (events : List α) (q' : EventQueue α) : Prop where
  signal : q'.signal = q.signal
  pending : events ++ q'.pending = q.pending

lemma removes_nothing (q : EventQueue α) : Removes q [] q := ⟨rfl, rfl⟩

lemma Removes.pending_eq_nil {q q' : EventQueue α} {events : List α} (h : Removes q events q')
    (hq : q.pending = []) : q'.pending = [] := by
  have happend := h.pending
  rw [hq] at happend
  exact (List.append_eq_nil_iff.mp happend).2

lemma removes_poll (q : EventQueue α) : Removes q q.poll.1.toList q.poll.2 := by
  obtain ⟨pending, signal⟩ := q
  cases pending with
  | nil => exact removes_nothing _
  | cons a rest => exact ⟨rfl, rfl⟩

lemma removes_drain (q : EventQueue α) : Removes q q.drain.1 q.drain.2 := ⟨rfl, List.append_nil _⟩

/-- The events that a task with a goal brings along. -/
def goalEvents : (goal : Goal) → goal.Output α → List α
  | .nonempty, _ => []
  | .next, a => [a]

/-- The events that a finished task brings along. -/
def taskEvents : (t : Task) → t.Output α → List α
  | .notified _, _ => []
  | .fresh goal, output | .waiting goal _, output => goalEvents goal output

lemma removes_attempt {goal : Goal} {q q' : EventQueue α} {output : goal.Output α}
    (h : Task.attempt goal q = some (output, q')) : Removes q (goalEvents goal output) q' := by
  obtain ⟨pending, signal⟩ := q
  cases pending with
  | nil => cases h
  | cons a rest =>
    cases goal with
    | nonempty =>
      cases h
      exact removes_nothing _
    | next =>
      cases h
      exact ⟨rfl, rfl⟩

/-- The callback `f`, except that it hands back the event that it was called with. -/
def handBack {β ε : Type} (f : α → Except ε β) (a : α) : Except α α :=
  match f a with
  | .ok _ => .ok a
  | .error _ => .error a

def accepted : Option (Except α α) → List α
  | some (.ok a) => [a]
  | _ => []

lemma removes_pollWith {β ε : Type} (q : EventQueue α) (f : α → Except ε β) :
    Removes q (accepted (q.pollWith (handBack f)).1) (q.pollWith f).2 := by
  obtain ⟨pending, signal⟩ := q
  cases pending with
  | nil => exact removes_nothing _
  | cons a rest =>
    unfold EventQueue.pollWith handBack
    dsimp only
    cases f a with
    | ok c => exact ⟨rfl, rfl⟩
    | error e => exact removes_nothing _

/-! ### Tasks -/

lemma passed_generation (z : Signal) : z.passed z.generation = false := by
  unfold Signal.passed
  exact bne_self_eq_false _

lemma eq_generation_of_not_passed {z : Signal} {g : UInt64} (h : z.passed g = false) : g = z.generation := by
  unfold Signal.passed at h
  exact (bne_eq_false_iff_eq.mp h).symm

lemma poll_of_passed {z : Signal} {g : UInt64} (w : Waker) (h : z.passed g = true) : z.poll g w = (true, z) := by
  unfold Signal.poll
  rw [if_pos h]

lemma poll_of_not_passed {z : Signal} {g : UInt64} (w : Waker) (h : z.passed g = false) :
    z.poll g w = (false, z.park w) := by
  unfold Signal.poll
  rw [h, if_neg Bool.false_ne_true]

/-- The generation after which a task waits for a notification. -/
def sinceOf? : Task → Option UInt64
  | .notified since | .waiting _ since => some since
  | .fresh _ => none

def goalOf? : Task → Option Goal
  | .fresh goal | .waiting goal _ => some goal
  | .notified _ => none

lemma look_of_pending_nil {q : EventQueue α} (goal : Goal) (w : Waker) (h : q.pending = []) :
    Task.look goal q w = (.pending (.waiting goal q.signal.generation), { q with signal := q.signal.park w }) := by
  obtain ⟨pending, signal⟩ := q
  obtain rfl : pending = [] := h
  cases goal <;> rfl

lemma pending_eq_nil_of_attempt {goal : Goal} {q : EventQueue α} (h : Task.attempt goal q = none) :
    q.pending = [] := by
  obtain ⟨pending, signal⟩ := q
  cases pending with
  | nil => rfl
  | cons a rest => cases goal <;> cases h

lemma look_of_pending_cons {q : EventQueue α} (goal : Goal) (w : Waker) (h : q.pending ≠ []) :
    ∃ output q', Task.look goal q w = (.ready output, q') ∧ Removes q (goalEvents goal output) q' := by
  unfold Task.look
  cases hattempt : Task.attempt goal q with
  | some found => exact ⟨found.1, found.2, rfl, removes_attempt hattempt⟩
  | none => exact absurd (pending_eq_nil_of_attempt hattempt) h

/-- A task whose generation is still the present one stays as it is and parks the waker. -/
lemma poll_of_unpassed {t : Task} {q : EventQueue α} (w : Waker) (h : sinceOf? t = some q.signal.generation) :
    t.poll q w = (.pending t, { q with signal := q.signal.park w }) := by
  have hpassed := passed_generation q.signal
  cases t with
  | fresh goal => cases h
  | notified since =>
    obtain rfl : since = q.signal.generation := Option.some.inj h
    simp [Task.poll, poll_of_not_passed w hpassed]
  | waiting goal since =>
    obtain rfl : since = q.signal.generation := Option.some.inj h
    simp [Task.poll, hpassed]

lemma poll_waiting_of_passed {q : EventQueue α} {goal : Goal} {since : UInt64} (w : Waker)
    (h : since ≠ q.signal.generation) : (Task.waiting goal since).poll q w = Task.look goal q w := by
  have hpassed : q.signal.passed since = true := bne_iff_ne.mpr h.symm
  simp [Task.poll, hpassed]

lemma poll_notified_of_passed {q : EventQueue α} {since : UInt64} (w : Waker) (h : since ≠ q.signal.generation) :
    (Task.notified since).poll q w = (.ready (), q) := by
  have hpassed : q.signal.passed since = true := bne_iff_ne.mpr h.symm
  simp [Task.poll, poll_of_passed w hpassed]

/-- The two ends of a poll. A pending task has recorded the present generation, before or now that it found the queue
empty, and its waker is parked. A task that is ready leaves the signal alone. -/
lemma poll_cases (t : Task) (q : EventQueue α) (w : Waker) :
    (∃ t', t.poll q w = (.pending t', { q with signal := q.signal.park w }) ∧ goalOf? t' = goalOf? t ∧
        sinceOf? t' = some q.signal.generation ∧ (t' = t ∨ (goalOf? t ≠ none ∧ q.pending = []))) ∨
      ∃ output q', t.poll q w = (.ready output, q') ∧ Removes q (taskEvents t output) q' ∧
        sinceOf? t ≠ some q.signal.generation ∧ (goalOf? t ≠ none → q.pending ≠ []) := by
  by_cases h : sinceOf? t = some q.signal.generation
  · exact .inl ⟨t, poll_of_unpassed w h, rfl, h, .inl rfl⟩
  · cases t with
    | notified since =>
      have hsince : since ≠ q.signal.generation := fun heq => h (congrArg some heq)
      exact .inr ⟨(), q, poll_notified_of_passed w hsince, removes_nothing q, h, fun hne => absurd rfl hne⟩
    | fresh goal =>
      by_cases hpending : q.pending = []
      · exact .inl ⟨_, look_of_pending_nil goal w hpending, rfl, rfl, .inr ⟨Option.some_ne_none goal, hpending⟩⟩
      · obtain ⟨output, q', hlook, hremoves⟩ := look_of_pending_cons goal w hpending
        exact .inr ⟨output, q', hlook, hremoves, h, fun _ => hpending⟩
    | waiting goal since =>
      have hsince : since ≠ q.signal.generation := fun heq => h (congrArg some heq)
      have hpoll : (Task.waiting goal since).poll q w = Task.look goal q w := poll_waiting_of_passed w hsince
      by_cases hpending : q.pending = []
      · exact .inl ⟨_, hpoll.trans (look_of_pending_nil goal w hpending), rfl, rfl,
          .inr ⟨Option.some_ne_none goal, hpending⟩⟩
      · obtain ⟨output, q', hlook, hremoves⟩ := look_of_pending_cons goal w hpending
        exact .inr ⟨output, q', hpoll.trans hlook, hremoves, h, fun _ => hpending⟩

/-! ### The tasks of a board -/

lemma pollTask_of_gone {b : TaskBoard α} {i : Nat} (w : Waker) (h : ∀ t, b.tasks[i]? ≠ some (some t)) :
    b.pollTask i w = (none, b) := by
  unfold TaskBoard.pollTask
  split
  next t ht => exact absurd ht (h t)
  next => rfl

/-- What a poll of the task with a number comes to. -/
inductive PollCases (b : TaskBoard α) (i : Nat) (w : Waker) : Prop where
  | gone (hgone : ∀ t, b.tasks[i]? ≠ some (some t)) (h : b.pollTask i w = (none, b))
  | pending (t t' : Task) (ht : b.tasks[i]? = some (some t)) (hgoal : goalOf? t' = goalOf? t)
    (hsince : sinceOf? t' = some b.queue.signal.generation)
    (hsame : t' = t ∨ (goalOf? t ≠ none ∧ b.queue.pending = []))
    (h : b.pollTask i w = (some ⟨t, .pending t'⟩,
      { b with queue := { b.queue with signal := b.queue.signal.park w }, tasks := b.tasks.set i (some t') }))
  | ready (t : Task) (output : t.Output α) (q : EventQueue α) (ht : b.tasks[i]? = some (some t))
    (hremoves : Removes b.queue (taskEvents t output) q) (hsince : sinceOf? t ≠ some b.queue.signal.generation)
    (hpending : goalOf? t ≠ none → b.queue.pending ≠ [])
    (h : b.pollTask i w = (some ⟨t, .ready output⟩, { b with queue := q, tasks := b.tasks.set i none }))

lemma pollTask_cases (b : TaskBoard α) (i : Nat) (w : Waker) : PollCases b i w := by
  by_cases htask : ∃ t, b.tasks[i]? = some (some t)
  · obtain ⟨t, ht⟩ := htask
    rcases poll_cases t b.queue w with
      ⟨t', hpoll, hgoal, hsince, hsame⟩ | ⟨output, q, hpoll, hremoves, hsince, hpending⟩
    · apply PollCases.pending t t' ht hgoal hsince hsame
      simp only [TaskBoard.pollTask, ht, hpoll]
    · apply PollCases.ready t output q ht hremoves hsince hpending
      simp only [TaskBoard.pollTask, ht, hpoll]
  · exact .gone (not_exists.mp htask) (pollTask_of_gone w (not_exists.mp htask))

end GuestBridge.Proofs
