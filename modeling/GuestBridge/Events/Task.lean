import GuestBridge.Events.Queue

/-!
# Tasks that wait for a queue

A task waits for a notification, for the queue to hold something, or for its next event. A task of
the last two kinds remembers the generation before it looks at the queue, and waits for a later one
if it found nothing. Only a task after its next event brings something along when it finishes: that
event. A finished task does not come back, and dropping one leaves its waker parked.
-/

namespace GuestBridge

/-- What a task that looks at the queue is after. -/
inductive Goal where
  | nonempty
  | next
deriving DecidableEq, Repr

/-- A task that has not finished. -/
inductive Task where
  /-- Waits for a notification after the generation. -/
  | notified (since : UInt64)
  /-- Has not looked at the queue yet. -/
  | fresh (goal : Goal)
  /-- Found nothing and waits for a notification after the generation. -/
  | waiting (goal : Goal) (since : UInt64)
deriving DecidableEq, Repr

/-- What a task with a goal brings along when it finishes, at a queue of `α`. -/
abbrev Goal.Output (α : Type) : Goal → Type
  | .nonempty => Unit
  | .next => α

namespace Task

variable {α : Type}

/-- What a task brings along when it finishes, at a queue of `α`. -/
abbrev Output (α : Type) : Task → Type
  | .notified _ => Unit
  | .fresh goal | .waiting goal _ => goal.Output α

/-- What polling a task comes to. -/
inductive Outcome (β : Type) where
  | pending (task : Task)
  | ready (output : β)

/-- Looks at the queue for a goal; none if it is empty. -/
def attempt (goal : Goal) (q : EventQueue α) : Option (goal.Output α × EventQueue α) :=
  match goal, q.pending with
  | _, [] => none
  | .nonempty, _ :: _ => some ((), q)
  | .next, a :: rest => some (a, { q with pending := rest })

/-- Looks at the queue, and parks the waker behind the generation of before if it is empty. -/
def look (goal : Goal) (q : EventQueue α) (w : Waker) : Outcome (goal.Output α) × EventQueue α :=
  let since := q.signal.generation
  match attempt goal q with
  | some (output, q) => (.ready output, q)
  | none => (.pending (.waiting goal since), { q with signal := q.signal.park w })

def poll (t : Task) (q : EventQueue α) (w : Waker) : Outcome (t.Output α) × EventQueue α :=
  match t with
  | .notified since =>
    let (done, signal) := q.signal.poll since w
    (if done then .ready () else .pending (.notified since), { q with signal := signal })
  | .fresh goal => look goal q w
  | .waiting goal since =>
    if q.signal.passed since then look goal q w
    else (.pending (.waiting goal since), { q with signal := q.signal.park w })

/-- A task that was polled, and what came of it. -/
structure Polled (α : Type) where
  task : Task
  outcome : Outcome (task.Output α)

end Task

/-- A queue with its tasks, by number, and every wake-up so far in order. A task that finished or
was dropped is none. -/
structure TaskBoard (α : Type) where
  queue : EventQueue α
  tasks : List (Option Task)
  woken : List Waker

namespace TaskBoard

variable {α : Type}

def empty : TaskBoard α := ⟨.empty, [], []⟩

/-- Takes over the queue and the wake-ups of a post or a notification. -/
def absorb (b : TaskBoard α) (change : List Waker × EventQueue α) : TaskBoard α :=
  { b with queue := change.2, woken := b.woken ++ change.1 }

/-- Adds a task under the next number. -/
def create (b : TaskBoard α) (t : Task) : Nat × TaskBoard α :=
  (b.tasks.length, { b with tasks := b.tasks ++ [some t] })

/-- Polls the task with a number; none if it is gone. -/
def pollTask (b : TaskBoard α) (i : Nat) (w : Waker) : Option (Task.Polled α) × TaskBoard α :=
  match b.tasks[i]? with
  | some (some t) =>
    match t.poll b.queue w with
    | (.pending next, q) =>
      (some ⟨t, .pending next⟩, { b with queue := q, tasks := b.tasks.set i (some next) })
    | (.ready output, q) =>
      (some ⟨t, .ready output⟩, { b with queue := q, tasks := b.tasks.set i none })
  | _ => (none, b)

def dropTask (b : TaskBoard α) (i : Nat) : TaskBoard α := { b with tasks := b.tasks.set i none }

/-- How often a waker was woken. -/
def wakeCount (b : TaskBoard α) (w : Waker) : Nat := b.woken.count w

end TaskBoard

end GuestBridge
