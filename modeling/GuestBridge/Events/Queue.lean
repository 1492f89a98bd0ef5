import GuestBridge.Events.Signal

/-!
# Event queues

An unbounded queue with a signal that every post notifies. Events leave at the front, one by one,
all at once, or only if a consumer accepts them.
-/

namespace GuestBridge

structure EventQueue (α : Type) where
  pending : List α
  signal : Signal
deriving DecidableEq, Repr

namespace EventQueue

variable {α β ε : Type}

def empty : EventQueue α := ⟨[], .initial⟩

def size (q : EventQueue α) : Nat := q.pending.length

def isEmpty (q : EventQueue α) : Bool := q.pending.isEmpty

/-- Whether a consumer that waits for an event is let go at once. -/
def isReady (q : EventQueue α) : Bool := !q.isEmpty

/-- The first half of a post: the event is queued, but nobody is told. -/
def push (q : EventQueue α) (a : α) : EventQueue α := { q with pending := q.pending ++ [a] }

/-- Tells the waiters: the wakers that are woken, and the queue after it. -/
def notify (q : EventQueue α) : List Waker × EventQueue α :=
  (q.signal.notify.1, { q with signal := q.signal.notify.2 })

/-- Queues an event and tells the waiters. -/
def post (q : EventQueue α) (a : α) : List Waker × EventQueue α := (q.push a).notify

/-- Posts events one after the other. -/
def postAll (q : EventQueue α) : List α → List Waker × EventQueue α
  | [] => ([], q)
  | a :: rest =>
    let (woken, q) := q.post a
    let (more, q) := q.postAll rest
    (woken ++ more, q)

/-- Removes the first event. -/
def poll (q : EventQueue α) : Option α × EventQueue α :=
  match q.pending with
  | [] => (none, q)
  | a :: rest => (some a, { q with pending := rest })

/-- Hands the first event to `f` and removes it only if `f` accepts it. -/
def pollWith (q : EventQueue α) (f : α → Except ε β) : Option (Except ε β) × EventQueue α :=
  match q.pending with
  | [] => (none, q)
  | a :: rest =>
    match f a with
    | .ok b => (some (.ok b), { q with pending := rest })
    | .error e => (some (.error e), q)

/-- Removes all events. -/
def drain (q : EventQueue α) : List α × EventQueue α := (q.pending, { q with pending := [] })

@[simp] theorem pending_post (q : EventQueue α) (a : α) : (q.post a).2.pending = q.pending ++ [a] := rfl

@[simp] theorem pending_notify (q : EventQueue α) : q.notify.2.pending = q.pending := rfl

@[simp] theorem generation_post (q : EventQueue α) (a : α) :
    (q.post a).2.signal.generation = q.signal.generation + 1 := rfl

end EventQueue

end GuestBridge
