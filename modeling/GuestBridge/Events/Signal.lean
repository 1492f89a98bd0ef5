/-!
# Broadcast signals

A signal counts its notifications. A waiter remembers the generation that it started from and is
released by any later one, so a notification between looking at a condition and starting to wait is
never lost. Tasks that wait park a waker; a notification wakes every parked waker once and leaves
none parked.
-/

namespace GuestBridge

/-- Names the task that a wake-up is for. -/
abbrev Waker := Nat

structure Signal where
  generation : UInt64
  parked : List Waker
deriving DecidableEq, Repr

namespace Signal

def initial : Signal := ⟨0, []⟩

/-- Whether there was a notification since the generation `since`. -/
def passed (s : Signal) (since : UInt64) : Bool := s.generation != since

/-- One notification: the wakers that it wakes, and the signal after it. -/
def notify (s : Signal) : List Waker × Signal := (s.parked, ⟨s.generation + 1, []⟩)

/-- Parks a waker unless it is parked already. -/
def park (s : Signal) (w : Waker) : Signal :=
  if w ∈ s.parked then s else { s with parked := s.parked ++ [w] }

/-- Looks whether there was a notification since `since`, and parks the waker if not. -/
def poll (s : Signal) (since : UInt64) (w : Waker) : Bool × Signal :=
  if s.passed since then (true, s) else (false, s.park w)

@[simp] theorem parked_notify (s : Signal) : s.notify.2.parked = [] := rfl

@[simp] theorem generation_notify (s : Signal) : s.notify.2.generation = s.generation + 1 := rfl

@[simp] theorem generation_park (s : Signal) (w : Waker) : (s.park w).generation = s.generation := by
  unfold park
  split <;> rfl

theorem mem_parked_park {s : Signal} {v w : Waker} : v ∈ (s.park w).parked ↔ v = w ∨ v ∈ s.parked := by
  unfold park
  split
  next h => exact ⟨.inr, fun hv => hv.elim (fun e => e ▸ h) id⟩
  next => simp [or_comm]

theorem nodup_parked_park {s : Signal} {w : Waker} (h : s.parked.Nodup) : (s.park w).parked.Nodup := by
  unfold park
  split
  · exact h
  next hw =>
    rw [List.nodup_append]
    refine ⟨h, List.nodup_cons.mpr ⟨List.not_mem_nil, List.nodup_nil⟩, fun a ha b hb => ?_⟩
    rw [List.mem_singleton.mp hb]
    rintro rfl
    exact hw ha

end Signal

end GuestBridge
