import GuestBridge.Proofs.QueueSteps

/-!
# No wake-up is lost

However the steps at a queue mix, nobody is asleep while an event is pending, unless the producer of
an event has still to tell the waiters. What carries this is an invariant of each waiter: if it found
the queue empty after it recorded the present generation, then every event that came since is one
whose producer has not told of it.
-/

namespace GuestBridge.Proofs

variable {α : Type}

/-! ### What every step keeps -/

/-- The queue is empty, or the producer of an event has still to tell the waiters. -/
def Excused (s : System α) : Prop := s.queue.pending = [] ∨ ∃ i, s.producers i = .pushed

/-- What holds of a waiter after `n` notifications. The main clause is `excused`: a waiter that found
the queue empty after it recorded the present generation may have missed an event, but then the
notification of that event is still to come. -/
structure Sound (n : Nat) (s : System α) (w : Waiter) : Prop where
  recorded : ∀ g, w.recorded? = some g → g.toNat ≤ n
  excused : w.foundEmpty? = some s.queue.signal.generation → Excused s
  asleep : w.Asleep → w.foundEmpty? = some s.queue.signal.generation
  parked : ∀ goal g v, w = .parked goal g v false → v ∈ s.queue.signal.parked

structure Invariant (n : Nat) (s : System α) : Prop where
  generation : s.queue.signal.generation.toNat = n
  sound : ∀ i, Sound n s (s.waiters i)

/-- A waiter stays sound while the generation stays, no waker is unparked, and the queue is excused
where it was. -/
lemma Sound.of_frame {n : Nat} {s t : System α} {w : Waiter} (h : Sound n s w)
    (hgeneration : t.queue.signal.generation = s.queue.signal.generation)
    (hparked : ∀ v ∈ s.queue.signal.parked, v ∈ t.queue.signal.parked)
    (hexcused : Excused s → Excused t) : Sound n t w where
  recorded := h.recorded
  excused := by
    rw [hgeneration]
    exact fun hw => hexcused (h.excused hw)
  asleep := by
    rw [hgeneration]
    exact h.asleep
  parked := fun goal g v hw => hparked v (h.parked goal g v hw)

/-- A step keeps the invariant if it keeps the frame of the waiters and every waiter that it moves on
is sound. -/
lemma Invariant.of_frame {n : Nat} {s t : System α} (hi : Invariant n s)
    (hgeneration : t.queue.signal.generation = s.queue.signal.generation)
    (hparked : ∀ v ∈ s.queue.signal.parked, v ∈ t.queue.signal.parked)
    (hexcused : Excused s → Excused t)
    (hwaiters : ∀ i, t.waiters i = s.waiters i ∨ Sound n t (t.waiters i)) : Invariant n t where
  generation := by
    rw [hgeneration]
    exact hi.generation
  sound := by
    intro i
    rcases hwaiters i with hw | hw
    · rw [hw]
      exact (hi.sound i).of_frame hgeneration hparked hexcused
    · exact hw

lemma eq_or_sound_of_update {n : Nat} {s t : System α} {i : Nat} {w : Waiter}
    (hwaiters : t.waiters = Function.update s.waiters i w) (hw : Sound n t w) (j : Nat) :
    t.waiters j = s.waiters j ∨ Sound n t (t.waiters j) := by
  rw [hwaiters]
  by_cases hj : j = i
  · right
    rw [hj, Function.update_self]
    exact hw
  · left
    rw [Function.update_of_ne hj]

/-! ### What a waiter is after its step -/

lemma recorded_of_foundEmpty {w : Waiter} {g : UInt64} (h : w.foundEmpty? = some g) : w.recorded? = some g := by
  cases w with
  | yielding | blocked | missed | parked => exact h
  | _ => cases h

lemma foundEmpty_of_asleep {w : Waiter} (h : w.Asleep) : w.foundEmpty? ≠ none := by
  intro hlook
  cases w with
  | yielding | blocked | missed | parked => cases hlook
  | _ => exact h

lemma sound_of_awake {n : Nat} {s : System α} {w : Waiter} (hawake : ¬ w.Asleep)
    (hrecorded : ∀ g, w.recorded? = some g → g.toNat ≤ n)
    (hexcused : w.foundEmpty? = some s.queue.signal.generation → Excused s) : Sound n s w where
  recorded := hrecorded
  excused := hexcused
  asleep := fun h => absurd h hawake
  parked := by
    rintro goal g v rfl
    exact absurd trivial hawake

/-- A waiter that did not look at the queue since it recorded a generation, if it did. -/
lemma sound_of_unlooked {n : Nat} {s : System α} {w : Waiter} (hlook : w.foundEmpty? = none)
    (hrecorded : ∀ g, w.recorded? = some g → g.toNat ≤ n) : Sound n s w := by
  apply sound_of_awake
  · intro h
    exact foundEmpty_of_asleep h hlook
  · exact hrecorded
  · intro h
    rw [hlook] at h
    cases h

lemma sound_of_unrecorded {n : Nat} {s : System α} {w : Waiter} (hw : w.recorded? = none) : Sound n s w := by
  apply sound_of_unlooked
  · cases h : w.foundEmpty? with
    | none => rfl
    | some g =>
      rw [recorded_of_foundEmpty h] at hw
      cases hw
  · intro g hg
    rw [hw] at hg
    cases hg

lemma toNat_le_of_recorded {n : Nat} {w : Waiter} {g : UInt64} (hw : w.recorded? = some g) (hg : g.toNat ≤ n) :
    ∀ g', w.recorded? = some g' → g'.toNat ≤ n := by
  intro g' hg'
  rw [hw] at hg'
  cases hg'
  exact hg

lemma sound_compared {n : Nat} {s : System α} {g : UInt64} (h : Sound n s (.yielding g)) :
    Sound n s (compared s.queue g) := by
  unfold compared
  cases hpassed : s.queue.signal.passed g with
  | true => exact sound_of_unrecorded rfl
  | false =>
    have hg := eq_generation_of_not_passed hpassed
    refine ⟨h.recorded, h.excused, fun _ => congrArg some hg, ?_⟩
    intro goal g' v hw
    cases hw

lemma sound_polled {n : Nat} {s : System α} {w : Waiter} {g : UInt64} (goal : Goal) (v : Waker)
    (hlook : w.foundEmpty? = some g) (h : Sound n s w) :
    Sound n { s with queue := afterPoll s.queue g v } (polled s.queue goal g v) := by
  unfold polled afterPoll
  cases hpassed : s.queue.signal.passed g with
  | true =>
    rw [poll_of_passed v hpassed]
    exact sound_of_unrecorded rfl
  | false =>
    have hg := eq_generation_of_not_passed hpassed
    have hexcused : Excused s := h.excused (hg ▸ hlook)
    rw [poll_of_not_passed v hpassed]
    constructor
    · exact toNat_le_of_recorded rfl (h.recorded g (recorded_of_foundEmpty hlook))
    · intro _
      exact hexcused
    · intro _
      rw [Signal.generation_park]
      exact congrArg some hg
    · intro goal' g' v' hparked
      cases hparked
      exact Signal.mem_parked_park.mpr (.inl rfl)

/-! ### What a step does to the queue -/

lemma pending_eq_nil_of_not_ready {q : EventQueue α} (h : ¬ q.isReady = true) : q.pending = [] := by
  unfold EventQueue.isReady EventQueue.isEmpty at h
  rw [Bool.not_eq_true, Bool.not_eq_false'] at h
  exact List.isEmpty_iff.mp h

lemma Excused.of_removes {s t : System α} {events : List α} (hq : Removes s.queue events t.queue)
    (hp : t.producers = s.producers) (h : Excused s) : Excused t := by
  unfold Excused
  rw [hp]
  exact h.imp hq.pending_eq_nil id

lemma generation_afterPoll (q : EventQueue α) (g : UInt64) (w : Waker) :
    (afterPoll q g w).signal.generation = q.signal.generation := by
  unfold afterPoll
  cases hpassed : q.signal.passed g with
  | true => rw [poll_of_passed w hpassed]
  | false =>
    rw [poll_of_not_passed w hpassed]
    exact Signal.generation_park _ _

lemma mem_parked_afterPoll (q : EventQueue α) (g : UInt64) (w : Waker) {v : Waker} (hv : v ∈ q.signal.parked) :
    v ∈ (afterPoll q g w).signal.parked := by
  unfold afterPoll
  cases hpassed : q.signal.passed g with
  | true =>
    rw [poll_of_passed w hpassed]
    exact hv
  | false =>
    rw [poll_of_not_passed w hpassed]
    exact Signal.mem_parked_park.mpr (.inr hv)

/-! ### Steps and notifications -/

/-- A step that takes nothing but events from the queue. -/
lemma Invariant.of_removes {n : Nat} {s t : System α} {events : List α} (hi : Invariant n s)
    (hp : t.producers = s.producers) (hq : Removes s.queue events t.queue)
    (hwaiters : ∀ i, t.waiters i = s.waiters i ∨ Sound n t (t.waiters i)) : Invariant n t := by
  apply hi.of_frame
  · rw [hq.signal]
  · rw [hq.signal]
    exact fun _ hv => hv
  · exact Excused.of_removes hq hp
  · exact hwaiters

lemma Invariant.setWaiter {n : Nat} {s : System α} (hi : Invariant n s) (i : Nat) {w : Waiter}
    (hw : Sound n s w) : Invariant n (s.setWaiter i w) :=
  hi.of_removes rfl (removes_nothing s.queue)
    (eq_or_sound_of_update rfl (hw.of_frame rfl (fun _ hv => hv) id))

/-- A task polls the signal. -/
lemma Invariant.polled {n : Nat} {s : System α} (hi : Invariant n s) (i : Nat) (goal : Goal) {g : UInt64}
    (v : Waker) (hlook : (s.waiters i).foundEmpty? = some g) :
    Invariant n { s.setWaiter i (polled s.queue goal g v) with queue := afterPoll s.queue g v } := by
  have hw := sound_polled goal v hlook (hi.sound i)
  apply hi.of_frame
  · exact generation_afterPoll s.queue g v
  · exact fun _ hv => mem_parked_afterPoll s.queue g v hv
  · exact id
  · exact eq_or_sound_of_update rfl (hw.of_frame rfl (fun _ hv => hv) id)

theorem invariant_step {n : Nat} {s t : System α} (hi : Invariant n s) (h : Step s t) : Invariant n t := by
  cases h with
  | push _ i a h =>
    -- From now on the producer is the excuse of the waiters that found the queue empty.
    have hexcused : Excused { s with
        queue := s.queue.push a, producers := Function.update s.producers i .pushed } :=
      .inr ⟨i, Function.update_self i _ _⟩
    exact hi.of_frame rfl (fun _ hv => hv) (fun _ => hexcused) (fun _ => .inl rfl)
  | poll _ => exact hi.of_removes rfl (removes_poll s.queue) (fun _ => .inl rfl)
  | pollWith _ f => exact hi.of_removes rfl (removes_pollWith s.queue f) (fun _ => .inl rfl)
  | drain _ => exact hi.of_removes rfl (removes_drain s.queue) (fun _ => .inl rfl)
  | pollSignal _ since w =>
    exact hi.of_frame (generation_afterPoll s.queue since w)
      (fun _ hv => mem_parked_afterPoll s.queue since w hv) id (fun _ => .inl rfl)
  | enter _ i h => exact hi.setWaiter i (sound_of_unrecorded rfl)
  | peek _ i h =>
    apply hi.setWaiter i
    by_cases hready : s.queue.isReady = true
    · rw [if_pos hready]
      exact sound_of_unrecorded rfl
    · rw [if_neg hready]
      exact sound_of_unrecorded rfl
  | watch _ i h =>
    have hg := Nat.le_of_eq hi.generation
    exact hi.setWaiter i (sound_of_unlooked rfl (toNat_le_of_recorded rfl hg))
  | test _ i g h =>
    have hg := (hi.sound i).recorded
    rw [h] at hg
    apply hi.setWaiter i
    by_cases hready : s.queue.isReady = true
    · rw [if_pos hready]
      exact sound_of_unrecorded rfl
    · rw [if_neg hready]
      exact sound_of_awake id hg (fun _ => .inl (pending_eq_nil_of_not_ready hready))
  | compare _ i g h =>
    have hw := hi.sound i
    rw [h] at hw
    exact hi.setWaiter i (sound_compared hw)
  | stir _ i g h =>
    have hw := hi.sound i
    rw [h] at hw
    exact hi.setWaiter i (sound_of_awake id hw.recorded hw.excused)
  | create _ i goal h => exact hi.setWaiter i (sound_of_unrecorded rfl)
  | record _ i goal h =>
    have hg := Nat.le_of_eq hi.generation
    exact hi.setWaiter i (sound_of_unlooked rfl (toNat_le_of_recorded rfl hg))
  | miss _ i goal g h hmiss =>
    have hg := (hi.sound i).recorded
    rw [h] at hg
    exact hi.setWaiter i (sound_of_awake id hg (fun _ => .inl (pending_eq_nil_of_attempt hmiss)))
  | hit _ i goal g h output q hhit =>
    exact hi.of_removes rfl (removes_attempt hhit) (eq_or_sound_of_update rfl (sound_of_unrecorded rfl))
  | await _ i goal g w h =>
    have hlook : (s.waiters i).foundEmpty? = some g := by rw [h]; rfl
    exact hi.polled i goal w hlook
  | repoll _ i goal g v w woken h =>
    have hlook : (s.waiters i).foundEmpty? = some g := by rw [h]; rfl
    exact hi.polled i goal w hlook
  | drop _ i goal h => exact hi.setWaiter i (sound_of_unrecorded rfl)

lemma recorded_notified (woken : List Waker) (w : Waiter) : (w.notified woken).recorded? = w.recorded? := by
  cases w <;> rfl

/-- The wakers of sleeping tasks are all parked, so a notification leaves nobody asleep. -/
lemma not_asleep_notified {n : Nat} {s : System α} {w : Waiter} (h : Sound n s w) :
    ¬ (w.notified s.queue.notify.1).Asleep := by
  cases w with
  | parked goal g v woken =>
    cases woken with
    | true => exact id
    | false =>
      have hv : v ∈ s.queue.notify.1 := h.parked goal g v rfl
      have hwoken : Waiter.notified s.queue.notify.1 (.parked goal g v false) = .parked goal g v true :=
        congrArg (Waiter.parked goal g v) (decide_eq_true hv)
      rw [hwoken]
      exact id
  | _ => exact id

/-- The counter does not wrap around before 2^64 notifications. -/
lemma toNat_generation_notify {n : Nat} {q : EventQueue α} (hq : q.signal.generation.toNat = n)
    (hn : n + 1 < UInt64.size) : q.notify.2.signal.generation.toNat = n + 1 := by
  have hone : (1 : UInt64).toNat = 1 := rfl
  show (q.signal.generation + 1).toNat = n + 1
  rw [UInt64.toNat_add, hq, hone]
  exact Nat.mod_eq_of_lt hn

theorem invariant_notification {n : Nat} {s t : System α} (hi : Invariant n s) (h : Notification s t)
    (hn : n + 1 < UInt64.size) : Invariant (n + 1) t := by
  have hgeneration := toNat_generation_notify hi.generation hn
  have hwaiter : ∀ t' : System α, t'.queue = s.queue.notify.2 → ∀ i,
      Sound (n + 1) t' ((s.waiters i).notified s.queue.notify.1) := by
    intro t' hq i
    have hrecorded := (hi.sound i).recorded
    rw [← recorded_notified s.queue.notify.1] at hrecorded
    apply sound_of_awake
    · exact not_asleep_notified (hi.sound i)
    · intro g hg
      exact Nat.le_succ_of_le (hrecorded g hg)
    · -- What was recorded before is not the new generation.
      intro hlook
      have hle := hrecorded _ (recorded_of_foundEmpty hlook)
      rw [hq, hgeneration] at hle
      omega
  cases h with
  | tell i h => exact ⟨hgeneration, fun j => hwaiter _ rfl j⟩
  | bare => exact ⟨hgeneration, fun j => hwaiter _ rfl j⟩

theorem invariant_of_reachable {n : Nat} {s : System α} (h : Reachable n s) (hn : n < UInt64.size) :
    Invariant n s := by
  induction h with
  | start => exact ⟨rfl, fun _ => sound_of_unrecorded rfl⟩
  | step _ hstep ih => exact invariant_step (ih hn) hstep
  | notify _ hnotify ih =>
    have hn' := Nat.lt_of_succ_lt hn
    exact invariant_notification (ih hn') hnotify hn

/-- Before the generations run out, nobody is asleep while an event is pending, unless a producer has
queued its event and not told of it yet. -/
theorem awake_of_pending {n : Nat} {s : System α} (h : Reachable n s) (hn : n < UInt64.size)
    (hpending : s.queue.pending ≠ []) (htold : ∀ i, s.producers i ≠ .pushed) (i : Nat) :
    ¬ (s.waiters i).Asleep := by
  have hsound := (invariant_of_reachable h hn).sound i
  intro hasleep
  rcases hsound.excused (hsound.asleep hasleep) with hnil | ⟨j, hj⟩
  · exact hpending hnil
  · exact htold j hj

/-- A blocked thread and a parked task at an empty queue. -/
def sleepers : System Nat where
  queue := ⟨[], ⟨0, [7]⟩⟩
  producers := fun _ => .idle
  waiters := Function.update (Function.update (fun _ => .away) 0 (.blocked 0)) 1 (.parked .next 0 7 false)

/-- The same two after the post of an event. -/
def wokenSleepers : System Nat :=
  { sleepers with
    queue := (sleepers.queue.post 5).2
    waiters := fun j => (sleepers.waiters j).notified (sleepers.queue.post 5).1 }

lemma reachable_sleepers : Reachable 0 sleepers := by
  have h1 : Reachable 0 ((System.initial : System Nat).setWaiter 0 (.blocked 0)) :=
    Reachable.start.steps (steps_wait .initial 0 rfl rfl)
  have h2 := h1.step (.create _ 1 .next rfl)
  have h3 := h2.steps (steps_poll _ 1 (.fresh .next) 7 (by rw [setWaiter_waiters_self]; rfl))
  rw [setWaiter_setWaiter] at h3
  exact h3

theorem awake_of_pending_sleepers :
    Reachable 1 wokenSleepers ∧ wokenSleepers.queue.pending = [5] ∧
      ∀ i, ¬ (wokenSleepers.waiters i).Asleep := by
  obtain ⟨t, hpush, htell⟩ := steps_post sleepers 0 5 rfl
  have h : Reachable 1 wokenSleepers := (reachable_sleepers.step hpush).notify htell
  have hpending : wokenSleepers.queue.pending ≠ [] := List.cons_ne_nil 5 []
  have htold : ∀ i, wokenSleepers.producers i ≠ .pushed := by
    intro i hi
    cases hi
  exact ⟨h, rfl, awake_of_pending h (by decide) hpending htold⟩

end GuestBridge.Proofs
