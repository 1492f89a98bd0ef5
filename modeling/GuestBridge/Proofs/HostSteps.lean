import GuestBridge.Host
import Mathlib.Logic.Function.Basic
import Mathlib.Tactic.Common

/-!
# Steps of a host and its callers

Any number of threads call the host, each with one action at a time. The host serves them in one of two
ways: `pump` goes on until nothing is queued, and `run` until nothing is queued and no thread can call any
more. It takes the first request, runs its action and replies, and between two actions it may go away for
good. Each of these is a step, and the steps of different ones mix in any order. Both ways through the
channel are without loss and keep the order.
-/

namespace GuestBridge.Proofs

variable {σ : Type}

/-! ### The host and those who call it -/

/-- A call by a thread, which wants an action to be run. -/
structure HostCall (σ : Type) where
  thread : Nat
  action : σ → σ

/-- What the host has taken off the queue and not done with. -/
inductive InHand (σ : Type) where
  | nothing
  | running (r : HostRequest σ)
  | replying (call : Nat)

namespace InHand

/-- The call that is not replied to. -/
def calls : InHand σ → List Nat
  | nothing => []
  | running r => [r.caller]
  | replying k => [k]

/-- The call whose action has not come to its end. -/
def unfinished : InHand σ → List Nat
  | nothing | replying _ => []
  | running r => [r.caller]

/-- How many actions came to their end and are still to be counted. -/
def uncounted : InHand σ → Nat
  | nothing | running _ => 0
  | replying _ => 1

end InHand

/-- What the host is at. A pump counts what it ran so far. -/
inductive Serving where
  | no
  | pump (count : Nat)
  | run
deriving DecidableEq, Repr

def Serving.counted : Serving → Serving
  | .pump count => .pump (count + 1)
  | other => other

/-- The host, its channel and the threads. Every call has a reply channel of its own, for which its number
stands; a reply stays there until the caller sees it. -/
structure HostSystem (σ : Type) where
  channel : HostChannel σ
  hand : InHand σ
  serving : Serving
  calls : Nat
  replied : List Nat
  /-- The call in which a thread waits. -/
  waiting : Nat → Option Nat
  /-- No thread has a handle any more. -/
  released : Bool

def HostSystem.initial (init : σ) : HostSystem σ :=
  ⟨.connected init, .nothing, .no, 0, [], fun _ => none, false⟩

inductive HostLabel (σ : Type) where
  | called (c : HostCall σ)
  | took (call : Nat)
  | ran (call : Nat)
  | replied (call : Nat)
  | returned (thread call : Nat)
  | pumping
  | pumped (count : Nat)
  | serving
  | served
  | dropped
  | released

inductive HostStep : HostSystem σ → HostLabel σ → HostSystem σ → Prop where
  /-- The request is queued, or refused when the host is gone. -/
  | call (s : HostSystem σ) (i : Nat) (f : σ → σ) (hhandle : s.released = false) (haway : s.waiting i = none) :
    HostStep s (.called ⟨i, f⟩)
      { s with
        channel := (s.channel.submit ⟨s.calls, f⟩).1
        calls := s.calls + 1
        waiting := Function.update s.waiting i (some s.calls) }
  | take (s : HostSystem σ) (r : HostRequest σ) (rest : List (HostRequest σ)) (hserving : s.serving ≠ .no)
    (hhand : s.hand = .nothing) (hqueued : s.channel.queued = r :: rest) :
    HostStep s (.took r.caller)
      { s with
        channel := { s.channel with queued := rest, executed := s.channel.executed ++ [r.caller] }
        hand := .running r }
  | run (s : HostSystem σ) (r : HostRequest σ) (hhand : s.hand = .running r) :
    HostStep s (.ran r.caller)
      { s with
        channel := { s.channel with state := r.action s.channel.state }
        hand := .replying r.caller }
  | reply (s : HostSystem σ) (k : Nat) (hhand : s.hand = .replying k) :
    HostStep s (.replied k)
      { s with hand := .nothing, replied := s.replied ++ [k], serving := s.serving.counted }
  /-- A caller sees its reply, or that none can come any more: the other end of its reply channel was
  discarded with the request. -/
  | back (s : HostSystem σ) (i k : Nat) (hwaiting : s.waiting i = some k)
    (hanswer : k ∈ s.replied ∨ k ∈ s.channel.discarded) :
    HostStep s (.returned i k) { s with waiting := Function.update s.waiting i none }
  | enterPump (s : HostSystem σ) (halive : s.channel.hostAlive = true) (hidle : s.serving = .no) :
    HostStep s .pumping { s with serving := .pump 0 }
  /-- A pump goes back when it finds nothing queued. -/
  | leavePump (s : HostSystem σ) (count : Nat) (hserving : s.serving = .pump count) (hhand : s.hand = .nothing)
    (hqueued : s.channel.queued = []) : HostStep s (.pumped count) { s with serving := .no }
  | enterRun (s : HostSystem σ) (halive : s.channel.hostAlive = true) (hidle : s.serving = .no) :
    HostStep s .serving { s with serving := .run }
  | leaveRun (s : HostSystem σ) (hserving : s.serving = .run) (hhand : s.hand = .nothing)
    (hqueued : s.channel.queued = []) (hreleased : s.released = true) :
    HostStep s .served { s with serving := .no }
  | drop (s : HostSystem σ) (halive : s.channel.hostAlive = true) (hhand : s.hand = .nothing) :
    HostStep s .dropped { s with channel := s.channel.shutDown.1, serving := .no }
  | release (s : HostSystem σ) (haway : ∀ i, s.waiting i = none) :
    HostStep s .released { s with released := true }

/-- Steps one after the other, and what happened in them. -/
inductive HostSteps (s : HostSystem σ) : List (HostLabel σ) → HostSystem σ → Prop where
  | refl : HostSteps s [] s
  | step {ls : List (HostLabel σ)} {m s' : HostSystem σ} {l : HostLabel σ} (before : HostSteps s ls m)
    (last : HostStep m l s') : HostSteps s (ls ++ [l]) s'

lemma HostSteps.single {s s' : HostSystem σ} {l : HostLabel σ} (h : HostStep s l s') : HostSteps s [l] s' :=
  .step .refl h

lemma HostSteps.trans {s m s' : HostSystem σ} {ls ms : List (HostLabel σ)} (h₁ : HostSteps s ls m)
    (h₂ : HostSteps m ms s') : HostSteps s (ls ++ ms) s' := by
  induction h₂ with
  | refl =>
    rw [List.append_nil]
    exact h₁
  | step _ last ih =>
    rw [← List.append_assoc]
    exact .step ih last

/-! ### The calls of the channel as steps -/

/-- A request taken, its action run and its caller replied to. -/
def served (r : HostRequest σ) : List (HostLabel σ) := [.took r.caller, .ran r.caller, .replied r.caller]

lemma steps_runNext {s : HostSystem σ} {r : HostRequest σ} {rest : List (HostRequest σ)}
    (hserving : s.serving ≠ .no) (hhand : s.hand = .nothing) (hqueued : s.channel.queued = r :: rest) :
    HostSteps s (served r)
      { s with
        channel := s.channel.runNext, replied := s.replied ++ [r.caller], serving := s.serving.counted } := by
  have htake := HostStep.take s r rest hserving hhand hqueued
  have hsteps := ((HostSteps.single htake).step (.run _ r rfl)).step (.reply _ r.caller rfl)
  have hchannel : s.channel.runNext = { s.channel with
      state := r.action s.channel.state, queued := rest, executed := s.channel.executed ++ [r.caller] } := by
    unfold HostChannel.runNext
    rw [hqueued]
  obtain ⟨channel, hand, serving, calls, replied, waiting, released⟩ := s
  cases hhand
  dsimp only at hchannel ⊢
  rw [hchannel]
  exact hsteps

lemma runNext_cons {c : HostChannel σ} {r : HostRequest σ} {rest : List (HostRequest σ)}
    (hqueued : c.queued = r :: rest) :
    c.runNext.queued = rest ∧ c.pump = (c.runNext.pump.1 + 1, c.runNext.pump.2) := by
  unfold HostChannel.pump HostChannel.runNext
  rw [hqueued]
  refine ⟨rfl, ?_⟩
  rw [List.map_cons, List.append_cons]
  rfl

lemma pump_nil {c : HostChannel σ} (hqueued : c.queued = []) : c.pump = (0, c) := by
  obtain ⟨state, queued, executed, discarded, hostAlive⟩ := c
  cases hqueued
  unfold HostChannel.pump
  rw [List.map_nil, List.append_nil]
  rfl

lemma steps_drain {s : HostSystem σ} {count : Nat} (hserving : s.serving = .pump count)
    (hhand : s.hand = .nothing) :
    HostSteps s (s.channel.queued.flatMap served)
      { s with
        channel := s.channel.pump.2
        replied := s.replied ++ s.channel.queued.map (·.caller)
        serving := .pump (count + s.channel.pump.1) } := by
  generalize hqueued : s.channel.queued = queued
  induction queued generalizing s count with
  | nil =>
    rw [pump_nil hqueued, List.map_nil, List.append_nil, Nat.add_zero, ← hserving]
    exact .refl
  | cons r rest ih =>
    obtain ⟨hrest, hpump⟩ := runNext_cons hqueued
    have hfirst := steps_runNext (by rw [hserving]; exact nofun) hhand hqueued
    have hcounted : s.serving.counted = .pump (count + 1) := by
      rw [hserving]
      rfl
    have hothers := ih (s := { s with
      channel := s.channel.runNext, replied := s.replied ++ [r.caller], serving := s.serving.counted })
      hcounted hhand hrest
    rw [hpump, List.map_cons, List.append_cons, Nat.add_comm _ 1, ← Nat.add_assoc]
    exact hfirst.trans hothers

/-- A pump that nobody gets between. -/
theorem steps_pump {s : HostSystem σ} (halive : s.channel.hostAlive = true) (hidle : s.serving = .no)
    (hhand : s.hand = .nothing) :
    HostSteps s (.pumping :: s.channel.queued.flatMap served ++ [.pumped s.channel.pump.1])
      { s with
        channel := s.channel.pump.2, replied := s.replied ++ s.channel.queued.map (·.caller) } := by
  have henter := HostStep.enterPump s halive hidle
  have hdrain := steps_drain (s := { s with serving := .pump 0 }) rfl hhand
  have hsteps := ((HostSteps.single henter).trans hdrain).step (.leavePump _ _ rfl hhand rfl)
  obtain ⟨channel, hand, serving, calls, replied, waiting, released⟩ := s
  cases hidle
  rw [Nat.zero_add] at hsteps
  exact hsteps

/-- A call that the host serves at once. -/
theorem steps_runBlocking {s : HostSystem σ} (i : Nat) (f : σ → σ) (hhandle : s.released = false)
    (haway : s.waiting i = none) (halive : s.channel.hostAlive = true) (hserving : s.serving = .run)
    (hhand : s.hand = .nothing) (hqueued : s.channel.queued = []) :
    HostSteps s (.called ⟨i, f⟩ :: served ⟨s.calls, f⟩ ++ [.returned i s.calls])
      { s with
        channel := (s.channel.runBlocking ⟨s.calls, f⟩).1
        calls := s.calls + 1
        replied := s.replied ++ [s.calls] } := by
  have hcall := HostStep.call s i f hhandle haway
  have hsubmit : (s.channel.submit ⟨s.calls, f⟩).1.queued = [⟨s.calls, f⟩] := by
    unfold HostChannel.submit
    rw [if_pos halive, hqueued]
    rfl
  have hserved := steps_runNext (s := { s with
    channel := (s.channel.submit ⟨s.calls, f⟩).1
    calls := s.calls + 1
    waiting := Function.update s.waiting i (some s.calls) })
    (by rw [hserving]; exact nofun) hhand hsubmit
  have hback := HostStep.back { s with
    channel := (s.channel.submit ⟨s.calls, f⟩).1.runNext
    calls := s.calls + 1
    replied := s.replied ++ [s.calls]
    serving := s.serving.counted
    waiting := Function.update s.waiting i (some s.calls) }
    i s.calls (Function.update_self ..) (.inl (List.mem_append_right _ (List.mem_singleton.mpr rfl)))
  have hsteps := ((HostSteps.single hcall).trans hserved).step hback
  have hwaiting : Function.update (Function.update s.waiting i (some s.calls)) i none = s.waiting := by
    rw [Function.update_idem, ← haway, Function.update_eq_self]
  obtain ⟨channel, hand, serving, calls, replied, waiting, released⟩ := s
  cases hserving
  dsimp only at hwaiting hsteps
  rw [hwaiting] at hsteps
  exact hsteps

end GuestBridge.Proofs
