import GuestBridge.Proofs.HostSteps

/-!
# The rendezvous with the host

Whatever order the steps of the callers and of the host mix in, every call's request is queued, executed or
discarded, and never two of these. Actions run in the order of the calls, each once at most, and none when
the host is gone. A caller comes back when its action has run or cannot run any more.
-/

namespace GuestBridge.Proofs

variable {σ : Type}

/-! ### What happened -/

def HostLabel.call? : HostLabel σ → Option (HostCall σ)
  | .called c => some c
  | _ => none

def HostLabel.ran? : HostLabel σ → Option Nat
  | .ran k => some k
  | _ => none

/-- The calls that were made, in their order. -/
def callsOf (ls : List (HostLabel σ)) : List (HostCall σ) := ls.filterMap HostLabel.call?

/-- The calls whose action was run to its end, in the order of running. -/
def ranOf (ls : List (HostLabel σ)) : List Nat := ls.filterMap HostLabel.ran?

lemma callsOf_concat (ls : List (HostLabel σ)) (l : HostLabel σ) :
    callsOf (ls ++ [l]) = callsOf ls ++ l.call?.toList := by
  unfold callsOf
  rw [List.filterMap_append]
  cases h : l.call? with
  | none => rw [List.filterMap_cons_none h]; rfl
  | some c => rw [List.filterMap_cons_some h]; rfl

lemma ranOf_concat (ls : List (HostLabel σ)) (l : HostLabel σ) :
    ranOf (ls ++ [l]) = ranOf ls ++ l.ran?.toList := by
  unfold ranOf
  rw [List.filterMap_append]
  cases h : l.ran? with
  | none => rw [List.filterMap_cons_none h]; rfl
  | some k => rw [List.filterMap_cons_some h]; rfl

lemma ran_of_mem_ranOf {ls : List (HostLabel σ)} {k : Nat} (h : k ∈ ranOf ls) : .ran k ∈ ls := by
  obtain ⟨l, hl, hk⟩ := List.mem_filterMap.mp h
  cases l <;> cases hk
  exact hl

lemma range_of_front {xs ys : List Nat} {n : Nat} (h : xs ++ ys = List.range n) :
    xs = List.range xs.length ∧ xs.length ≤ n := by
  have hlength : xs.length ≤ n := by
    rw [← List.length_range (n := n), ← h, List.length_append]
    exact Nat.le_add_right _ _
  refine ⟨?_, hlength⟩
  have htake := congrArg (List.take xs.length) h
  rw [List.take_left, List.take_range, Nat.min_eq_left hlength] at htake
  exact htake

lemma le_length_of_mem {xs : List Nat} {n : Nat} (hxs : xs = List.range xs.length) (hall : ∀ k < n, k ∈ xs) :
    n ≤ xs.length := by
  by_contra hlt
  have hmem := hall xs.length (Nat.lt_of_not_le hlt)
  rw [hxs, List.length_range] at hmem
  exact Nat.lt_irrefl _ (List.mem_range.mp hmem)

/-- The request of one of the calls. -/
def IsRequest (calls : List (HostCall σ)) (r : HostRequest σ) : Prop :=
  ∃ i, calls[r.caller]? = some ⟨i, r.action⟩

lemma getElem?_append_of_eq_some {α : Type} {xs ys : List α} {k : Nat} {x : α} (h : xs[k]? = some x) :
    (xs ++ ys)[k]? = some x := by
  rw [List.getElem?_append_left (List.getElem?_eq_some_iff.mp h).1, h]

lemma eq_some_of_concat {α : Type} {xs : List α} {x y : α} {k : Nat} (h : (xs ++ [x])[k]? = some y) :
    xs[k]? = some y ∨ k = xs.length ∧ y = x := by
  rw [List.getElem?_append] at h
  by_cases hk : k < xs.length
  · rw [if_pos hk] at h
    exact .inl h
  · rw [if_neg hk, List.getElem?_singleton] at h
    by_cases hzero : k - xs.length = 0
    · rw [if_pos hzero] at h
      exact .inr ⟨by omega, (Option.some.inj h).symm⟩
    · rw [if_neg hzero] at h
      cases h

lemma IsRequest.append {calls more : List (HostCall σ)} {r : HostRequest σ} (h : IsRequest calls r) :
    IsRequest (calls ++ more) r := by
  obtain ⟨i, hcall⟩ := h
  exact ⟨i, getElem?_append_of_eq_some hcall⟩

/-! ### Where the requests are -/

inductive Place where
  | queued
  | executed
  | discarded
deriving DecidableEq, Repr

/-- That the request of a call is at a place. One that the host has in hand is executed. -/
def Holds (c : HostChannel σ) (k : Nat) : Place → Prop
  | .queued => k ∈ c.queued.map (·.caller)
  | .executed => k ∈ c.executed
  | .discarded => k ∈ c.discarded

/-- All calls, those whose requests left the queue first in front. -/
def inOrder (c : HostChannel σ) : List Nat := c.executed ++ (c.queued.map (·.caller) ++ c.discarded)

lemma exactlyOne_of_nodup {c : HostChannel σ} (hnodup : (inOrder c).Nodup) {k : Nat} (hk : k ∈ inOrder c) :
    ∃! p, Holds c k p := by
  unfold inOrder at hnodup hk
  obtain ⟨-, hothers, hexecuted⟩ := List.nodup_append.mp hnodup
  obtain ⟨-, -, hqueued⟩ := List.nodup_append.mp hothers
  have hapart₁ : k ∈ c.executed → k ∉ c.queued.map (·.caller) :=
    fun h h' => hexecuted k h k (List.mem_append_left _ h') rfl
  have hapart₂ : k ∈ c.executed → k ∉ c.discarded :=
    fun h h' => hexecuted k h k (List.mem_append_right _ h') rfl
  have hapart₃ : k ∈ c.queued.map (·.caller) → k ∉ c.discarded := fun h h' => hqueued k h k h' rfl
  rcases List.mem_append.mp hk with hplace | hk
  · refine ⟨.executed, hplace, fun p hp => ?_⟩
    cases p with
    | queued => exact absurd hp (hapart₁ hplace)
    | executed => rfl
    | discarded => exact absurd hp (hapart₂ hplace)
  rcases List.mem_append.mp hk with hplace | hplace
  · refine ⟨.queued, hplace, fun p hp => ?_⟩
    cases p with
    | queued => rfl
    | executed => exact absurd hplace (hapart₁ hp)
    | discarded => exact absurd hp (hapart₃ hplace)
  · refine ⟨.discarded, hplace, fun p hp => ?_⟩
    cases p with
    | queued => exact absurd hplace (hapart₃ hp)
    | executed => exact absurd hplace (hapart₂ hp)
    | discarded => rfl

lemma inOrder_submit {c : HostChannel σ} (hkept : c.hostAlive = true → c.discarded = []) (r : HostRequest σ) :
    inOrder (c.submit r).1 = inOrder c ++ [r.caller] := by
  unfold inOrder HostChannel.submit
  by_cases halive : c.hostAlive = true
  · rw [if_pos halive]
    dsimp only
    rw [hkept halive, List.append_nil, List.append_nil, List.map_append, List.append_assoc]
    rfl
  · rw [if_neg halive]
    dsimp only
    rw [List.append_assoc, List.append_assoc]

lemma inOrder_shutDown {c : HostChannel σ} (hkept : c.discarded = []) : inOrder c.shutDown.1 = inOrder c := by
  unfold inOrder HostChannel.shutDown
  rw [hkept, List.append_nil]
  rfl

lemma mem_queued_submit {c : HostChannel σ} {r q : HostRequest σ} (h : q ∈ (c.submit r).1.queued) :
    q ∈ c.queued ∨ q = r := by
  unfold HostChannel.submit at h
  by_cases halive : c.hostAlive = true
  · rw [if_pos halive] at h
    exact (List.mem_append.mp h).imp_right List.mem_singleton.mp
  · rw [if_neg halive] at h
    exact .inl h

lemma submit_frame (c : HostChannel σ) (r : HostRequest σ) :
    (c.submit r).1.state = c.state ∧ (c.submit r).1.executed = c.executed ∧
      (c.submit r).1.hostAlive = c.hostAlive := by
  unfold HostChannel.submit
  by_cases halive : c.hostAlive = true
  · rw [if_pos halive]
    exact ⟨rfl, rfl, rfl⟩
  · rw [if_neg halive]
    exact ⟨rfl, rfl, rfl⟩

lemma submit_of_alive {c : HostChannel σ} (halive : c.hostAlive = true) (r : HostRequest σ) :
    (c.submit r).1.discarded = c.discarded := by
  unfold HostChannel.submit
  rw [if_pos halive]

lemma submit_of_gone {c : HostChannel σ} (hgone : c.hostAlive = false) (r : HostRequest σ) :
    (c.submit r).1.queued = c.queued := by
  unfold HostChannel.submit
  rw [hgone]
  rfl

lemma mem_discarded_submit {c : HostChannel σ} {r : HostRequest σ} {k : Nat} (h : k ∈ c.discarded) :
    k ∈ (c.submit r).1.discarded := by
  unfold HostChannel.submit
  by_cases halive : c.hostAlive = true
  · rw [if_pos halive]
    exact h
  · rw [if_neg halive]
    exact List.mem_append_left _ h

/-! ### The invariant -/

/-- What the calls that were made and those whose action was run have to do with the state. -/
structure HostInvariant (init : σ) (calls : List (HostCall σ)) (ran : List Nat) (s : HostSystem σ) : Prop where
  count : s.calls = calls.length
  accounted : inOrder s.channel = List.range s.calls
  queued : ∀ r ∈ s.channel.queued, IsRequest calls r
  hand : ∀ r, s.hand = .running r → IsRequest calls r
  finished : ran ++ s.hand.unfinished = s.channel.executed
  replied : s.replied ++ s.hand.calls = s.channel.executed
  state : s.channel.state = (calls.take ran.length).foldl (fun x c => c.action x) init
  kept : s.channel.hostAlive = true → s.channel.discarded = []
  gone : s.channel.hostAlive = false → s.channel.queued = [] ∧ s.hand = .nothing
  idle : s.serving = .no → s.hand = .nothing
  waiting : ∀ i k, s.waiting i = some k → ∃ f, calls[k]? = some ⟨i, f⟩
  answered : ∀ k c, calls[k]? = some c →
    s.waiting c.thread = some k ∨ k ∈ s.replied ∨ k ∈ s.channel.discarded

namespace HostInvariant

variable {init : σ} {calls : List (HostCall σ)} {ran : List Nat} {s : HostSystem σ}

lemma initial : HostInvariant init [] [] (.initial init) where
  count := rfl
  accounted := rfl
  queued := nofun
  hand := nofun
  finished := rfl
  replied := rfl
  state := rfl
  kept _ := rfl
  gone := nofun
  idle _ := rfl
  waiting := nofun
  answered := nofun

/-- The executed calls are the first ones, and so are those whose action was run and those replied to. -/
lemma executed_eq (h : HostInvariant init calls ran s) :
    s.channel.executed = List.range s.channel.executed.length ∧ s.channel.executed.length ≤ calls.length :=
  range_of_front (h.accounted.trans (congrArg List.range h.count))

lemma ran_eq (h : HostInvariant init calls ran s) : ran = List.range ran.length ∧ ran.length ≤ calls.length := by
  obtain ⟨heq, hle⟩ := range_of_front (h.finished.trans h.executed_eq.1)
  exact ⟨heq, Nat.le_trans hle h.executed_eq.2⟩

lemma replied_eq (h : HostInvariant init calls ran s) : s.replied = List.range s.replied.length :=
  (range_of_front (h.replied.trans h.executed_eq.1)).1

/-- A caller was replied to when its action had come to its end. -/
lemma mem_ran_of_replied (h : HostInvariant init calls ran s) {k : Nat} (hk : k ∈ s.replied) : k ∈ ran := by
  have hboth : s.replied ++ s.hand.calls = ran ++ s.hand.unfinished := h.replied.trans h.finished.symm
  cases hhand : s.hand with
  | nothing =>
    rw [hhand] at hboth
    exact List.append_cancel_right hboth ▸ hk
  | running r =>
    rw [hhand] at hboth
    exact List.append_cancel_right hboth ▸ hk
  | replying j =>
    rw [hhand] at hboth
    rw [← List.append_nil ran]
    exact hboth ▸ List.mem_append_left _ hk

/-- The action that is run is that of the first call that was not run yet. -/
lemma caller_of_running (h : HostInvariant init calls ran s) {r : HostRequest σ} (hhand : s.hand = .running r) :
    r.caller = ran.length := by
  have hran : ran ++ [r.caller] = s.channel.executed := by
    rw [← h.finished, hhand]
    rfl
  have hexecuted := h.executed_eq.1
  rw [← hran, List.length_append, List.length_singleton, List.range_succ, ← h.ran_eq.1] at hexecuted
  exact List.singleton_inj.mp (List.append_cancel_left hexecuted)

lemma not_gone_of_queued (h : HostInvariant init calls ran s) (hqueued : s.channel.queued ≠ []) :
    s.channel.hostAlive ≠ false :=
  fun hgone => hqueued (h.gone hgone).1

lemma not_gone_of_hand (h : HostInvariant init calls ran s) (hhand : s.hand ≠ .nothing) :
    s.channel.hostAlive ≠ false :=
  fun hgone => hhand (h.gone hgone).2

/-- Between two actions, those who can come back are those whose action ran or was dropped. -/
lemma back_iff (h : HostInvariant init calls ran s) (hhand : s.hand = .nothing) {i k : Nat}
    (hwaiting : s.waiting i = some k) :
    (∃ s', HostStep s (.returned i k) s') ↔ s.channel.hasReturned k = true := by
  have hreplied : s.replied = s.channel.executed := by
    rw [← h.replied, hhand]
    exact (List.append_nil _).symm
  unfold HostChannel.hasReturned
  rw [Bool.or_eq_true, List.contains_iff_mem, List.contains_iff_mem, ← hreplied]
  constructor
  · rintro ⟨s', hstep⟩
    cases hstep with
    | back _ _ _ hanswer => exact hanswer
  · exact fun hanswer => ⟨_, .back s i k hwaiting hanswer⟩

/-! ### Its preservation -/

lemma call (h : HostInvariant init calls ran s) {i : Nat} (f : σ → σ) (haway : s.waiting i = none) :
    HostInvariant init (calls ++ [⟨i, f⟩]) ran
      { s with
        channel := (s.channel.submit ⟨s.calls, f⟩).1
        calls := s.calls + 1
        waiting := Function.update s.waiting i (some s.calls) } := by
  obtain ⟨hstate, hexecuted, halive⟩ := submit_frame s.channel ⟨s.calls, f⟩
  have hlast : (calls ++ [⟨i, f⟩])[s.calls]? = some ⟨i, f⟩ := by
    rw [h.count]
    exact List.getElem?_concat_length
  exact {
    count := by
      rw [List.length_append, ← h.count]
      rfl
    accounted := by
      rw [inOrder_submit h.kept, h.accounted]
      exact List.range_succ.symm
    queued := by
      intro r hr
      rcases mem_queued_submit hr with hr | rfl
      · exact (h.queued r hr).append
      · exact ⟨i, hlast⟩
    hand := fun r hr => (h.hand r hr).append
    finished := by
      rw [hexecuted]
      exact h.finished
    replied := by
      rw [hexecuted]
      exact h.replied
    state := by
      rw [hstate, List.take_append_of_le_length h.ran_eq.2]
      exact h.state
    kept := by
      intro halive'
      rw [halive] at halive'
      rw [submit_of_alive halive']
      exact h.kept halive'
    gone := by
      intro hgone
      rw [halive] at hgone
      rw [submit_of_gone hgone]
      exact h.gone hgone
    idle := h.idle
    waiting := by
      intro j k hwaiting
      dsimp only at hwaiting
      by_cases hj : j = i
      · rw [hj, Function.update_self] at hwaiting
        cases hwaiting
        exact ⟨f, hj ▸ hlast⟩
      · rw [Function.update_of_ne hj] at hwaiting
        obtain ⟨g, hcall⟩ := h.waiting j k hwaiting
        exact ⟨g, getElem?_append_of_eq_some hcall⟩
    answered := by
      intro k c hc
      dsimp only
      rcases eq_some_of_concat hc with hc | ⟨rfl, rfl⟩
      · rcases h.answered k c hc with hwaits | hreplied | hdiscarded
        · left
          have hother : c.thread ≠ i := by
            intro heq
            rw [heq, haway] at hwaits
            cases hwaits
          rw [Function.update_of_ne hother]
          exact hwaits
        · exact .inr (.inl hreplied)
        · exact .inr (.inr (mem_discarded_submit hdiscarded))
      · left
        rw [Function.update_self, h.count] }

lemma take (h : HostInvariant init calls ran s) {r : HostRequest σ} {rest : List (HostRequest σ)}
    (hserving : s.serving ≠ .no) (hhand : s.hand = .nothing) (hqueued : s.channel.queued = r :: rest) :
    HostInvariant init calls ran
      { s with
        channel := { s.channel with queued := rest, executed := s.channel.executed ++ [r.caller] }
        hand := .running r } := by
  have halive := h.not_gone_of_queued (hqueued ▸ List.cons_ne_nil r rest)
  have hran : ran = s.channel.executed := by
    rw [← h.finished, hhand]
    exact (List.append_nil _).symm
  have hreplied : s.replied = s.channel.executed := by
    rw [← h.replied, hhand]
    exact (List.append_nil _).symm
  exact { h with
    accounted := by
      rw [← h.accounted]
      unfold inOrder
      rw [hqueued]
      exact List.append_assoc _ _ _
    queued := fun q hq => h.queued q (hqueued ▸ List.mem_cons_of_mem r hq)
    hand := by
      intro q hq
      cases hq
      exact h.queued r (hqueued ▸ List.mem_cons_self)
    finished := by
      rw [hran]
      rfl
    replied := by
      rw [hreplied]
      rfl
    gone := fun hgone => absurd hgone halive
    idle := fun hidle => absurd hidle hserving }

lemma run (h : HostInvariant init calls ran s) {r : HostRequest σ} (hhand : s.hand = .running r) :
    HostInvariant init calls (ran ++ [r.caller])
      { s with
        channel := { s.channel with state := r.action s.channel.state }
        hand := .replying r.caller } := by
  have halive := h.not_gone_of_hand (hhand ▸ nofun)
  have hserving : s.serving ≠ .no := fun hidle => nomatch hhand.symm.trans (h.idle hidle)
  obtain ⟨i, hcall⟩ := h.hand r hhand
  rw [h.caller_of_running hhand] at hcall
  exact { h with
    hand := nofun
    finished := by
      rw [← h.finished, hhand]
      exact List.append_nil _
    replied := by
      rw [← h.replied, hhand]
      rfl
    state := by
      rw [List.length_append, List.length_singleton, List.take_add_one, hcall, List.foldl_append, ← h.state]
      rfl
    gone := fun hgone => absurd hgone halive
    idle := fun hidle => absurd hidle hserving }

lemma reply (h : HostInvariant init calls ran s) {k : Nat} (hhand : s.hand = .replying k) :
    HostInvariant init calls ran
      { s with hand := .nothing, replied := s.replied ++ [k], serving := s.serving.counted } := by
  have hran := h.finished
  have hreplied := h.replied
  rw [hhand] at hran hreplied
  exact { h with
    hand := nofun
    finished := hran
    replied := by
      rw [← hreplied]
      exact List.append_nil _
    gone := fun hgone => ⟨(h.gone hgone).1, rfl⟩
    idle := fun _ => rfl
    answered := by
      intro j c hc
      rcases h.answered j c hc with hwaits | hreplied | hdiscarded
      · exact .inl hwaits
      · exact .inr (.inl (List.mem_append_left _ hreplied))
      · exact .inr (.inr hdiscarded) }

lemma back (h : HostInvariant init calls ran s) {i k : Nat} (hwaiting : s.waiting i = some k)
    (hanswer : k ∈ s.replied ∨ k ∈ s.channel.discarded) :
    HostInvariant init calls ran { s with waiting := Function.update s.waiting i none } := by
  exact { h with
    waiting := by
      intro j n hn
      dsimp only at hn
      by_cases hj : j = i
      · rw [hj, Function.update_self] at hn
        cases hn
      · rw [Function.update_of_ne hj] at hn
        exact h.waiting j n hn
    answered := by
      intro n c hc
      dsimp only
      by_cases hthread : c.thread = i
      · right
        rcases h.answered n c hc with hwaits | hanswered
        · rw [hthread, hwaiting] at hwaits
          cases hwaits
          exact hanswer
        · exact hanswered
      · rw [Function.update_of_ne hthread]
        exact h.answered n c hc }

lemma drop (h : HostInvariant init calls ran s) (halive : s.channel.hostAlive = true)
    (hhand : s.hand = .nothing) :
    HostInvariant init calls ran { s with channel := s.channel.shutDown.1, serving := .no } := by
  exact { h with
    accounted := (inOrder_shutDown (h.kept halive)).trans h.accounted
    queued := nofun
    kept := nofun
    gone := fun _ => ⟨rfl, hhand⟩
    idle := fun _ => hhand
    answered := by
      intro k c hc
      rcases h.answered k c hc with hwaits | hreplied | hdiscarded
      · exact .inl hwaits
      · exact .inr (.inl hreplied)
      · exact .inr (.inr (List.mem_append_left _ hdiscarded)) }

lemma step {s' : HostSystem σ} {l : HostLabel σ} (h : HostInvariant init calls ran s) (hstep : HostStep s l s') :
    HostInvariant init (calls ++ l.call?.toList) (ran ++ l.ran?.toList) s' := by
  -- most steps are no call and run no action, so both lists stay
  have hquiet : HostInvariant init (calls ++ []) (ran ++ []) s := by
    rw [List.append_nil, List.append_nil]
    exact h
  cases hstep with
  | call i f _ haway => exact (List.append_nil ran).symm ▸ h.call f haway
  | take r rest hserving hhand hqueued => exact hquiet.take hserving hhand hqueued
  | run r hhand => exact (List.append_nil calls).symm ▸ h.run hhand
  | reply k hhand => exact hquiet.reply hhand
  | back i k hwaiting hanswer => exact hquiet.back hwaiting hanswer
  | enterPump _ _ => exact { hquiet with idle := nofun }
  | leavePump n _ hhand _ => exact { hquiet with idle := fun _ => hhand }
  | enterRun _ _ => exact { hquiet with idle := nofun }
  | leaveRun _ hhand _ _ => exact { hquiet with idle := fun _ => hhand }
  | drop halive hhand => exact hquiet.drop halive hhand
  | release _ => exact { hquiet with }

lemma steps {ls : List (HostLabel σ)} (hsteps : HostSteps (.initial init) ls s) :
    HostInvariant init (callsOf ls) (ranOf ls) s := by
  induction hsteps with
  | refl => exact initial
  | step _ last ih =>
    rw [callsOf_concat, ranOf_concat]
    exact ih.step last

end HostInvariant

/-! ### The end of the host -/

lemma gone_step {s s' : HostSystem σ} {l : HostLabel σ} (hstep : HostStep s l s') :
    s'.channel.hostAlive = false ↔ s.channel.hostAlive = false ∨ l = .dropped := by
  cases hstep with
  | call i f _ _ =>
    rw [(submit_frame s.channel ⟨s.calls, f⟩).2.2]
    exact (or_iff_left nofun).symm
  | drop _ _ => exact ⟨fun _ => .inr rfl, fun _ => rfl⟩
  | take | run | reply | back | enterPump | leavePump | enterRun | leaveRun | release =>
    exact (or_iff_left nofun).symm

lemma gone_iff {init : σ} {ls : List (HostLabel σ)} {s : HostSystem σ} (hsteps : HostSteps (.initial init) ls s) :
    s.channel.hostAlive = false ↔ .dropped ∈ ls := by
  induction hsteps with
  | refl => exact ⟨nofun, nofun⟩
  | step _ last ih => rw [gone_step last, ih, List.mem_append, List.mem_singleton, eq_comm (a := HostLabel.dropped)]

/-! ### One call of pump -/

/-- What happens while a pump has not gone back. -/
def HostLabel.InPump : HostLabel σ → Prop
  | .pumped _ | .dropped => False
  | _ => True

lemma pump_step {s s' : HostSystem σ} {l : HostLabel σ} {n : Nat} (hstep : HostStep s l s') (hin : l.InPump)
    (hserving : s.serving = .pump n) :
    ∃ n', s'.serving = .pump n' ∧
      n' + s'.hand.uncounted = n + s.hand.uncounted + l.ran?.toList.length := by
  cases hstep with
  | call | back | release => exact ⟨n, hserving, rfl⟩
  | take r rest _ hhand _ =>
    refine ⟨n, hserving, ?_⟩
    rw [hhand]
    rfl
  | run r hhand =>
    refine ⟨n, hserving, ?_⟩
    rw [hhand]
    rfl
  | reply k hhand =>
    refine ⟨n + 1, congrArg Serving.counted hserving, ?_⟩
    rw [hhand]
    rfl
  | enterPump _ hidle => cases hidle.symm.trans hserving
  | leavePump => exact hin.elim
  | enterRun _ hidle => cases hidle.symm.trans hserving
  | leaveRun hrun _ _ _ => cases hrun.symm.trans hserving
  | drop => exact hin.elim

lemma pump_steps {s s' : HostSystem σ} {ms : List (HostLabel σ)} {n : Nat} (hsteps : HostSteps s ms s')
    (hin : ∀ l ∈ ms, l.InPump) (hserving : s.serving = .pump n) :
    ∃ n', s'.serving = .pump n' ∧ n' + s'.hand.uncounted = n + s.hand.uncounted + (ranOf ms).length := by
  induction hsteps with
  | refl => exact ⟨n, hserving, rfl⟩
  | @step ls m s' l _ last ih =>
    obtain ⟨n₁, hserving₁, hcount₁⟩ := ih fun l hl => hin l (List.mem_append_left _ hl)
    obtain ⟨n₂, hserving₂, hcount₂⟩ :=
      pump_step last (hin l (List.mem_append_right _ (List.mem_singleton.mpr rfl))) hserving₁
    refine ⟨n₂, hserving₂, ?_⟩
    rw [hcount₂, hcount₁, ranOf_concat, List.length_append, Nat.add_assoc]

lemma pump_count {s s₁ s₂ s₃ : HostSystem σ} {ms : List (HostLabel σ)} {n : Nat} (hhand : s.hand = .nothing)
    (henter : HostStep s .pumping s₁) (hsteps : HostSteps s₁ ms s₂) (hin : ∀ l ∈ ms, l.InPump)
    (hleave : HostStep s₂ (.pumped n) s₃) :
    n = (ranOf ms).length ∧ s₃.channel.queued = [] := by
  cases henter with
  | enterPump _ _ =>
    obtain ⟨n', hserving', hcount⟩ := pump_steps hsteps hin rfl
    cases hleave with
    | leavePump _ hserving hhand' hqueued =>
      refine ⟨?_, hqueued⟩
      cases hserving.symm.trans hserving'
      rw [hhand', hhand] at hcount
      simpa only [InHand.uncounted, Nat.zero_add, Nat.add_zero] using hcount

/-! ### One thread only -/

/-- What calls come to on a host that is the calling thread. -/
def inlineEffect (init : σ) (calls : List (HostCall σ)) : σ :=
  calls.foldl (fun x c => (Host.inline.runBlocking (fun y => (c.action y, [])) x).1) init

/-- When the one thread that calls is not in a call, all its calls are done. -/
lemma alone_done {init : σ} {calls : List (HostCall σ)} {ran : List Nat} {s : HostSystem σ}
    (h : HostInvariant init calls ran s) {i : Nat} (halone : ∀ c ∈ calls, c.thread = i)
    (halive : s.channel.hostAlive = true) (haway : s.waiting i = none) :
    s.channel.state = inlineEffect init calls ∧ s.hand = .nothing ∧ s.channel.queued = [] := by
  -- none of its calls waits and none was discarded
  have hreplied : ∀ k < calls.length, k ∈ s.replied := by
    intro k hk
    have hcall := List.getElem?_eq_getElem hk
    rcases h.answered k _ hcall with hwaits | hreplied | hdiscarded
    · rw [halone _ (List.getElem_mem hk), haway] at hwaits
      cases hwaits
    · exact hreplied
    · rw [h.kept halive] at hdiscarded
      cases hdiscarded
  have hran := le_length_of_mem h.ran_eq.1 fun k hk => h.mem_ran_of_replied (hreplied k hk)
  have hlength := le_length_of_mem h.replied_eq hreplied
  -- then the replied ones are all there are, and nothing is left for hand and queue
  have hexecuted := congrArg List.length h.replied
  have haccounted := congrArg List.length h.accounted
  unfold inOrder at haccounted
  rw [List.length_append] at hexecuted
  rw [List.length_append, List.length_append, List.length_map, List.length_range, h.count] at haccounted
  refine ⟨?_, ?_, List.eq_nil_of_length_eq_zero (by omega)⟩
  · rw [h.state, List.take_of_length_le hran]
    rfl
  · cases hhand : s.hand with
    | nothing => rfl
    | running r =>
      rw [hhand] at hexecuted
      have : (InHand.running r).calls.length = 1 := rfl
      omega
    | replying k =>
      rw [hhand] at hexecuted
      have : (InHand.replying (σ := σ) k).calls.length = 1 := rfl
      omega

/-! ### Every history -/

/-- What holds of a history and of the state after it, whatever comes next. -/
structure Rendezvous (init : σ) (ls : List (HostLabel σ)) (s : HostSystem σ) : Prop where
  exactlyOne : ∀ k < (callsOf ls).length, ∃! p, Holds s.channel k p
  /-- Actions run in the order of the calls, each once at most. -/
  order : ranOf ls = List.range (ranOf ls).length ∧ (ranOf ls).length ≤ (callsOf ls).length
  effects : s.channel.state = ((callsOf ls).take (ranOf ls).length).foldl (fun x c => c.action x) init
  stopped : .dropped ∈ ls → ∀ l s', HostStep s l s' → ∀ k, l ≠ .took k ∧ l ≠ .ran k
  returns : ∀ i k s', HostStep s (.returned i k) s' →
    (∃ f, (callsOf ls)[k]? = some ⟨i, f⟩) ∧
      (.ran k ∈ ls ∨ k ∈ s.channel.discarded ∧ .dropped ∈ ls)
  released : .dropped ∈ ls → ∀ i k, s.waiting i = some k → ∃ s', HostStep s (.returned i k) s'
  pumps : ∀ s₁ ms s₂ n s₃, HostStep s .pumping s₁ → HostSteps s₁ ms s₂ → (∀ l ∈ ms, l.InPump) →
    HostStep s₂ (.pumped n) s₃ → n = (ranOf ms).length ∧ s₃.channel.queued = []
  /-- A pump that nobody gets between does what the channel's own pump does. -/
  pumpsAlone : s.channel.hostAlive = true → s.serving = .no → ∃ s',
    HostSteps s (.pumping :: s.channel.queued.flatMap served ++ [.pumped s.channel.pump.1]) s' ∧
      s'.channel = s.channel.pump.2
  /-- A single caller finds what it would find if it were its own host. -/
  alone : ∀ i, (∀ c ∈ callsOf ls, c.thread = i) → .dropped ∉ ls → s.waiting i = none →
    s.channel.state = inlineEffect init (callsOf ls) ∧
      (s.serving = .run → s.released = false → ∀ f, ∃ s',
        HostSteps s (.called ⟨i, f⟩ :: served ⟨s.calls, f⟩ ++ [.returned i s.calls]) s' ∧
          s'.channel = (s.channel.runBlocking ⟨s.calls, f⟩).1)

/-- Every history of any number of threads, in which the host pumps and runs as it likes and goes away at any
time between two actions. -/
theorem rendezvous {init : σ} {ls : List (HostLabel σ)} {s : HostSystem σ}
    (hsteps : HostSteps (.initial init) ls s) : Rendezvous init ls s := by
  have h := HostInvariant.steps hsteps
  have hgone := gone_iff hsteps
  exact {
    exactlyOne := by
      intro k hk
      refine exactlyOne_of_nodup (h.accounted ▸ List.nodup_range) ?_
      rw [h.accounted, h.count]
      exact List.mem_range.mpr hk
    order := h.ran_eq
    effects := h.state
    stopped := by
      intro hdropped l s' hstep k
      obtain ⟨hqueued, hhand⟩ := h.gone (hgone.mpr hdropped)
      cases hstep with
      | take r rest _ _ hqueued' => cases hqueued.symm.trans hqueued'
      | run r hhand' => cases hhand.symm.trans hhand'
      | call | reply | back | enterPump | leavePump | enterRun | leaveRun | drop | release => exact ⟨nofun, nofun⟩
    returns := by
      intro i k s' hstep
      cases hstep with
      | back _ _ hwaiting hanswer =>
        refine ⟨h.waiting i k hwaiting, ?_⟩
        rcases hanswer with hreplied | hdiscarded
        · exact .inl (ran_of_mem_ranOf (h.mem_ran_of_replied hreplied))
        · refine .inr ⟨hdiscarded, hgone.mp ?_⟩
          by_contra halive
          rw [h.kept (Bool.ne_false_iff.mp halive)] at hdiscarded
          cases hdiscarded
    released := by
      intro hdropped i k hwaiting
      obtain ⟨hqueued, hhand⟩ := h.gone (hgone.mpr hdropped)
      obtain ⟨f, hcall⟩ := h.waiting i k hwaiting
      have hmem : k ∈ inOrder s.channel := by
        rw [h.accounted, h.count]
        exact List.mem_range.mpr (List.getElem?_eq_some_iff.mp hcall).1
      rw [h.back_iff hhand hwaiting]
      unfold HostChannel.hasReturned
      unfold inOrder at hmem
      rw [hqueued, List.map_nil, List.nil_append, List.mem_append] at hmem
      rw [Bool.or_eq_true, List.contains_iff_mem, List.contains_iff_mem]
      exact hmem
    pumps := by
      intro s₁ ms s₂ n s₃ henter hrun hin hleave
      have hhand : s.hand = .nothing := by
        cases henter with
        | enterPump _ hidle => exact h.idle hidle
      exact pump_count hhand henter hrun hin hleave
    pumpsAlone := fun halive hidle => ⟨_, steps_pump halive hidle (h.idle hidle), rfl⟩
    alone := by
      intro i halone hdropped haway
      have halive := Bool.ne_false_iff.mp fun hdead => hdropped (hgone.mp hdead)
      obtain ⟨hstate, hhand, hqueued⟩ := alone_done h halone halive haway
      refine ⟨hstate, fun hserving hhandle f => ?_⟩
      exact ⟨_, steps_runBlocking i f hhandle haway halive hserving hhand hqueued, rfl⟩ }

/-- The host goes away after the first action, with the second queued. -/
def sampleHistory : List (HostLabel (List Nat)) :=
  [.called ⟨0, (7 :: ·)⟩, .pumping, .took 0, .called ⟨1, (8 :: ·)⟩, .ran 0, .replied 0, .returned 0 0, .dropped,
    .returned 1 1]

theorem rendezvous_sample :
    ∃ s, HostSteps (.initial []) sampleHistory s ∧ s.channel.state = [7] ∧ s.channel.discarded = [1] ∧
      Rendezvous [] sampleHistory s := by
  have hsteps := ((HostSteps.refl (s := .initial [])).step (.call _ 0 (7 :: ·) rfl rfl)).step (.enterPump _ rfl rfl)
  have hsteps := (hsteps.step (.take _ ⟨0, (7 :: ·)⟩ [] nofun rfl rfl)).step (.call _ 1 (8 :: ·) rfl rfl)
  have hsteps := (hsteps.step (.run _ ⟨0, (7 :: ·)⟩ rfl)).step (.reply _ 0 rfl)
  have hsteps := (hsteps.step (.back _ 0 0 rfl (.inl (List.mem_singleton.mpr rfl)))).step (.drop _ rfl rfl)
  have hsteps := hsteps.step (.back _ 1 1 rfl (.inr (List.mem_singleton.mpr rfl)))
  exact ⟨_, hsteps, rfl, rfl, rendezvous hsteps⟩

end GuestBridge.Proofs
