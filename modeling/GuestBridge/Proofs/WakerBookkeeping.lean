import GuestBridge.Proofs.Delivery
import GuestBridge.Proofs.WakeUp

/-!
# Which wakers are parked and which are woken

Tasks at a queue are created, polled with any wakers and dropped, between posts and notifications. A waker is
parked once however many tasks are pending with it, and a notification wakes whatever is parked and leaves
nothing parked. A task that is polled again without a notification is not shown the queue. It need not be,
since the queue is empty as long as the generation is the one that the task recorded.
-/

namespace GuestBridge.Proofs

variable {α : Type}

/-! ### Calls -/

def QueueCall.notifies : QueueCall α → Bool
  | .post _ | .notify => true
  | _ => false

/-- How many of the calls are notifications. -/
def notifications (calls : List (QueueCall α)) : Nat := calls.countP (·.notifies)

def QueueCall.touches (i : Nat) : QueueCall α → Bool
  | .pollTask j _ | .dropTask j => j = i
  | _ => false

lemma makeCall_notifies {call : QueueCall α} (h : call.notifies = true) (b : TaskBoard α) :
    (makeCall b call).2.queue.signal = b.queue.signal.notify.2 ∧
      (makeCall b call).2.woken = b.woken ++ b.queue.signal.parked ∧ (makeCall b call).2.tasks = b.tasks := by
  cases call with
  | post a => exact ⟨rfl, rfl, rfl⟩
  | notify => exact ⟨rfl, rfl, rfl⟩
  | _ => cases h

/-- Without a notification nobody is woken, and at most one waker is parked. -/
lemma makeCall_silent {call : QueueCall α} (h : call.notifies = false) (b : TaskBoard α) :
    ((makeCall b call).2.queue.signal = b.queue.signal ∨
        ∃ w, (makeCall b call).2.queue.signal = b.queue.signal.park w) ∧
      (makeCall b call).2.woken = b.woken := by
  cases call with
  | post a => cases h
  | notify => cases h
  | poll => exact ⟨.inl (removes_poll b.queue).signal, rfl⟩
  | pollWith f => exact ⟨.inl (removes_pollWith b.queue f).signal, rfl⟩
  | drain => exact ⟨.inl (removes_drain b.queue).signal, rfl⟩
  | pollTask i w =>
    dsimp only [makeCall]
    cases pollTask_cases b i w with
    | gone hgone hpoll =>
      rw [hpoll]
      exact ⟨.inl rfl, rfl⟩
    | pending t t' ht hgoal hsince hsame hpoll =>
      rw [hpoll]
      exact ⟨.inr ⟨w, rfl⟩, rfl⟩
    | ready t output q ht hremoves hsince hpending hpoll =>
      rw [hpoll]
      exact ⟨.inl hremoves.signal, rfl⟩
  | _ => exact ⟨.inl rfl, rfl⟩

lemma generation_of_silent {call : QueueCall α} (h : call.notifies = false) (b : TaskBoard α) :
    (makeCall b call).2.queue.signal.generation = b.queue.signal.generation := by
  rcases (makeCall_silent h b).1 with hsame | ⟨w, hpark⟩
  · rw [hsame]
  · rw [hpark, Signal.generation_park]

lemma mem_parked_of_silent {call : QueueCall α} (h : call.notifies = false) {b : TaskBoard α} {w : Waker}
    (hw : w ∈ b.queue.signal.parked) : w ∈ (makeCall b call).2.queue.signal.parked := by
  rcases (makeCall_silent h b).1 with hsame | ⟨v, hpark⟩
  · rw [hsame]
    exact hw
  · rw [hpark]
    exact Signal.mem_parked_park.mpr (.inr hw)

/-- The place of a task is there to stay, and a call that is not about the task leaves it as it is. -/
lemma tasks_of_untouched {b : TaskBoard α} {i : Nat} (hi : i < b.tasks.length) {call : QueueCall α}
    (h : call.touches i = false) : (makeCall b call).2.tasks[i]? = b.tasks[i]? := by
  cases call with
  | createNotified => exact List.getElem?_append_left hi
  | createTask goal => exact List.getElem?_append_left hi
  | dropTask j => exact List.getElem?_set_ne (of_decide_eq_false h)
  | pollTask j w =>
    have hset : ∀ place, (b.tasks.set j place)[i]? = b.tasks[i]? :=
      fun place => List.getElem?_set_ne (of_decide_eq_false h)
    dsimp only [makeCall]
    cases pollTask_cases b j w with
    | gone hgone hpoll => rw [hpoll]
    | pending t t' ht hgoal hsince hsame hpoll =>
      rw [hpoll]
      exact hset _
    | ready t output q ht hremoves hsince hpending hpoll =>
      rw [hpoll]
      exact hset _
  | _ => rfl

lemma task_of_append {tasks : List (Option Task)} {i : Nat} {t new : Task}
    (h : (tasks ++ [some new])[i]? = some (some t)) : tasks[i]? = some (some t) ∨ t = new := by
  rw [List.getElem?_append] at h
  split at h
  · exact .inl h
  · rw [List.getElem?_singleton] at h
    split at h
    · exact .inr (Option.some.inj (Option.some.inj h)).symm
    · cases h

lemma task_of_set {tasks : List (Option Task)} {i j : Nat} {t : Task} {place : Option Task}
    (h : (tasks.set j place)[i]? = some (some t)) : tasks[i]? = some (some t) ∨ (i = j ∧ place = some t) := by
  rw [List.getElem?_set] at h
  split at h
  next hj =>
    split at h
    · exact .inr ⟨hj.symm, Option.some.inj h⟩
    · cases h
  next => exact .inl h

/-- A task after a call was there before, or has not looked yet, or has recorded the present generation, and found
the queue empty if it looks there. -/
lemma task_of_makeCall {b : TaskBoard α} {call : QueueCall α} {i : Nat} {t : Task}
    (h : (makeCall b call).2.tasks[i]? = some (some t)) :
    b.tasks[i]? = some (some t) ∨ sinceOf? t = none ∨
      (call.notifies = false ∧ sinceOf? t = some b.queue.signal.generation ∧
        (goalOf? t ≠ none → b.queue.pending = [])) := by
  cases call with
  | createNotified =>
    rcases task_of_append h with hold | rfl
    · exact .inl hold
    · exact .inr (.inr ⟨rfl, rfl, fun hgoal => absurd rfl hgoal⟩)
  | createTask goal =>
    rcases task_of_append h with hold | rfl
    · exact .inl hold
    · exact .inr (.inl rfl)
  | dropTask j =>
    rcases task_of_set h with hold | ⟨-, hplace⟩
    · exact .inl hold
    · cases hplace
  | pollTask j w =>
    dsimp only [makeCall] at h
    cases pollTask_cases b j w with
    | gone hgone hpoll =>
      rw [hpoll] at h
      exact .inl h
    | pending t₁ t₂ ht hgoal hsince hsame hpoll =>
      rw [hpoll] at h
      rcases task_of_set h with hold | ⟨rfl, hplace⟩
      · exact .inl hold
      · obtain rfl := Option.some.inj hplace
        rcases hsame with rfl | ⟨-, hpending⟩
        · exact .inl ht
        · exact .inr (.inr ⟨rfl, hsince, fun _ => hpending⟩)
    | ready t₁ output q ht hremoves hsince hpending hpoll =>
      rw [hpoll] at h
      rcases task_of_set h with hold | ⟨-, hplace⟩
      · exact .inl hold
      · cases hplace
  | post a => exact .inl h
  | poll => exact .inl h
  | pollWith f => exact .inl h
  | drain => exact .inl h
  | notify => exact .inl h
  | wait => exact .inl h

/-! ### What every call keeps -/

/-- What holds of a board after `n` notifications. The main clause is `empty`: a task that looks at the queue and has
recorded the present generation would find the queue empty. -/
structure Ledger (n : Nat) (b : TaskBoard α) : Prop where
  generation : b.queue.signal.generation.toNat = n
  nodup : b.queue.signal.parked.Nodup
  recorded : ∀ (i : Nat) (t : Task) (since : UInt64), b.tasks[i]? = some (some t) →
    sinceOf? t = some since → since.toNat ≤ n
  empty : ∀ (i : Nat) (t : Task), b.tasks[i]? = some (some t) → goalOf? t ≠ none →
    sinceOf? t = some b.queue.signal.generation → b.queue.pending = []

lemma ledger_empty : Ledger 0 (.empty : TaskBoard α) where
  generation := rfl
  nodup := List.nodup_nil
  recorded := fun i t since h => by cases h
  empty := fun i t h => by cases h

lemma pending_of_silent {call : QueueCall α} (h : call.notifies = false) {b : TaskBoard α}
    (hpending : b.queue.pending = []) : (makeCall b call).2.queue.pending = [] := by
  have hdelivers := makeCall_delivers b call
  have hposted : call.posted = [] := by
    cases call with
    | post a => cases h
    | _ => rfl
  rw [hpending, hposted] at hdelivers
  exact (List.append_eq_nil_iff.mp hdelivers).2

lemma ledger_notifies {n : Nat} {b : TaskBoard α} (hb : Ledger n b) {call : QueueCall α}
    (h : call.notifies = true) (hn : n + 1 < UInt64.size) : Ledger (n + 1) (makeCall b call).2 := by
  obtain ⟨hsignal, -, htasks⟩ := makeCall_notifies h b
  have hgeneration : (makeCall b call).2.queue.signal.generation.toNat = n + 1 := by
    rw [hsignal]
    exact toNat_generation_notify hb.generation hn
  refine ⟨hgeneration, ?_, ?_, ?_⟩
  · rw [hsignal]
    exact List.nodup_nil
  · intro i t since ht hsince
    rw [htasks] at ht
    exact Nat.le_succ_of_le (hb.recorded i t since ht hsince)
  · -- what was recorded before is not the new generation
    intro i t ht _ hsince
    rw [htasks] at ht
    have hle := hb.recorded i t _ ht hsince
    omega

lemma ledger_silent {n : Nat} {b : TaskBoard α} (hb : Ledger n b) {call : QueueCall α}
    (h : call.notifies = false) : Ledger n (makeCall b call).2 := by
  have hgeneration := generation_of_silent h b
  refine ⟨?_, ?_, ?_, ?_⟩
  · rw [hgeneration]
    exact hb.generation
  · rcases (makeCall_silent h b).1 with hsame | ⟨w, hpark⟩
    · rw [hsame]
      exact hb.nodup
    · rw [hpark]
      exact Signal.nodup_parked_park hb.nodup
  · intro i t since ht hsince
    rcases task_of_makeCall ht with hold | hnone | ⟨-, hnow, -⟩
    · exact hb.recorded i t since hold hsince
    · rw [hnone] at hsince
      cases hsince
    · rw [hnow] at hsince
      obtain rfl := Option.some.inj hsince
      exact Nat.le_of_eq hb.generation
  · intro i t ht hgoal hsince
    rw [hgeneration] at hsince
    apply pending_of_silent h
    rcases task_of_makeCall ht with hold | hnone | ⟨-, -, hempty⟩
    · exact hb.empty i t hold hgoal hsince
    · rw [hnone] at hsince
      cases hsince
    · exact hempty hgoal

lemma notifications_cons (call : QueueCall α) (rest : List (QueueCall α)) :
    notifications (call :: rest) = (if call.notifies then 1 else 0) + notifications rest := by
  unfold notifications
  rw [List.countP_cons, Nat.add_comm]

lemma notifications_append (before after : List (QueueCall α)) :
    notifications (before ++ after) = notifications before + notifications after :=
  List.countP_append

theorem ledger_makeCalls (calls : List (QueueCall α)) {n : Nat} {b : TaskBoard α} (hb : Ledger n b)
    (hn : n + notifications calls < UInt64.size) : Ledger (n + notifications calls) (makeCalls b calls).2 := by
  induction calls generalizing n b with
  | nil => exact hb
  | cons call rest ih =>
    rw [notifications_cons, ← Nat.add_assoc] at hn ⊢
    apply ih _ hn
    cases hcall : call.notifies with
    | true =>
      have hsucc : n + 1 < UInt64.size := by
        rw [hcall, if_pos rfl] at hn
        omega
      exact ledger_notifies hb hcall hsucc
    | false => exact ledger_silent hb hcall

/-! ### What becomes of a task -/

/-- What a poll says of a task: it has finished or was dropped before, it is pending, or it is ready. -/
inductive Standing where
  | gone
  | pending
  | ready
deriving DecidableEq

def standing : Option (Task.Polled α) → Standing
  | none => .gone
  | some ⟨_, .pending _⟩ => .pending
  | some ⟨_, .ready _⟩ => .ready

/-- Whether a call drops a task or brings it to its end. -/
def ends (i : Nat) (b : TaskBoard α) : QueueCall α → Bool
  | .dropTask j => j = i
  | .pollTask j w => j = i && standing (b.pollTask j w).1 = .ready
  | _ => false

def isOver (i : Nat) (b : TaskBoard α) : List (QueueCall α) → Bool
  | [] => false
  | call :: rest => ends i b call || isOver i (makeCall b call).2 rest

lemma lt_length_of_task {b : TaskBoard α} {i : Nat} {place : Option Task} (h : b.tasks[i]? = some place) :
    i < b.tasks.length := (List.getElem?_eq_some_iff.mp h).1

lemma task_unique {b : TaskBoard α} {i : Nat} {t t' : Task} (h : b.tasks[i]? = some (some t))
    (h' : b.tasks[i]? = some (some t')) : t = t' := by
  rw [h] at h'
  exact Option.some.inj (Option.some.inj h')

lemma ends_of_untouched {i : Nat} {call : QueueCall α} (h : call.touches i = false) (b : TaskBoard α) :
    ends i b call = false := by
  cases call with
  | dropTask j => exact h
  | pollTask j w =>
    have hj : decide (j = i) = false := h
    simp only [ends, hj, Bool.false_and]
  | _ => rfl

lemma task_of_gone {b : TaskBoard α} {i : Nat} (h : b.tasks[i]? = some none) (call : QueueCall α) :
    (makeCall b call).2.tasks[i]? = some none := by
  have hi := lt_length_of_task h
  cases htouch : call.touches i with
  | false => rw [tasks_of_untouched hi htouch, h]
  | true =>
    cases call with
    | dropTask j =>
      obtain rfl : j = i := of_decide_eq_true htouch
      exact List.getElem?_set_self hi
    | pollTask j w =>
      obtain rfl : j = i := of_decide_eq_true htouch
      have hgone : ∀ t, b.tasks[j]? ≠ some (some t) := by
        intro t ht
        rw [h] at ht
        cases ht
      dsimp only [makeCall]
      rw [pollTask_of_gone w hgone]
      exact h
    | _ => cases htouch

/-- A task that a call does not end goes on as one of its kind. -/
lemma task_of_not_ends {b : TaskBoard α} {i : Nat} {t : Task} (h : b.tasks[i]? = some (some t)) (call : QueueCall α) :
    if ends i b call then (makeCall b call).2.tasks[i]? = some none
    else ∃ t', (makeCall b call).2.tasks[i]? = some (some t') ∧ goalOf? t' = goalOf? t ∧
      (goalOf? t = none → t' = t) := by
  have hi := lt_length_of_task h
  cases htouch : call.touches i with
  | false =>
    rw [ends_of_untouched htouch, if_neg Bool.false_ne_true, tasks_of_untouched hi htouch]
    exact ⟨t, h, rfl, fun _ => rfl⟩
  | true =>
    cases call with
    | dropTask j =>
      obtain rfl : j = i := of_decide_eq_true htouch
      simp only [ends, decide_true, if_true]
      exact List.getElem?_set_self hi
    | pollTask j w =>
      obtain rfl : j = i := of_decide_eq_true htouch
      cases pollTask_cases b j w with
      | gone hgone hpoll => exact absurd h (hgone t)
      | pending t₁ t' ht hgoal hsince hsame hpoll =>
        obtain rfl := task_unique h ht
        have hset : (b.tasks.set j (some t'))[j]? = some (some t') := List.getElem?_set_self hi
        simp only [ends, makeCall, hpoll, standing, decide_true, Bool.true_and, reduceCtorEq, decide_false,
          Bool.false_eq_true, if_false]
        refine ⟨t', hset, hgoal, ?_⟩
        intro hnone
        rcases hsame with hsame | ⟨hsome, -⟩
        · exact hsame
        · exact absurd hnone hsome
      | ready t₁ output q ht hremoves hsince hpending hpoll =>
        simp only [ends, makeCall, hpoll, standing, decide_true, Bool.true_and, if_true]
        exact List.getElem?_set_self hi
    | _ => cases htouch

lemma gone_after {i : Nat} (calls : List (QueueCall α)) {b : TaskBoard α} (h : b.tasks[i]? = some none) :
    (makeCalls b calls).2.tasks[i]? = some none := by
  induction calls generalizing b with
  | nil => exact h
  | cons call rest ih => exact ih (task_of_gone h call)

lemma task_after {i : Nat} (calls : List (QueueCall α)) {b : TaskBoard α} {t : Task}
    (h : b.tasks[i]? = some (some t)) :
    if isOver i b calls then (makeCalls b calls).2.tasks[i]? = some none
    else ∃ t', (makeCalls b calls).2.tasks[i]? = some (some t') ∧ goalOf? t' = goalOf? t ∧
      (goalOf? t = none → t' = t) := by
  induction calls generalizing b t with
  | nil => exact ⟨t, h, rfl, fun _ => rfl⟩
  | cons call rest ih =>
    have hcall := task_of_not_ends h call
    rw [makeCalls_cons]
    unfold isOver
    cases hends : ends i b call with
    | true =>
      rw [hends, if_pos rfl] at hcall
      rw [Bool.true_or, if_pos rfl]
      exact gone_after rest hcall
    | false =>
      rw [hends, if_neg Bool.false_ne_true] at hcall
      obtain ⟨t₁, ht₁, hgoal₁, hsame₁⟩ := hcall
      rw [Bool.false_or]
      have hrest := ih ht₁
      split
      next hover =>
        rw [if_pos hover] at hrest
        exact hrest
      next hover =>
        rw [if_neg hover] at hrest
        obtain ⟨t', ht', hgoal', hsame'⟩ := hrest
        refine ⟨t', ht', hgoal'.trans hgoal₁, ?_⟩
        intro hnone
        rw [hsame' (hgoal₁.trans hnone), hsame₁ hnone]

/-! ### When a task is pending -/

lemma standing_of_goal {n : Nat} {b : TaskBoard α} (hb : Ledger n b) {i : Nat} {t : Task}
    (h : b.tasks[i]? = some (some t)) (hgoal : goalOf? t ≠ none) (w : Waker) :
    standing (b.pollTask i w).1 = if b.queue.isEmpty then .pending else .ready := by
  have hempty : b.queue.isEmpty = true ↔ b.queue.pending = [] := List.isEmpty_iff
  cases pollTask_cases b i w with
  | gone hgone hpoll => exact absurd h (hgone t)
  | pending t₁ t' ht hgoal' hsince hsame hpoll =>
    have hpending : b.queue.pending = [] := by
      rcases hsame with rfl | ⟨-, hpending⟩
      · obtain rfl := task_unique h ht
        exact hb.empty i t h hgoal hsince
      · exact hpending
    rw [hpoll, if_pos (hempty.mpr hpending)]
    rfl
  | ready t₁ output q ht hremoves hsince hpending hpoll =>
    obtain rfl := task_unique h ht
    rw [hpoll, if_neg fun hnil => hpending hgoal (hempty.mp hnil)]
    rfl

lemma standing_of_notified {b : TaskBoard α} {i : Nat} {since : UInt64}
    (h : b.tasks[i]? = some (some (.notified since))) (w : Waker) :
    standing (b.pollTask i w).1 = if since = b.queue.signal.generation then .pending else .ready := by
  cases pollTask_cases b i w with
  | gone hgone hpoll => exact absurd h (hgone _)
  | pending t₁ t' ht hgoal' hsince hsame hpoll =>
    obtain rfl := task_unique h ht
    rcases hsame with rfl | ⟨hgoal, -⟩
    · rw [hpoll, if_pos (Option.some.inj hsince)]
      rfl
    · exact absurd rfl hgoal
  | ready t₁ output q ht hremoves hsince hpending hpoll =>
    obtain rfl := task_unique h ht
    rw [hpoll, if_neg fun heq => hsince (congrArg some heq)]
    rfl

/-! ### Who is woken -/

lemma wakeCount_makeCall (b : TaskBoard α) (call : QueueCall α) (w : Waker) :
    (makeCall b call).2.wakeCount w = b.wakeCount w + if call.notifies then b.queue.signal.parked.count w else 0 := by
  unfold TaskBoard.wakeCount
  cases hcall : call.notifies with
  | true => rw [(makeCall_notifies hcall b).2.1, List.count_append, if_pos rfl]
  | false => rw [(makeCall_silent hcall b).2, if_neg Bool.false_ne_true, Nat.add_zero]

lemma wakeCount_le (calls : List (QueueCall α)) (b : TaskBoard α) (w : Waker) :
    b.wakeCount w ≤ (makeCalls b calls).2.wakeCount w := by
  induction calls generalizing b with
  | nil => exact Nat.le_refl _
  | cons call rest ih =>
    have hcall : b.wakeCount w ≤ (makeCall b call).2.wakeCount w := by
      rw [wakeCount_makeCall]
      exact Nat.le_add_right _ _
    exact Nat.le_trans hcall (ih (makeCall b call).2)

/-- A task waits to pass the present generation, with its waker parked. -/
def AwaitsWith (i : Nat) (w : Waker) (b : TaskBoard α) : Prop :=
  ∃ t, b.tasks[i]? = some (some t) ∧ sinceOf? t = some b.queue.signal.generation ∧ w ∈ b.queue.signal.parked

lemma awaitsWith_of_pending {b : TaskBoard α} {i : Nat} {w : Waker} (h : standing (b.pollTask i w).1 = .pending) :
    AwaitsWith i w (b.pollTask i w).2 := by
  cases pollTask_cases b i w with
  | gone hgone hpoll =>
    rw [hpoll] at h
    cases h
  | pending t t' ht hgoal hsince hsame hpoll =>
    rw [hpoll]
    refine ⟨t', List.getElem?_set_self (lt_length_of_task ht), ?_, Signal.mem_parked_park.mpr (.inl rfl)⟩
    rw [hsince]
    exact congrArg some (Signal.generation_park _ _).symm
  | ready t output q ht hremoves hsince hpending hpoll =>
    rw [hpoll] at h
    cases h

lemma not_ready_of_awaitsWith {b : TaskBoard α} {i : Nat} {w : Waker} (h : AwaitsWith i w b) (v : Waker) :
    standing (b.pollTask i v).1 ≠ .ready := by
  obtain ⟨t, ht, hsince, -⟩ := h
  intro hready
  cases pollTask_cases b i v with
  | gone hgone hpoll => exact hgone t ht
  | pending t₁ t' ht₁ hgoal hsince' hsame hpoll =>
    rw [hpoll] at hready
    cases hready
  | ready t₁ output q ht₁ hremoves hsince' hpending hpoll =>
    obtain rfl := task_unique ht ht₁
    exact hsince' hsince

/-- Without polls of its own, a task that waits can only be dropped or be woken. -/
lemma woken_of_not_awaitsWith {i : Nat} {w : Waker} (calls : List (QueueCall α))
    (hpolls : ∀ v, .pollTask i v ∉ calls) {b : TaskBoard α} (h : AwaitsWith i w b) :
    b.wakeCount w < (makeCalls b calls).2.wakeCount w ∨ (makeCalls b calls).2.tasks[i]? = some none ∨
      AwaitsWith i w (makeCalls b calls).2 := by
  induction calls generalizing b with
  | nil => exact .inr (.inr h)
  | cons call rest ih =>
    obtain ⟨t, ht, hsince, hw⟩ := h
    have hcount := wakeCount_makeCall b call w
    cases hcall : call.notifies with
    | true =>
      rw [hcall, if_pos rfl] at hcount
      have hwoken : 0 < b.queue.signal.parked.count w := List.count_pos_iff.mpr hw
      have hrest := wakeCount_le rest (makeCall b call).2 w
      left
      show b.wakeCount w < (makeCalls (makeCall b call).2 rest).2.wakeCount w
      omega
    | false =>
      rw [hcall, if_neg Bool.false_ne_true, Nat.add_zero] at hcount
      by_cases hdrop : call = .dropTask i
      · subst hdrop
        have hgone : (makeCall b (.dropTask i)).2.tasks[i]? = some none :=
          List.getElem?_set_self (lt_length_of_task ht)
        exact .inr (.inl (gone_after rest hgone))
      · have htouch : call.touches i = false := by
          cases call with
          | dropTask j => exact decide_eq_false fun hj => hdrop (congrArg _ hj)
          | pollTask j v =>
            refine decide_eq_false fun hj => hpolls v ?_
            rw [hj]
            exact List.mem_cons_self
          | _ => rfl
        have hawaits : AwaitsWith i w (makeCall b call).2 := by
          refine ⟨t, ?_, ?_, mem_parked_of_silent hcall hw⟩
          · rw [tasks_of_untouched (lt_length_of_task ht) htouch, ht]
          · rw [generation_of_silent hcall, hsince]
        rw [← hcount]
        exact ih (fun v hv => hpolls v (List.mem_cons_of_mem _ hv)) hawaits

/-! ### The law of wakers -/

lemma makeCalls_split (before after : List (QueueCall α)) (call : QueueCall α) (b : TaskBoard α) :
    (makeCalls b (before ++ call :: after)).2 = (makeCalls (makeCall (makeCalls b before).2 call).2 after).2 := by
  induction before generalizing b with
  | nil => rfl
  | cons first rest ih => exact ih (makeCall b first).2

/-- How the task that a call creates stands after the calls behind it: over, or else pending as long as it is to
wait. -/
def Stands (before : List (QueueCall α)) (create : QueueCall α) (after : List (QueueCall α)) (waits : Bool) : Prop :=
  let (answer, b₀) := makeCall (makeCalls .empty before).2 create
  let b := (makeCalls b₀ after).2
  ∃ i, answer = .created i ∧
    ∀ w, standing (b.pollTask i w).1 = if isOver i b₀ after then .gone else if waits then .pending else .ready

lemma standing_of_over {b : TaskBoard α} {i : Nat} (h : b.tasks[i]? = some none) (w : Waker) :
    standing (b.pollTask i w).1 = .gone := by
  have hgone : ∀ t, b.tasks[i]? ≠ some (some t) := by
    intro t ht
    rw [h] at ht
    cases ht
  rw [pollTask_of_gone w hgone]
  rfl

lemma standing_after {b : TaskBoard α} {i : Nat} {t : Task} (h : b.tasks[i]? = some (some t))
    (after : List (QueueCall α)) {waits : Bool}
    (hlater : ∀ t', (makeCalls b after).2.tasks[i]? = some (some t') → goalOf? t' = goalOf? t →
      (goalOf? t = none → t' = t) → ∀ w, standing ((makeCalls b after).2.pollTask i w).1 =
        if waits then .pending else .ready) (w : Waker) :
    standing ((makeCalls b after).2.pollTask i w).1 =
      if isOver i b after then .gone else if waits then .pending else .ready := by
  have hafter := task_after after h
  by_cases hover : isOver i b after = true
  · rw [if_pos hover] at hafter ⊢
    exact standing_of_over hafter w
  · rw [if_neg hover] at hafter ⊢
    obtain ⟨t', ht', hgoal, hsame⟩ := hafter
    exact hlater t' ht' hgoal hsame w

lemma stands_goal (before : List (QueueCall α)) (goal : Goal) (after : List (QueueCall α))
    (hcount : notifications (before ++ .createTask goal :: after) < UInt64.size) :
    Stands before (.createTask goal) after
      (makeCalls .empty (before ++ .createTask goal :: after)).2.queue.isEmpty := by
  have hledger := ledger_makeCalls _ ledger_empty (by rw [Nat.zero_add]; exact hcount)
  unfold Stands
  rw [makeCalls_split] at hledger ⊢
  generalize (makeCalls .empty before).2 = b at hledger ⊢
  have hnew : (makeCall b (.createTask goal)).2.tasks[b.tasks.length]? = some (some (.fresh goal)) :=
    List.getElem?_concat_length
  refine ⟨b.tasks.length, rfl, standing_after hnew after fun t ht hgoal _ w => ?_⟩
  have hsome : goalOf? t ≠ none := by
    rw [hgoal]
    exact Option.some_ne_none goal
  exact standing_of_goal hledger ht hsome w

lemma stands_notified (before after : List (QueueCall α))
    (hcount : notifications (before ++ .createNotified :: after) < UInt64.size) :
    Stands before .createNotified after (notifications after = 0) := by
  have hsum : notifications (before ++ .createNotified :: after) = notifications before + notifications after := by
    rw [notifications_append, notifications_cons]
    exact congrArg _ (Nat.zero_add _)
  have hledger₀ := ledger_makeCalls before ledger_empty (by omega)
  have hledger := ledger_makeCalls _ ledger_empty (by rw [Nat.zero_add]; exact hcount)
  rw [makeCalls_split, hsum] at hledger
  unfold Stands
  generalize (makeCalls .empty before).2 = b at hledger₀ hledger ⊢
  have hnew : (makeCall b .createNotified).2.tasks[b.tasks.length]? =
      some (some (.notified b.queue.signal.generation)) := List.getElem?_concat_length
  refine ⟨b.tasks.length, rfl, standing_after hnew after fun t ht _ hsame w => ?_⟩
  rw [hsame rfl] at ht
  -- the two generations count the notifications before the task and those up to now
  have hgeneration : b.queue.signal.generation =
      (makeCalls (makeCall b .createNotified).2 after).2.queue.signal.generation ↔ notifications after = 0 := by
    have hthen := hledger₀.generation
    have hnow := hledger.generation
    rw [← UInt64.toNat_inj]
    omega
  rw [standing_of_notified ht w]
  simp only [hgeneration, decide_eq_true_eq]

/-- With fewer than 2^64 notifications: no waker is parked twice; a notification wakes each parked waker once, no
other, and unparks all; a task that looks at the queue is pending exactly while the queue is empty, and one that
waits for a notification exactly until there was one; and a task that a poll would find ready has had the waker of
its last poll woken since. -/
theorem waker_bookkeeping (calls : List (QueueCall α)) (hcount : notifications calls < UInt64.size) :
    let b := (makeCalls .empty calls).2
    b.queue.signal.parked.Nodup ∧
      (∀ call w, (makeCall b call).2.wakeCount w =
        b.wakeCount w + if call.notifies ∧ w ∈ b.queue.signal.parked then 1 else 0) ∧
      (∀ call, call.notifies = true → (makeCall b call).2.queue.signal.parked = []) ∧
      (∀ before goal after, calls = before ++ .createTask goal :: after →
        Stands before (.createTask goal) after b.queue.isEmpty) ∧
      (∀ before after, calls = before ++ .createNotified :: after →
        Stands before .createNotified after (notifications after = 0)) ∧
      ∀ before i w after, calls = before ++ .pollTask i w :: after → (∀ v, .pollTask i v ∉ after) →
        let (outcome, polled) := (makeCalls .empty before).2.pollTask i w
        standing outcome = .pending → ∀ v, standing (b.pollTask i v).1 = .ready → polled.wakeCount w < b.wakeCount w := by
  have hledger := ledger_makeCalls calls ledger_empty (by rw [Nat.zero_add]; exact hcount)
  intro b
  refine ⟨hledger.nodup, ?_, ?_, ?_, ?_, ?_⟩
  · intro call w
    rw [wakeCount_makeCall, hledger.nodup.count, ite_and]
  · intro call hcall
    rw [(makeCall_notifies hcall b).1]
    rfl
  · rintro before goal after rfl
    exact stands_goal before goal after hcount
  · rintro before after rfl
    exact stands_notified before after hcount
  · rintro before i w after rfl hpolls hpending v hready
    have hawaits := awaitsWith_of_pending hpending
    have hb : b = (makeCalls ((makeCalls .empty before).2.pollTask i w).2 after).2 := makeCalls_split _ _ _ _
    rw [hb] at hready ⊢
    rcases woken_of_not_awaitsWith after hpolls hawaits with hwoken | hgone | hwaits
    · exact hwoken
    · rw [standing_of_over hgone] at hready
      cases hready
    · exact absurd hready (not_ready_of_awaitsWith hwaits v)

/-- Two tasks that are pending with the same waker, and then a post. -/
def sharedWaker : List (QueueCall Nat) :=
  [.createTask .next, .pollTask 0 7, .createNotified, .pollTask 1 7, .post 5]

theorem waker_bookkeeping_sharedWaker :
    let b := (makeCalls .empty sharedWaker).2
    notifications sharedWaker < UInt64.size ∧ b.queue.signal.parked.Nodup ∧
      standing (b.pollTask 0 3).1 = .ready ∧ 0 < b.wakeCount 7 := by
  have hcount : notifications sharedWaker < UInt64.size := by decide
  obtain ⟨hnodup, -, -, -, -, hwoken⟩ := waker_bookkeeping sharedWaker hcount
  have hpolls : ∀ v, QueueCall.pollTask 0 v ∉ [QueueCall.createNotified, .pollTask 1 7, .post (5 : Nat)] := by
    intro v hv
    simp at hv
  exact ⟨hcount, hnodup, rfl, hwoken [.createTask .next] 0 7 _ rfl hpolls rfl 3 rfl⟩

end GuestBridge.Proofs
