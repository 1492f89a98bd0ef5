import GuestBridge.Proofs.Removal

/-!
# Every event is delivered once and in order

A run of calls at a queue and its tasks is kept with the answers that the callers got. The events in
the answers, one after the other, and then those still queued are the events that were posted. So no
mix of polls, callbacks that refuse, drains and tasks that compete, are polled again or are dropped
loses an event, hands it out twice or lets one overtake another. Nor does a call that is to take
events come back without them: a poll takes the first event, a drain all of them, and a task after its
next event is ready with the first one.
-/

namespace GuestBridge.Proofs

variable {α : Type}

/-! ### Calls and answers -/

inductive QueueCall (α : Type) : Type 1 where
  | post (a : α)
  | poll
  | pollWith {β ε : Type} (f : α → Except ε β)
  | drain
  | notify
  | wait
  | createNotified
  | createTask (goal : Goal)
  | pollTask (i : Nat) (w : Waker)
  | dropTask (i : Nat)

inductive Answer (α : Type) where
  | done
  | polled (event : Option α)
  /-- What a callback was handed, by whether it accepted. -/
  | tried (event : Option (Except α α))
  | drained (events : List α)
  | waited (ready : Bool)
  | created (i : Nat)
  | taskPolled (polled : Option (Task.Polled α))

def makeCall (b : TaskBoard α) : QueueCall α → Answer α × TaskBoard α
  | .post a => (.done, b.absorb (b.queue.post a))
  | .poll => (.polled b.queue.poll.1, { b with queue := b.queue.poll.2 })
  | .pollWith f => (.tried (b.queue.pollWith (handBack f)).1, { b with queue := (b.queue.pollWith f).2 })
  | .drain => (.drained b.queue.drain.1, { b with queue := b.queue.drain.2 })
  | .notify => (.done, b.absorb b.queue.notify)
  | .wait => (.waited b.queue.isReady, b)
  | .createNotified =>
    let (i, b) := b.create (.notified b.queue.signal.generation)
    (.created i, b)
  | .createTask goal =>
    let (i, b) := b.create (.fresh goal)
    (.created i, b)
  | .pollTask i w =>
    let (polled, b) := b.pollTask i w
    (.taskPolled polled, b)
  | .dropTask i => (.done, b.dropTask i)

def makeCalls (b : TaskBoard α) : List (QueueCall α) → List (Answer α) × TaskBoard α
  | [] => ([], b)
  | call :: rest =>
    let (answer, b) := makeCall b call
    let (answers, b) := makeCalls b rest
    (answer :: answers, b)

/-! ### What was posted and what was removed -/

def QueueCall.posted : QueueCall α → List α
  | .post a => [a]
  | _ => []

def polledEvents : Task.Polled α → List α
  | ⟨_, .pending _⟩ => []
  | ⟨t, .ready output⟩ => taskEvents t output

/-- The events that left the queue with an answer. -/
def Answer.removed : Answer α → List α
  | .polled event => event.toList
  | .tried event => accepted event
  | .drained events => events
  | .taskPolled (some task) => polledEvents task
  | _ => []

def WantsEvent : Task → Prop
  | .fresh .next | .waiting .next _ => True
  | _ => False

/-- The calls that are not to remove anything: a callback that refuses or is not called, a poll of a
task that is gone, stays pending or is not after an event, and whatever is no poll and no drain. -/
def Quiet (b : TaskBoard α) : QueueCall α → Prop
  | .poll | .drain => False
  | .pollWith f => ∀ c, (b.queue.pollWith f).1 ≠ some (.ok c)
  | .pollTask i w =>
    (∀ t output, (b.pollTask i w).1 ≠ some ⟨t, .ready output⟩) ∨
      ∀ t, b.tasks[i]? = some (some t) → ¬ WantsEvent t
  | _ => True

/-! ### One call -/

lemma pollTask_delivers (b : TaskBoard α) (i : Nat) (w : Waker) :
    (Answer.taskPolled (b.pollTask i w).1).removed ++ (b.pollTask i w).2.queue.pending = b.queue.pending := by
  cases pollTask_cases b i w with
  | gone hgone hpoll =>
    rw [hpoll]
    rfl
  | pending t t' ht hgoal hsince hsame hpoll =>
    rw [hpoll]
    rfl
  | ready t output q ht hremoves hsince hpending hpoll =>
    rw [hpoll]
    exact hremoves.pending

theorem makeCall_delivers (b : TaskBoard α) (call : QueueCall α) :
    (makeCall b call).1.removed ++ (makeCall b call).2.queue.pending = b.queue.pending ++ call.posted := by
  cases call with
  | post a => rfl
  | poll => exact (removes_poll b.queue).pending.trans (List.append_nil _).symm
  | pollWith f => exact (removes_pollWith b.queue f).pending.trans (List.append_nil _).symm
  | pollTask i w => exact (pollTask_delivers b i w).trans (List.append_nil _).symm
  | drain => exact (removes_drain b.queue).pending.trans (List.append_nil _).symm
  | notify | wait | createNotified | createTask goal | dropTask i => exact (List.append_nil _).symm

/-! ### Calls that remove nothing -/

lemma taskEvents_of_not_wants {t : Task} (h : ¬ WantsEvent t) (output : t.Output α) : taskEvents t output = [] := by
  cases t with
  | notified since => rfl
  | fresh goal | waiting goal since =>
    cases goal with
    | nonempty => rfl
    | next => exact absurd trivial h

lemma removed_pollWith {β ε : Type} {q : EventQueue α} {f : α → Except ε β}
    (h : ∀ c, (q.pollWith f).1 ≠ some (.ok c)) : (Answer.tried (q.pollWith (handBack f)).1).removed = [] := by
  obtain ⟨pending, signal⟩ := q
  cases pending with
  | nil => rfl
  | cons a rest =>
    unfold EventQueue.pollWith at h ⊢
    unfold handBack
    dsimp only at h ⊢
    cases hf : f a with
    | ok c =>
      rw [hf] at h
      exact absurd rfl (h c)
    | error e => rfl

lemma removed_pollTask {b : TaskBoard α} {i : Nat} {w : Waker} (h : Quiet b (.pollTask i w)) :
    (Answer.taskPolled (b.pollTask i w).1).removed = [] := by
  cases pollTask_cases b i w with
  | gone hgone hpoll =>
    rw [hpoll]
    rfl
  | pending t t' ht hgoal hsince hsame hpoll =>
    rw [hpoll]
    rfl
  | ready t output q ht hremoves hsince hpending hpoll =>
    rcases h with hready | hwants
    · rw [hpoll] at hready
      exact absurd rfl (hready t output)
    · rw [hpoll]
      exact taskEvents_of_not_wants (hwants t ht) output

theorem makeCall_quiet {b : TaskBoard α} {call : QueueCall α} (h : Quiet b call) :
    (makeCall b call).1.removed = [] ∧
      (makeCall b call).2.queue.pending = b.queue.pending ++ call.posted := by
  have hremoved : (makeCall b call).1.removed = [] := by
    cases call with
    | poll => exact h.elim
    | drain => exact h.elim
    | pollWith f => exact removed_pollWith h
    | pollTask i w => exact removed_pollTask h
    | post a | notify | wait | createNotified | createTask goal | dropTask i => rfl
  have hdelivers := makeCall_delivers b call
  rw [hremoved, List.nil_append] at hdelivers
  exact ⟨hremoved, hdelivers⟩

/-! ### Calls that remove something -/

lemma taskEvents_of_wants {t : Task} (h : WantsEvent t) (output : t.Output α) : ∃ a, taskEvents t output = [a] := by
  cases t with
  | notified since => exact h.elim
  | fresh goal | waiting goal since =>
    cases goal with
    | nonempty => exact h.elim
    | next => exact ⟨output, rfl⟩

lemma goalOf_of_wants {t : Task} (h : WantsEvent t) : goalOf? t ≠ none := by
  cases t with
  | notified since => exact h.elim
  | fresh goal | waiting goal since => exact Option.some_ne_none goal

lemma Removes.eq_tail {q q' : EventQueue α} {a : α} (h : Removes q [a] q') :
    q.pending = a :: q'.pending ∧ q' = { q with pending := q'.pending } := by
  refine ⟨h.pending.symm, ?_⟩
  rw [← h.signal]

/-- What the calls that are to remove something answer and leave behind. A task is let look at the queue
unless it waits to pass the present generation. -/
structure Takings (b : TaskBoard α) : Prop where
  poll : makeCall b .poll =
    (.polled b.queue.pending.head?, { b with queue := { b.queue with pending := b.queue.pending.tail } })
  drain : makeCall b .drain = (.drained b.queue.pending, { b with queue := { b.queue with pending := [] } })
  accepted : ∀ {β ε : Type} (f : α → Except ε β) c, (b.queue.pollWith f).1 = some (.ok c) →
    (b.queue.pollWith f).2 = { b.queue with pending := b.queue.pending.tail }
  refused : ∀ {β ε : Type} (f : α → Except ε β), (∀ c, (b.queue.pollWith f).1 ≠ some (.ok c)) →
    (b.queue.pollWith f).2 = b.queue
  ready_iff : ∀ i w t, b.tasks[i]? = some (some t) → WantsEvent t →
    ((∃ output, (b.pollTask i w).1 = some ⟨t, .ready output⟩) ↔
      b.queue.pending ≠ [] ∧ sinceOf? t ≠ some b.queue.signal.generation)
  ready : ∀ i w t output, WantsEvent t → (b.pollTask i w).1 = some ⟨t, .ready output⟩ →
    ∃ a rest, b.queue.pending = a :: rest ∧ taskEvents t output = [a] ∧
      (b.pollTask i w).2 = { b with queue := { b.queue with pending := rest }, tasks := b.tasks.set i none }

lemma poll_eq (q : EventQueue α) : q.poll = (q.pending.head?, { q with pending := q.pending.tail }) := by
  obtain ⟨pending, signal⟩ := q
  cases pending with
  | nil => rfl
  | cons a rest => rfl

lemma pollWith_queue {β ε : Type} (q : EventQueue α) (f : α → Except ε β) :
    (∀ c, (q.pollWith f).1 = some (.ok c) → (q.pollWith f).2 = { q with pending := q.pending.tail }) ∧
      ((∀ c, (q.pollWith f).1 ≠ some (.ok c)) → (q.pollWith f).2 = q) := by
  obtain ⟨pending, signal⟩ := q
  cases pending with
  | nil => exact ⟨fun _ _ => rfl, fun _ => rfl⟩
  | cons a rest =>
    unfold EventQueue.pollWith
    dsimp only
    cases hf : f a with
    | ok c => exact ⟨fun _ _ => rfl, fun hrefused => absurd rfl (hrefused c)⟩
    | error e =>
      refine ⟨?_, fun _ => rfl⟩
      intro c hc
      cases hc

lemma ready_iff_of_wants {b : TaskBoard α} {i : Nat} {t : Task} (w : Waker) (ht : b.tasks[i]? = some (some t))
    (hwants : WantsEvent t) :
    (∃ output, (b.pollTask i w).1 = some ⟨t, .ready output⟩) ↔
      b.queue.pending ≠ [] ∧ sinceOf? t ≠ some b.queue.signal.generation := by
  cases pollTask_cases b i w with
  | gone hgone hpoll => exact absurd ht (hgone t)
  | pending t₁ t' ht₁ hgoal hsince hsame hpoll =>
    obtain rfl : t = t₁ := by simpa only [ht, Option.some.injEq] using ht₁
    rw [hpoll]
    constructor
    · rintro ⟨output, hready⟩
      cases hready
    · rintro ⟨hpending, hpassed⟩
      rcases hsame with rfl | ⟨-, hempty⟩
      · exact absurd hsince hpassed
      · exact absurd hempty hpending
  | ready t₁ output q ht₁ hremoves hsince hpending hpoll =>
    obtain rfl : t = t₁ := by simpa only [ht, Option.some.injEq] using ht₁
    rw [hpoll]
    exact ⟨fun _ => ⟨hpending (goalOf_of_wants hwants), hsince⟩, fun _ => ⟨output, rfl⟩⟩

lemma ready_takes_head {b : TaskBoard α} {i : Nat} {w : Waker} {t : Task} {output : t.Output α}
    (hwants : WantsEvent t) (h : (b.pollTask i w).1 = some ⟨t, .ready output⟩) :
    ∃ a rest, b.queue.pending = a :: rest ∧ taskEvents t output = [a] ∧
      (b.pollTask i w).2 = { b with queue := { b.queue with pending := rest }, tasks := b.tasks.set i none } := by
  cases pollTask_cases b i w with
  | gone hgone hpoll =>
    rw [hpoll] at h
    cases h
  | pending t₁ t' ht hgoal hsince hsame hpoll =>
    rw [hpoll] at h
    cases h
  | ready t₁ output₁ q ht hremoves hsince hpending hpoll =>
    rw [hpoll] at h ⊢
    cases h
    obtain ⟨a, ha⟩ := taskEvents_of_wants hwants output
    rw [ha] at hremoves
    obtain ⟨hhead, htail⟩ := hremoves.eq_tail
    refine ⟨a, q.pending, hhead, ha, ?_⟩
    rw [← htail]

theorem takings (b : TaskBoard α) : Takings b where
  poll := by
    unfold makeCall
    rw [poll_eq]
  drain := rfl
  accepted := fun f => (pollWith_queue b.queue f).1
  refused := fun f => (pollWith_queue b.queue f).2
  ready_iff := fun _ w _ ht hwants => ready_iff_of_wants w ht hwants
  ready := fun _ _ _ _ hwants h => ready_takes_head hwants h

/-! ### Runs of calls -/

/-- The events in the answers, in the order of their removal. -/
def delivered (answers : List (Answer α)) : List α := answers.flatMap Answer.removed

/-- The events of the posts among the calls. -/
def posts (calls : List (QueueCall α)) : List α := calls.flatMap QueueCall.posted

lemma makeCalls_cons (b : TaskBoard α) (call : QueueCall α) (rest : List (QueueCall α)) :
    makeCalls b (call :: rest) =
      ((makeCall b call).1 :: (makeCalls (makeCall b call).2 rest).1, (makeCalls (makeCall b call).2 rest).2) := rfl

theorem makeCalls_deliver (calls : List (QueueCall α)) (b : TaskBoard α) :
    delivered (makeCalls b calls).1 ++ (makeCalls b calls).2.queue.pending = b.queue.pending ++ posts calls := by
  unfold delivered posts
  induction calls generalizing b with
  | nil => exact (List.append_nil _).symm
  | cons call rest ih =>
    rw [makeCalls_cons, List.flatMap_cons, List.flatMap_cons, List.append_assoc, ih, ← List.append_assoc,
      makeCall_delivers, List.append_assoc]

/-- A callback is called with the first event and with no other, and not at all if there is none. -/
lemma pollWith_calls {β ε : Type} (q : EventQueue α) (f : α → Except ε β) :
    (q.pollWith f).1 = q.pending.head?.map f ∧
      ∀ g : α → Except ε β, (∀ a, q.pending.head? = some a → g a = f a) → q.pollWith g = q.pollWith f := by
  obtain ⟨pending, signal⟩ := q
  cases pending with
  | nil => exact ⟨rfl, fun _ _ => rfl⟩
  | cons a rest =>
    constructor
    · unfold EventQueue.pollWith
      dsimp only
      cases hf : f a with
      | ok c => exact congrArg some hf.symm
      | error e => exact congrArg some hf.symm
    · intro g hg
      have hga : g a = f a := hg a rfl
      unfold EventQueue.pollWith
      dsimp only
      rw [hga]

/-- After any calls at a new queue: what was delivered and what is queued is what was posted, in its
order; a callback sees the first event only; a quiet call removes nothing; and each call that is to
remove something takes the first event or all of them. -/
theorem delivery (calls : List (QueueCall α)) :
    let (answers, b) := makeCalls .empty calls
    delivered answers ++ b.queue.pending = posts calls ∧
    (delivered answers).length + b.queue.size = (posts calls).length ∧
    (∀ {β ε : Type} (f : α → Except ε β), (b.queue.pollWith f).1 = b.queue.pending.head?.map f ∧
      ∀ g : α → Except ε β, (∀ a, b.queue.pending.head? = some a → g a = f a) →
        b.queue.pollWith g = b.queue.pollWith f) ∧
    (∀ call, Quiet b call → (makeCall b call).1.removed = [] ∧
      (makeCall b call).2.queue.pending = b.queue.pending ++ call.posted) ∧
    Takings b := by
  have horder := makeCalls_deliver calls .empty
  dsimp only
  refine ⟨horder, ?_, fun f => pollWith_calls _ f, fun _ hquiet => makeCall_quiet hquiet, takings _⟩
  have hlength := congrArg List.length horder
  rw [List.length_append] at hlength
  exact hlength

/-- Events that leave by a poll, by a callback after it refused, by a task that had found nothing, and
by a drain. -/
def everyPath : List (QueueCall Nat) :=
  [.createTask .next, .pollTask 0 7, .post 1, .post 2, .post 3, .post 4, .post 5, .poll,
    .pollWith fun a => (.error a : Except Nat Unit), .pollWith fun a => (.ok a : Except Unit Nat),
    .pollTask 0 7, .drain]

theorem delivery_everyPath :
    (makeCalls .empty everyPath).1.map Answer.removed =
        [[], [], [], [], [], [], [], [1], [], [2], [3], [4, 5]] ∧
      delivered (makeCalls .empty everyPath).1 = [1, 2, 3, 4, 5] ∧
      (makeCall (makeCalls .empty (everyPath.take 7)).2 .poll).1 = .polled (some 1) := by
  have horder : delivered (makeCalls .empty everyPath).1 ++ (makeCalls .empty everyPath).2.queue.pending = _ :=
    (delivery everyPath).1
  have htakings : Takings (makeCalls .empty (everyPath.take 7)).2 := (delivery (everyPath.take 7)).2.2.2.2
  have hdrained : (makeCalls .empty everyPath).2.queue.pending = [] := rfl
  rw [hdrained, List.append_nil] at horder
  exact ⟨rfl, horder, congrArg Prod.fst htakings.poll⟩

end GuestBridge.Proofs
