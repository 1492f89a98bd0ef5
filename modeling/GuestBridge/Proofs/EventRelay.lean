import GuestBridge.Bridge.Basic
import GuestBridge.Proofs.ServiceCalls

/-!
# From the host's events to guest memory

The host posts events, directly or through input hubs, and the next event is asked for with an address in
guest memory, by the host on the guest's behalf or by the guest itself. What is read back at the
addresses, each time one was reported, is what was posted, in its order and without gaps. A request that
fails or finds nothing changes nothing, so the event that it could not deliver is the next one still.
-/

namespace GuestBridge.Proofs

/-! ### Requests -/

/-- Who asks for the next event: the host through the bridge, or the guest through its syscall. -/
inductive Asker where
  | host
  | guest
deriving DecidableEq, Repr

/-- What a request for the next event came to: none if it failed, and otherwise whether an event was
reported. -/
structure Asked where
  answer? : Option Bool
  memory : Memory
  bridge : Bridge

/-- Asks for the next event. A guest is told one for an event. -/
def ask (b : Bridge) (m : Memory) (addr : Word) : Asker → Asked
  | .host =>
    let (result, b, m, _) := b.pollEvent m addr
    ⟨result.toOption, m, b⟩
  | .guest =>
    let out := b.invoke m .getEvent [addr]
    ⟨out.result.toOption.map fun r => r.words == [1], out.memory, out.bridge⟩

/-- The event that lies at a guest address. -/
def eventAt (m : Memory) (addr : Word) : Except MemoryError Event :=
  Memory.guestOffset addr >>= fun offset => Event.readFrom m offset

/-- The guest's syscall for events is the built-in one. -/
def BindsGetEvent (b : Bridge) : Prop :=
  b.registry.get? .getEvent = some (.action [.ptr] Services.getEvent)

/-- A bridge that was set up with the built-in groups binds it, and starts without events. -/
lemma bindsGetEvent_of_build {o : Bridge.Options} {b : Bridge} (hgroups : o.groups = SyscallGroup.builtin)
    (hbuild : (Bridge.build o).1 = .ok b) : BindsGetEvent b ∧ b.events.pending = [] := by
  unfold Bridge.build at hbuild
  rw [hgroups] at hbuild
  cases hbuild
  exact ⟨rfl, rfl⟩

lemma eventAt_splice {m : Memory} {addr : Word} (e : Event) (hsign : 0 ≤ addr.toInt)
    (hfits : addr.toInt.toNat + 12 ≤ m.size) :
    eventAt (m.splice addr.toInt.toNat (wireBytes e)) addr = .ok e := by
  have hlt := addr.toInt_lt
  have hsize : UInt64.size = 18446744073709551616 := rfl
  have hoffset := toNat_guestOffset addr
  have hread : Event.readFrom (m.splice (UInt64.ofNat addr.toInt.toNat).toNat (wireBytes e))
      (UInt64.ofNat addr.toInt.toNat) = .ok e :=
    event_readFrom_splice e (by omega) (by omega)
  rw [hoffset] at hread
  unfold eventAt
  rw [guestOffset_of_nonneg hsign]
  exact hread

/-- The guest's call in one equation. -/
lemma invoke_getEvent {b : Bridge} (hbinds : BindsGetEvent b) (m : Memory) (addr : Word) :
    b.invoke m .getEvent [addr] =
      let d := Event.deliver b.events m addr
      ⟨eventReturn d, { b with events := d.queue }, d.memory,
        d.log b.trace ++ Registry.callLog b.trace .getEvent [addr] (eventReturn d)⟩ := by
  have harity : [addr].length = (Routine.action [.ptr] Services.getEvent).arity := rfl
  unfold Bridge.invoke
  rw [Registry.invoke_of_arity hbinds harity, call_getEvent]
  rfl

/-- Host and guest get the same. -/
lemma ask_eq {b : Bridge} (hbinds : BindsGetEvent b) (m : Memory) (addr : Word) (who : Asker) :
    ask b m addr who =
      let d := Event.deliver b.events m addr
      ⟨d.answer.toOption, d.memory, { b with events := d.queue }⟩ := by
  cases who with
  | host => rfl
  | guest =>
    unfold ask
    dsimp only
    rw [invoke_getEvent hbinds]
    dsimp only
    unfold eventReturn
    cases (Event.deliver b.events m addr).answer with
    | error e => rfl
    | ok delivered => cases delivered <;> rfl

/-- What a request does. It reports an event when there is one and the address can take it, and then the
first event leaves the queue for the twelve bytes at the address. Otherwise nothing changes. -/
structure AskEffect (b : Bridge) (m : Memory) (addr : Word) (out : Asked) : Prop where
  reported : out.answer? = some true ↔
    0 ≤ addr.toInt ∧ addr.toInt.toNat + 12 ≤ m.size ∧ b.events.pending ≠ []
  nothing : out.answer? = some false ↔ 0 ≤ addr.toInt ∧ b.events.pending = []
  failed : out.answer? = none ↔
    addr.toInt < 0 ∨ b.events.pending ≠ [] ∧ m.size < addr.toInt.toNat + 12
  delivered : out.answer? = some true → SameOutside addr.toInt.toNat 12 m out.memory ∧
    ∃ e, eventAt out.memory addr = .ok e ∧ Removes b.events [e] out.bridge.events ∧
      out.bridge = { b with events := out.bridge.events }
  unchanged : out.answer? ≠ some true → out.memory = m ∧ out.bridge = b

lemma askEffect_ask {b : Bridge} (hbinds : BindsGetEvent b) (m : Memory) (addr : Word) (who : Asker) :
    AskEffect b m addr (ask b m addr who) := by
  rw [ask_eq hbinds]
  cases deliver_cases b.events m addr with
  | refused cause hwhy h =>
    rw [h]
    refine ⟨⟨fun h => ?_, fun h => ?_⟩, ⟨fun h => ?_, fun h => ?_⟩, ⟨fun _ => hwhy, fun _ => rfl⟩,
      fun h => ?_, fun _ => ⟨rfl, rfl⟩⟩
    · cases h
    · omega
    · cases h
    · rcases hwhy with hneg | ⟨hsome, -⟩
      · omega
      · exact absurd h.2 hsome
    · cases h
  | nothing hsign hempty h =>
    rw [h]
    refine ⟨⟨fun h => ?_, fun h => ?_⟩, ⟨fun _ => ⟨hsign, hempty⟩, fun _ => rfl⟩, ⟨fun h => ?_, fun h => ?_⟩,
      fun h => ?_, fun _ => ⟨rfl, rfl⟩⟩
    · cases h
    · exact absurd hempty h.2.2
    · cases h
    · rcases h with hneg | ⟨hsome, -⟩
      · omega
      · exact absurd hempty hsome
    · cases h
  | head e rest hsign hq hfits h =>
    have hsome : b.events.pending ≠ [] := by
      rw [hq]
      exact List.cons_ne_nil _ _
    rw [h]
    refine ⟨⟨fun _ => ⟨hsign, hfits, hsome⟩, fun _ => rfl⟩, ⟨fun h => ?_, fun h => ?_⟩,
      ⟨fun h => ?_, fun h => ?_⟩, fun _ => ⟨?_, e, ?_, ?_, rfl⟩, fun h => ?_⟩
    · cases h
    · exact absurd h.2 hsome
    · cases h
    · omega
    · exact sameOutside_wireBytes e hfits
    · exact eventAt_splice e hsign hfits
    · exact ⟨rfl, hq.symm⟩
    · exact absurd rfl h

/-! ### Runs of posts and requests -/

/-- What happens at a bridge. Guest memory is what the guest makes of it between its calls, so every
request comes with its own. -/
inductive RelayCall where
  | post (e : Event)
  | gesture (hub : Nat) (g : Gesture)
  | ask (m : Memory) (addr : Word) (who : Asker)

/-- What came of a call: the events that it posted, or what a request at the address came to. -/
inductive RelayAnswer where
  | posted (events : List Event)
  | asked (addr : Word) (out : Asked)

/-- A bridge and the hubs that post to its queue. -/
structure Relay where
  bridge : Bridge
  hubs : Nat → Hub

namespace Relay

def call (s : Relay) : RelayCall → RelayAnswer × Relay
  | .post e => (.posted [e], { s with bridge := (s.bridge.postEvent e).1 })
  | .gesture i g =>
    let (hub, bridge, _) := s.bridge.relay (s.hubs i) g
    (.posted ((s.hubs i).apply g).2.toList, ⟨bridge, Function.update s.hubs i hub⟩)
  | .ask m addr who =>
    let out := Proofs.ask s.bridge m addr who
    (.asked addr out, { s with bridge := out.bridge })

def calls (s : Relay) : List RelayCall → List RelayAnswer × Relay
  | [] => ([], s)
  | c :: rest =>
    let (answer, s) := s.call c
    let (answers, s) := s.calls rest
    (answer :: answers, s)

end Relay

def RelayAnswer.posts : RelayAnswer → List Event
  | .posted events => events
  | .asked .. => []

/-- Whether this is a request that reported an event. -/
def RelayAnswer.reported : RelayAnswer → Bool
  | .posted _ => false
  | .asked _ out => out.answer? == some true

/-- What is read at the address of a request that reported an event. -/
def RelayAnswer.reads : RelayAnswer → List (Except MemoryError Event)
  | .posted _ => []
  | .asked addr out => if out.answer? = some true then [eventAt out.memory addr] else []

lemma length_reads (answer : RelayAnswer) : answer.reads.length = if answer.reported then 1 else 0 := by
  cases answer with
  | posted events => rfl
  | asked addr out =>
    unfold RelayAnswer.reads RelayAnswer.reported
    dsimp only
    by_cases hreported : out.answer? = some true
    · rw [if_pos hreported, if_pos (beq_iff_eq.mpr hreported)]
      rfl
    · rw [if_neg hreported, if_neg (fun h => hreported (beq_iff_eq.mp h))]
      rfl

lemma length_flatMap_reads (answers : List RelayAnswer) :
    (answers.flatMap RelayAnswer.reads).length = answers.countP RelayAnswer.reported := by
  induction answers with
  | nil => rfl
  | cons answer rest ih =>
    rw [List.flatMap_cons, List.length_append, length_reads, ih, List.countP_cons]
    exact Nat.add_comm _ _

/-- One call keeps the table of syscalls, and what is read after it and then is queued is what was queued
and posted. -/
lemma relay_call {s : Relay} (hbinds : BindsGetEvent s.bridge) (c : RelayCall) :
    BindsGetEvent (s.call c).2.bridge ∧
      ∃ events, (s.call c).1.reads = events.map .ok ∧
        events ++ (s.call c).2.bridge.events.pending = s.bridge.events.pending ++ (s.call c).1.posts := by
  cases c with
  | post e => exact ⟨hbinds, [], rfl, rfl⟩
  | gesture i g =>
    unfold Relay.call Bridge.relay
    dsimp only
    cases (s.hubs i).apply g with
    | mk hub event =>
      cases event with
      | none => exact ⟨hbinds, [], rfl, (List.append_nil _).symm⟩
      | some e => exact ⟨hbinds, [], rfl, rfl⟩
  | ask m addr who =>
    have heffect := askEffect_ask hbinds m addr who
    unfold Relay.call
    dsimp only
    generalize ask s.bridge m addr who = out at heffect
    unfold RelayAnswer.reads RelayAnswer.posts
    dsimp only
    by_cases hreported : out.answer? = some true
    · obtain ⟨-, e, hread, hremoves, hbridge⟩ := heffect.delivered hreported
      refine ⟨?_, [e], ?_, ?_⟩
      · rw [hbridge]
        exact hbinds
      · rw [if_pos hreported, hread]
        rfl
      · rw [hremoves.pending, List.append_nil]
    · obtain ⟨-, hbridge⟩ := heffect.unchanged hreported
      rw [if_neg hreported, hbridge]
      exact ⟨hbinds, [], rfl, (List.append_nil _).symm⟩

theorem relay_calls (cs : List RelayCall) {s : Relay} (hbinds : BindsGetEvent s.bridge) :
    BindsGetEvent (s.calls cs).2.bridge ∧
      ∃ events, (s.calls cs).1.flatMap RelayAnswer.reads = events.map .ok ∧
        events ++ (s.calls cs).2.bridge.events.pending =
          s.bridge.events.pending ++ (s.calls cs).1.flatMap RelayAnswer.posts := by
  induction cs generalizing s with
  | nil => exact ⟨hbinds, [], rfl, (List.append_nil _).symm⟩
  | cons c rest ih =>
    obtain ⟨hbinds₁, first, hfirst, hqueue₁⟩ := relay_call hbinds c
    obtain ⟨hbinds₂, later, hlater, hqueue₂⟩ := ih hbinds₁
    refine ⟨hbinds₂, first ++ later, ?_, ?_⟩
    · rw [List.map_append, ← hfirst, ← hlater]
      rfl
    · calc first ++ later ++ (s.calls (c :: rest)).2.bridge.events.pending
          = first ++ (later ++ ((s.call c).2.calls rest).2.bridge.events.pending) :=
            List.append_assoc _ _ _
        _ = first ++ (s.call c).2.bridge.events.pending ++
              ((s.call c).2.calls rest).1.flatMap RelayAnswer.posts := by
            rw [hqueue₂, List.append_assoc]
        _ = s.bridge.events.pending ++ (s.calls (c :: rest)).1.flatMap RelayAnswer.posts := by
            rw [hqueue₁, List.append_assoc]
            rfl

/-- After any calls at a bridge that had no events: the events read at the addresses, one for every request
that reported one, are the first of those that were posted, and the others are queued. A request has the
effect that its answer allows, so one that reports nothing leaves the same event for the next. -/
theorem event_relay {b : Bridge} (hbinds : BindsGetEvent b) (hnew : b.events.pending = [])
    (hubs : Nat → Hub) (cs : List RelayCall) :
    let (answers, s) := (Relay.mk b hubs).calls cs
    let posted := answers.flatMap RelayAnswer.posts
    let reports := answers.countP RelayAnswer.reported
    reports ≤ posted.length ∧
      answers.flatMap RelayAnswer.reads = (posted.take reports).map .ok ∧
      s.bridge.events.pending = posted.drop reports ∧
      ∀ m addr who, AskEffect s.bridge m addr (ask s.bridge m addr who) := by
  obtain ⟨hbinds', events, hread, hqueue⟩ := relay_calls cs (s := ⟨b, hubs⟩) hbinds
  have hposted : events ++ ((Relay.mk b hubs).calls cs).2.bridge.events.pending =
      ((Relay.mk b hubs).calls cs).1.flatMap RelayAnswer.posts := by
    rw [hqueue, show (Relay.mk b hubs).bridge.events.pending = [] from hnew, List.nil_append]
  have hreports : ((Relay.mk b hubs).calls cs).1.countP RelayAnswer.reported = events.length := by
    rw [← length_flatMap_reads, hread, List.length_map]
  dsimp only
  rw [← hposted, hread, hreports, List.take_left, List.drop_left, List.length_append]
  exact ⟨Nat.le_add_right _ _, rfl, rfl, fun m addr who => askEffect_ask hbinds' m addr who⟩

/-- Two events are posted. The memory is too small for the first request, and the second gets the event that
the first did not. -/
def sampleRelay : List RelayCall :=
  [.post .close, .ask (Memory.zeroed 15) 4 .guest, .gesture 3 (.pressed 7 9),
    .ask (Memory.zeroed 16) 4 .guest]

theorem event_relay_sample :
    ∃ b, (Bridge.build { decoder := none }).1 = .ok b ∧ BindsGetEvent b ∧ b.events.pending = [] ∧
      let (answers, s) := (Relay.mk b fun _ => .initial).calls sampleRelay
      answers.flatMap RelayAnswer.reads = [.ok .close] ∧
      s.bridge.events.pending = [.pointer .pointerPressed 7 9] := by
  have hbuild : (Bridge.build { decoder := none }).1 = .ok _ := rfl
  obtain ⟨hbinds, hnew⟩ := bindsGetEvent_of_build rfl hbuild
  obtain ⟨-, hread, hpending, -⟩ := event_relay hbinds hnew (fun _ => .initial) sampleRelay
  exact ⟨_, hbuild, hbinds, hnew, hread, hpending⟩

end GuestBridge.Proofs
