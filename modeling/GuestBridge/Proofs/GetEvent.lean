import GuestBridge.Proofs.EventRelay
import GuestBridge.Proofs.Registration

/-!
# What a guest gets when it asks for an event

The guest's call looks at the sign of the address, then at the queue, and then at the memory. So an address
below zero is an error whether there is an event or not, while one behind the memory is an error only if an
event has to go there.
-/

namespace GuestBridge.Proofs

/-- The words of an event, each with its low byte first. -/
def eventBytes (e : Event) : List UInt8 :=
  [e.type, e.field1, e.field2].flatMap fun w => LittleEndian.encode 4 w.toUInt32.toNat

lemma wireBytes_eq (e : Event) : wireBytes e = eventBytes e := by
  unfold wireBytes eventBytes Scalar.encode
  simp only [List.flatMap_cons, List.flatMap_nil, List.append_nil, List.append_assoc]
  rfl

lemma bytes_splice_event (m : Memory) (start : Nat) (e : Event) :
    (m.splice start (wireBytes e)).bytes =
      m.bytes.take start ++ eventBytes e ++ m.bytes.drop (start + 12) := by
  unfold Memory.splice
  rw [length_wireBytes, wireBytes_eq]

structure GetEventOutcome (b : Bridge) (m : Memory) (addr : Word) (out : Bridge.Invoked) : Prop where
  nothing : out.result = .ok ⟨.i32, (0 : Word)⟩ ↔ b.events.pending = [] ∧ 0 ≤ addr.toInt
  event : out.result = .ok ⟨.i32, (1 : Word)⟩ ↔
    b.events.pending ≠ [] ∧ 0 ≤ addr.toInt ∧ addr.toInt.toNat + 12 ≤ m.size
  negative : out.result = .error (.returned (.memory (.negativeAddress addr))) ↔ addr.toInt < 0
  outside : out.result = .error (.returned (.memory (.outOfBounds (UInt64.ofNat addr.toInt.toNat) 12 m.size))) ↔
    b.events.pending ≠ [] ∧ 0 ≤ addr.toInt ∧ m.size < addr.toInt.toNat + 12
  delivered : out.result = .ok ⟨.i32, (1 : Word)⟩ → ∃ e rest, b.events.pending = e :: rest ∧
    out.bridge = { b with events := { b.events with pending := rest } } ∧
    out.memory.bytes = m.bytes.take addr.toInt.toNat ++ eventBytes e ++ m.bytes.drop (addr.toInt.toNat + 12)
  unchanged : out.result ≠ .ok ⟨.i32, (1 : Word)⟩ → out.memory = m ∧ out.bridge = b

lemma zero_ne_one_word : (⟨.i32, (0 : Word)⟩ : Return) ≠ ⟨.i32, (1 : Word)⟩ := by
  intro h
  have hwords := congrArg Return.words h
  revert hwords
  decide

lemma getEventOutcome_invoke {b : Bridge} (hbinds : BindsGetEvent b) (m : Memory) (addr : Word) :
    GetEventOutcome b m addr (b.invoke m .getEvent [addr]) := by
  rw [invoke_getEvent hbinds]
  by_cases hsign : 0 ≤ addr.toInt
  · have hnonneg := Int.not_lt.mpr hsign
    cases hq : b.events.pending with
    | nil =>
      rw [deliver_empty hsign hq]
      exact {
        nothing := iff_of_true rfl ⟨hq, hsign⟩
        event := iff_of_false (fun h => zero_ne_one_word (Except.ok.inj h)) fun h => h.1 hq
        negative := iff_of_false nofun hnonneg
        outside := iff_of_false nofun fun h => h.1 hq
        delivered := fun h => absurd (Except.ok.inj h) zero_ne_one_word
        unchanged := fun _ => ⟨rfl, rfl⟩ }
    | cons e rest =>
      have hsome : b.events.pending ≠ [] := hq ▸ List.cons_ne_nil e rest
      by_cases hfits : addr.toInt.toNat + 12 ≤ m.size
      · rw [deliver_head hsign hq hfits]
        exact {
          nothing := iff_of_false (fun h => zero_ne_one_word (Except.ok.inj h).symm) fun h => hsome h.1
          event := iff_of_true rfl ⟨hsome, hsign, hfits⟩
          negative := iff_of_false nofun hnonneg
          outside := iff_of_false nofun fun h => Nat.not_lt.mpr hfits h.2.2
          delivered := fun _ => ⟨e, rest, hq, rfl, bytes_splice_event m _ e⟩
          unchanged := fun h => absurd rfl h }
      · have houtside := Nat.lt_of_not_le hfits
        rw [deliver_outside hsign hq houtside]
        exact {
          nothing := iff_of_false nofun fun h => hsome h.1
          event := iff_of_false nofun fun h => hfits h.2.2
          negative := iff_of_false nofun hnonneg
          outside := iff_of_true rfl ⟨hsome, hsign, houtside⟩
          delivered := nofun
          unchanged := fun _ => ⟨rfl, rfl⟩ }
  · rw [deliver_negative (Int.lt_of_not_ge hsign)]
    exact {
      nothing := iff_of_false nofun fun h => hsign h.2
      event := iff_of_false nofun fun h => hsign h.2.1
      negative := iff_of_true rfl (Int.lt_of_not_ge hsign)
      outside := iff_of_false nofun fun h => hsign h.2.1
      delivered := nofun
      unchanged := fun _ => ⟨rfl, rfl⟩ }

/-- Whatever the memory, the queue and the address: a guest of a bridge with the built-in groups gets one and
the first event, zero and nothing, or an error and nothing. -/
theorem get_event {o : Bridge.Options} {built : Bridge} (hgroups : ∀ g ∈ SyscallGroup.builtin, g ∈ o.groups)
    (hbuild : (Bridge.build o).1 = .ok built) (resources : ResourceTable) (events : EventQueue Event)
    (hookRuns : List PanicReport) (memory : Memory) (addr : Word) :
    let b : Bridge := { built with resources := resources, events := events, hookRuns := hookRuns }
    GetEventOutcome b memory addr (b.invoke memory .getEvent [addr]) := by
  intro b
  have hgroup : Services.eventGroup ∈ o.groups := hgroups _ (by simp [SyscallGroup.builtin])
  have hbinds : BindsGetEvent b := get?_of_build hbuild hgroup List.mem_cons_self
  exact getEventOutcome_invoke hbinds memory addr

/-- An event that goes to the last twelve bytes of the memory. -/
theorem get_event_lastBytes :
    (∀ g ∈ SyscallGroup.builtin, g ∈ ({ decoder := none } : Bridge.Options).groups) ∧
    ∃ built, (Bridge.build { decoder := none }).1 = .ok built ∧
      let b : Bridge := { built with events := ⟨[.pointer .pointerPressed 7 (-9)], .initial⟩ }
      let out := b.invoke (Memory.zeroed 16) .getEvent [4]
      out.result = .ok ⟨.i32, (1 : Word)⟩ ∧ out.bridge.events.pending = [] ∧
      out.memory.bytes = [0, 0, 0, 0] ++ eventBytes (.pointer .pointerPressed 7 (-9)) := by
  have hgroups : ∀ g ∈ SyscallGroup.builtin, g ∈ ({ decoder := none } : Bridge.Options).groups := fun _ hg => hg
  have hbuild : (Bridge.build { decoder := none }).1 = .ok _ := rfl
  have houtcome := get_event hgroups hbuild .empty ⟨[.pointer .pointerPressed 7 (-9)], .initial⟩ []
    (Memory.zeroed 16) 4
  have hresult := houtcome.event.mpr ⟨List.cons_ne_nil _ _, by decide, by decide⟩
  obtain ⟨e, rest, hpending, hbridge, hbytes⟩ := houtcome.delivered hresult
  cases hpending
  exact ⟨hgroups, _, hbuild, hresult, congrArg (·.events.pending) hbridge, hbytes⟩

/-- Without any event, an address below zero is an error, and one behind the memory is not. -/
theorem negative_address_refused :
    ∃ built, (Bridge.build { decoder := none }).1 = .ok built ∧ built.events.pending = [] ∧
      (built.invoke (Memory.zeroed 16) .getEvent [-1]).result = .error (.returned (.memory (.negativeAddress (-1)))) ∧
      (built.invoke (Memory.zeroed 16) .getEvent [17]).result = .ok ⟨.i32, (0 : Word)⟩ :=
  ⟨_, rfl, rfl, rfl, rfl⟩

end GuestBridge.Proofs
