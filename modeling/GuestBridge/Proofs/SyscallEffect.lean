import GuestBridge.Proofs.Registration
import GuestBridge.Proofs.ServiceCalls
import Mathlib.Data.List.Basic

/-!
# What a syscall changes

A call that fails leaves guest memory and the event queue as they were. A call that ends well changes
nothing either, except that a delivered event leaves the queue for the twelve bytes at its address,
and that data is copied to the range that the guest names. No call touches the resources.
-/

namespace GuestBridge.Proofs
open Services

/-! ### Effects -/

structure Untouched (s s' : CallState) : Prop where
  memory : s'.memory = s.memory
  events : s'.events = s.events

/-- The first event left the queue, and only the twelve bytes at the address changed. -/
structure Delivered (addr : Word) (s s' : CallState) : Prop where
  sign : 0 ≤ addr.toInt
  fits : addr.toInt.toNat + 12 ≤ s.memory.size
  memory : SameOutside addr.toInt.toNat 12 s.memory s'.memory
  events : ∃ e, Removes s.events [e] s'.events

/-- Only the `size` bytes from `dst` on changed. -/
structure Copied (dst size : Word) (s s' : CallState) : Prop where
  sign : 0 ≤ dst.toInt ∧ 0 ≤ size.toInt
  fits : dst.toInt.toNat + size.toInt.toNat ≤ s.memory.size
  memory : SameOutside dst.toInt.toNat size.toInt.toNat s.memory s'.memory
  events : s'.events = s.events

/-- What a call of `id` on the words `ws` changes when it returns `r`. -/
def Changes (id : SyscallId) (ws : List Word) (r : Return) (s s' : CallState) : Prop :=
  match id with
  | .getEvent => (r = ⟨.i32, (0 : Word)⟩ ∧ Untouched s s') ∨
    (r = ⟨.i32, (1 : Word)⟩ ∧ ∃ addr, ws = [addr] ∧ Delivered addr s s')
  | .readData => ∃ handle dst off size, ws = [handle, dst, off, size] ∧ Copied dst size s s'
  | _ => Untouched s s'

/-- What a call of `id` on the words `ws` does to the state `s`. The panic hook runs only for a guest
that gives up, and at most once. -/
structure CallEffect {ε : Type} (id : SyscallId) (ws : List Word) (s : CallState)
    (result : Except ε Return) (s' : CallState) : Prop where
  failed : ∀ e, result = .error e → Untouched s s'
  size : s'.memory.size = s.memory.size
  succeeded : ∀ r, result = .ok r → Changes id ws r s s'
  hookRuns : s'.hookRuns = s.hookRuns ∨
    id = .panic ∧ (∃ e, result = .error e) ∧ ∃ report, s'.hookRuns = s.hookRuns ++ [report]

lemma untouched_self (s : CallState) : Untouched s s := ⟨rfl, rfl⟩

lemma callEffect_of_error {ε : Type} {id : SyscallId} {ws : List Word} {s : CallState} {e : ε} :
    CallEffect id ws s (.error e) s := by
  refine ⟨fun _ _ => untouched_self s, rfl, fun r h => ?_, .inl rfl⟩
  cases h

/-! ### The routines -/

/-- Every call of the routine under `id` that comes with all its words does what the effect of such a
call allows. -/
def RoutineEffect (id : SyscallId) (routine : Routine) : Prop :=
  ∀ (ctx : CallContext) (s : CallState) (ws : List Word), ws.length = routine.arity →
    CallEffect id ws s (routine.call ctx s ws).result (routine.call ctx s ws).state

/-- A routine that only computes is no exception, whatever it is bound under besides the two
identifiers whose calls move bytes. -/
lemma routineEffect_compute {id : SyscallId} (hevent : id ≠ .getEvent) (hdata : id ≠ .readData)
    (params : List Prim) (ret : Prim) (f : Args params → ret.Value) :
    RoutineEffect id (.compute params ret f) := by
  intro ctx s ws _
  refine ⟨fun _ _ => untouched_self s, rfl, fun r _ => ?_, .inl rfl⟩
  unfold Changes
  split
  · exact absurd rfl hevent
  · exact absurd rfl hdata
  · exact untouched_self s

lemma routineEffect_getEvent : RoutineEffect .getEvent (.action [.ptr] getEvent) := by
  intro ctx s ws harity
  obtain ⟨addr, rfl⟩ := List.length_eq_one_iff.mp harity
  rw [call_getEvent]
  cases deliver_cases s.events s.memory addr with
  | refused cause hwhy h =>
    rw [h]
    exact callEffect_of_error
  | nothing hsign hempty h =>
    rw [h]
    refine ⟨fun _ _ => untouched_self s, rfl, fun r hr => ?_, .inl rfl⟩
    cases hr
    exact .inl ⟨rfl, untouched_self s⟩
  | head e rest hsign hq hfits h =>
    have hframe := sameOutside_wireBytes e hfits
    rw [h]
    refine ⟨fun e he => ?_, hframe.size, fun r hr => ?_, .inl rfl⟩
    · cases he
    · cases hr
      exact .inr ⟨rfl, addr, rfl, hsign, hfits, hframe, e, rfl, hq.symm⟩

lemma routineEffect_getDataSize : RoutineEffect .getDataSize (.action [.i32] getDataSize) := by
  intro ctx s ws harity
  obtain ⟨handle, rfl⟩ := List.length_eq_one_iff.mp harity
  exact ⟨fun _ _ => untouched_self s, rfl, fun _ _ => untouched_self s, .inl rfl⟩

lemma routineEffect_readData :
    RoutineEffect .readData (.action [.i32, .ptr, .i32, .i32] readData) := by
  intro ctx s ws harity
  obtain ⟨handle, dst, off, size, rfl⟩ := List.length_eq_four.mp harity
  obtain ⟨log, hcall⟩ := call_readData ctx s handle dst off size
  rw [hcall]
  cases copyEnds ctx.resources s.memory handle dst off size with
  | missing hdata h | negative data hdata w hneg h | behindData data hdata hsigns hoff h
  | behindMemory data hdata hsigns hoff hdst h =>
    rw [h]
    exact callEffect_of_error
  | copied data hdata hsigns hoff hdst h =>
    have hlength : (cut data.bytes off.toInt.toNat size.toInt.toNat).length = size.toInt.toNat := length_cut hoff
    have hinside : dst.toInt.toNat + (cut data.bytes off.toInt.toNat size.toInt.toNat).length ≤ s.memory.size := by
      rw [hlength]
      exact hdst
    have hframe := sameOutside_splice hinside
    rw [hlength] at hframe
    simp only [List.forall_mem_cons] at hsigns
    rw [h]
    refine ⟨fun e he => ?_, hframe.size, fun r _ => ?_, .inl rfl⟩
    · cases he
    · exact ⟨handle, dst, off, size, rfl, ⟨hsigns.1, hsigns.2.2.1⟩, hdst, hframe, rfl⟩

lemma routineEffect_panic : RoutineEffect .panic (.action [.i32, .ptr] Services.panic) := by
  intro ctx s ws harity
  obtain ⟨code, addr, rfl⟩ := List.length_eq_two.mp harity
  rw [call_panic]
  unfold Host.runBlocking
  dsimp only
  by_cases hhost : ctx.host.executes = true
  · rw [if_pos hhost]
    refine ⟨fun _ _ => ⟨rfl, rfl⟩, rfl, fun r hr => ?_, .inr ⟨rfl, ⟨_, rfl⟩, _, rfl⟩⟩
    cases hr
  · rw [if_neg hhost]
    exact callEffect_of_error

/-! ### Every call -/

def IsCompute : Routine → Bool
  | .compute .. => true
  | .action .. => false

lemma arithmetic_isCompute : ∀ g ∈ [Arithmetic.doubleGroup, Arithmetic.singleGroup, Arithmetic.elementaryGroup],
    ∀ entry ∈ g.routines, IsCompute entry.2 = true ∧ entry.1 ≠ .getEvent ∧ entry.1 ≠ .readData := by
  decide

lemma routineEffect_of_isCompute {id : SyscallId} {r : Routine} (hr : IsCompute r = true)
    (hevent : id ≠ .getEvent) (hdata : id ≠ .readData) : RoutineEffect id r := by
  cases r with
  | compute params ret f => exact routineEffect_compute hevent hdata params ret f
  | action params run => cases hr

theorem routineEffect_of_builtin {g : SyscallGroup} (hg : g ∈ SyscallGroup.builtin) {id : SyscallId}
    {r : Routine} (hr : (id, r) ∈ g.routines) : RoutineEffect id r := by
  rcases arithmetic_or_service hg hr with harithmetic | hservice
  · obtain ⟨hcompute, hevent, hdata⟩ := arithmetic_isCompute g harithmetic _ hr
    exact routineEffect_of_isCompute hcompute hevent hdata
  · cases hservice with
    | getEvent => exact routineEffect_getEvent
    | getDataSize => exact routineEffect_getDataSize
    | readData => exact routineEffect_readData
    | panic => exact routineEffect_panic

lemma callEffect_invoke {reg : Registry} {id : SyscallId}
    (hreg : ∀ r, reg.get? id = some r → RoutineEffect id r) (ctx : CallContext) (s : CallState)
    (ws : List Word) :
    CallEffect id ws s (reg.invoke ctx s id ws).result (reg.invoke ctx s id ws).state := by
  cases hid : reg.get? id with
  | none =>
    unfold Registry.invoke
    rw [hid]
    exact callEffect_of_error
  | some r =>
    by_cases harity : ws.length = r.arity
    · rw [Registry.invoke_of_arity hid harity]
      exact hreg r hid ctx s ws harity
    · rw [Registry.invoke_of_arity_ne hid harity]
      exact callEffect_of_error

/-- Whatever a guest calls with whatever words: the bridge keeps its resources and everything else but
queue and hook runs, and the call has the effect that its result allows. -/
theorem invoke_effect {o : Bridge.Options} {built : Bridge}
    (hgroups : ∀ g ∈ o.groups, g ∈ SyscallGroup.builtin) (hbuild : (Bridge.build o).1 = .ok built)
    (resources : ResourceTable) (events : EventQueue Event) (hookRuns : List PanicReport)
    (memory : Memory) (id : SyscallId) (ws : List Word) :
    let b : Bridge := { built with resources := resources, events := events, hookRuns := hookRuns }
    let out := b.invoke memory id ws
    out.bridge.resources = resources ∧
    out.bridge = { b with events := out.bridge.events, hookRuns := out.bridge.hookRuns } ∧
    CallEffect id ws ⟨memory, events, hookRuns⟩ out.result
      ⟨out.memory, out.bridge.events, out.bridge.hookRuns⟩ := by
  refine ⟨rfl, rfl, ?_⟩
  refine callEffect_invoke (fun r hr => ?_) _ _ ws
  obtain ⟨g, hg, hmem⟩ := mem_of_build hbuild hr
  exact routineEffect_of_builtin (hgroups g hg) hmem

/-- A bridge with all built-in groups that keeps the bytes of images. -/
def sampleOptions : Bridge.Options := { decoder := none }

/-- The event fits at one address. At the other there is room for two of its words, and neither is written. -/
theorem invoke_effect_sample :
    (∀ g ∈ sampleOptions.groups, g ∈ SyscallGroup.builtin) ∧
    ∃ built, (Bridge.build sampleOptions).1 = .ok built ∧
      let b : Bridge := { built with events := ⟨[.close], .initial⟩ }
      let cut := b.invoke (Memory.zeroed 16) .getEvent [8]
      let out := b.invoke (Memory.zeroed 16) .getEvent [2]
      cut.result = .error (.returned (.memory (.outOfBounds 8 12 16))) ∧
      cut.memory = Memory.zeroed 16 ∧ cut.bridge.events = ⟨[.close], .initial⟩ ∧
      out.result = .ok ⟨.i32, (1 : Word)⟩ ∧ out.memory.bytes.take 4 = [0, 0, 1, 0] ∧
      out.bridge.events.pending = [] ∧ out.bridge.resources = built.resources ∧
      CallEffect .getEvent [2] ⟨Memory.zeroed 16, ⟨[.close], .initial⟩, built.hookRuns⟩ out.result
        ⟨out.memory, out.bridge.events, out.bridge.hookRuns⟩ := by
  have hgroups : ∀ g ∈ sampleOptions.groups, g ∈ SyscallGroup.builtin := fun _ hg => hg
  have hbuild : (Bridge.build sampleOptions).1 = .ok _ := rfl
  obtain ⟨-, -, hcut⟩ := invoke_effect hgroups hbuild .empty ⟨[.close], .initial⟩ []
    (Memory.zeroed 16) .getEvent [8]
  obtain ⟨hresources, -, heffect⟩ := invoke_effect hgroups hbuild .empty ⟨[.close], .initial⟩ []
    (Memory.zeroed 16) .getEvent [2]
  obtain ⟨hmemory, hevents⟩ := hcut.failed _ rfl
  exact ⟨hgroups, _, hbuild, rfl, hmemory, hevents, rfl, by decide, rfl, hresources, heffect⟩

end GuestBridge.Proofs
