import GuestBridge.Container.Loader
import GuestBridge.Input.Hub
import GuestBridge.Syscall.Builtin

/-!
# The bridge

What stands between a guest and its host: the syscall table, the resources, the event queue, and the
ways to the host. Guest memory belongs to the guest, so it is handed in with every call.
-/

namespace GuestBridge

structure Bridge where
  registry : Registry
  resources : ResourceTable
  events : EventQueue Event
  host : Host
  hook : PanicHook
  /-- What the panic hook was told so far, oldest first. -/
  hookRuns : List PanicReport
  decoder : Option ImageDecoder
  trace : Trace

namespace Bridge

/-- How a bridge is set up. -/
structure Options where
  groups : List SyscallGroup := SyscallGroup.builtin
  warnUnbound : Bool := true
  decoder : Option ImageDecoder
  host : Host := .inline
  hook : PanicHook := .announce
  trace : Trace := .none

/-- Registers groups in order, up to the first conflict, and says so for each that it registers. -/
def registerGroups (reg : Registry) : List SyscallGroup → Except RegistryError Registry × Log
  | [] => (.ok reg, [])
  | group :: rest =>
    match reg.register group with
    | (.error e, _) => (.error e, [])
    | (.ok _, reg) =>
      let (result, log) := registerGroups reg rest
      (result, Log.debug s!"registered syscall group {group.name}" :: log)

/-- The lines about a table that is complete. -/
def tableLog (reg : Registry) (warnUnbound : Bool) : Log :=
  let warnings := if warnUnbound then reg.unbound else []
  warnings.map (fun id => Log.warn (RegistryError.unbound id).message)
    ++ [Log.info s!"syscall table ready: {reg.size} bound"]

/-- A bridge with no resources and no events. -/
def build (o : Options) : Except RegistryError Bridge × Log :=
  match registerGroups .empty o.groups with
  | (.error e, log) => (.error e, log)
  | (.ok reg, log) =>
    (.ok ⟨reg, .empty, .empty, o.host, o.hook, [], o.decoder, o.trace⟩,
      log ++ tableLog reg o.warnUnbound)

/-! ## Calls -/

def context (b : Bridge) : CallContext := ⟨b.resources, b.host, b.hook, b.trace⟩

def callState (b : Bridge) (memory : Memory) : CallState := ⟨memory, b.events, b.hookRuns⟩

/-- What a call by the guest came to. -/
structure Invoked where
  result : Except CallFailure Return
  bridge : Bridge
  memory : Memory
  log : Log

/-- Calls the routine of an identifier on behalf of a guest with this memory. -/
def invoke (b : Bridge) (memory : Memory) (id : SyscallId) (ws : List Word) : Invoked :=
  let called := b.registry.invoke b.context (b.callState memory) id ws
  ⟨called.result, { b with events := called.state.events, hookRuns := called.state.hookRuns },
    called.state.memory, called.log⟩

/-- Calls the routine with a name. -/
def invokeNamed (b : Bridge) (memory : Memory) (name : String) (ws : List Word) : Invoked :=
  match Registry.lookup name with
  | .error e => ⟨.error (.returned (.registry e)), b, memory, []⟩
  | .ok id => b.invoke memory id ws

/-- What a hook that keeps its reports was told so far, and the bridge without it. -/
def takeReports (b : Bridge) : List PanicReport × Bridge :=
  match b.hook with
  | .keep => (b.hookRuns, { b with hookRuns := [] })
  | .announce => ([], b)

/-! ## Resources -/

/-- The resource of a kind at a handle, both as the guest writes them. -/
def guestResource? (b : Bridge) (kind handle : Word) : Option Resource := do
  b.resources.get? (← ResourceKind.ofGuest? kind) (← Handle.ofGuest? handle)

def setResource (b : Bridge) (h : Handle) (r : Resource) : Bridge × Log :=
  ({ b with resources := b.resources.set h r },
    b.trace.resourceLine s!"set #{h.text} to {r.kind.name}")

/-- Adds a resource at the next handle; none if there is none left. -/
def addResource (b : Bridge) (r : Resource) : Option Handle × Bridge × Log :=
  let (handle, resources) := b.resources.add r
  let log := match handle with
    | some h => b.trace.resourceLine s!"added {r.kind.name} as #{h.text}"
    | none => []
  (handle, { b with resources := resources }, log)

/-- The line about a load. -/
def loadLog : Except ContainerError LoadSummary → Log
  | .ok s => [Log.info s!"loaded {s.records} resources ({s.payloadBytes} payload bytes)"]
  | .error e => [Log.error s!"resource load failed: {e.message}"]

/-- Loads a container into the resource table. What a failed load leaves there stays. -/
def load (b : Bridge) (bytes : List UInt8) : Except ContainerError LoadSummary × Bridge × Log :=
  let loaded := b.resources.load b.decoder bytes
  (loaded.result, { b with resources := loaded.table }, loaded.log ++ loadLog loaded.result)

/-! ## Events -/

def postEvent (b : Bridge) (e : Event) : Bridge × Log :=
  ({ b with events := (b.events.post e).2 }, Event.postLog e b.trace)

/-- What a gesture does to a hub that posts to the bridge's queue, and to the bridge. -/
def relay (b : Bridge) (h : Hub) (gesture : Gesture) : Hub × Bridge × Log :=
  match h.apply gesture with
  | (h, some e) => (h, b.postEvent e)
  | (h, none) => (h, b, [])

/-- Moves the oldest event to a guest address, and says whether there was one. -/
def pollEvent (b : Bridge) (memory : Memory) (addr : Int32) :
    Except MemoryError Bool × Bridge × Memory × Log :=
  let d := Event.deliver b.events memory addr
  (d.answer, { b with events := d.queue }, d.memory, d.log b.trace)

end Bridge

end GuestBridge
