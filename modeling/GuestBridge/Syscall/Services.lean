import GuestBridge.Syscall.Registry
import GuestBridge.Text.Utf8

/-!
# Events, data and panics

The routines that act: the guest asks for its next event, copies data out of resources into its
memory, and reports that it gives up. Each looks up its words by their index.
-/

namespace GuestBridge

namespace Services

/-- Goes on with what was read from the words of a call. -/
def withRead {α : Type} (s : CallState) (read : Except CallFailure α) (body : α → Called Word) :
    Called Word :=
  match read with
  | .error e => ⟨.error e, s, []⟩
  | .ok a => body a

/-- An error of the memory as the failure of a call. -/
def memoryFailure (e : MemoryError) : CallFailure := .returned (.memory e)

/-- Moves the next event to an address: one if there was an event, zero if not. -/
def getEvent (ctx : CallContext) (s : CallState) (ws : List Word) : Called Word :=
  withRead s (wordAt ws 0) fun addr =>
    let d := Event.deliver s.events s.memory addr
    ⟨(d.answer.map fun delivered => if delivered then 1 else 0).mapError memoryFailure,
      { s with memory := d.memory, events := d.queue }, d.log ctx.trace⟩

/-- The data at a guest's handle: the bytes of a resource of one of the two data kinds. -/
def data? (resources : ResourceTable) (raw : Int32) : Option Memory := do
  let h ← Handle.ofGuest? raw
  let r ← (resources.get? .binary h).or (resources.get? .ubin h)
  r.memory?

/-- How many bytes are stored at a handle, or minus one. -/
def getDataSize (ctx : CallContext) (s : CallState) (ws : List Word) : Called Word :=
  withRead s (wordAt ws 0) fun handle =>
    let size : Word := match data? ctx.resources handle with
      | some m => Int32.ofNat (min m.size 0x7FFFFFFF)
      | none => -1
    ⟨.ok size, s, []⟩

/-- A copy that a guest asks for: how many bytes of which data, from where in it and to where. -/
structure DataCopy where
  handle : Word
  source : Memory
  dst : UInt64
  off : UInt64
  size : UInt64

/-- The offset that the address at an index of some words names. -/
def offsetAt (ws : List Word) (i : Nat) : Except CallFailure UInt64 := do
  (Memory.guestOffset (← wordAt ws i)).mapError memoryFailure

/-- The copy that the words of a call ask for. -/
def dataCopy (resources : ResourceTable) (ws : List Word) : Except CallFailure DataCopy := do
  let handle ← wordAt ws 0
  match data? resources handle with
  | none => throw (.returned (.notFound .binary handle))
  | some source => return ⟨handle, source, ← offsetAt ws 1, ← offsetAt ws 2, ← offsetAt ws 3⟩

/-- The trace of a copy, which one that failed does not leave. -/
def DataCopy.log (c : DataCopy) (trace : Trace) : Except MemoryError Unit → Log
  | .ok _ =>
    trace.resourceLine s!"read {c.size} bytes of #{c.handle} (+{c.off}) to {Text.hex c.dst.toNat}"
  | .error _ => []

/-- Copies a part of the data at a handle to an address. -/
def readData (ctx : CallContext) (s : CallState) (ws : List Word) : Called Word :=
  withRead s (dataCopy ctx.resources ws) fun copy =>
    let (result, memory) := copy.source.copyInto s.memory copy.off copy.dst copy.size
    ⟨(result.map fun _ => 0).mapError memoryFailure, { s with memory := memory },
      copy.log ctx.trace result⟩

/-- The text at a guest address. -/
def messageAt (memory : Memory) (addr : Word) : Except MemoryError String := do
  let offset ← Memory.guestOffset addr
  return Text.Utf8.lenient (← memory.readCString offset)

/-- The lines about a text that could not be read. -/
def messageLog (addr : Word) : Except MemoryError String → Log
  | .ok _ => []
  | .error e =>
    [Log.warn s!"maPanic: unreadable message at {Text.hex addr.toUInt32.toNat}: {e.message}"]

/-- Runs the hook, which leaves its report and its lines. -/
def runHook (hook : PanicHook) (r : PanicReport) (s : CallState) : CallState × Log :=
  ({ s with hookRuns := s.hookRuns ++ [r] }, hook.log r)

/-- The guest gives up. The hook runs on the host; an unreadable message counts as empty. -/
def panic (ctx : CallContext) (s : CallState) (ws : List Word) : Called Word :=
  withRead s (do return (← wordAt ws 0, ← wordAt ws 1)) fun (code, addr) =>
    let text := messageAt s.memory addr
    let message := text.toOption.getD ""
    let (s, hookLog) := ctx.host.runBlocking (runHook ctx.hook ⟨code, message⟩) s
    ⟨.error (.returned (.guestPanic code message)), s,
      messageLog addr text ++ [Log.error s!"guest panic {code}: {message}"] ++ hookLog⟩

def eventGroup : SyscallGroup := ⟨"event", [(.getEvent, .action [.ptr] getEvent)]⟩

def resourceGroup : SyscallGroup :=
  ⟨"resource",
    [(.getDataSize, .action [.i32] getDataSize),
      (.readData, .action [.i32, .ptr, .i32, .i32] readData)]⟩

def systemGroup : SyscallGroup := ⟨"system", [(.panic, .action [.i32, .ptr] panic)]⟩

end Services

end GuestBridge
