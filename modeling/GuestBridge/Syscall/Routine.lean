import GuestBridge.Host
import GuestBridge.Input.Event
import GuestBridge.Resource.Table
import GuestBridge.Syscall.Args
import GuestBridge.Syscall.Error

/-!
# Native routines

A routine either computes its result from its arguments alone, or acts: it may look at the resources
and change guest memory and the event queue. The arguments of the first kind are read from the words
of the call by their types; the second kind is handed the words and looks them up itself.
-/

namespace GuestBridge

/-- What the host does about a guest that gives up. -/
inductive PanicHook where
  /-- Says so in the log. -/
  | announce
  /-- Keeps the report for whoever asks. -/
  | keep
deriving DecidableEq, Repr

/-- A guest that gave up. -/
structure PanicReport where
  code : Int32
  message : String
deriving DecidableEq, Repr

/-- The lines that a hook leaves about a report. -/
def PanicHook.log (h : PanicHook) (r : PanicReport) : Log :=
  match h with
  | .announce => [Log.error s!"guest application stopped (code {r.code}): {r.message}"]
  | .keep => []

/-- What a routine may look at. -/
structure CallContext where
  resources : ResourceTable
  host : Host
  hook : PanicHook
  trace : Trace

/-- What a routine may change: guest memory, the event queue and the panic hook's runs so far. -/
structure CallState where
  memory : Memory
  events : EventQueue Event
  hookRuns : List PanicReport

/-- What a call came to. The state is that of after it, whether it failed or not. -/
structure Called (α : Type) where
  result : Except CallFailure α
  state : CallState
  log : Log

inductive Routine where
  /-- Computes its result from its arguments. -/
  | compute (params : List Prim) (ret : Prim) (f : Args params → ret.Value)
  /-- Acts, and returns a signed word. -/
  | action (params : List Prim) (run : CallContext → CallState → List Word → Called Word)

namespace Routine

def params : Routine → List Prim
  | .compute params .. | .action params _ => params

def ret : Routine → Prim
  | .compute _ ret _ => ret
  | .action .. => .i32

/-- How many argument words a call takes. -/
def arity (r : Routine) : Nat := Args.arity r.params

/-- The signature, as listings show it. -/
def text (r : Routine) : String :=
  "Syscall([" ++ ", ".intercalate (r.params.map Prim.name) ++ "] -> " ++ r.ret.name ++ ")"

/-- Runs a routine on argument words. -/
def call (r : Routine) (ctx : CallContext) (s : CallState) (ws : List Word) : Called Return :=
  match r with
  | .compute params ret f => ⟨(Args.readAt ws 0 params).map fun args => ⟨ret, f args⟩, s, []⟩
  | .action _ run =>
    let called := run ctx s ws
    ⟨called.result.map fun w => ⟨.i32, w⟩, called.state, called.log⟩

end Routine

end GuestBridge
