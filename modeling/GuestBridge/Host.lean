import GuestBridge.Log

/-!
# Work for the host thread

A guest thread that wants something done on the host thread queues it and waits. The host runs the
queued actions in order, each once, and replies after each. When the host is gone, actions still
queued are discarded, their callers return, and further actions are refused.
-/

namespace GuestBridge

/-- An action on a state that both sides see, and who waits for it. -/
structure HostRequest (σ : Type) where
  caller : Nat
  action : σ → σ

/-- The connection between the callers and the host. -/
structure HostChannel (σ : Type) where
  state : σ
  queued : List (HostRequest σ)
  /-- Callers whose action ran, in the order of running. -/
  executed : List Nat
  /-- Callers whose action was dropped. -/
  discarded : List Nat
  hostAlive : Bool

namespace HostChannel

variable {σ : Type}

def connected (state : σ) : HostChannel σ := ⟨state, [], [], [], true⟩

/-- The line that a caller leaves when the host is gone before its action is queued. -/
def refusalLog : Log := [Log.error "host pump is gone, dropping host action"]

/-- The line that a caller leaves when the host goes while it waits. -/
def discardLog : Log := [Log.error "host pump shut down before finishing an action"]

/-- The line that the host leaves when it has served the last caller. -/
def servedLog : Log := [Log.debug "host pump: all handles dropped"]

/-- Queues an action; it is dropped at once when the host is gone. -/
def submit (c : HostChannel σ) (r : HostRequest σ) : HostChannel σ × Log :=
  if c.hostAlive then ({ c with queued := c.queued ++ [r] }, [])
  else ({ c with discarded := c.discarded ++ [r.caller] }, refusalLog)

/-- Runs the first queued action and replies to its caller. -/
def runNext (c : HostChannel σ) : HostChannel σ :=
  match c.queued with
  | [] => c
  | r :: rest =>
    { c with state := r.action c.state, queued := rest, executed := c.executed ++ [r.caller] }

/-- Runs everything queued so far; how much that was, and the channel after it. -/
def pump (c : HostChannel σ) : Nat × HostChannel σ :=
  (c.queued.length,
    { c with
      state := c.queued.foldl (fun s r => r.action s) c.state
      queued := []
      executed := c.executed ++ c.queued.map (·.caller) })

/-- The host goes away: what is queued is discarded, and each of its callers says so. -/
def shutDown (c : HostChannel σ) : HostChannel σ × Log :=
  ({ c with
      queued := []
      discarded := c.discarded ++ c.queued.map (·.caller)
      hostAlive := false },
    c.queued.flatMap fun _ => discardLog)

/-- One caller's action while the host serves the queue: queued, run and replied to. -/
def runBlocking (c : HostChannel σ) (r : HostRequest σ) : HostChannel σ × Log :=
  let (c, log) := c.submit r
  (c.runNext, log)

/-- Whether a caller is back: its action ran or was dropped. -/
def hasReturned (c : HostChannel σ) (caller : Nat) : Bool :=
  c.executed.contains caller || c.discarded.contains caller

end HostChannel

/-- How a bridge reaches its host: on the calling thread, through a host that serves its channel,
or through one that is gone. -/
inductive Host where
  | inline
  | served
  | gone
deriving DecidableEq, Repr

namespace Host

/-- Whether actions are run at all. -/
def executes : Host → Bool
  | .inline | .served => true
  | .gone => false

/-- Runs an action on a state and waits for it. -/
def runBlocking {σ : Type} (h : Host) (action : σ → σ × Log) (s : σ) : σ × Log :=
  if h.executes then action s else (s, HostChannel.refusalLog)

end Host

end GuestBridge
