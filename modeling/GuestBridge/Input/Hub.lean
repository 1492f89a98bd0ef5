import GuestBridge.Input.Event

/-!
# Input hubs

A hub turns what happens to pointer, keys and focus into events. It remembers the pointer and the
focus, so that a move is a drag only while the button is held and the pointer moved, and a change of
focus is told once. Hubs with states of their own may share a queue, and several handles may share
a hub.
-/

namespace GuestBridge

/-- What a hub remembers. -/
structure Hub where
  pointerDown : Bool
  cursor : Int32 × Int32
  focused : Bool
deriving DecidableEq, Repr

/-- What the platform tells a hub. -/
inductive Gesture where
  | pressed (x y : Int32)
  | released (x y : Int32)
  | moved (x y : Int32)
  /-- A drag by a platform that watches the button itself. -/
  | dragged (x y : Int32)
  | keyPressed (code : Int32)
  | keyReleased (code : Int32)
  | close
  | focusLost
  | focusGained
  /-- An event to be posted as it is. -/
  | raw (event : Event)
deriving DecidableEq, Repr

namespace Hub

def initial : Hub := ⟨false, (0, 0), true⟩

/-- The hub after a gesture, and the event that it posts. Losing the focus also ends a drag. -/
def apply (h : Hub) : Gesture → Hub × Option Event
  | .pressed x y =>
    ({ h with pointerDown := true, cursor := (x, y) }, some (.pointer .pointerPressed x y))
  | .released x y =>
    ({ h with pointerDown := false, cursor := (x, y) }, some (.pointer .pointerReleased x y))
  | .moved x y =>
    ({ h with cursor := (x, y) },
      if h.pointerDown && h.cursor != (x, y) then some (.pointer .pointerDragged x y) else none)
  | .dragged x y => ({ h with cursor := (x, y) }, some (.pointer .pointerDragged x y))
  | .keyPressed code => (h, some (.key .keyPressed code))
  | .keyReleased code => (h, some (.key .keyReleased code))
  | .close => (h, some .close)
  | .focusLost =>
    ({ h with pointerDown := false, focused := false },
      if h.focused then some (.ofKind .focusLost 0 0) else none)
  | .focusGained =>
    ({ h with focused := true }, if h.focused then none else some (.ofKind .focusGained 0 0))
  | .raw e => (h, some e)

/-- The queue with the event of a gesture. -/
def postTo (event : Option Event) (q : EventQueue Event) : EventQueue Event :=
  match event with
  | some e => (q.post e).2
  | none => q

end Hub

/-- Hubs that share a queue. Each handle names the hub that it acts on. -/
structure HubGroup where
  hubs : List Hub
  handles : List Nat
  queue : EventQueue Event

namespace HubGroup

/-- One hub with one handle. -/
def single : HubGroup := ⟨[.initial], [0], .empty⟩

/-- Adds a handle to a hub of its own. -/
def newHub (g : HubGroup) : Nat × HubGroup :=
  (g.handles.length,
    { g with hubs := g.hubs ++ [.initial], handles := g.handles ++ [g.hubs.length] })

/-- Adds a handle to the hub that another one acts on. -/
def cloneHandle (g : HubGroup) (handle : Nat) : Nat × HubGroup :=
  (g.handles.length, { g with handles := g.handles ++ [g.handles.getD handle 0] })

/-- The hub that a handle acts on. -/
def hubOf (g : HubGroup) (handle : Nat) : Hub := g.hubs.getD (g.handles.getD handle 0) .initial

/-- A gesture through a handle, and the event that it posts. -/
def act (g : HubGroup) (handle : Nat) (gesture : Gesture) : Option Event × HubGroup :=
  let (hub, event) := (g.hubOf handle).apply gesture
  (event,
    { g with hubs := g.hubs.set (g.handles.getD handle 0) hub, queue := Hub.postTo event g.queue })

end HubGroup

end GuestBridge
