import GuestBridge.Events.Queue
import GuestBridge.Memory.Basic
import GuestBridge.Text.Hex
import GuestBridge.Trace

/-!
# Guest events

An event is three words: a type code and two fields. In guest memory they lie one after the other,
twelve bytes in all, and are written one after the other. Delivering the oldest event of a queue into
memory removes it only if all of it was written.
-/

namespace GuestBridge

inductive EventKind where
  | close
  | keyPressed
  | keyReleased
  | pointerPressed
  | pointerReleased
  | pointerDragged
  | focusLost
  | focusGained
deriving DecidableEq, Repr

namespace EventKind

/-- The type code of a kind. -/
def code : EventKind → Int32
  | .close => 1
  | .keyPressed => 2
  | .keyReleased => 3
  | .pointerPressed => 8
  | .pointerReleased => 9
  | .pointerDragged => 10
  | .focusLost => 13
  | .focusGained => 14

def name : EventKind → String
  | .close => "CLOSE"
  | .keyPressed => "KEY_PRESSED"
  | .keyReleased => "KEY_RELEASED"
  | .pointerPressed => "POINTER_PRESSED"
  | .pointerReleased => "POINTER_RELEASED"
  | .pointerDragged => "POINTER_DRAGGED"
  | .focusLost => "FOCUS_LOST"
  | .focusGained => "FOCUS_GAINED"

def all : List EventKind :=
  [.close, .keyPressed, .keyReleased, .pointerPressed, .pointerReleased, .pointerDragged,
    .focusLost, .focusGained]

def ofCode? (code : Int32) : Option EventKind := all.find? fun k => k.code = code

@[simp] theorem ofCode?_code (k : EventKind) : ofCode? k.code = some k := by
  cases k <;> decide

end EventKind

/-- One entry of the event queue. Any type code is possible. -/
structure Event where
  type : Int32
  field1 : Int32
  field2 : Int32
deriving DecidableEq, Repr

namespace Event

def ofKind (k : EventKind) (field1 field2 : Int32) : Event := ⟨k.code, field1, field2⟩

def close : Event := ofKind .close 0 0

def pointer (k : EventKind) (x y : Int32) : Event := ofKind k x y

def key (k : EventKind) (code : Int32) : Event := ofKind k code 0

/-- The kind of an event, if its type code has one. -/
def kind? (e : Event) : Option EventKind := EventKind.ofCode? e.type

/-- Bytes of an event in guest memory. -/
def wireSize : UInt64 := 12

/-- The event with its fields by name, as log lines show it. -/
def text (e : Event) : String :=
  "Event \x7b event_type: " ++ toString e.type ++ ", field1: " ++ toString e.field1 ++ ", field2: "
    ++ toString e.field2 ++ " \x7d"

/-- Writes the three words. The range of all of them is checked before the first is written. -/
def writeTo (e : Event) (m : Memory) (offset : UInt64) : Except MemoryError Unit × Memory :=
  match m.checkRange offset wireSize with
  | .ok _ =>
    m.storeEach
      [⟨.i32, offset, e.type⟩, ⟨.i32, offset + 4, e.field1⟩, ⟨.i32, offset + 8, e.field2⟩]
  | .error cause => (.error cause, m)

def readFrom (m : Memory) (offset : UInt64) : Except MemoryError Event := do
  discard <| m.checkRange offset wireSize
  let type ← m.read .i32 offset
  let field1 ← m.read .i32 (offset + 4)
  let field2 ← m.read .i32 (offset + 8)
  return ⟨type, field1, field2⟩

/-- Writes an event that a queue offers, and takes it if all of it was written. The memory is that of
after it, either way. -/
def accept (m : Memory) (offset : UInt64) (e : Event) : Except (MemoryError × Memory) (Event × Memory) :=
  match e.writeTo m offset with
  | (.ok _, m) => .ok (e, m)
  | (.error cause, m) => .error (cause, m)

/-- What a delivery came to: the event with its offset, or none when nothing was queued; and memory
and queue after it. -/
structure Delivery where
  result : Except MemoryError (Option (Event × UInt64))
  memory : Memory
  queue : EventQueue Event

/-- Moves the oldest event of a queue to a guest address. -/
def deliver (q : EventQueue Event) (m : Memory) (addr : Int32) : Delivery :=
  match Memory.guestOffset addr with
  | .error cause => ⟨.error cause, m, q⟩
  | .ok offset =>
    match q.pollWith (accept m offset) with
    | (none, q) => ⟨.ok none, m, q⟩
    | (some (.ok (e, m)), q) => ⟨.ok (some (e, offset)), m, q⟩
    | (some (.error (cause, m)), q) => ⟨.error cause, m, q⟩

namespace Delivery

/-- Whether an event was delivered. -/
def answer (d : Delivery) : Except MemoryError Bool := d.result.map Option.isSome

/-- The trace of a delivery. -/
def log (d : Delivery) (trace : Trace) : Log :=
  match d.result with
  | .ok (some (e, offset)) =>
    trace.eventLine ("delivered " ++ e.text ++ " at " ++ Text.hex offset.toNat)
  | _ => []

end Delivery

/-- The trace of a post. -/
def postLog (e : Event) (trace : Trace) : Log := trace.eventLine ("posted " ++ e.text)

end Event

end GuestBridge
