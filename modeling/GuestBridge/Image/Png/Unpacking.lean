import GuestBridge.Image.Png.Rows

/-!
# Unpacking the rows of PNG images

The compressed rows come in chunks. They are unpacked a few kilobytes at a time, and a row is taken
as soon as the bytes that later repeats may still refer to are behind it. So a row with a wrong
filter is noticed before damage to the stream that comes much later.
-/

namespace GuestBridge.Image.Png

/-- The rows of an image that have been taken, and where the next one starts. -/
structure Taken where
  rows : Array Row
  /-- The passes to come; the first one is under way. -/
  passes : List Pass
  /-- The next row of that pass. -/
  y : Nat
  /-- The row above in the pass. -/
  above : ByteArray
  /-- The place of the next row among the unpacked bytes. -/
  position : Nat
  /-- The place of the row above. -/
  previous : Nat

namespace Taken

/-- Goes on with the first of some passes. -/
def enter (t : Taken) (h : Header) (passes : List Pass) : Taken :=
  let above := match passes with
    | pass :: _ => uniform (h.rowBytes (pass.width h)) 0
    | [] => .empty
  { t with passes, y := 0, above, previous := t.position }

def initial (h : Header) : Taken := enter ⟨#[], [], 0, .empty, 0, 0⟩ h h.passes

def isComplete (t : Taken) : Bool := t.passes.isEmpty

/-- Takes the rows that lie within the first `available` bytes; a row is only taken if it can be
drawn. -/
def extend (m : Metadata) (bytes : ByteArray) (available : Nat) :
    (fuel : Nat) → Taken → Result Taken
  | 0, t => return t
  | fuel + 1, t => do
    let h := m.header
    match t.passes with
    | [] => return t
    | pass :: passes =>
      if pass.height h ≤ t.y then extend m bytes available fuel (t.enter h passes)
      else
        let finish := t.position + pass.rowSize h
        if available < finish then return t
        let start := t.position + 1
        let row ← unfilter (byteAt bytes t.position) (max 1 (h.bitsPerPixel / 8)) t.above
          (bytes.extract start finish)
        if h.color = .indexed && m.palette.isNone then reject .noPalette
        extend m bytes available fuel
          { t with
            rows := t.rows.push ⟨pass, t.y, row⟩
            y := t.y + 1
            above := row
            position := finish
            previous := start }

end Taken

/-- The rows of an image that are being unpacked. -/
structure Unpacking where
  stream : Inflate.State
  taken : Taken
  /-- Where the window of unpacked bytes that are kept starts. -/
  start : Nat
  /-- The size of the window. -/
  size : Nat

namespace Unpacking

def initial (h : Header) : Unpacking := ⟨.initial, .initial h, 0, 0⟩

/-- How far behind a repeat may refer. -/
def reach : Nat := 32768

/-- The least number of bytes to unpack in one go. -/
def portion : Nat := 8192

/-- How far the rows get into the window before it moves on. -/
def kept (h : Header) : Nat := max 131072 ((4 * (h.rowBytes h.width + 1) + 63) / 64 * 64)

/-- Moves the window on to the last row if most of it is behind the rows, and makes room in it for
another portion. -/
def makeRoom (u : Unpacking) (h : Header) : Unpacking :=
  let filled := u.stream.output.size
  let isBehind := u.start + kept h ≤ u.taken.previous && u.size / 2 ≤ filled - u.start
  let start := if isBehind then u.taken.previous else u.start
  { u with start, size := max u.size (filled - start + portion) }

/-- The bytes that no repeat can refer to any more; all of them when no others follow. -/
def available (u : Unpacking) (h : Header) : Nat :=
  let filled := u.stream.output.size
  if u.stream.isFinished || h.rowData ≤ filled then filled else filled - reach

/-- Unpacks bytes, at first what the next ones of the stream yield, as long as there is something to
unpack and rows are missing. -/
def unpack (m : Metadata) : (fuel : Nat) → (data : ByteArray) → Unpacking → Result Unpacking
  | 0, _, u => return u
  | fuel + 1, data, u => do
    let h := m.header
    let u := u.makeRoom h
    let (stream, stop) := Inflate.feed u.stream data (min (u.start + u.size) h.rowData)
    if let .failed error := stop then reject (.unpacking error)
    let u := { u with stream }
    let taken ← Taken.extend m stream.output (u.available h) (stream.output.size + 8) u.taken
    let u := { u with taken }
    if taken.isComplete || stream.isFinished || !stream.isFull then return u
    else unpack m fuel .empty u

/-- Unpacks the rows of one chunk. -/
def add (u : Unpacking) (m : Metadata) (data : ByteArray) : Result Unpacking :=
  if u.taken.isComplete || u.stream.isFinished then .ok u
  else unpack m (m.header.rowData + 1) data u

/-- All rows, once there are no more chunks. -/
def finish (u : Unpacking) : Result (Array Row) :=
  if u.taken.isComplete then .ok u.taken.rows
  else if u.stream.isFinished then reject .tooFewRows
  else reject (.unpacking .insufficientInput)

end Unpacking

end GuestBridge.Image.Png
