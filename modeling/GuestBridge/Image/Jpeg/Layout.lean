import GuestBridge.Image.Jpeg.Transform

/-!
# The grid of units of a frame

The samples of a frame are sent in units. A unit holds one block of each component, or several of
those that are sampled more finely. The samples that one row of units covers are a band.
-/

namespace GuestBridge.Image.Jpeg

/-- A component with its place among the units of a frame. -/
structure Channel where
  horizontal : Nat
  vertical : Nat
  /-- Samples of a row. -/
  stride : Nat
  table : Array Int32
deriving Inhabited

namespace Channel

/-- Rows of a band. -/
def bandRows (c : Channel) : Nat := 8 * c.vertical

/-- A band without any samples yet. -/
def blankBand (c : Channel) : ByteArray := uniform (c.stride * c.bandRows) 0

end Channel

/-- The samples of a band, by component. -/
abbrev Band := Array ByteArray

structure Layout where
  width : Nat
  height : Nat
  maxHorizontal : Nat
  maxVertical : Nat
  channels : Array Channel
  model : ColorModel

namespace Layout

/-- Units of a row. -/
def columns (l : Layout) : Nat := (l.width + 8 * l.maxHorizontal - 1) / (8 * l.maxHorizontal)

/-- Rows of units. -/
def rows (l : Layout) : Nat := (l.height + 8 * l.maxVertical - 1) / (8 * l.maxVertical)

/-- Samples of a row once all components have the same resolution. -/
def paddedWidth (l : Layout) : Nat := 8 * l.maxHorizontal * l.columns

/-- Adds a component. The length of its rows follows from the components so far. -/
def add (l : Layout) (c : Component) (table : Array Int32) : Layout :=
  let l := { l with
    maxHorizontal := max l.maxHorizontal c.horizontal
    maxVertical := max l.maxVertical c.vertical }
  { l with
    channels := l.channels.push ⟨c.horizontal, c.vertical, 8 * c.horizontal * l.columns, table⟩ }

/-- Adds the components from some place on; each needs its quantization table. -/
def addAll (s : Setup) (l : Layout) : (place : Nat) → List Component → Result Layout
  | _, [] => .ok l
  | place, c :: cs =>
    match s.quantization.lookup c.quantization with
    | none => reject (.noQuantization place)
    | some table => addAll s (l.add c table) (place + 1) cs

/-- The components have to make up colours. A single one has no other to be finer than. -/
def ofSetup (s : Setup) (f : Frame) : Result Layout := do
  let l ← addAll s ⟨f.width, f.height, 1, 1, #[], s.model⟩ 0 f.components.toList
  let some model := s.model.fit? f.components.size | reject (.unknownColors f.components.size)
  if model = .gray then
    let single : Layout := { l with model, maxHorizontal := 1, maxVertical := 1, channels := #[] }
    return { single with channels := l.channels.map fun c => ⟨1, 1, 8 * single.columns, c.table⟩ }
  return { l with model }

def channel (l : Layout) (k : Nat) : Channel := (l.channels[k]?).getD default

/-- Blocks that cover a row of a component. -/
def blockColumns (l : Layout) (c : Channel) : Nat :=
  ((l.width * c.horizontal + l.maxHorizontal - 1) / l.maxHorizontal + 7) / 8

/-- Blocks that cover a column of a component. -/
def blockRows (l : Layout) (c : Channel) : Nat :=
  ((l.height * c.vertical + l.maxVertical - 1) / l.maxVertical + 7) / 8

/-- Blocks of a component in a row of units. -/
def bandBlocks (l : Layout) (c : Channel) : Nat := l.columns * c.horizontal * c.vertical

def blankBand (l : Layout) : Band := l.channels.map Channel.blankBand

end Layout

/-- Puts a piece into a plane from a place on, if there is room for it. -/
def putPiece (piece : ByteArray) (start : Nat) (plane : ByteArray) : ByteArray :=
  if plane.size < start + piece.size then plane else piece.copySlice 0 plane start piece.size

/-- Puts the samples of a block into a plane: `x` is the column of its first samples and `y` their
row. -/
def placeBlock (samples : ByteArray) (stride x y : Nat) (plane : ByteArray) : ByteArray :=
  (List.range 8).foldl (fun plane i =>
    putPiece (samples.extract (8 * i) (8 * i + 8)) ((y + i) * stride + x) plane) plane

end GuestBridge.Image.Jpeg
