import GuestBridge.Image.Png.Metadata

/-!
# Rows of PNG images

Each row starts with the filter that its bytes were sent through. The rows of an interlaced image
come in seven passes over ever finer grids.
-/

namespace GuestBridge.Image.Png

/-- The one of the three neighbours that is nearest to `left + up - corner`. -/
def predictor (left up corner : Nat) : Nat :=
  let estimate : Int := left + up - corner
  let distance (n : Nat) : Nat := (estimate - n).natAbs
  if distance left ≤ distance up && distance left ≤ distance corner then left
  else if distance up ≤ distance corner then up
  else corner

/-- Adds to each byte of a row what `guess` makes of its neighbours to the left, above and in the
corner; `step` is the distance to the same byte of the pixel before. -/
def restored (guess : Nat → Nat → Nat → Nat) (step : Nat) (above row : ByteArray) : ByteArray :=
  row.foldl (fun done b =>
    let i := done.size
    let before (bytes : ByteArray) : Nat := if step ≤ i then (byteAt bytes (i - step)).toNat else 0
    done.push (b + UInt8.ofNat (guess (before done) (byteAt above i).toNat (before above)))) .empty

/-- Undoes the filter of one row. -/
def unfilter (filter : UInt8) (step : Nat) (above row : ByteArray) : Result ByteArray :=
  match filter with
  | 0 => .ok row
  | 1 => .ok (restored (fun left _ _ => left) step above row)
  | 2 => .ok (restored (fun _ up _ => up) step above row)
  | 3 => .ok (restored (fun left up _ => (left + up) / 2) step above row)
  | 4 => .ok (restored predictor step above row)
  | n => reject (.filter n.toNat)

/-- A grid of pixels: where it starts and how far its pixels lie apart. -/
structure Pass where
  x : Nat
  y : Nat
  stepX : Nat
  stepY : Nat

namespace Pass

def whole : List Pass := [⟨0, 0, 1, 1⟩]

def interlaced : List Pass :=
  [⟨0, 0, 8, 8⟩, ⟨4, 0, 8, 8⟩, ⟨0, 4, 4, 8⟩, ⟨2, 0, 4, 4⟩, ⟨0, 2, 2, 4⟩, ⟨1, 0, 2, 2⟩, ⟨0, 1, 1, 2⟩]

/-- Pixels of a pass in a row of the image. -/
def width (p : Pass) (h : Header) : Nat := (h.width - p.x + p.stepX - 1) / p.stepX

/-- Rows of a pass; none if they would be empty. -/
def height (p : Pass) (h : Header) : Nat :=
  if p.width h = 0 then 0 else (h.height - p.y + p.stepY - 1) / p.stepY

/-- Bytes of a row with its filter. -/
def rowSize (p : Pass) (h : Header) : Nat := 1 + h.rowBytes (p.width h)

end Pass

def Header.passes (h : Header) : List Pass := if h.isInterlaced then Pass.interlaced else Pass.whole

/-- Bytes of all rows with their filters. -/
def Header.rowData (h : Header) : Nat :=
  h.passes.foldl (fun n p => n + p.height h * p.rowSize h) 0

/-- Sample `i` of a row. -/
def sample (h : Header) (row : ByteArray) (i : Nat) : Nat :=
  let byte (k : Nat) : Nat := (byteAt row k).toNat
  if h.depth = 16 then 256 * byte (2 * i) + byte (2 * i + 1)
  else byte (i * h.depth / 8) >>> (8 - h.depth - i * h.depth % 8) % (1 <<< h.depth)

/-- A sample on the scale of a byte. -/
def scaled (depth value : Nat) : UInt8 :=
  UInt8.ofNat (if depth = 16 then (value + 128) / 257 else value * 255 / ((1 <<< depth) - 1))

/-- Whether the samples are the ones that a transparency chunk makes transparent. Of samples of less
than 16 bits only the low bytes count; the others are compared as a whole. -/
def isHidden (depth : Nat) (data : ByteArray) (values : List Nat) : Bool :=
  if depth = 16 then
    data.size = 2 * values.length
      && values.zipIdx.all fun (v, i) => numberAt data (2 * i) 2 == v
  else values.zipIdx.all fun (v, i) => (byteAt data (2 * i + 1)).toNat == v

/-- The colour of a pixel as four bytes. -/
def Metadata.pixel (m : Metadata) (values : List Nat) : List UInt8 :=
  let depth := m.header.depth
  let alpha : UInt8 := if m.transparency.any fun data => isHidden depth data values then 0 else 255
  match m.header.color, values with
  | .gray, [v] => let g := scaled depth v; [g, g, g, alpha]
  | .rgb, [r, g, b] => [scaled depth r, scaled depth g, scaled depth b, alpha]
  | .grayAlpha, [v, a] => let g := scaled depth v; [g, g, g, scaled depth a]
  | .indexed, [i] =>
    let colors := m.palette.getD .empty
    if i < m.paletteSize then
      let opacity := m.transparency.getD .empty
      [byteAt colors (3 * i), byteAt colors (3 * i + 1), byteAt colors (3 * i + 2),
        if i < opacity.size then byteAt opacity i else 255]
    else [0, 0, 0, 255]
  | _, values => values.map (scaled depth)

/-- A row of a pass without its filter. -/
structure Row where
  pass : Pass
  y : Nat
  bytes : ByteArray

/-- Draws a row. -/
def Metadata.drawRow (m : Metadata) (pixels : ByteArray) (row : Row) : ByteArray :=
  let h := m.header
  let pass := row.pass
  let start := (pass.y + row.y * pass.stepY) * h.width + pass.x
  (List.range (pass.width h)).foldl (fun pixels x =>
    let values := (List.range h.color.channels).map fun k =>
      sample h row.bytes (x * h.color.channels + k)
    overwrite pixels (4 * (start + x * pass.stepX)) (m.pixel values)) pixels

/-- The pixels of an image with all its rows. -/
def Metadata.draw (m : Metadata) (rows : Array Row) : ByteArray :=
  rows.foldl m.drawRow (uniform (4 * m.header.width * m.header.height) 0)

end GuestBridge.Image.Png
