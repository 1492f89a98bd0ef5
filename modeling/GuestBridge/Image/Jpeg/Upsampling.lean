import GuestBridge.Image.Jpeg.Layout

/-!
# Upsampling

Components with a lower resolution are brought to that of the finest ones. Twice as many samples in
a row, or twice as many rows, are made by mixing each sample with its neighbours, three parts to
one. Rows can only be mixed when the next band is there, so the last rows of a band are held back.
Other ratios repeat the samples.
-/

namespace GuestBridge.Image.Jpeg

/-- How many samples take the place of one. -/
structure Ratio where
  horizontal : Nat
  vertical : Nat
deriving DecidableEq

namespace Ratio

def one : Ratio := ⟨1, 1⟩
def wide : Ratio := ⟨2, 1⟩
def tall : Ratio := ⟨1, 2⟩
def both : Ratio := ⟨2, 2⟩

/-- Whether rows are mixed. -/
def mixesRows (r : Ratio) : Bool := r == tall || r == both

def factor (r : Ratio) : Nat := r.horizontal * r.vertical

end Ratio

/-- Three parts of a sample and one of another. -/
def mixed (near far : UInt8) : UInt8 := UInt8.ofNat ((3 * near.toNat + far.toNat + 2) / 4)

/-- Twice as many samples in a row; the outermost ones have no neighbour to be mixed with. -/
def widened (row : ByteArray) : ByteArray :=
  let last := row.size - 1
  (List.range row.size).foldl (fun out i =>
    let v := byteAt row i
    (out.push (if i = 0 then v else mixed v (byteAt row (i - 1)))).push
      (if i = last then v else mixed v (byteAt row (i + 1)))) .empty

/-- A row mixed with another one. -/
def mixedRow (near far : ByteArray) : ByteArray :=
  (List.range (min near.size far.size)).foldl
    (fun out i => out.push (mixed (byteAt near i) (byteAt far i))) .empty

/-- The two rows that take the place of one between two others. -/
def Ratio.mixRow (r : Ratio) (row above below : ByteArray) : ByteArray :=
  let upper := mixedRow row above
  let lower := mixedRow row below
  if r = both then widened upper ++ widened lower else upper ++ lower

/-- Repeats each sample of a row. -/
def repeatedSamples (count : Nat) (row : ByteArray) : ByteArray :=
  row.foldl (fun out v => padded v count out) .empty

/-- What is kept of a component from band to band. -/
structure Plane where
  channel : Channel
  ratio : Ratio
  /-- The last rows of the band before. -/
  last : ByteArray
  /-- The row before those. -/
  beforeLast : ByteArray
  /-- The rows that were held back of the band before. -/
  seam : ByteArray
  /-- The upsampled rows of the band. -/
  grown : ByteArray

namespace Layout

/-- How many samples take the place of one of a component. -/
def ratio (l : Layout) (place : Nat) : Ratio :=
  let c := l.channel place
  ⟨l.maxHorizontal / c.horizontal, l.maxVertical / c.vertical⟩

/-- Whether the samples of a component can be mixed; rows only if a unit has one row of blocks. -/
def canMix (l : Layout) (place : Nat) : Bool :=
  !(l.ratio place).mixesRows || (l.channel place).vertical ≤ 1

end Layout

namespace Plane

/-- The plane of a component before the first band. -/
def initial (l : Layout) (place : Nat) : Plane :=
  let c := l.channel place
  let ratio := l.ratio place
  let rows := c.stride * c.vertical
  { channel := c
    ratio
    last := uniform rows 0
    beforeLast := uniform rows 0
    seam := uniform (rows * ratio.factor) 128
    grown := uniform (8 * rows * ratio.factor) 0 }

/-- Mixes the rows of a band from row `y` on; `used` bytes are done. The last row of all but the
last band is held back. -/
def mixRows (band : ByteArray) (isFirst isLast : Bool) :
    (count y used : Nat) → Plane → Plane
  | 0, _, _, p => p
  | count + 1, y, used, p =>
    let stride := p.channel.stride
    let step := stride * p.channel.vertical
    let group (i : Nat) : ByteArray := band.extract (i * step) ((i + 1) * step)
    let row := band.extract (y * stride) ((y + 1) * stride)
    let mix (above below : ByteArray) : Plane :=
      let piece := p.ratio.mixRow row above below
      mixRows band isFirst isLast count (y + 1) (used + piece.size)
        { p with grown := putPiece piece used p.grown }
    if y = 0 then mix (if isFirst then group 0 else p.last) (group 1)
    else if count ≠ 0 then mix (group (y - 1)) (group (y + 1))
    else if isLast then mix (group (y - 1)) (group y)
    else { p with beforeLast := group (y - 1), last := row }

/-- Puts a piece for each row of a band one behind the other. -/
def growRows (band : ByteArray) (grow : ByteArray → ByteArray) :
    (count y used : Nat) → Plane → Plane
  | 0, _, _, p => p
  | count + 1, y, used, p =>
    let stride := p.channel.stride
    let piece := grow (band.extract (y * stride) ((y + 1) * stride))
    growRows band grow count (y + 1) (used + piece.size)
      { p with grown := putPiece piece used p.grown }

/-- Upsamples a band. `holdsBack` tells that some component holds rows back. -/
def add (p : Plane) (band : ByteArray) (isFirst isLast holdsBack : Bool) : Plane :=
  let stride := p.channel.stride
  let count := band.size / stride
  if p.ratio.mixesRows then
    let p :=
      if isFirst then p
      else
        let row (plane : ByteArray) : ByteArray := plane.extract 0 stride
        { p with
          seam := putPiece (p.ratio.mixRow (row p.last) (row p.beforeLast) (row band)) 0 p.seam }
    mixRows band isFirst isLast count 0 0 p
  else if p.ratio = .wide then
    let p :=
      if holdsBack then
        { p with seam := p.grown.extract (p.grown.size - p.seam.size) p.grown.size }
      else p
    growRows band widened count 0 0 p
  else if p.ratio = .one then p
  else
    growRows band (fun row =>
      let wide := repeatedSamples p.ratio.horizontal row
      (List.range p.ratio.vertical).foldl (fun out _ => out ++ wide) .empty) count 0 0 p

/-- The rows of a band at full resolution. -/
def full (p : Plane) (band : ByteArray) : ByteArray := if p.ratio = .one then band else p.grown

/-- The rows that were held back of the band before. -/
def heldBack (p : Plane) : ByteArray := if p.ratio = .one then p.last else p.seam

/-- Keeps the last rows of a band for the next one. For a component whose samples are repeated, the
last samples of the band stand for those that are held back. -/
def keep (p : Plane) (band : ByteArray) : Plane :=
  let rows := p.channel.vertical * p.channel.stride
  let final (count : Nat) : ByteArray := band.extract (band.size - count) band.size
  if p.ratio = .wide then p
  else if p.ratio = .one || p.ratio.mixesRows then { p with last := final rows }
  else { p with last := final rows, seam := final (rows * p.ratio.factor) }

end Plane

end GuestBridge.Image.Jpeg
