import GuestBridge.Image.Jpeg.Sequential
import GuestBridge.Image.Jpeg.Upsampling
import GuestBridge.Resource.Basic

/-!
# From samples to pixels

The bands of a picture are brought to full resolution and turned into colours line by line. Lines
that no band covers are left grey.
-/

namespace GuestBridge.Image.Jpeg

/-- The colour of a luminance and two chrominances, in integer arithmetic. -/
def colorOf (y cb cr : UInt8) : List UInt8 :=
  let centered (v : UInt8) : Int32 := Int32.ofNat v.toNat - 128
  let base : Int32 := Int32.ofNat y.toNat * 16384 + 8191
  let channel (v : Int32) : UInt8 := clampByte (v >>> (14 : Int32))
  [channel (base + centered cr * 22970),
    channel (base + centered cr * -11700 + centered cb * -5638),
    channel (base + centered cb * 29032)]

/-- The light that an ink lets through when black lets through some of it. -/
def throughBlack (black ink : UInt8) : UInt8 :=
  let t := ink.toNat * black.toNat + 128
  UInt8.ofNat ((t + t / 256) / 256)

/-- The colour of pixel `x` of a line, given the samples of the components. Two components are shown
as they are, one sample behind the other, and fill two thirds of the line. -/
def ColorModel.pixel (m : ColorModel) (width : Nat) (sample : Nat → Nat → UInt8) (x : Nat) :
    List UInt8 :=
  let at3 (k : Nat) : UInt8 := sample k x
  match m with
  | gray => List.replicate 3 (at3 0)
  | pair => (List.range 3).map fun i =>
      let j := 3 * x + i
      if j < 2 * width then sample (j % 2) (j / 2) else 0
  | rgb => [at3 0, at3 1, at3 2]
  | luminance => colorOf (at3 0) (at3 1) (at3 2)
  | blank => [0, 0, 0]
  | cmyk => [at3 0, at3 1, at3 2].map (throughBlack (at3 3))
  | inkLuminance => (colorOf (at3 0) (at3 1) (at3 2)).map fun v => throughBlack (at3 3) (255 - v)

/-- Lines of pixels, and how many there are. -/
structure Drawing where
  pixels : ByteArray
  lines : Nat

namespace Drawing

/-- Adds the pixels of a line. -/
def addLine (d : Drawing) (l : Layout) (planes : Array ByteArray) (y : Nat) : Drawing :=
  let start := y * l.paddedWidth
  let sample (k x : Nat) : UInt8 := byteAt ((planes[k]?).getD .empty) (start + x)
  let pixels := (List.range l.width).foldl (fun out x =>
    ((l.model.pixel l.width sample x).foldl ByteArray.push out).push 255) d.pixels
  ⟨pixels, d.lines + 1⟩

/-- Adds `count` lines from line `y` of the planes on, as far as the picture goes. All components
have to have samples for them. -/
def addLines (l : Layout) (planes : Array ByteArray) :
    (count y : Nat) → Drawing → Result Drawing
  | 0, _, d => .ok d
  | count + 1, y, d =>
    if l.height ≤ d.lines then .ok d
    else if planes.any fun plane => plane.size < (y + 1) * l.paddedWidth then
      reject .missingSamples
    else addLines l planes count (y + 1) (d.addLine l planes y)

end Drawing

namespace Layout

/-- Draws a band, and before it the lines that were held back of the band above. -/
def drawBand (l : Layout) (holdsBack : Bool) (i : Nat) (band : Band) (planes : Array Plane)
    (d : Drawing) : Result (Array Plane × Drawing) := do
  let isLast := i + 1 = l.rows
  let planes := planes.zipWith (fun p samples => p.add samples (i = 0) isLast holdsBack) band
  let d ←
    if holdsBack && i ≠ 0 then Drawing.addLines l (planes.map Plane.heldBack) l.maxVertical 0 d
    else pure d
  let planes := if holdsBack then planes.zipWith Plane.keep band else planes
  let count := (if holdsBack && !isLast then 7 else 8) * l.maxVertical
  let d ← Drawing.addLines l (planes.zipWith Plane.full band) count 0 d
  return (planes, d)

/-- Draws bands, each with its row of units. -/
def drawBands (l : Layout) (holdsBack : Bool) :
    List (Nat × Band) → Array Plane → Drawing → Result Drawing
  | [], _, d => .ok d
  | (i, band) :: bands, planes, d => do
    let (planes, d) ← l.drawBand holdsBack i band planes d
    l.drawBands holdsBack bands planes d

/-- A picture with bands needs components that can be brought to one resolution. -/
def checkMixing (l : Layout) (p : Picture) : Result Unit :=
  if !p.bands.isEmpty && (List.range l.channels.size).any (fun place => !l.canMix place) then
    reject .componentDimensions
  else .ok ()

end Layout

/-- The bitmap of a picture. -/
def Picture.draw (p : Picture) (l : Layout) : Result Bitmap := do
  l.checkMixing p
  let planes := (Array.range l.channels.size).map (Plane.initial l)
  let holdsBack := planes.any fun plane => plane.ratio.mixesRows
  let d ← l.drawBands holdsBack p.bands.toList planes ⟨.empty, 0⟩
  match p.below with
  | .failure cause => throw cause
  | .grey rest =>
    let pixels := (List.range ((l.height - d.lines) * l.width)).foldl (fun out _ =>
      (padded rest 3 out).push 255) d.pixels
    return ⟨l.width, l.height, pixels.toList⟩

end GuestBridge.Image.Jpeg
