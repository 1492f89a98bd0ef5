import GuestBridge.Image.Bytes
import GuestBridge.Image.Jpeg.Error
import GuestBridge.Image.PrefixCode

/-!
# Segments of JPEG images

A file is a sequence of segments, each behind a marker: tables, the frame with its components, and
scans. A scan is followed by its coded blocks. Segments change what is set up for the next scan.
-/

namespace GuestBridge.Image.Jpeg

/-- The second byte of a marker; the first one is all ones. -/
abbrev Marker := UInt8

namespace Marker

def startOfScan : Marker := 0xDA
def endOfImage : Marker := 0xD9

def isRestart (m : Marker) : Bool := 0xD0 ≤ m && m ≤ 0xD7

/-- Whether the marker has a meaning. -/
def isKnown (m : Marker) : Bool :=
  (0xD0 ≤ m && m ≤ 0xDD)
    || [0xC0, 0xC1, 0xC2, 0xC4, 0xCC, 0xE0, 0xE1, 0xE2, 0xED, 0xEE, 0xFE].contains m

end Marker

/-- A file and the place of the next byte. -/
structure Cursor where
  file : ByteArray
  position : Nat

/-- Reads from a file. -/
abbrev Reader (α : Type) := StateT Cursor (Except (Failure Error)) α

namespace Reader

/-- Gives up because of a broken rule. -/
def reject {α : Type} (error : Error) : Reader α := throw (.malformed error)

/-- Passes over bytes, at most to the end. -/
def skip (count : Nat) : Reader Unit :=
  modify fun s => { s with position := min s.file.size (s.position + count) }

/-- The length of the rest of the file. -/
def left : Reader Nat := return (← get).file.size - (← get).position

/-- The next `count` bytes, without passing over them. -/
def peek (count : Nat) : Reader ByteArray := do
  let left ← left
  if left < count then reject (.notEnoughBytes count left)
  let s ← get
  return s.file.extract s.position (s.position + count)

/-- The next `count` bytes. -/
def bytes (count : Nat) : Reader ByteArray := do
  let data ← peek count
  skip count
  return data

def byte : Reader Nat := return bigEndian (← bytes 1)

/-- A number of two bytes. -/
def word : Reader Nat := return bigEndian (← bytes 2)

/-- The length of a segment without the two bytes that hold it. -/
def segmentLength : Reader Nat := do
  let length ← word
  if length < 2 then reject (.segmentLength length)
  return length - 2

end Reader

/-- What the samples of a pixel stand for. -/
inductive ColorModel where
  | gray
  /-- Two components that are shown as they are. -/
  | pair
  | rgb
  | luminance
  | cmyk
  /-- Luminance and chrominance of the three inks, and black. -/
  | inkLuminance
  /-- Luminance with only one chrominance, which does not give a colour. -/
  | blank
deriving DecidableEq, Repr

namespace ColorModel

/-- The samples of a pixel that are taken in. -/
def components : ColorModel → Nat
  | gray => 1
  | pair => 2
  | rgb | luminance | blank => 3
  | cmyk | inkLuminance => 4

/-- How `count` components are shown, if they can be. Three inks without black are taken for
colours, and where black is missing beside luminance there is luminance alone. -/
def fit? (m : ColorModel) (count : Nat) : Option ColorModel :=
  if m = cmyk && count = 3 then some rgb
  else if m.components ≤ count then some m
  else if m = inkLuminance then
    some (if count = 1 then gray else if count = 2 then blank else luminance)
  else if count = 2 then some pair
  else none

end ColorModel

/-- A component of a frame: its sampling and the places of its tables. -/
structure Component where
  id : Nat
  horizontal : Nat
  vertical : Nat
  quantization : Nat
  dcCode : Nat := 0
  acCode : Nat := 0
deriving Inhabited

structure Frame where
  width : Nat
  height : Nat
  components : Array Component

/-- Which coefficients of which components a scan brings. -/
structure Scan where
  /-- Places of the components in the frame. -/
  components : List Nat
  first : Nat
  last : Nat
  /-- The bits below which earlier scans have left the coefficients; zero for a first scan. -/
  high : Nat
  /-- The bits that this scan leaves out. -/
  low : Nat

/-- What the segments so far have set up. Tables that come later stand further ahead. -/
structure Setup where
  quantization : List (Nat × Array Int32) := []
  dcCodes : List (Nat × PrefixCode) := []
  acCodes : List (Nat × PrefixCode) := []
  frame : Option Frame := none
  isProgressive : Bool := false
  model : ColorModel := .luminance
  /-- Whether the file is a picture of a film, which may leave out its codes. -/
  isMotion : Bool := false
  restartInterval : Nat := 0
  /-- Units up to the next restart. -/
  untilRestart : Nat := 0
  scan : Scan := ⟨[], 0, 0, 0, 0⟩

/-- Where the coefficients of a block go, in the order in which they are sent. -/
def zigzag : Array Nat :=
  #[0, 1, 8, 16, 9, 2, 3, 10, 17, 24, 32, 25, 18, 11, 4, 5, 12, 19, 26, 33, 40, 48, 41, 34, 27, 20,
    13, 6, 7, 14, 21, 28, 35, 42, 49, 56, 57, 50, 43, 36, 29, 22, 15, 23, 30, 37, 44, 51, 58, 59,
    52, 45, 38, 31, 39, 46, 53, 60, 61, 54, 47, 55, 62, 63]

/-- The place of coefficient `k`; behind the last one they start again. -/
def zigzagPlace (k : Nat) : Nat := (zigzag[k % 64]?).getD 0

namespace Setup

/-- Reads the numbers of a quantization table, each of one byte or of two. -/
def readNumbers (isWide : Bool) : Reader (List Nat) := do
  if isWide then (List.range 64).mapM fun _ => Reader.word
  else return (← Reader.bytes 64).toList.map UInt8.toNat

/-- Puts numbers that are sent in zigzag order into their places. -/
def unzigzag (values : List Nat) : Array Int32 :=
  values.zipIdx.foldl (fun table (v, k) => table.setIfInBounds (zigzagPlace k) (Int32.ofNat v))
    (Array.replicate 64 0)

/-- Reads quantization tables; `left` bytes of the segment are left. -/
def readQuantization (s : Setup) : (fuel left : Nat) → Reader Setup
  | 0, _ => return s
  | _ + 1, 0 => return s
  | fuel + 1, left => do
    let b ← Reader.byte
    let precision := b / 16
    let place := b % 16
    let size := 64 * (precision + 1)
    if left < size + 1 then Reader.reject (.quantizationSize left (size + 1))
    if 1 < precision then Reader.reject (.quantizationPrecision precision)
    let numbers ← readNumbers (precision = 1)
    if 3 < place then Reader.reject (.quantizationPlace place)
    readQuantization { s with quantization := (place, unzigzag numbers) :: s.quantization } fuel
      (left - (size + 1))

/-- Reads prefix codes; `left` bytes of the segment are left. -/
def readCodes (s : Setup) : (fuel left : Nat) → Reader Setup
  | 0, _ => return s
  | fuel + 1, left => do
    if left ≤ 16 then
      if left ≠ 0 then Reader.reject .bogusCode
      return s
    let b ← Reader.byte
    let kind := b / 16
    let place := b % 16
    if 3 < place then Reader.reject (.codePlace place)
    if 1 < kind then Reader.reject (.codeKind kind)
    let counts := (← Reader.bytes 16).toList.map UInt8.toNat
    let left := left - 17
    let total := counts.foldl (· + ·) 0
    if 256 < total then Reader.reject .codeSize
    if left < total then Reader.reject (.codeOverrun total left)
    let symbols := (← Reader.bytes total).toList.map UInt8.toNat
    let code : PrefixCode := ⟨counts, symbols.toArray⟩
    if !code.hasSpare then Reader.reject .badCode
    let s ←
      if kind = 0 then
        if symbols.any (15 < ·) then Reader.reject .badCode
        pure { s with dcCodes := (place, code) :: s.dcCodes }
      else pure { s with acCodes := (place, code) :: s.acCodes }
    s.readCodes fuel (left - total)

/-- Reads the component at a place of the frame. It has up to four blocks beside each other in a
unit and up to four above each other, but not three beside each other. -/
def readComponent (place : Nat) : Reader Component := do
  let data ← Reader.bytes 3
  let number (i : Nat) : Nat := (byteAt data i).toNat
  if 3 < place then Reader.reject (.componentCount place)
  if 3 < number 2 then Reader.reject (.componentQuantization (number 2))
  let horizontal := number 1 / 16
  let vertical := number 1 % 16
  if horizontal = 0 || 4 < horizontal then Reader.reject (.horizontalRange horizontal)
  if vertical = 0 || 4 < vertical then Reader.reject (.verticalRange vertical)
  if horizontal = 3 then Reader.reject (.horizontalSampling horizontal)
  return { id := number 0, horizontal, vertical, quantization := number 2 }

/-- Reads the size and the components of the frame. -/
def readFrame (s : Setup) : Reader Setup := do
  if s.frame.isSome then Reader.reject .secondFrame
  let length ← Reader.word
  let precision ← Reader.byte
  if precision ≠ 8 then Reader.reject (.precision precision)
  let height ← Reader.word
  let width ← Reader.word
  if width = 0 || height = 0 then Reader.reject .emptyImage
  let count ← Reader.byte
  if count = 0 then Reader.reject .noComponents
  if length ≠ 8 + 3 * count then Reader.reject (.frameLength (8 + 3 * count) length)
  let model : ColorModel :=
    match count with
    | 1 => .gray
    | 4 => if s.model = .luminance then .cmyk else s.model
    | _ => s.model
  let components ← (List.range count).mapM readComponent
  return { s with frame := some ⟨width, height, components.toArray⟩, model }

/-- Reads the components of a scan and the codes that they use. -/
def readScanComponents (f : Frame) : (count : Nat) → (ids places : List Nat) →
    Reader (Frame × List Nat)
  | 0, _, places => return (f, places.reverse)
  | count + 1, ids, places => do
    let id ← Reader.byte
    if ids.contains id then Reader.reject (.repeatedComponent id)
    let codes ← Reader.byte
    let some place := f.components.findIdx? fun c => c.id == id
      | Reader.reject (.unknownComponent id (f.components.toList.map (·.id)))
    let components := f.components.modify place fun c =>
      { c with dcCode := codes / 16, acCode := codes % 16 }
    readScanComponents { f with components } count (id :: ids) (place :: places)

def readScan (s : Setup) : Reader Setup := do
  let length ← Reader.word
  let count ← Reader.byte
  if length ≠ 6 + 2 * count then Reader.reject (.scanLength length)
  if count = 0 || 4 < count then Reader.reject (.scanComponents count)
  let some frame := s.frame | Reader.reject .scanBeforeFrame
  let (frame, components) ← readScanComponents frame count [] []
  let first ← Reader.byte
  let last ← Reader.byte
  let approximation ← Reader.byte
  let high := approximation / 16
  let low := approximation % 16
  if 63 < last then Reader.reject (.spectralEnd last)
  if 63 < first then Reader.reject (.spectralStart first)
  if 13 < high then Reader.reject (.approximationHigh s.scan.low)
  if 13 < low then Reader.reject (.approximationLow low)
  return { s with frame := some frame, scan := ⟨components, first, last, high, low⟩ }

/-- A segment of the application that may say that the file is a picture of a film. -/
def readApplication (s : Setup) : Reader Setup := do
  let left ← Reader.segmentLength
  if 3 < left then
    let mark ← Reader.bytes 5
    Reader.skip (left - 5)
    return { s with isMotion := s.isMotion || mark.toList == "AVI1\x00".toUTF8.toList }
  else
    Reader.skip left
    return s

/-- The length of application segment `number` without the two bytes that hold it. -/
def applicationLength (number : Nat) : Reader Nat := do
  let length ← if (← Reader.left) < 2 then pure 0 else Reader.word
  if length < 2 then Reader.reject (.applicationLength number)
  return length - 2

/-- How the data of a known application starts: its name, and the bytes up to the data proper. -/
structure ApplicationHead where
  name : String
  size : Nat

/-- The applications of segments whose data proper has to be there. -/
def applicationHeads : (number : Nat) → List ApplicationHead
  | 1 => [⟨"Exif\x00\x00", 6⟩, ⟨"http:" ++ "//ns.adobe.com/xap/1.0/\x00", 29⟩]
  | 2 => [⟨"ICC_PROFILE\x00", 14⟩]
  | 13 => [⟨"Photoshop 3.0\x00", 14⟩]
  | _ => []

/-- Passes over `length` bytes of data. If they go on behind one of the heads, they have to be
there. -/
def skipApplication : List ApplicationHead → (length : Nat) → Reader Unit
  | [], length => Reader.skip length
  | head :: heads, length => do
    let name := head.name.toUTF8
    if head.size < length then
      if (← Reader.peek name.size).toList == name.toList then
        Reader.skip head.size
        discard (Reader.bytes (length - head.size))
        return
    skipApplication heads length

/-- A segment that may name the colour model. -/
def readColorModel (s : Setup) : Reader Setup := do
  let length ← applicationLength 14
  let name := "Adobe".toUTF8
  if length < name.size then
    Reader.skip length
    return s
  let isNamed := (← Reader.peek name.size).toList == name.toList
  if isNamed && length < 12 then Reader.reject .adobeLength
  let start ← get
  Reader.skip length
  if !isNamed then return s
  match byteAt start.file (start.position + 11) with
  | 0 => return { s with model := .cmyk }
  | 1 => return { s with model := .luminance }
  | 2 => return { s with model := .inkLuminance }
  | n => Reader.reject (.adobeColors n.toNat)

/-- Reads the segment behind a marker; it is passed over if it does not matter. -/
def readSegment (s : Setup) (m : Marker) : Reader Setup := do
  if m = 0xC0 || m = 0xC1 || m = 0xC2 then
    readFrame { s with isProgressive := s.isProgressive || m == 0xC2 }
  else if m = 0xC4 then
    let length ← Reader.word
    if length < 2 then Reader.reject .codeLength
    s.readCodes length (length - 2)
  else if m = 0xCC then Reader.reject (.unsupportedSegment "DAC")
  else if m = Marker.endOfImage then Reader.reject .endOfImage
  else if m = Marker.startOfScan then s.readScan
  else if m = 0xDB then
    let length ← Reader.word
    if length < 2 then Reader.reject .quantizationLength
    s.readQuantization length (length - 2)
  else if m = 0xDC then Reader.reject (.unsupportedSegment "DNL")
  else if m = 0xDD then
    if (← Reader.word) ≠ 4 then Reader.reject .restartLength
    let interval ← Reader.word
    return { s with restartInterval := interval, untilRestart := interval }
  else if m = 0xE0 then s.readApplication
  else if m = 0xE1 || m = 0xE2 || m = 0xED then
    let number := (m - 0xE0).toNat
    skipApplication (applicationHeads number) (← applicationLength number)
    return s
  else if m = 0xEE then s.readColorModel
  else
    Reader.skip (← Reader.segmentLength)
    return s

/-- Passes over fill bytes and zeros; the last of them and the byte behind them. -/
def skipFill : (fuel : Nat) → (before b : Nat) → Reader (Nat × Nat)
  | 0, before, b => return (before, b)
  | fuel + 1, before, b => do
    if b = 0xFF || b = 0 then skipFill fuel b (← Reader.byte) else return (before, b)

/-- Reads segments up to the first scan; `before` is the byte before the next one. -/
def readSegments (s : Setup) : (fuel : Nat) → (before : Nat) → Reader Setup
  | 0, _ => Reader.reject (.notEnoughBytes 1 0)
  | fuel + 1, before => do
    let b ← Reader.byte
    let (before, b) ←
      if before = 0xFF && (b = 0xFF || b = 0) then skipFill fuel before b else pure (before, b)
    if before ≠ 0xFF then s.readSegments fuel b
    else
      let m := UInt8.ofNat b
      let s ← s.readSegment m
      if m = Marker.startOfScan then return s
      s.readSegments fuel b

/-- Components with the letters R, G and B hold these colours. -/
def namesColors (f : Frame) : Bool := f.components.toList.map (·.id) == [0x52, 0x47, 0x42]

/-- Reads the head of a file up to its first scan. -/
def read : Reader Setup := do
  let start ← Reader.word
  if start ≠ 0xFFD8 then Reader.reject (.start start)
  let s ← ({} : Setup).readSegments ((← get).file.size + 1) 0
  return if s.frame.any namesColors then { s with model := .rgb } else s

end Setup

end GuestBridge.Image.Jpeg
