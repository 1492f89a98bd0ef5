import GuestBridge.Image.Failure
import GuestBridge.Text.Quoted

/-!
# What can be wrong with JPEG images

Only damage outside of the coded blocks makes an image unreadable; a damaged scan still gives a
picture.
-/

namespace GuestBridge.Image.Jpeg

/-- The role of a component by its place in the frame. -/
def componentName : Nat → String
  | 0 => "Y"
  | 1 => "Cb"
  | 2 => "Cr"
  | _ => "Q"

inductive Error where
  | notEnoughBytes (expected found : Nat)
  | start (bytes : Nat)
  | emptyImage
  | endOfImage
  | unsupportedSegment (name : String)
  | segmentLength (length : Nat)
  | restartLength
  | applicationLength (number : Nat)
  | adobeLength
  | adobeColors (n : Nat)
  | quantizationLength
  | quantizationSize (left needed : Nat)
  | quantizationPrecision (n : Nat)
  | quantizationPlace (n : Nat)
  | noQuantization (component : Nat)
  | codeLength
  | codePlace (n : Nat)
  | codeKind (n : Nat)
  | codeSize
  | codeOverrun (symbols left : Nat)
  | bogusCode
  | badCode
  | dcCodePlace (component : Nat)
  | acCodePlace (component : Nat)
  | noDcCode (component : Nat)
  | noAcCode (component : Nat)
  | secondFrame
  | precision (n : Nat)
  | noComponents
  | frameLength (expected found : Nat)
  | componentCount (place : Nat)
  | componentQuantization (n : Nat)
  | horizontalRange (n : Nat)
  | verticalRange (n : Nat)
  | horizontalSampling (n : Nat)
  | scanLength (n : Nat)
  | scanComponents (n : Nat)
  | scanBeforeFrame
  | repeatedComponent (id : Nat)
  | unknownComponent (id : Nat) (known : List Nat)
  | spectralEnd (n : Nat)
  | spectralStart (n : Nat)
  | approximationHigh (n : Nat)
  | approximationLow (n : Nat)
  | unknownColors (components : Nat)
  | componentDimensions
  | missingMarker
  | tooManyScans (most : Nat)
  | missingCoefficients
  | missingSamples
deriving DecidableEq, Repr

namespace Error

private def quantizationText (reason : String) : String :=
  "Error parsing DQT segment. Reason:" ++ reason

private def codeText (reason : String) : String := "Error decoding huffman values: " ++ reason

private def frameText (reason : String) : String := "Error parsing SOF segment. Reason:" ++ reason

private def scanText (reason : String) : String := "Error parsing SOS Segment. Reason:" ++ reason

/-- A number in capital hexadecimal digits. -/
def capitalHexadecimal (n : Nat) : String :=
  String.ofList ((Nat.toDigits 16 n).map Char.toUpper)

def message : Error → String
  | notEnoughBytes expected found =>
    s!"I/O errors Not enough bytes, expected {expected} but found {found}\n"
  | start bytes => s!"Error parsing image. Illegal start bytes:{capitalHexadecimal bytes}"
  | emptyImage => "Image width or height is set to zero, cannot continue"
  | endOfImage => Text.quoted "Premature End of image"
  | unsupportedSegment name =>
    Text.quoted s!"Parsing of the following header `{name}` is not supported,cannot continue"
  | segmentLength length => Text.quoted s!"Found a marker with invalid length:{length}\n"
  | restartLength => Text.quoted "Bad DRI length, Corrupt JPEG"
  | applicationLength number =>
    Text.quoted (match number with
      | 1 => "Too small app1 length"
      | 2 => "Too small app2 segment"
      | _ => s!"Too small APP{number} length")
  | adobeLength => Text.quoted "Too short of a length for App14 segment"
  | adobeColors n => Text.quoted s!"Unknown Adobe colorspace {n}"
  | quantizationLength => Text.quoted "Invalid DQT length. Length should be greater than 2"
  | quantizationSize left needed =>
    quantizationText (s!"Invalid QT table bytes left :{left}. "
      ++ s!"Too small to construct a valid qt table which should be {needed} long")
  | quantizationPrecision n =>
    quantizationText s!"Expected QT precision value of either 0 or 1, found {n}"
  | quantizationPlace n =>
    quantizationText s!"Too large table position for QT :{n}, expected between 0 and 3"
  | noQuantization component =>
    quantizationText s!"No quantization table for component {componentName component}"
  | codeLength => Text.quoted "Invalid Huffman length in image"
  | codePlace n => codeText s!"Invalid DHT index {n}, expected between 0 and 3"
  | codeKind n => codeText s!"Invalid DHT position {n}, should be 0 or 1"
  | codeSize => Text.quoted "Encountered Huffman table with excessive length in DHT"
  | codeOverrun symbols left =>
    codeText s!"Excessive Huffman table of length {symbols} found when header length is {left}"
  | bogusCode => Text.quoted "Bogus Huffman table definition"
  | badCode => codeText "Bad Huffman Table"
  | dcCodePlace component =>
    codeText s!"No Huffman DC table for component {componentName component} "
  | acCodePlace component =>
    codeText s!"No Huffman AC table for component {componentName component} "
  | noDcCode component => codeText s!"No DC table for component {componentName component}"
  | noAcCode component => codeText s!"No AC table for component {componentName component}"
  | secondFrame => frameText "Two Start of Frame Markers"
  | precision n =>
    frameText (s!"The library can only parse 8-bit images, the image has {n} "
      ++ "bits of precision")
  | noComponents => frameText "Number of components cannot be zero."
  | frameLength expected found =>
    frameText s!"Length of start of frame differs from expected {expected},value is {found}"
  | componentCount place =>
    Text.quoted s!"Unknown component id found,{place}, expected value between 1 and 4"
  | componentQuantization n =>
    Text.quoted s!"Too large quantization number :{n}, expected value between 0 and 4"
  | horizontalRange n => Text.quoted s!"Bogus Horizontal Sampling Factor {n}"
  | verticalRange n => Text.quoted s!"Bogus Vertical Sampling Factor {n}"
  | horizontalSampling n =>
    Text.quoted s!"Horizontal sample is not a power of two({n}) cannot decode"
  | scanLength n => scanText s!"Bad SOS length {n},corrupt jpeg"
  | scanComponents n =>
    scanText s!"Invalid number of components in start of scan {n}, expected in range 1..5"
  | scanBeforeFrame =>
    Text.quoted "Error decoding SOF Marker, Number of components cannot be zero."
  | repeatedComponent id => frameText s!"Duplicate ID {id} seen twice in the same component"
  | unknownComponent id known =>
    frameText (s!"Invalid component id {id}, expected one one of ["
      ++ ", ".intercalate (known.map fun n => s!"{n}") ++ "]")
  | spectralEnd n => scanText s!"Invalid Se parameter {n}, range should be 0-63"
  | spectralStart n => scanText s!"Invalid Ss parameter {n}, range should be 0-63"
  | approximationHigh n => scanText s!"Invalid Ah parameter {n}, range should be 0-13"
  | approximationLow n => scanText s!"Invalid Al parameter {n}, range should be 0-13"
  | unknownColors components =>
    Text.quoted s!"Unknown multiband sample ({components}), please share sample"
  | componentDimensions => Text.quoted "Invalid component dimensions, would panic"
  | missingMarker => Text.quoted "Marker missing where expected"
  | tooManyScans most => Text.quoted s!"Too many scans, exceeded limit of {most}"
  | missingCoefficients => Text.quoted "Invalid slice , would panic, invalid image"
  | missingSamples => Text.quoted "Missing samples"

end Error

/-- The outcome of a step of reading. -/
abbrev Result (α : Type) := Except (Failure Error) α

/-- Gives up because of a broken rule. -/
def reject {α : Type} (error : Error) : Result α := .error (.malformed error)

end GuestBridge.Image.Jpeg
