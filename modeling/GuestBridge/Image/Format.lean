/-!
# File formats of images

The first bytes of a file tell its format. Bytes that differ from file to file are left open.
-/

namespace GuestBridge.Image

inductive FileFormat where
  | png
  | jpeg
  | gif
  | webp
  | tiff
  | dds
  | bmp
  | ico
  | hdr
  | avif
  | openExr
  | qoi
  | pnm
  | farbfeld
deriving DecidableEq, Repr

namespace FileFormat

def name : FileFormat → String
  | png => "Png"
  | jpeg => "Jpeg"
  | gif => "Gif"
  | webp => "WebP"
  | tiff => "Tiff"
  | dds => "Dds"
  | bmp => "Bmp"
  | ico => "Ico"
  | hdr => "Hdr"
  | avif => "Avif"
  | openExr => "OpenExr"
  | qoi => "Qoi"
  | pnm => "Pnm"
  | farbfeld => "Farbfeld"

/-- The first bytes of a file; an open place takes any byte. -/
abbrev Signature := List (Option UInt8)

def Signature.text (s : String) : Signature := s.toUTF8.toList.map some

def Signature.bytes (s : List UInt8) : Signature := s.map some

def Signature.gap (n : Nat) : Signature := List.replicate n none

def Signature.matches : Signature → List UInt8 → Bool
  | [], _ => true
  | _ :: _, [] => false
  | place :: places, b :: bytes => place.all (· == b) && Signature.matches places bytes

/-- The signatures in the order in which they are tried. -/
def signatures : List (Signature × FileFormat) :=
  [(.bytes [0x89, 0x50, 0x4E, 0x47, 0x0D, 0x0A, 0x1A, 0x0A], png),
    (.bytes [0xFF, 0xD8, 0xFF], jpeg),
    (.text "GIF89a", gif),
    (.text "GIF87a", gif),
    (.text "RIFF" ++ .gap 4 ++ .text "WEBP", webp),
    (.text "MM" ++ .bytes [0, 0x2A], tiff),
    (.text "II" ++ .bytes [0x2A, 0], tiff),
    (.text "DDS ", dds),
    (.text "BM", bmp),
    (.bytes [0, 0, 1, 0], ico),
    (.text "#?RADIANCE", hdr),
    (.bytes [0, 0] ++ .gap 2 ++ .text "ftypavif", avif),
    (.bytes [0x76, 0x2F, 0x31, 0x01], openExr),
    (.text "qoif", qoi),
    (.text "P1", pnm), (.text "P2", pnm), (.text "P3", pnm), (.text "P4", pnm), (.text "P5", pnm),
    (.text "P6", pnm), (.text "P7", pnm),
    (.text "farbfeld", farbfeld)]

/-- The format that the first bytes announce. -/
def guess? (bytes : List UInt8) : Option FileFormat :=
  (signatures.find? fun s => s.1.matches bytes).map (·.2)

end FileFormat

end GuestBridge.Image
