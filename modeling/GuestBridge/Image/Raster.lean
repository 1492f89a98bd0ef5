import GuestBridge.Container.Loader
import GuestBridge.Image.Format
import GuestBridge.Image.Jpeg
import GuestBridge.Image.Png

/-!
# Image decoders

The decoder for image records tells the format of a payload by its first bytes and reads PNG and
JPEG images.
-/

namespace GuestBridge.Image

/-- Decodes a file of a known format, or says why it cannot. -/
def FileFormat.decode (format : FileFormat) (bytes : List UInt8) : Except String Bitmap :=
  match format with
  | .png => (Png.decode bytes.toByteArray).mapError (Failure.message format.name Png.Error.message)
  | .jpeg =>
    (Jpeg.decode bytes.toByteArray).mapError (Failure.message format.name Jpeg.Error.message)
  | _ => .error s!"The image format {format.name} is not supported"

/-- Decodes PNG and JPEG images. -/
def rasterDecoder : ImageDecoder := fun bytes =>
  match FileFormat.guess? bytes with
  | none => .error "unrecognized image payload: The image format could not be determined"
  | some format =>
    (format.decode bytes).mapError fun reason =>
      s!"failed to decode {format.name} image ({bytes.length} bytes): {reason}"

end GuestBridge.Image
