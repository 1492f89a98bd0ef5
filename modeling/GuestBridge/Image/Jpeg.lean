import GuestBridge.Image.Jpeg.Picture
import GuestBridge.Image.Jpeg.Progressive

/-!
# JPEG images

The segments of a file set up tables and a frame; then come its scans, sequential or progressive. A
file whose head is in order gives a picture even if its scans are damaged.
-/

namespace GuestBridge.Image.Jpeg

/-- The code for the first coefficients of luminance or chrominance that a picture of a film has. -/
def motionDcCode (counts : List Nat) : PrefixCode := ⟨counts, Array.range 12⟩

/-- The symbols for the further coefficients of luminance. -/
def motionLuminanceSymbols : Array Nat :=
  #[1, 2, 3, 0, 4, 17, 5, 18, 33, 49, 65, 6, 19, 81, 97, 7, 34, 113, 20, 50, 129, 145, 161, 8, 35,
    66, 177, 193, 21, 82, 209, 240, 36, 51, 98, 114, 130, 9, 10, 22, 23, 24, 25, 26, 37, 38, 39,
    40, 41, 42, 52, 53, 54, 55, 56, 57, 58, 67, 68, 69, 70, 71, 72, 73, 74, 83, 84, 85, 86, 87, 88,
    89, 90, 99, 100, 101, 102, 103, 104, 105, 106, 115, 116, 117, 118, 119, 120, 121, 122, 131,
    132, 133, 134, 135, 136, 137, 138, 146, 147, 148, 149, 150, 151, 152, 153, 154, 162, 163, 164,
    165, 166, 167, 168, 169, 170, 178, 179, 180, 181, 182, 183, 184, 185, 186, 194, 195, 196, 197,
    198, 199, 200, 201, 202, 210, 211, 212, 213, 214, 215, 216, 217, 218, 225, 226, 227, 228, 229,
    230, 231, 232, 233, 234, 241, 242, 243, 244, 245, 246, 247, 248, 249, 250]

/-- The symbols for the further coefficients of chrominance. -/
def motionChrominanceSymbols : Array Nat :=
  #[0, 1, 2, 3, 17, 4, 5, 33, 49, 6, 18, 65, 81, 7, 97, 113, 19, 34, 50, 129, 8, 20, 66, 145, 161,
    177, 193, 9, 35, 51, 82, 240, 21, 98, 114, 209, 10, 22, 36, 52, 225, 37, 241, 23, 24, 25, 26,
    38, 39, 40, 41, 42, 53, 54, 55, 56, 57, 58, 67, 68, 69, 70, 71, 72, 73, 74, 83, 84, 85, 86, 87,
    88, 89, 90, 99, 100, 101, 102, 103, 104, 105, 106, 115, 116, 117, 118, 119, 120, 121, 122, 130,
    131, 132, 133, 134, 135, 136, 137, 138, 146, 147, 148, 149, 150, 151, 152, 153, 154, 162, 163,
    164, 165, 166, 167, 168, 169, 170, 178, 179, 180, 181, 182, 183, 184, 185, 186, 194, 195, 196,
    197, 198, 199, 200, 201, 202, 210, 211, 212, 213, 214, 215, 216, 217, 218, 226, 227, 228, 229,
    230, 231, 232, 233, 234, 242, 243, 244, 245, 246, 247, 248, 249, 250]

/-- The codes of pictures of films. Those that a file brings along go first. -/
def Setup.withMotionCodes (s : Setup) : Setup :=
  if s.isMotion then
    { s with
      dcCodes := s.dcCodes
        ++ [(0, motionDcCode [0, 1, 5, 1, 1, 1, 1, 1, 1, 0, 0, 0, 0, 0, 0, 0]),
          (1, motionDcCode [0, 3, 1, 1, 1, 1, 1, 1, 1, 1, 1, 0, 0, 0, 0, 0])]
      acCodes := s.acCodes
        ++ [(0, ⟨[0, 2, 1, 3, 3, 2, 4, 3, 5, 5, 4, 4, 0, 0, 1, 125], motionLuminanceSymbols⟩),
          (1, ⟨[0, 2, 1, 2, 4, 4, 3, 4, 7, 5, 4, 4, 0, 1, 2, 119], motionChrominanceSymbols⟩)] }
  else s

/-- Decodes a file. -/
def decode (file : ByteArray) : Result Bitmap := do
  let (setup, cursor) ← Setup.read.run ⟨file, 0⟩
  let some frame := setup.frame | reject .scanBeforeFrame
  let samples := if frame.components.size = 1 then 1 else 3
  if pixelMemory < frame.width * frame.height * samples then throw .tooLarge
  let l ← Layout.ofSetup setup frame
  let setup := setup.withMotionCodes
  let r : Reading :=
    { setup
      bits := { file, position := cursor.position }
      predictions := frame.components.map fun _ => 0 }
  if setup.isProgressive then
    (← l.readProgressive r).draw l
  else
    Layout.checkCodes setup 0 frame.components.toList
    (← l.readSequential r).draw l

end GuestBridge.Image.Jpeg
