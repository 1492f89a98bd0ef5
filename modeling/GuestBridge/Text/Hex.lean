/-!
# Hexadecimal numbers
-/

namespace GuestBridge.Text

/-- A number in hexadecimal with its marker. -/
def hex (n : Nat) : String := "0x" ++ String.ofList (Nat.toDigits 16 n)

/-- A byte in hexadecimal with its marker, always two digits. -/
def hexByte (b : UInt8) : String :=
  let digits := Nat.toDigits 16 b.toNat
  "0x" ++ String.ofList (List.replicate (2 - digits.length) '0' ++ digits)

end GuestBridge.Text
